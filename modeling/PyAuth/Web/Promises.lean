import Mathlib.Data.List.Basic
import PyAuth.Support.Run
import PyAuth.Web.AdminPanel

/-!
# Every promise is settled once

The requests of the page have different ids, and the promise of each of them
is pending or was settled exactly once.  Without a connection none is pending,
and while the page shows that it loads, a load is pending.
-/

namespace PyAuth.Web

open Support Server

/-- Requests with different numbers have different ids, whatever the clock
says. -/
theorem seq_eq_of_newRequestId {now now' seq seq' : ℕ}
    (h : newRequestId now seq = newRequestId now' seq') : seq = seq' := by
  have hdigit : ∀ n, '_' ∉ Nat.toDigits 10 n := fun n hmem =>
    absurd (Nat.isDigit_of_mem_toDigits (by decide) (by decide) hmem)
      (by decide)
  have htext := congrArg String.toList h
  simp only [newRequestId, Nat.toString_eq_ofList_toDigits,
    String.toList_append, String.toList_ofList, List.append_assoc,
    List.append_cancel_left_eq] at htext
  have htail := (List.append_cons_inj_of_notMem (hdigit now) (hdigit _)).mp htext
  have hread := congrArg (Nat.ofDigitChars 10 · 0) htail.2.2
  simpa using hread

/-! ## What a call does to the connection -/

def Payload.isGetDevices : Payload → Bool
  | .getDevices _ _ _ _ => true
  | .updateRemark _ _ | .updateAuthorized _ _ | .deleteDevice _
  | .deleteDevices _ => false

def Waiter.isLoad : Waiter → Bool
  | .loadDevices _ => true
  | .saveRemark _ | .toggleAuth _ | .deleteDevice _ _
  | .deleteSelectedDevices => false

/-- The page goes on from `p` to `p'` and settles no promise: it does nothing
about the connection, begins a new one, notes that a reload is wanted, asks for
the devices or makes another request. -/
inductive Panel.Advance (now : ℕ) (p p' : Panel) : Prop
  | idle (hchannel : p'.toChannel = p.toChannel)
      (hpayload : p.isOpen = true → p'.devicesPayload = p.devicesPayload)
  | connect (hnone : p.deviceSocket = none)
      (hchannel : p'.toChannel =
        { p.toChannel with deviceSocket := some ⟨.connecting, []⟩ })
  | postpone (hloading : p.loading = true)
      (hchannel : p'.toChannel =
        { p.toChannel with pendingDevicesReload := true })
      (hpayload : p'.devicesPayload = p.devicesPayload)
  | load (bulk : Bool) (hopen : p.isOpen = true)
      (hchannel : p'.toChannel = p.toChannel.load now p'.devicesPayload bulk)
  | ask (payload : Payload) (waiter : Waiter) (hopen : p.isOpen = true)
      (hget : payload.isGetDevices = false) (hwaiter : waiter.isLoad = false)
      (hchannel : p'.toChannel = p.toChannel.request now payload waiter)
      (hpayload : p'.devicesPayload = p.devicesPayload)

namespace Panel

variable {now code ref : ℕ} {bulk : Bool} {p p' p'' : Panel} {waiter : Waiter}
  {payload : Payload} {f : Row → Row} {requestId : String} {e : Event}

/-- What waits for a request which is no load leaves the connection alone when
it is rejected. -/
theorem toChannel_rejected (hwaiter : waiter.isLoad = false) :
    (p.rejected now waiter).toChannel = p.toChannel := by
  cases waiter with
  | loadDevices bulk => contradiction
  | saveRemark | toggleAuth | deleteDevice | deleteSelectedDevices => rfl

namespace Advance

theorem refl : p.Advance now p := .idle rfl fun _ => rfl

theorem connectWebSocket (hchannel : p'.toChannel = p.toChannel)
    (hpayload : p.isOpen = true → p'.devicesPayload = p.devicesPayload) :
    p.Advance now p'.connectWebSocket := by
  rw [Panel.connectWebSocket]
  split
  · exact .idle hchannel hpayload
  · next hnone =>
      split
      · refine .connect ?_ ?_
        · rw [← hchannel]
          simpa using hnone
        · rw [← hchannel]
      · exact .idle hchannel hpayload

theorem endBulk (h : p.Advance now p') : p.Advance now (p'.endBulk bulk) := by
  cases bulk with
  | false => exact h
  | true =>
      cases h with
      | idle hchannel hpayload => exact .idle hchannel hpayload
      | connect hnone hchannel => exact .connect hnone hchannel
      | postpone hloading hchannel hpayload =>
          exact .postpone hloading hchannel hpayload
      | load bulk hopen hchannel => exact .load bulk hopen hchannel
      | ask payload waiter hopen hget hwaiter hchannel hpayload =>
          exact .ask payload waiter hopen hget hwaiter hchannel hpayload

theorem loadDevices (hchannel : p'.toChannel = p.toChannel) :
    p.Advance now (p'.loadDevices now bulk) := by
  rw [Panel.loadDevices]
  split
  · next hopen =>
      rw [hchannel] at hopen
      refine .load bulk hopen ?_
      rw [hchannel]
      rfl
  · next hopen =>
      rw [hchannel] at hopen
      exact (connectWebSocket hchannel fun h => absurd h hopen).endBulk

theorem requestDevicesReload (hchannel : p'.toChannel = p.toChannel)
    (hpayload : p'.devicesPayload = p.devicesPayload) :
    p.Advance now (p'.requestDevicesReload now) := by
  rw [Panel.requestDevicesReload]
  split
  · next hloading =>
      rw [hchannel] at hloading
      refine .postpone hloading ?_ hpayload
      rw [hchannel]
  · exact loadDevices hchannel

theorem rejected (hwaiter : waiter.isLoad = false) :
    p.Advance now (p.rejected now waiter) := by
  refine .idle (toChannel_rejected hwaiter) fun _ => ?_
  cases waiter <;> first | contradiction | rfl

theorem resolved {reply : AdminReply} (hwaiter : waiter.isLoad = false) :
    p.Advance now (p.resolved now reply waiter) := by
  cases waiter with
  | loadDevices bulk => contradiction
  | saveRemark ref | toggleAuth ref =>
      cases reply <;> exact .idle rfl fun _ => rfl
  | deleteDevice ref deviceId => exact .idle rfl fun _ => rfl
  | deleteSelectedDevices => exact loadDevices rfl

theorem sendOrReject (hchannel : p'.toChannel = p.toChannel)
    (hpayload : p'.devicesPayload = p.devicesPayload)
    (hget : payload.isGetDevices = false) (hwaiter : waiter.isLoad = false) :
    p.Advance now (p'.sendOrReject now payload waiter) := by
  rw [Panel.sendOrReject]
  split
  · next hopen =>
      rw [hchannel] at hopen
      refine .ask payload waiter hopen hget hwaiter ?_ hpayload
      rw [hchannel]
  · cases waiter with
    | loadDevices bulk => contradiction
    | saveRemark ref | toggleAuth ref | deleteDevice ref deviceId
    | deleteSelectedDevices => exact .idle hchannel fun _ => hpayload

theorem saveRemark : p.Advance now (p.saveRemark now ref) := by
  rw [Panel.saveRemark]
  cases p.row? ref with
  | none => exact refl
  | some row =>
      dsimp only
      split
      · exact refl
      · exact sendOrReject rfl rfl rfl rfl

theorem toggleAuth {authorize : Bool} :
    p.Advance now (p.toggleAuth now ref authorize) := by
  rw [Panel.toggleAuth]
  cases p.row? ref with
  | none => exact refl
  | some row =>
      dsimp only
      split
      · exact refl
      · exact sendOrReject rfl rfl rfl rfl

theorem deleteDevice : p.Advance now (p.deleteDevice now ref) := by
  rw [Panel.deleteDevice]
  cases p.row? ref with
  | none => exact refl
  | some row => exact sendOrReject rfl rfl rfl rfl

theorem confirm {ok : Bool} : p.Advance now (p.confirm now ok) := by
  rw [Panel.confirm]
  cases p.confirming with
  | none => exact refl
  | some ids =>
      cases ok with
      | false => exact .idle rfl fun _ => rfl
      | true => exact sendOrReject rfl rfl rfl rfl

theorem onVisible : p.Advance now (p.onVisible now) := by
  rw [Panel.onVisible]
  dsimp only
  generalize (if p.lastPageHiddenAt = 0 then 0
    else now - p.lastPageHiddenAt) = awayMs
  split
  · split
    · exact requestDevicesReload rfl rfl
    · exact .idle rfl fun _ => rfl
  · exact connectWebSocket rfl fun _ => rfl

theorem reconnect : p.Advance now p.reconnect := by
  rw [Panel.reconnect]
  split
  · exact refl
  · exact connectWebSocket rfl fun _ => rfl

/-- Most events settle no promise. -/
theorem handleUser {e : UserEvent} (he : e ≠ .unmount) :
    p.Advance now (p.handleUser now e) := by
  cases e with
  | setCurrentPage page | setPageSize pageSize => exact loadDevices rfl
  | sortChange column => cases column <;> exact loadDevices rfl
  | editRemark ref remark | select ids | hidden =>
      exact .idle rfl fun _ => rfl
  | saveRemark ref => exact saveRemark
  | toggleAuth ref authorize => exact toggleAuth
  | deleteDevice ref => exact deleteDevice
  | deleteSelectedDevices =>
      rw [Panel.handleUser]
      split <;> exact .idle rfl fun _ => rfl
  | visible => exact onVisible
  | unmount => contradiction

end Advance

/-! ## Settling -/

/-- The page when a load has ended, before it makes up for a reload. -/
def loaded (p : Panel) : Panel :=
  { p with loading := false, pendingDevicesReload := false }

theorem Advance.afterLoad : p.loaded.Advance now (p.afterLoad now bulk) := by
  rw [Panel.afterLoad]
  dsimp only
  split
  · apply endBulk
    apply loadDevices
    rfl
  · next hreload =>
      apply endBulk
      refine idle ?_ fun _ => rfl
      rw [loaded, ← Bool.eq_false_iff.mpr hreload]

/-- A reload that was wanted meanwhile is made up for. -/
theorem toChannel_afterLoad (hreload : p.pendingDevicesReload = true)
    (hopen : p.isOpen = true) :
    (p.afterLoad now bulk).toChannel =
      p.loaded.toChannel.load now p.devicesPayload false := by
  rw [Panel.afterLoad]
  dsimp only
  rw [if_pos hreload, Panel.loadDevices]
  have hopen' : Channel.isOpen { p.toChannel with
      loading := false
      pendingDevicesReload := false } = true := hopen
  rw [if_pos hopen']
  cases bulk <;> rfl

theorem devicesPayload_afterLoad :
    (p.afterLoad now bulk).devicesPayload = p.devicesPayload := by
  have hbulk : ∀ q : Panel, (q.endBulk bulk).devicesPayload =
      q.devicesPayload := fun q => by cases bulk <;> rfl
  rw [Panel.afterLoad]
  dsimp only
  split
  · rw [hbulk, Panel.loadDevices]
    split
    · rfl
    · rw [Panel.connectWebSocket]
      split
      · rfl
      · split <;> rfl
  · exact hbulk _

end Panel

/-! ## The invariants -/

/-- The ids of the requests differ, and each belongs to one promise.  What waits
for a pending one fits the request. -/
structure Channel.Tracked (c : Channel) : Prop where
  numbered : ∀ request ∈ c.issued, ∃ now seq, seq ≤ c.wsRequestSeq ∧
    request.requestId = newRequestId now seq
  nodup : (c.issued.map WsRequest.requestId).Nodup
  perm : (c.issued.map WsRequest.requestId).Perm
    (c.pendingWsRequests.map Prod.fst ++ c.settled.map Prod.fst)
  kinds : ∀ e ∈ c.pendingWsRequests, ∃ request ∈ c.issued,
    request.requestId = e.1 ∧ request.payload.isGetDevices = e.2.isLoad
  sent : ∀ request ∈ c.sent, request ∈ c.issued

/-- A reload is postponed only while the page loads, the page loads only while
a load is pending, and nothing is pending without a connection. -/
structure Channel.Consistent (c : Channel) : Prop where
  reload : c.pendingDevicesReload = true → c.loading = true
  loading : c.loading = true → ∃ e ∈ c.pendingWsRequests, e.2.isLoad = true
  offline : c.deviceSocket = none ∨ c.isConnecting = true →
    c.pendingWsRequests = []

structure Channel.Sound (c : Channel) : Prop where
  tracked : c.Tracked
  consistent : c.Consistent

namespace Channel

variable {now : ℕ} {c : Channel} {payload : Payload} {waiter : Waiter}
  {bulk : Bool} {requestId : String} {outcome : Outcome}

theorem exists_socket (h : c.isOpen = true) :
    ∃ sent, c.deviceSocket = some ⟨.open, sent⟩ := by
  rw [isOpen] at h
  cases hsocket : c.deviceSocket with
  | none => simp [hsocket] at h
  | some socket =>
      obtain ⟨readyState, sent⟩ := socket
      obtain rfl : readyState = .open := by simpa [hsocket] using h
      exact ⟨sent, rfl⟩

theorem sent_request :
    (c.request now payload waiter).sent = c.sent ++
      c.deviceSocket.elim [] fun _ =>
        [⟨payload, newRequestId now (c.wsRequestSeq + 1)⟩] := by
  simp only [Channel.request, sent]
  cases c.deviceSocket <;> rfl

theorem sent_request_of_isOpen (h : c.isOpen = true) :
    (c.request now payload waiter).sent = c.sent ++
      [⟨payload, newRequestId now (c.wsRequestSeq + 1)⟩] := by
  obtain ⟨sent, hsocket⟩ := exists_socket h
  rw [sent_request, hsocket]
  rfl

namespace Tracked

theorem of_eq {c' : Channel} (h : c.Tracked) (hissued : c'.issued = c.issued)
    (hseq : c'.wsRequestSeq = c.wsRequestSeq)
    (hpending : c'.pendingWsRequests = c.pendingWsRequests)
    (hsettled : c'.settled = c.settled)
    (hsent : ∀ request ∈ c'.sent, request ∈ c.sent) : c'.Tracked := by
  refine ⟨?_, ?_, ?_, ?_, fun request hrequest => ?_⟩
  · rw [hissued, hseq]
    exact h.numbered
  · rw [hissued]
    exact h.nodup
  · rw [hissued, hpending, hsettled]
    exact h.perm
  · rw [hissued, hpending]
    exact h.kinds
  · rw [hissued]
    exact h.sent request (hsent request hrequest)

theorem nodup_pending (h : c.Tracked) :
    (c.pendingWsRequests.map Prod.fst).Nodup :=
  (List.nodup_append.mp (h.perm.nodup_iff.mp h.nodup)).1

theorem request (h : c.Tracked)
    (hkind : payload.isGetDevices = waiter.isLoad) :
    (c.request now payload waiter).Tracked := by
  have hfresh : newRequestId now (c.wsRequestSeq + 1) ∉
      c.issued.map WsRequest.requestId := by
    intro hmem
    obtain ⟨request, hrequest, hid⟩ := List.mem_map.mp hmem
    obtain ⟨now', seq, hle, hid'⟩ := h.numbered request hrequest
    have := seq_eq_of_newRequestId (hid.symm.trans hid')
    omega
  constructor
  · intro request hrequest
    rcases List.mem_append.mp hrequest with hrequest | hrequest
    · obtain ⟨now', seq, hle, hid⟩ := h.numbered request hrequest
      exact ⟨now', seq, Nat.le_succ_of_le hle, hid⟩
    · obtain rfl := List.mem_singleton.mp hrequest
      exact ⟨now, c.wsRequestSeq + 1, le_rfl, rfl⟩
  · simp only [Channel.request, List.map_append, List.map_singleton]
    rw [← List.concat_eq_append]
    exact h.nodup.concat hfresh
  · simp only [Channel.request, List.map_append, List.map_singleton,
      List.append_assoc]
    refine (h.perm.append_right _).trans ?_
    rw [List.append_assoc]
    exact List.perm_append_comm.append_left _
  · intro e he
    rcases List.mem_append.mp he with he | he
    · obtain ⟨request, hrequest, hid⟩ := h.kinds e he
      exact ⟨request, List.mem_append_left _ hrequest, hid⟩
    · obtain rfl := List.mem_singleton.mp he
      exact ⟨_, List.mem_append_right _ (List.mem_singleton_self _), rfl,
        hkind⟩
  · intro request hrequest
    rw [sent_request] at hrequest
    rcases List.mem_append.mp hrequest with hrequest | hrequest
    · exact List.mem_append_left _ (h.sent request hrequest)
    · refine List.mem_append_right _ ?_
      cases hsocket : c.deviceSocket with
      | none => simp [hsocket] at hrequest
      | some socket => simpa [hsocket] using hrequest

theorem settle (h : c.Tracked)
    (hpending : requestId ∈ c.pendingWsRequests.map Prod.fst) :
    (c.settle requestId outcome).Tracked := by
  refine ⟨h.numbered, h.nodup, h.perm.trans ?_, fun e he =>
    h.kinds e (List.mem_of_mem_filter he), h.sent⟩
  have hfilter : (c.pendingWsRequests.filter fun e =>
        e.1 ≠ requestId).map Prod.fst =
      (c.pendingWsRequests.map Prod.fst).erase requestId := by
    rw [h.nodup_pending.erase_eq_filter, List.filter_map]
    refine congrArg _ (List.filter_congr fun e _ => ?_)
    by_cases heq : e.1 = requestId <;> simp [heq]
  simp only [Channel.settle, List.map_append, List.map_singleton, hfilter]
  rw [← List.append_assoc]
  refine ((List.perm_cons_erase hpending).append_right _).trans ?_
  exact (List.perm_append_singleton _ _).symm

theorem rejectPendingWsRequests (h : c.Tracked) {message : String} :
    (c.rejectPendingWsRequests message).Tracked := by
  refine ⟨h.numbered, h.nodup, h.perm.trans ?_, fun e he => by contradiction,
    h.sent⟩
  simp only [Channel.rejectPendingWsRequests, List.map_nil, List.nil_append,
    List.map_append, List.map_map]
  exact List.perm_append_comm

end Tracked

namespace Sound

theorem request (h : c.Sound) (hopen : c.isOpen = true)
    (hkind : payload.isGetDevices = waiter.isLoad) :
    (c.request now payload waiter).Sound := by
  refine ⟨h.tracked.request hkind, h.consistent.reload, fun hloading => ?_,
    fun hoffline => ?_⟩
  · obtain ⟨e, he, hload⟩ := h.consistent.loading hloading
    exact ⟨e, List.mem_append_left _ he, hload⟩
  · obtain ⟨sent, hsocket⟩ := exists_socket hopen
    simp [Channel.request, isConnecting, hsocket] at hoffline

theorem load (h : c.Sound) (hopen : c.isOpen = true)
    (hget : payload.isGetDevices = true) :
    (c.load now payload bulk).Sound := by
  have hrequest : (c.request now payload (.loadDevices bulk)).Sound :=
    h.request hopen hget
  refine ⟨hrequest.tracked.of_eq rfl rfl rfl rfl fun _ hr => hr,
    fun _ => rfl, fun _ => ?_, hrequest.consistent.offline⟩
  exact ⟨_, List.mem_append_right _ (List.mem_singleton_self _), rfl⟩

/-- The promise of a request which is no load is settled. -/
theorem settle (h : c.Sound)
    (hpending : (requestId, waiter) ∈ c.pendingWsRequests)
    (hwaiter : waiter.isLoad = false) : (c.settle requestId outcome).Sound := by
  have hkey := List.mem_map_of_mem (f := Prod.fst) hpending
  refine ⟨h.tracked.settle hkey, h.consistent.reload, fun hloading => ?_,
    fun hoffline => ?_⟩
  · obtain ⟨e, he, hload⟩ := h.consistent.loading hloading
    refine ⟨e, List.mem_filter.mpr ⟨he, ?_⟩, hload⟩
    -- The load stands under an id of its own.
    have hne : e.1 ≠ requestId := by
      intro heq
      have heq' : e = (requestId, waiter) :=
        List.inj_on_of_nodup_map h.tracked.nodup_pending he hpending heq
      rw [heq', hwaiter] at hload
      contradiction
    simpa using hne
  · simp [Channel.settle, h.consistent.offline hoffline]

/-- The promise of a load is settled. -/
theorem settle_load (h : c.Sound)
    (hpending : (requestId, waiter) ∈ c.pendingWsRequests) :
    { c.settle requestId outcome with
      loading := false
      pendingDevicesReload := false : Channel }.Sound := by
  have hkey := List.mem_map_of_mem (f := Prod.fst) hpending
  have htracked : (c.settle requestId outcome).Tracked :=
    h.tracked.settle hkey
  refine ⟨htracked.of_eq rfl rfl rfl rfl fun _ hr => hr, ?_, ?_,
    fun hoffline => ?_⟩
  · intro hreload
    contradiction
  · intro hloading
    contradiction
  · simp [Channel.settle, h.consistent.offline hoffline]

theorem advance {p p' : Panel} (h : p.toChannel.Sound)
    (hadvance : p.Advance now p') : p'.toChannel.Sound := by
  cases hadvance with
  | idle hchannel hpayload =>
      rw [hchannel]
      exact h
  | connect hnone hchannel =>
      rw [hchannel]
      exact ⟨h.tracked.of_eq rfl rfl rfl rfl fun _ hr => by contradiction,
        h.consistent.reload, h.consistent.loading,
        fun _ => h.consistent.offline (Or.inl hnone)⟩
  | postpone hloading hchannel hpayload =>
      rw [hchannel]
      exact ⟨h.tracked.of_eq rfl rfl rfl rfl fun _ hr => hr,
        fun _ => hloading, h.consistent.loading, h.consistent.offline⟩
  | load bulk hopen hchannel =>
      rw [hchannel]
      exact h.load hopen rfl
  | ask payload waiter hopen hget hwaiter hchannel hpayload =>
      rw [hchannel]
      exact h.request hopen (hget.trans hwaiter.symm)

end Sound

end Channel

/-! ## Every call of the page -/

namespace Panel

open Channel

/-- No call opens the connection, except `onopen`. -/
theorem Advance.isOpen {now : ℕ} {p p' : Panel} (h : p.Advance now p')
    (hopen' : p'.isOpen = true) : p.isOpen = true := by
  cases h with
  | idle hchannel hpayload => rwa [hchannel] at hopen'
  | connect hnone hchannel =>
      rw [hchannel] at hopen'
      contradiction
  | postpone hloading hchannel hpayload =>
      rw [hchannel] at hopen'
      exact hopen'
  | load bulk hopen hchannel => exact hopen
  | ask payload waiter hopen hget hwaiter hchannel hpayload => exact hopen

variable {now code : ℕ} {p : Panel} {waiter : Waiter} {requestId : String}
  {outcome : Outcome} {reply : AdminReply}

/-- A promise is rejected, and what waited for it goes on. -/
theorem sound_rejected (h : p.toChannel.Sound)
    (hpending : (requestId, waiter) ∈ p.pendingWsRequests) :
    ((p.settle requestId outcome).rejected now waiter).toChannel.Sound := by
  cases hwaiter : waiter.isLoad with
  | false =>
      have hsettled : (p.settle requestId outcome).toChannel.Sound :=
        h.settle hpending hwaiter
      exact hsettled.advance (.rejected hwaiter)
  | true =>
      have hsettled : (p.settle requestId outcome).loaded.toChannel.Sound :=
        h.settle_load hpending
      cases waiter with
      | loadDevices bulk => exact hsettled.advance .afterLoad
      | saveRemark | toggleAuth | deleteDevice | deleteSelectedDevices =>
          contradiction

theorem toChannel_applyReply : (p.applyReply reply).toChannel = p.toChannel := by
  cases reply <;> rfl

/-- A promise is resolved, and what waited for it goes on; the devices may have
been shown before. -/
theorem sound_resolved {p' : Panel} (h : p.toChannel.Sound)
    (hpending : (requestId, waiter) ∈ p.pendingWsRequests)
    (hchannel : p'.toChannel = p.toChannel.settle requestId outcome) :
    (p'.resolved now reply waiter).toChannel.Sound := by
  cases hwaiter : waiter.isLoad with
  | false =>
      have hsettled : p'.toChannel.Sound := by
        rw [hchannel]
        exact h.settle hpending hwaiter
      exact hsettled.advance (.resolved hwaiter)
  | true =>
      have hsettled : (p'.applyReply reply).loaded.toChannel.Sound := by
        rw [loaded, toChannel_applyReply, hchannel]
        exact h.settle_load hpending
      cases waiter with
      | loadDevices bulk => exact hsettled.advance .afterLoad
      | saveRemark | toggleAuth | deleteDevice | deleteSelectedDevices =>
          contradiction

theorem mem_of_pendingFor
    (h : p.pendingFor reply = some (requestId, waiter)) :
    (requestId, waiter) ∈ p.pendingWsRequests ∧
      reply.requestId = .str requestId := by
  rw [pendingFor] at h
  split at h
  · next id hid =>
      split at h
      · contradiction
      · obtain ⟨waiter', hlookup, heq⟩ := Option.map_eq_some_iff.mp h
        obtain ⟨rfl, rfl⟩ := Prod.mk.inj heq
        exact ⟨Dict.mem_of_lookup hlookup, hid⟩
  · contradiction

theorem newRequestId_ne_empty (now seq : ℕ) : newRequestId now seq ≠ "" := by
  intro h
  have htext := congrArg String.toList h
  simp [newRequestId] at htext

/-- The reply to a pending request finds its promise. -/
theorem pendingFor_of_mem {e : String × Waiter} (h : p.Tracked)
    (he : e ∈ p.pendingWsRequests) (hid : reply.requestId = .str e.1) :
    p.pendingFor reply = some e := by
  obtain ⟨requestId, waiter⟩ := e
  have hne : requestId ≠ "" := by
    obtain ⟨request, hrequest, hid', -⟩ := h.kinds _ he
    obtain ⟨now, seq, -, hnew⟩ := h.numbered request hrequest
    have hid'' : request.requestId = requestId := hid'
    rw [← hid'', hnew]
    exact newRequestId_ne_empty now seq
  rw [pendingFor, hid]
  simp only [if_neg hne]
  rw [Dict.lookup_of_mem h.nodup_pending he]
  rfl

theorem sound_onreply (h : p.toChannel.Sound) :
    (p.onreply now reply).toChannel.Sound := by
  unfold onreply
  cases hpending : p.pendingFor reply with
  | none => cases reply <;> exact h
  | some e =>
      obtain ⟨requestId, waiter⟩ := e
      have hmem := (mem_of_pendingFor hpending).1
      cases reply with
      | error => exact sound_rejected h hmem
      | devicesList | deviceUpdated | deviceDeleted | devicesDeleted =>
          exact sound_resolved h hmem rfl

theorem sound_onmessage (h : p.toChannel.Sound) {m : ServerMessage} :
    (p.onmessage now m).toChannel.Sound := by
  cases m with
  | connected | initialList => exact h
  | reply reply => exact sound_onreply h
  | devicesChanged => exact h.advance (.requestDevicesReload rfl rfl)

theorem sound_timeout (h : p.toChannel.Sound) :
    (p.timeout now requestId).toChannel.Sound := by
  rw [timeout]
  cases hlookup : p.pendingWsRequests.lookup requestId with
  | none => exact h
  | some waiter => exact sound_rejected h (Dict.mem_of_lookup hlookup)

/-- An open connection is begun only when there is none, so that nothing is
pending and the page does not load. -/
theorem loading_of_isConnecting (h : p.toChannel.Sound)
    (hconnecting : p.isConnecting = true) :
    p.pendingWsRequests = [] ∧ p.loading = false := by
  have hpending := h.consistent.offline (Or.inr hconnecting)
  refine ⟨hpending, Bool.eq_false_iff.mpr fun hloading => ?_⟩
  obtain ⟨e, he, -⟩ := h.consistent.loading hloading
  rw [hpending] at he
  contradiction

theorem sound_setReadyState {readyState : ReadyState} (h : p.toChannel.Sound)
    (hready : readyState ≠ .connecting) :
    (p.setReadyState readyState).toChannel.Sound := by
  have hsent : (p.setReadyState readyState).sent = p.sent := by
    simp only [setReadyState, Channel.setReadyState, sent]
    cases p.deviceSocket <;> rfl
  refine ⟨h.tracked.of_eq rfl rfl rfl rfl fun r hr => hsent ▸ hr,
    h.consistent.reload, h.consistent.loading, fun hoffline => ?_⟩
  apply h.consistent.offline
  left
  cases hsocket : p.deviceSocket with
  | none => rfl
  | some socket =>
      simp [setReadyState, Channel.setReadyState, isConnecting, hsocket,
        hready] at hoffline

/-! ## The end of a connection -/

/-- The connection has ended, and what waited for its promises goes on, of
which `waiters` are left. -/
structure Closing (waiters : List (String × Waiter)) (c : Channel) : Prop where
  tracked : c.Tracked
  closed : c.isOpen = false
  pending : c.pendingWsRequests = []
  reload : c.pendingDevicesReload = true → c.loading = true
  loading : c.loading = true → ∃ e ∈ waiters, e.2.isLoad = true

namespace Closing

variable {waiters : List (String × Waiter)} {p' : Panel} {e : String × Waiter}

theorem advance (h : Closing waiters p.toChannel) (hloading : p.loading = false)
    (hadvance : p.Advance now p') : Closing waiters p'.toChannel := by
  cases hadvance with
  | idle hchannel hpayload =>
      rw [hchannel]
      exact h
  | connect hnone hchannel =>
      rw [hchannel]
      exact ⟨h.tracked.of_eq rfl rfl rfl rfl fun _ hr => by contradiction,
        rfl, h.pending, h.reload, h.loading⟩
  | postpone hloading' hchannel hpayload =>
      rw [hloading] at hloading'
      contradiction
  | load bulk hopen hchannel | ask payload waiter hopen hget hwaiter hchannel =>
      rw [h.closed] at hopen
      contradiction

theorem rejected (h : Closing (e :: waiters) p.toChannel) :
    Closing waiters (p.rejected now e.2).toChannel := by
  cases hwaiter : e.2.isLoad with
  | false =>
      rw [toChannel_rejected hwaiter]
      refine ⟨h.tracked, h.closed, h.pending, h.reload, fun hloading => ?_⟩
      obtain ⟨e', he', hload⟩ := h.loading hloading
      rcases List.mem_cons.mp he' with rfl | he'
      · rw [hwaiter] at hload
        contradiction
      · exact ⟨e', he', hload⟩
  | true =>
      have hloaded : Closing waiters p.loaded.toChannel :=
        ⟨h.tracked.of_eq rfl rfl rfl rfl fun _ hr => hr, h.closed, h.pending,
           fun hreload => by contradiction,
          fun hloading => by contradiction⟩
      obtain ⟨requestId, waiter⟩ := e
      cases waiter with
      | loadDevices bulk => exact hloaded.advance rfl .afterLoad
      | saveRemark | toggleAuth | deleteDevice | deleteSelectedDevices =>
          contradiction

theorem allRejected (h : Closing waiters p.toChannel) :
    Closing [] (p.allRejected now waiters).toChannel := by
  induction waiters generalizing p with
  | nil => exact h
  | cons e waiters ih => exact ih h.rejected

/-- When all has gone on, the page is as it should be without a connection. -/
theorem sound {c : Channel} (h : Closing [] c) : c.Sound := by
  have hloading : c.loading = true → False := by
    intro hloading
    obtain ⟨e, he, -⟩ := h.loading hloading
    contradiction
  exact ⟨h.tracked, h.reload, fun hl => (hloading hl).elim,
    fun _ => h.pending⟩

end Closing

/-- The connection is gone and all promises are rejected. -/
theorem closing_of_sound {c c' : Channel} (h : c.Sound)
    (htracked : c'.Tracked) (hsocket : c'.deviceSocket = none)
    (hpending : c'.pendingWsRequests = [])
    (hreload : c'.pendingDevicesReload = true → c.pendingDevicesReload = true)
    (hloading : c'.loading = c.loading) :
    Closing c.pendingWsRequests c' := by
  refine ⟨htracked, ?_, hpending, fun hc => ?_, fun hc => ?_⟩
  · rw [isOpen, hsocket]
    rfl
  · rw [hloading]
    exact h.consistent.reload (hreload hc)
  · rw [hloading] at hc
    exact h.consistent.loading hc

theorem sound_onclose (h : p.toChannel.Sound) :
    (p.onclose now code).toChannel.Sound := by
  rw [onclose]
  dsimp only
  have htracked (message : String) :
      (p.toChannel.rejectPendingWsRequests message).Tracked :=
    h.tracked.rejectPendingWsRequests
  split
  · have hrejected := htracked "登录已过期，请重新登录"
    refine (Closing.allRejected ?_).sound
    exact closing_of_sound h (hrejected.of_eq rfl rfl rfl rfl fun _ hr => by
      contradiction) rfl rfl id rfl
  · have hrejected := htracked "实时连接已断开"
    refine (Closing.allRejected ?_).sound
    rw [scheduleReconnect]
    split <;> exact closing_of_sound h (hrejected.of_eq rfl rfl rfl rfl
      fun _ hr => by contradiction) rfl rfl id rfl

theorem sound_unmount (h : p.toChannel.Sound) :
    (p.unmount now).toChannel.Sound := by
  rw [unmount]
  have htracked : (p.toChannel.rejectPendingWsRequests "页面已关闭").Tracked :=
    h.tracked.rejectPendingWsRequests
  refine (Closing.allRejected ?_).sound
  exact closing_of_sound h (htracked.of_eq rfl rfl rfl rfl fun _ hr => by
    contradiction) rfl rfl (fun hreload => by contradiction) rfl

/-! ## Runs of the page -/

/-- Every call keeps the invariants. -/
theorem sound_input {i : Input} {p' : Panel} (h : p.toChannel.Sound)
    (hinput : p.input now i = some p') : p'.toChannel.Sound := by
  cases i with
  | event e =>
      obtain rfl := Option.some.inj hinput
      cases e with
      | user e =>
          rw [handle]
          split
          · by_cases he : e = .unmount
            · subst he
              exact sound_unmount h
            · exact h.advance (.handleUser he)
          · exact h
      | confirm ok => exact h.advance .confirm
      | timeout requestId => exact sound_timeout h
      | reconnect =>
          have hadvance : p.Advance now p.reconnect := .reconnect
          exact h.advance hadvance
      | setToken token => exact h
      | closing => exact sound_setReadyState h (by decide)
  | opened =>
      rw [input] at hinput
      split at hinput
      · obtain rfl := Option.some.inj hinput
        have hopen : (p.setReadyState .open).toChannel.Sound :=
          sound_setReadyState h (by decide)
        exact hopen.advance (.requestDevicesReload rfl rfl)
      · contradiction
  | message m =>
      rw [input] at hinput
      split at hinput
      · obtain rfl := Option.some.inj hinput
        exact sound_onmessage h
      · contradiction
  | closed code =>
      rw [input] at hinput
      split at hinput
      · obtain rfl := Option.some.inj hinput
        exact sound_onclose h
      · contradiction

theorem sound_onMounted {token : Bool} :
    (onMounted token).toChannel.Sound := by
  have hinitial : (initial token).toChannel.Sound := by
    refine ⟨⟨?_, List.nodup_nil, List.Perm.refl _, ?_, ?_⟩, ?_, ?_,
      fun _ => rfl⟩
    · intro request hrequest
      contradiction
    · intro e he
      contradiction
    · intro request hrequest
      contradiction
    · intro hreload
      contradiction
    · intro hloading
      contradiction
  have hadvance : (initial token).Advance 0 (onMounted token) :=
    .connectWebSocket rfl fun _ => rfl
  exact hinitial.advance hadvance

/-- A run of the page, whatever the clock says at each call. -/
abbrev PanelRun (token : Bool) : List (ℕ × Input) → Panel → Prop :=
  Run (fun p i p' => p.input i.1 i.2 = some p') (onMounted token)

/-! ## What settles a promise -/

/-- What a call of the page does to the promise of the request: its reply
resolves it or rejects it with the error of the server, and its timer, the end
of the connection and the end of the page reject it. -/
inductive SettledBy (requestId : String) : Input → Outcome → Prop
  | reply {reply : AdminReply} (hid : reply.requestId = .str requestId)
      (herror : ¬reply.IsError) :
      SettledBy requestId (.message (.reply reply)) (.resolved reply)
  | error (message : String) :
      SettledBy requestId (.message (.reply (.error (.str requestId) message)))
        (.rejected (if message = "" then "实时请求失败" else message))
  | timeout :
      SettledBy requestId (.event (.timeout requestId))
        (.rejected "实时请求超时")
  | closed (code : ℕ) :
      SettledBy requestId (.closed code) (.rejected
        (if code = 4401 then "登录已过期，请重新登录" else "实时连接已断开"))
  | unmount :
      SettledBy requestId (.event (.user .unmount)) (.rejected "页面已关闭")

section

variable {reply : AdminReply} {message : String} {i : Input}

theorem Advance.settled_eq (h : p.Advance now p') : p'.settled = p.settled := by
  cases h with
  | idle hchannel _ => rw [hchannel]
  | connect _ hchannel | postpone _ hchannel _ => rw [hchannel]
  | load _ _ hchannel | ask _ _ _ _ _ hchannel _ =>
      rw [hchannel]
      rfl

theorem settled_afterLoad : (p.afterLoad now bulk).settled = p.settled :=
  Advance.afterLoad.settled_eq

@[simp] theorem settled_rejected :
    (p.rejected now waiter).settled = p.settled := by
  cases hwaiter : waiter.isLoad with
  | false => exact (Advance.rejected hwaiter).settled_eq
  | true =>
      cases waiter with
      | loadDevices bulk => exact settled_afterLoad
      | saveRemark | toggleAuth | deleteDevice | deleteSelectedDevices =>
          contradiction

@[simp] theorem settled_resolved :
    (p.resolved now reply waiter).settled = p.settled := by
  cases hwaiter : waiter.isLoad with
  | false => exact (Advance.resolved hwaiter).settled_eq
  | true =>
      cases waiter with
      | loadDevices bulk =>
          have happly : (p.applyReply reply).settled = p.settled := by
            cases reply <;> rfl
          exact settled_afterLoad.trans happly
      | saveRemark | toggleAuth | deleteDevice | deleteSelectedDevices =>
          contradiction

@[simp] theorem settled_allRejected {waiters : List (String × Waiter)} :
    (p.allRejected now waiters).settled = p.settled := by
  induction waiters generalizing p with
  | nil => rfl
  | cons e waiters ih => exact ih.trans settled_rejected

/-- The promises which are settled afterwards were settled before or are
settled by the input. -/
def Settles (i : Input) (p p' : Panel) : Prop :=
  ∀ requestId outcome, (requestId, outcome) ∈ p'.settled →
    (requestId, outcome) ∈ p.settled ∨ SettledBy requestId i outcome

namespace Settles

theorem of_eq (h : p'.settled = p.settled) : Settles i p p' := by
  intro requestId outcome hmem
  rw [h] at hmem
  exact Or.inl hmem

/-- One promise is settled. -/
theorem of_settle {outcome : Outcome}
    (h : p'.settled = p.settled ++ [(requestId, outcome)])
    (hby : SettledBy requestId i outcome) : Settles i p p' := by
  intro requestId' outcome' hmem
  rw [h] at hmem
  rcases List.mem_append.mp hmem with hmem | hmem
  · exact Or.inl hmem
  · obtain ⟨rfl, rfl⟩ := Prod.mk.inj (List.mem_singleton.mp hmem)
    exact Or.inr hby

/-- All that is pending is rejected. -/
theorem of_rejected
    (h : p'.settled = p.settled ++
      p.pendingWsRequests.map fun e => (e.1, .rejected message))
    (hby : ∀ requestId, SettledBy requestId i (.rejected message)) :
    Settles i p p' := by
  intro requestId outcome hmem
  rw [h] at hmem
  rcases List.mem_append.mp hmem with hmem | hmem
  · exact Or.inl hmem
  · obtain ⟨e, -, heq⟩ := List.mem_map.mp hmem
    obtain ⟨rfl, rfl⟩ := Prod.mk.inj heq
    exact Or.inr (hby e.1)

theorem onreply :
    Settles (.message (.reply reply)) p (p.onreply now reply) := by
  unfold Panel.onreply
  cases hpending : p.pendingFor reply with
  | none => cases reply <;> exact of_eq rfl
  | some e =>
      obtain ⟨requestId, waiter⟩ := e
      have hid := (mem_of_pendingFor hpending).2
      cases reply with
      | error requestId' message =>
          obtain rfl : requestId' = .str requestId := hid
          exact of_settle settled_rejected (.error message)
      | devicesList | deviceUpdated | deviceDeleted | devicesDeleted =>
          exact of_settle settled_resolved (.reply hid id)

theorem onmessage {m : ServerMessage} :
    Settles (.message m) p (p.onmessage now m) := by
  cases m with
  | connected | initialList => exact of_eq rfl
  | reply reply => exact onreply
  | devicesChanged =>
      exact of_eq (Advance.requestDevicesReload rfl rfl).settled_eq

theorem onclose : Settles (.closed code) p (p.onclose now code) := by
  have hby (requestId : String) :=
    @SettledBy.closed requestId code
  rw [Panel.onclose]
  dsimp only
  split
  · next hcode =>
      rw [if_pos hcode] at hby
      exact of_rejected settled_allRejected hby
  · next hcode =>
      rw [if_neg hcode] at hby
      refine of_rejected (settled_allRejected.trans ?_) hby
      rw [scheduleReconnect]
      split <;> rfl

theorem handle : Settles (.event e) p (p.handle now e) := by
  cases e with
  | user e =>
      rw [Panel.handle]
      split
      · by_cases he : e = .unmount
        · subst he
          exact of_rejected settled_allRejected fun _ => .unmount
        · exact of_eq (Advance.handleUser he).settled_eq
      · exact of_eq rfl
  | confirm ok => exact of_eq Advance.confirm.settled_eq
  | timeout requestId =>
      rw [Panel.handle, Panel.timeout]
      cases p.pendingWsRequests.lookup requestId with
      | none => exact of_eq rfl
      | some waiter => exact of_settle settled_rejected .timeout
  | reconnect =>
      have hadvance : p.Advance now p.reconnect := .reconnect
      exact of_eq hadvance.settled_eq
  | setToken | closing => exact of_eq rfl

end Settles

/-- **One call** settles promises only as it may. -/
theorem settles_input (hinput : p.input now i = some p') :
    Settles i p p' := by
  cases i with
  | event e =>
      obtain rfl := Option.some.inj hinput
      exact .handle
  | opened =>
      obtain ⟨-, heq⟩ := Option.ite_none_right_eq_some.mp hinput
      obtain rfl := Option.some.inj heq
      have hopen : (p.setReadyState .open).Advance now (p.onopen now) :=
        .requestDevicesReload rfl rfl
      exact .of_eq hopen.settled_eq
  | message m =>
      obtain ⟨-, heq⟩ := Option.ite_none_right_eq_some.mp hinput
      obtain rfl := Option.some.inj heq
      exact .onmessage
  | closed code =>
      obtain ⟨-, heq⟩ := Option.ite_none_right_eq_some.mp hinput
      obtain rfl := Option.some.inj heq
      exact .onclose

end

/-- **Every promise is settled once.**  In every run of the page, over any
number of connections and with any messages, the requests have different ids;
each of them is pending or was settled exactly once, by its reply, its timer or
the end of the connection or of the page; and without a connection, or while it
is being made, nothing is pending and the page does not load. -/
theorem promises_settled_once {token : Bool} {is : List (ℕ × Input)}
    (hrun : PanelRun token is p) :
    (p.issued.map WsRequest.requestId).Nodup ∧
      (p.issued.map WsRequest.requestId).Perm
        (p.pendingWsRequests.map Prod.fst ++ p.settled.map Prod.fst) ∧
      (∀ requestId outcome, (requestId, outcome) ∈ p.settled →
        ∃ i ∈ is, SettledBy requestId i.2 outcome) ∧
      (p.deviceSocket = none ∨ p.isConnecting = true →
        p.pendingWsRequests = [] ∧ p.loading = false) := by
  have hsound : p.toChannel.Sound :=
    hrun.invariant (I := fun p => p.toChannel.Sound) sound_onMounted
      fun _ _ _ h hstep => sound_input h hstep
  refine ⟨hsound.tracked.nodup, hsound.tracked.perm, ?_, fun hoffline => ?_⟩
  · have hrun' : Run (fun p i p' => i ∈ is ∧ p.input i.1 i.2 = some p')
        (onMounted token) is p :=
      hrun.of_mem fun _ _ _ hi hstep => ⟨hi, hstep⟩
    have hstart : (onMounted token).settled = [] := by
      cases token <;> rfl
    refine hrun'.invariant (I := fun p => ∀ requestId outcome,
      (requestId, outcome) ∈ p.settled →
        ∃ i ∈ is, SettledBy requestId i.2 outcome) ?_ ?_
    · intro requestId outcome hmem
      rw [hstart] at hmem
      contradiction
    · rintro p i p' ih ⟨hi, hstep⟩ requestId outcome hmem
      rcases settles_input hstep requestId outcome hmem with hmem | hby
      · exact ih requestId outcome hmem
      · exact ⟨i, hi, hby⟩
  · have hpending := hsound.consistent.offline hoffline
    refine ⟨hpending, Bool.eq_false_iff.mpr fun hloading => ?_⟩
    obtain ⟨e, he, -⟩ := hsound.consistent.loading hloading
    rw [hpending] at he
    contradiction

/-- The page loads, hears of a change meanwhile, waits in vain for the reply,
loads again and loses its connection. -/
def exampleInputs : List (ℕ × Input) :=
  [(1, .opened), (2, .message .devicesChanged),
    (9000, .event (.timeout "r_1_1")), (9500, .closed 1006)]

def examplePanel : Option Panel :=
  exampleInputs.foldlM (fun p i => p.input i.1 i.2) (onMounted true)

theorem promises_settled_once_after_timeout :
    ∃ p, PanelRun true exampleInputs p ∧
      p.settled.map Prod.fst = ["r_1_1", "r_9000_2"] ∧
      (p.issued.map WsRequest.requestId).Nodup ∧
      (p.issued.map WsRequest.requestId).Perm
        (p.pendingWsRequests.map Prod.fst ++ p.settled.map Prod.fst) ∧
      (∀ requestId outcome, (requestId, outcome) ∈ p.settled →
        ∃ i ∈ exampleInputs, SettledBy requestId i.2 outcome) ∧
      (p.deviceSocket = none ∨ p.isConnecting = true →
        p.pendingWsRequests = [] ∧ p.loading = false) := by
  have hend : examplePanel.any (fun p =>
      decide (p.settled.map Prod.fst = ["r_1_1", "r_9000_2"])) = true := by
    decide +kernel
  obtain ⟨p, hp, hsettled⟩ := (Option.any_eq_true _ _).mp hend
  have hrun : PanelRun true exampleInputs p := .of_foldlM hp
  exact ⟨p, hrun, by simpa using hsettled, promises_settled_once hrun⟩

/-! ## Requests are kept -/

/-- From `p` to `p'` requests are only added, and a load which is pending
afterwards was pending before or its request is among those on their way. -/
structure Grows (p p' : Panel) : Prop where
  isOpen : p'.isOpen = true → p.isOpen = true
  issued : ∀ request ∈ p.issued, request ∈ p'.issued
  sent : p'.isOpen = true → ∀ request ∈ p.sent, request ∈ p'.sent
  pending : p'.isOpen = true → ∀ e ∈ p'.pendingWsRequests, e.2.isLoad = true →
    e ∈ p.pendingWsRequests ∨ ∃ request ∈ p'.sent,
      request.requestId = e.1 ∧ request.payload.isGetDevices = true

namespace Grows

variable {p' p'' : Panel}

theorem trans (h : p.Grows p') (h' : p'.Grows p'') : p.Grows p'' := by
  refine ⟨fun hopen => h.isOpen (h'.isOpen hopen),
    fun request hrequest => h'.issued request (h.issued request hrequest),
    fun hopen request hrequest => h'.sent hopen request
      (h.sent (h'.isOpen hopen) request hrequest),
    fun hopen e he hload => ?_⟩
  rcases h'.pending hopen e he hload with he | hsent
  · rcases h.pending (h'.isOpen hopen) e he hload with he | hsent
    · exact Or.inl he
    · obtain ⟨request, hrequest, hid⟩ := hsent
      exact Or.inr ⟨request, h'.sent hopen request hrequest, hid⟩
  · exact Or.inr hsent

/-- No request is sent and no promise made. -/
theorem of_subset (hsocket : p'.deviceSocket = p.deviceSocket)
    (hissued : p'.issued = p.issued)
    (hpending : ∀ e ∈ p'.pendingWsRequests, e ∈ p.pendingWsRequests) :
    p.Grows p' := by
  refine ⟨fun hopen => ?_, fun request hrequest => ?_,
    fun _ request hrequest => ?_, fun _ e he _ => Or.inl (hpending e he)⟩
  · rwa [Channel.isOpen, hsocket] at hopen
  · rwa [hissued]
  · rwa [Channel.sent, hsocket]

theorem settle : p.Grows (p.settle requestId outcome) :=
  of_subset rfl rfl fun _ => List.mem_of_mem_filter

theorem of_request {c : Channel} {payload : Payload} (hopen : p.isOpen = true)
    (hsocket : c.deviceSocket = p.deviceSocket) (hissued : c.issued = p.issued)
    (hpending : c.pendingWsRequests = p.pendingWsRequests)
    (hkind : waiter.isLoad = true → payload.isGetDevices = true)
    (hchannel : p'.toChannel = c.request now payload waiter) : p.Grows p' := by
  have hopen' : c.isOpen = true := by rwa [Channel.isOpen, hsocket]
  have hsent : p'.sent = p.sent ++
      [⟨payload, newRequestId now (c.wsRequestSeq + 1)⟩] := by
    rw [hchannel, sent_request_of_isOpen hopen', Channel.sent, hsocket]
    rfl
  refine ⟨fun _ => hopen, fun request hrequest => ?_,
    fun _ request hrequest => ?_, fun _ e he hload => ?_⟩
  · rw [hchannel]
    exact List.mem_append_left _ (hissued ▸ hrequest)
  · rw [hsent]
    exact List.mem_append_left _ hrequest
  · rw [hchannel] at he
    rcases List.mem_append.mp he with he | he
    · exact Or.inl (hpending ▸ he)
    · obtain rfl := List.mem_singleton.mp he
      right
      rw [hsent]
      exact ⟨_, List.mem_append_right _ (List.mem_singleton_self _), rfl,
        hkind hload⟩

theorem advance (h : p.Advance now p') : p.Grows p' := by
  cases h with
  | idle hchannel hpayload | postpone hloading hchannel hpayload =>
      apply of_subset
      · rw [hchannel]
      · rw [hchannel]
      · rw [hchannel]
        exact fun _ he => he
  | connect hnone hchannel =>
      have hclosed : p'.isOpen = false := by
        rw [hchannel]
        rfl
      refine ⟨fun hopen => ?_, fun request hrequest => ?_, fun hopen => ?_,
        fun hopen => ?_⟩
      · rw [hclosed] at hopen
        contradiction
      · rwa [hchannel]
      · rw [hclosed] at hopen
        contradiction
      · rw [hclosed] at hopen
        contradiction
  | load bulk hopen hchannel =>
      have hrequest : p'.toChannel = { p.toChannel with loading := true }.request
          now p'.devicesPayload (.loadDevices bulk) := hchannel
      refine of_request hopen ?_ ?_ ?_ (fun _ => rfl) hrequest <;> rfl
  | ask payload waiter hopen hget hwaiter hchannel hpayload =>
      refine of_request hopen rfl rfl rfl (fun hload => ?_) hchannel
      rw [hwaiter] at hload
      contradiction

theorem afterLoad {bulk : Bool} : p.Grows (p.afterLoad now bulk) := by
  have hloaded : p.Grows p.loaded := of_subset rfl rfl fun _ he => he
  exact hloaded.trans (advance .afterLoad)

theorem rejected : p.Grows (p.rejected now waiter) := by
  cases hwaiter : waiter.isLoad with
  | false => exact advance (.rejected hwaiter)
  | true =>
      cases waiter with
      | loadDevices bulk => exact afterLoad
      | saveRemark | toggleAuth | deleteDevice | deleteSelectedDevices =>
          contradiction

theorem resolved : p.Grows (p.resolved now reply waiter) := by
  cases hwaiter : waiter.isLoad with
  | false => exact advance (.resolved hwaiter)
  | true =>
      cases waiter with
      | loadDevices bulk =>
          have happly : p.Grows (p.applyReply reply) := by
            cases reply <;> exact of_subset rfl rfl fun _ he => he
          exact happly.trans afterLoad
      | saveRemark | toggleAuth | deleteDevice | deleteSelectedDevices =>
          contradiction

/-- A reply takes its promise out of the map. -/
theorem onreply (hpending : p.pendingFor reply = some (requestId, waiter)) :
    ∃ outcome, (p.settle requestId outcome).Grows (p.onreply now reply) := by
  unfold Panel.onreply
  rw [hpending]
  cases reply with
  | error | deviceUpdated | deviceDeleted | devicesDeleted =>
      exact ⟨_, by first | exact rejected | exact resolved⟩
  | devicesList requestId' total devices =>
      have happly (q : Panel) : q.Grows (q.applyDevicesPayload total devices) :=
        of_subset rfl rfl fun _ he => he
      exact ⟨_, (happly _).trans resolved⟩

/-- Messages only add requests. -/
theorem onmessage {m : ServerMessage} : p.Grows (p.onmessage now m) := by
  cases m with
  | connected | initialList => exact of_subset rfl rfl fun _ he => he
  | devicesChanged => exact advance (.requestDevicesReload rfl rfl)
  | reply reply =>
      cases hpending : p.pendingFor reply with
      | some e =>
          obtain ⟨requestId, waiter⟩ := e
          obtain ⟨outcome, hgrows⟩ := onreply hpending
          exact settle.trans hgrows
      | none =>
          rw [Panel.onmessage]
          unfold Panel.onreply
          rw [hpending]
          cases reply <;> exact of_subset rfl rfl fun _ he => he

theorem timeout : p.Grows (p.timeout now requestId) := by
  rw [Panel.timeout]
  cases p.pendingWsRequests.lookup requestId with
  | none => exact of_subset rfl rfl fun _ he => he
  | some waiter => exact settle.trans rejected

theorem of_closed (hclosed : p'.isOpen = false)
    (hissued : ∀ request ∈ p.issued, request ∈ p'.issued) : p.Grows p' := by
  have hnot : p'.isOpen ≠ true := by simp [hclosed]
  exact ⟨fun hopen => absurd hopen hnot, hissued,
    fun hopen => absurd hopen hnot, fun hopen => absurd hopen hnot⟩

theorem allRejected {waiters : List (String × Waiter)} :
    p.Grows (p.allRejected now waiters) := by
  induction waiters generalizing p with
  | nil => exact of_subset rfl rfl fun _ he => he
  | cons e waiters ih => exact rejected.trans ih

theorem unmount : p.Grows (p.unmount now) := by
  rw [Panel.unmount]
  refine trans (of_closed rfl ?_) allRejected
  exact fun _ hrequest => hrequest

theorem isOpen_unmount : (p.unmount now).isOpen = false := by
  rw [Bool.eq_false_iff]
  intro hopen
  rw [Panel.unmount] at hopen
  have hclosed := allRejected.isOpen hopen
  contradiction

theorem closing : p.Grows (p.setReadyState .closing) := by
  refine of_closed ?_ fun _ hrequest => hrequest
  simp only [setReadyState, Channel.setReadyState, Channel.isOpen]
  cases p.deviceSocket <;> rfl

end Grows

/-- Requests which have been issued stay so. -/
theorem issued_input {i : Input} (hinput : p.input now i = some p') :
    ∀ request ∈ p.issued, request ∈ p'.issued := by
  cases i with
  | event e =>
      obtain rfl := Option.some.inj hinput
      cases e with
      | user e =>
          rw [Panel.handle]
          split
          · by_cases he : e = .unmount
            · subst he
              exact Grows.unmount.issued
            · exact (Grows.advance (.handleUser he)).issued
          · exact fun _ hrequest => hrequest
      | confirm ok => exact (Grows.advance .confirm).issued
      | timeout requestId => exact Grows.timeout.issued
      | reconnect =>
          have hadvance : p.Advance now p.reconnect := .reconnect
          exact (Grows.advance hadvance).issued
      | setToken | closing => exact fun _ hrequest => hrequest
  | opened =>
      obtain ⟨-, heq⟩ := Option.ite_none_right_eq_some.mp hinput
      obtain rfl := Option.some.inj heq
      have hopen : (p.setReadyState .open).Advance now (p.onopen now) :=
        .requestDevicesReload rfl rfl
      exact (Grows.advance hopen).issued
  | message m =>
      obtain ⟨-, heq⟩ := Option.ite_none_right_eq_some.mp hinput
      obtain rfl := Option.some.inj heq
      exact Grows.onmessage.issued
  | closed code =>
      obtain ⟨-, heq⟩ := Option.ite_none_right_eq_some.mp hinput
      obtain rfl := Option.some.inj heq
      rw [Panel.onclose]
      dsimp only
      intro request hrequest
      split
      · exact Grows.allRejected.issued request hrequest
      · refine Grows.allRejected.issued request ?_
        rw [scheduleReconnect]
        split <;> exact hrequest

end Panel

end PyAuth.Web
