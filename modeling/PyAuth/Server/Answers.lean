import PyAuth.Server.DeviceEvents

/-!
# Which requests of the admin pages are answered

A request should be answered exactly once, and with an error only when nothing
was changed.  The code does so unless it is asked for a page it cannot report,
the answer cannot be written out, or something goes wrong after a commit.
-/

namespace PyAuth.Server

open Support

variable {α : Type} [DecidableEq α] {B : Backend} {actor : String}
  {env : RequestEnv α} {data : Dict String Json} {t t' : Tables}
  {encodes : Json → Bool}

/-- The types of the requests. -/
def requestTypes : List String :=
  ["get_devices", "update_device", "delete_device", "delete_devices"]

/-- The message is a request. -/
def IsRequest (data : Dict String Json) : Prop :=
  ∃ k ∈ requestTypes, data.get "type" = some (.str k)

/-- A request was answered once and truthfully, and the connection stays
open. -/
structure Answered (data : Dict String Json) (t : Tables) (out : Handled) :
    Prop where
  isOpen : out.isOpen = true
  once : ∃ reply, out.replies = [reply] ∧ reply.requestId = requestId data
  honest : ∀ reply ∈ out.replies, reply.IsError → out.tables = t

/-- What the handling of one message should leave. -/
structure Truthful (message : Option Json) (t : Tables) (out : Handled) :
    Prop where
  isOpen : out.isOpen = true
  once : ∀ data, message.bind Json.dict? = some data → IsRequest data →
    ∃ reply, out.replies = [reply] ∧ reply.requestId = requestId data
  honest : ∀ reply ∈ out.replies, reply.IsError → out.tables = t

/-- The parts of a reply which came in as JSON can be written out.  Its other
texts were read from text columns or made by Python, and always can be. -/
def AdminReply.Encodable (encodes : Json → Bool) : AdminReply → Prop
  | .devicesList requestId _ devices => encodes requestId = true ∧
      ∀ d ∈ devices, encodes d.deviceInfo = true
  | .deviceUpdated requestId device => encodes requestId = true ∧
      encodes device.deviceInfo = true
  | .deviceDeleted requestId _ | .devicesDeleted requestId _ _
  | .error requestId _ => encodes requestId = true

instance (encodes : Json → Bool) :
    DecidablePred (AdminReply.Encodable encodes)
  | .devicesList _ _ _ | .deviceUpdated _ _ =>
      inferInstanceAs (Decidable (_ ∧ _))
  | .deviceDeleted _ _ | .devicesDeleted _ _ _ | .error _ _ =>
      inferInstanceAs (Decidable (_ = _))

/-- The client of the request stays connected: a reply is sent if it can be
written out, where `encodes` tells which values can.  A string of Python may
hold lone surrogates, and those cannot. -/
structure RequestEnv.PeerConnected (encodes : Json → Bool)
    (env : RequestEnv α) : Prop where
  sendError : ∀ reply, env.sendError reply = none ↔ reply.Encodable encodes
  errorSent : ∀ reply, env.errorSent reply = true ↔ reply.Encodable encodes

theorem AdminReply.encodes_requestId {reply : AdminReply}
    (h : reply.Encodable encodes) : encodes reply.requestId = true := by
  cases reply with
  | devicesList | deviceUpdated => exact h.1
  | deviceDeleted | devicesDeleted | error => exact h

/-! ## The condition -/

/-- The row can be reported and written out. -/
def Device.Sendable (encodes : Json → Bool) (device : Device) : Prop :=
  device.Reportable ∧ encodes device.deviceInfo = true

instance (encodes : Json → Bool) :
    DecidablePred (Device.Sendable encodes) := fun _ =>
  inferInstanceAs (Decidable (_ ∧ _))

/-- The page exists for SQLite and all its rows can be sent. -/
def Listable (B : Backend) (encodes : Json → Bool) (data : Dict String Json)
    (t : Tables) : Prop :=
  ∃ query, pageQuery data = some query ∧ query.offset ≤ maxSqliteInt ∧
    ∀ d ∈ fetchPage B query t, d.Sendable encodes

/-- When an update is committed, the row can be sent and the clients stay as
many as they are. -/
def UpdateAnnounceable (B : Backend) (encodes : Json → Bool)
    (env : RequestEnv α) (data : Dict String Json) (t : Tables) : Prop :=
  ∀ deviceId allowed device remark,
    updateRequest B data = .ok (deviceId, allowed) →
    t.device? deviceId = some device → storedRemark B allowed = .ok remark →
    env.commitError = none → device.Sendable encodes ∧ env.broadcast.Steady

/-- When a deletion is committed, the clients stay as many as they are. -/
def DeleteAnnounceable (env : RequestEnv α) (ids : List String) (t : Tables) :
    Prop :=
  t.named ids ≠ [] → env.commitError = none → env.broadcast.Steady

/-- The condition under which a message is handled as it should be. -/
def Answerable (B : Backend) (encodes : Json → Bool) (env : RequestEnv α)
    (message : Option Json) (t : Tables) : Prop :=
  ∀ document, message = some document → ∃ data, document.dict? = some data ∧
    (IsRequest data → encodes (requestId data) = true) ∧
    (data.get "type" = some (.str "get_devices") →
      Listable B encodes data t) ∧
    (data.get "type" = some (.str "update_device") →
      UpdateAnnounceable B encodes env data t) ∧
    (data.get "type" = some (.str "delete_device") → targetId B data ≠ "" →
      DeleteAnnounceable env [targetId B data] t) ∧
    (data.get "type" = some (.str "delete_devices") → ∀ ids,
      deleteRequest B data = .ok ids → DeleteAnnounceable env ids t)

/-! ## One attempt -/

section Attempt

variable {fallback message : String} {payload : AdminReply}

/-- An exception before the commit is answered by an error. -/
theorem answered_of_unchanged (henv : env.PeerConnected encodes)
    (hid : encodes (requestId data) = true) :
    Answered data t
      ((⟨t, [], some message⟩ : Attempt).guarded env data fallback) := by
  obtain ⟨text, ⟨-, hout⟩ | ⟨hsent, -⟩⟩ :=
    guarded_raised env data fallback message t []
  · rw [hout]
    exact ⟨rfl, ⟨_, rfl, rfl⟩, fun _ _ _ => rfl⟩
  · exact absurd ((henv.errorSent (.error _ text)).mpr hid) hsent

/-- An exception after the commit and before the payload is not answered, or
by an error, though something was changed. -/
theorem not_answered_of_changed (hne : t' ≠ t) :
    ¬Answered data t
      ((⟨t', [], some message⟩ : Attempt).guarded env data fallback) := by
  intro h
  obtain ⟨text, ⟨-, hout⟩ | ⟨-, hout⟩⟩ :=
    guarded_raised env data fallback message t' []
  · rw [hout] at h
    exact hne (h.honest _ (List.mem_singleton_self _) trivial)
  · rw [hout] at h
    have := h.isOpen
    contradiction

/-- After the commit, all depends on the payload and the announcement. -/
theorem answered_announce_iff (henv : env.PeerConnected encodes)
    (hid : payload.requestId = requestId data) (hpayload : ¬payload.IsError)
    (hne : t' ≠ t) :
    Answered data t ((announce env t' payload).guarded env data fallback) ↔
      payload.Encodable encodes ∧ env.broadcast.Steady := by
  rw [announce, ← henv.sendError]
  cases hsend : env.sendError payload with
  | some message =>
      exact iff_of_false (not_answered_of_changed hne) fun h => by cases h.1
  | none =>
      rw [and_iff_right rfl]
      by_cases hsteady : env.broadcast.Steady
      · have hstatus : env.broadcast.status ≠ .raised := fun h =>
          BroadcastEnv.status_eq_raised_iff.mp h hsteady
        refine iff_of_true ?_ hsteady
        cases h : env.broadcast.status with
        | raised => exact absurd h hstatus
        | finished | sending =>
            refine ⟨rfl, ⟨payload, rfl, hid⟩, fun reply hreply herror => ?_⟩
            obtain rfl := List.mem_singleton.mp hreply
            exact absurd herror hpayload
      · rw [BroadcastEnv.status_eq_raised_iff.mpr hsteady]
        refine iff_of_false (fun h => ?_) hsteady
        have hencodes : encodes (requestId data) = true := by
          rw [← hid]
          exact AdminReply.encodes_requestId ((henv.sendError _).mp hsend)
        obtain ⟨reply, hreply, -⟩ := h.once
        obtain ⟨text, ⟨-, hout⟩ | ⟨hsent, -⟩⟩ := guarded_raised env data
          fallback "Set changed size during iteration" t' [payload]
        · rw [hout] at hreply
          simp at hreply
        · exact hsent ((henv.errorSent (.error _ text)).mpr hencodes)

/-- Without a request id that can be written out nothing is answered. -/
theorem not_answered_of_unencodable (henv : env.PeerConnected encodes)
    (hid : encodes (requestId data) ≠ true) {attempt : Attempt}
    (hattempt : (∃ t' message, attempt = ⟨t', [], some message⟩) ∨
      ∃ t' payload, payload.requestId = requestId data ∧
        attempt = announce env t' payload) :
    ¬Answered data t (attempt.guarded env data fallback) := by
  have hraised : ∃ t' message, attempt = ⟨t', [], some message⟩ := by
    rcases hattempt with h | ⟨t', payload, hpayload, rfl⟩
    · exact h
    · rw [announce]
      cases hsend : env.sendError payload with
      | some message => exact ⟨t', message, rfl⟩
      | none =>
          refine absurd ?_ hid
          rw [← hpayload]
          exact AdminReply.encodes_requestId ((henv.sendError _).mp hsend)
  obtain ⟨t', message, rfl⟩ := hraised
  intro h
  obtain ⟨text, ⟨hsent, -⟩ | ⟨-, hout⟩⟩ :=
    guarded_raised env data fallback message t' []
  · exact hid ((henv.errorSent (.error _ text)).mp hsent)
  · rw [hout] at h
    have := h.isOpen
    contradiction

end Attempt

/-! ## The requests -/

theorem getDevices_eq_some_iff :
    (∃ payload, getDevices B data t = some payload ∧
      payload.Encodable encodes) ↔
      encodes (requestId data) = true ∧ Listable B encodes data t := by
  rw [getDevices, Listable]
  cases pageQuery data with
  | none => simp
  | some query =>
      by_cases hoffset : maxSqliteInt < query.offset
      · simp [hoffset]
      · simp only [hoffset, if_false, Option.some.injEq, exists_eq_left',
          not_lt.mp hoffset, true_and, Device.Sendable, forall_and]
        by_cases hreport : ∀ d ∈ fetchPage B query t, d.Reportable
        · rw [if_pos hreport]
          simp only [AdminReply.Encodable, exists_eq_left', Option.some.injEq]
          exact and_congr_right fun _ => (and_iff_right hreport).symm
        · simp [hreport]

theorem getDevices_spec {payload : AdminReply}
    (h : getDevices B data t = some payload) :
    payload.requestId = requestId data ∧ ¬payload.IsError := by
  rw [getDevices] at h
  split at h
  · contradiction
  · split at h
    · contradiction
    · split at h
      · obtain rfl := Option.some.inj h
        exact ⟨rfl, id⟩
      · contradiction

theorem Tables.reviseDevice_ne {allowed : Dict String Json}
    {remark : Option (Option String)} {device : Device} :
    t.reviseDevice actor env allowed remark device ≠ t := fun h =>
  Tables.append_newLogs_ne (by simp) (congrArg Tables.operationLogs h)

theorem Tables.deleteDevices_ne {loggedAt : ℕ → ℚ} {ids : List String}
    (hids : ids ≠ []) : t.deleteDevices actor loggedAt ids ≠ t := fun h =>
  Tables.append_newLogs_ne hids (congrArg Tables.operationLogs h)

theorem answered_updateDevice_iff {fallback : String}
    (henv : env.PeerConnected encodes) :
    Answered data t
        ((updateDevice B actor env data t).guarded env data fallback) ↔
      encodes (requestId data) = true ∧
        UpdateAnnounceable B encodes env data t := by
  by_cases hid : encodes (requestId data) = true
  case neg =>
    refine iff_of_false (not_answered_of_unencodable henv hid ?_)
      fun h => hid h.1
    rcases updateDevice_cases B actor env data t with ⟨message, h⟩ |
      ⟨_, _, _, _, -, -, ⟨-, h⟩ | ⟨-, message, h⟩⟩
    · exact Or.inl ⟨t, message, h⟩
    · exact Or.inr ⟨_, _, rfl, h⟩
    · exact Or.inl ⟨_, message, h⟩
  rw [and_iff_right hid, updateDevice, UpdateAnnounceable]
  cases hrequest : updateRequest B data with
  | error message =>
      exact iff_of_true (answered_of_unchanged henv hid) (by simp)
  | ok request =>
      obtain ⟨deviceId, allowed⟩ := request
      dsimp only
      cases hdevice : t.device? deviceId with
      | none =>
          refine iff_of_true (answered_of_unchanged henv hid) ?_
          rintro _ _ _ _ ⟨⟩ hsome
          simp [hdevice] at hsome
      | some device =>
          cases hcommit : env.commitError with
          | some message =>
              exact iff_of_true (answered_of_unchanged henv hid) (by simp)
          | none =>
              cases hremark : storedRemark B allowed with
              | error message =>
                  refine iff_of_true (answered_of_unchanged henv hid) ?_
                  rintro _ _ _ _ ⟨⟩ - hok
                  simp [hremark] at hok
              | ok remark =>
                  dsimp only
                  have hsame : (∀ deviceId' allowed' device' remark',
                      (Except.ok (deviceId, allowed) :
                        Except String (String × Dict String Json)) =
                          .ok (deviceId', allowed') →
                      t.device? deviceId' = some device' →
                      storedRemark B allowed' = .ok remark' →
                      (none : Option String) = none →
                      device'.Sendable encodes ∧ env.broadcast.Steady) ↔
                      device.Sendable encodes ∧ env.broadcast.Steady := by
                    constructor
                    · intro h
                      exact h _ _ _ _ rfl hdevice hremark rfl
                    · rintro h _ _ _ _ ⟨⟩ hdevice' - -
                      obtain rfl := Option.some.inj (hdevice.symm.trans hdevice')
                      exact h
                  rw [hsame]
                  by_cases hreport : device.Reportable
                  · rw [if_pos (Device.reportable_revise.mpr hreport),
                      answered_announce_iff henv rfl id Tables.reviseDevice_ne]
                    rw [Device.Sendable, and_iff_right hreport,
                      AdminReply.Encodable, and_iff_right hid]
                    exact Iff.rfl
                  · rw [if_neg (mt Device.reportable_revise.mp hreport)]
                    exact iff_of_false
                      (not_answered_of_changed Tables.reviseDevice_ne)
                      fun h => hreport h.1.1

theorem answered_deleteDevice_iff {fallback : String}
    (henv : env.PeerConnected encodes) :
    Answered data t
        ((deleteDevice B actor env data t).guarded env data fallback) ↔
      encodes (requestId data) = true ∧ (targetId B data ≠ "" →
        DeleteAnnounceable env [targetId B data] t) := by
  by_cases hencodes : encodes (requestId data) = true
  case neg =>
    refine iff_of_false (not_answered_of_unencodable henv hencodes ?_)
      fun h => hencodes h.1
    rcases deleteDevice_cases B actor env data t with ⟨message, h⟩ | h
    · exact Or.inl ⟨t, message, h⟩
    · exact Or.inr ⟨_, _, rfl, h⟩
  rw [and_iff_right hencodes, deleteDevice, DeleteAnnounceable]
  by_cases hid : targetId B data = ""
  · rw [if_pos hid]
    exact iff_of_true (answered_of_unchanged henv hencodes)
      fun h => absurd hid h
  by_cases hnamed : t.named [targetId B data] = []
  · rw [if_neg hid, if_pos hnamed]
    exact iff_of_true (answered_of_unchanged henv hencodes)
      fun _ h => absurd hnamed h
  rw [if_neg hid, if_neg hnamed]
  cases hcommit : env.commitError with
  | some message =>
      exact iff_of_true (answered_of_unchanged henv hencodes) (by simp)
  | none =>
      rw [answered_announce_iff henv rfl id
        (Tables.deleteDevices_ne (List.cons_ne_nil _ _)),
        AdminReply.Encodable, and_iff_right hencodes]
      simp [hid, hnamed]

theorem existingIds_eq_nil_iff {ids : List String} :
    existingIds B t ids = [] ↔ t.named ids = [] := by
  rw [existingIds, List.map_eq_nil_iff, ← List.length_eq_zero_iff,
    (B.scan_perm _).length_eq, List.length_eq_zero_iff]

theorem answered_deleteDevices_iff {fallback : String}
    (henv : env.PeerConnected encodes) :
    Answered data t
        ((deleteDevices B actor env data t).guarded env data fallback) ↔
      encodes (requestId data) = true ∧
        ∀ ids, deleteRequest B data = .ok ids → DeleteAnnounceable env ids t := by
  by_cases hencodes : encodes (requestId data) = true
  case neg =>
    refine iff_of_false (not_answered_of_unencodable henv hencodes ?_)
      fun h => hencodes h.1
    rcases deleteDevices_cases B actor env data t with ⟨message, h⟩ | ⟨_, -, h⟩
    · exact Or.inl ⟨t, message, h⟩
    · exact Or.inr ⟨_, _, rfl, h⟩
  rw [and_iff_right hencodes, deleteDevices]
  cases hrequest : deleteRequest B data with
  | error message =>
      exact iff_of_true (answered_of_unchanged henv hencodes) (by simp)
  | ok ids =>
      simp only [Except.ok.injEq, forall_eq', DeleteAnnounceable]
      by_cases hnamed : t.named ids = []
      · rw [if_pos (existingIds_eq_nil_iff.mpr hnamed)]
        exact iff_of_true (answered_of_unchanged henv hencodes)
          fun h => absurd hnamed h
      have hids : existingIds B t ids ≠ [] := mt existingIds_eq_nil_iff.mp hnamed
      rw [if_neg hids]
      cases hcommit : env.commitError with
      | some message =>
          exact iff_of_true (answered_of_unchanged henv hencodes) (by simp)
      | none =>
          rw [answered_announce_iff henv rfl id (Tables.deleteDevices_ne hids),
            AdminReply.Encodable, and_iff_right hencodes]
          simp [hnamed]

theorem answered_getDevices_iff {document : Json}
    (henv : env.PeerConnected encodes) (hdata : document.dict? = some data)
    (htype : data.get "type" = some (.str "get_devices")) :
    Answered data t (deviceEvents B actor env (some document) t) ↔
      encodes (requestId data) = true ∧ Listable B encodes data t := by
  rw [deviceEvents, ← getDevices_eq_some_iff]
  simp only [hdata, if_pos htype]
  cases hpayload : getDevices B data t with
  | none =>
      refine iff_of_false (fun h => ?_) (by simp)
      have := h.isOpen
      contradiction
  | some payload =>
      obtain ⟨hid, -⟩ := getDevices_spec hpayload
      dsimp only
      cases hsend : env.sendError payload with
      | some message =>
          refine iff_of_false (fun h => ?_) ?_
          · have := h.isOpen
            contradiction
          · rintro ⟨_, ⟨⟩, hencodes⟩
            rw [(henv.sendError _).mpr hencodes] at hsend
            contradiction
      | none =>
          refine iff_of_true ⟨rfl, ⟨payload, rfl, hid⟩, fun _ _ _ => rfl⟩ ?_
          exact ⟨payload, rfl, (henv.sendError _).mp hsend⟩

/-! ## All messages -/

theorem truthful_iff_answered {document : Json} {out : Handled}
    (hdata : document.dict? = some data) (hrequest : IsRequest data) :
    Truthful (some document) t out ↔ Answered data t out := by
  constructor
  · intro h
    exact ⟨h.isOpen, h.once data hdata hrequest, h.honest⟩
  · intro h
    refine ⟨h.isOpen, fun data' hdata' _ => ?_, h.honest⟩
    obtain rfl := Option.some.inj (hdata.symm.trans hdata')
    exact h.once

/-- What is no request needs no answer. -/
theorem truthful_of_no_request {document : Json}
    (hdata : document.dict? = some data) (h : ¬IsRequest data) :
    Truthful (some document) t ⟨t, [], true⟩ := by
  refine ⟨rfl, fun data' hdata' hrequest => ?_, by simp⟩
  obtain rfl := Option.some.inj (hdata.symm.trans hdata')
  exact absurd hrequest h

theorem answerable_iff {document : Json} (hdata : document.dict? = some data) :
    Answerable B encodes env (some document) t ↔
      (IsRequest data → encodes (requestId data) = true) ∧
      (data.get "type" = some (.str "get_devices") →
        Listable B encodes data t) ∧
      (data.get "type" = some (.str "update_device") →
        UpdateAnnounceable B encodes env data t) ∧
      (data.get "type" = some (.str "delete_device") → targetId B data ≠ "" →
        DeleteAnnounceable env [targetId B data] t) ∧
      (data.get "type" = some (.str "delete_devices") → ∀ ids,
        deleteRequest B data = .ok ids → DeleteAnnounceable env ids t) := by
  simp [Answerable, hdata]

/-- A quiet request of a client which stays connected. -/
def RequestEnv.peer (encodes : Json → Bool) (broadcast : BroadcastEnv α) :
    RequestEnv α :=
  { RequestEnv.quiet broadcast with
    sendError := fun reply =>
      if reply.Encodable encodes then none else some "surrogates not allowed"
    errorSent := fun reply => decide (reply.Encodable encodes) }

theorem RequestEnv.peerConnected_peer (broadcast : BroadcastEnv α) :
    (peer encodes broadcast).PeerConnected encodes where
  sendError reply := by simp [peer]
  errorSent reply := by simp [peer]

/-- `"?"` stands for a string with a lone surrogate. -/
def exampleEncodes (v : Json) : Bool := decide (v ≠ .str "?")

end PyAuth.Server
