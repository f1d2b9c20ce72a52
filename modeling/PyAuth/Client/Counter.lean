import PyAuth.Client.Devices

/-!
# The heartbeat counter counts

A run without a state file at its start, on a disk which does not fail.  What
the stored counter is for: it is the number of heartbeats answered authorised
since the last revocation or clearing.  The row of the product holds either
nothing of a licence or a positive timestamp with that number, every heartbeat
carries the next one, and a check never has to repair the row.
-/

namespace PyAuth.Client

open Support

/-! ## Counting a history -/

/-- The effect of one event on the number of authorised answers. -/
def Event.count (n : ℕ) : Event → ℕ
  | .heartbeat h =>
      match h.answer with
      | none => n
      | some true => n + 1
      | some false => 0
  | .cleared => 0

/-- The number of authorised answers after a history that starts from `n`. -/
def countFrom (n : ℕ) (history : List Event) : ℕ :=
  history.foldl Event.count n

/-- The heartbeats answered authorised since the last unauthorised answer or
clearing of a history. -/
def authorisedCount (history : List Event) : ℕ := countFrom 0 history

@[simp] theorem countFrom_nil (n : ℕ) : countFrom n [] = n := rfl

@[simp] theorem countFrom_cons (n : ℕ) (e : Event) (es : List Event) :
    countFrom n (e :: es) = countFrom (e.count n) es := rfl

theorem countFrom_append (n : ℕ) (es es' : List Event) :
    countFrom n (es ++ es') = countFrom (countFrom n es) es' :=
  List.foldl_append

/-- Each heartbeat carries the number of authorised answers before it, plus
one. -/
def Numbered (n : ℕ) : List Event → Prop
  | [] => True
  | e :: es =>
      (∀ hb, e = .heartbeat hb → hb.times = n + 1) ∧ Numbered (e.count n) es

theorem numbered_heartbeat_cons {n : ℕ} {hb : Heartbeat} {es : List Event} :
    Numbered n (.heartbeat hb :: es) ↔
      hb.times = n + 1 ∧ Numbered ((Event.heartbeat hb).count n) es := by
  simp [Numbered]

theorem numbered_append {n : ℕ} {es es' : List Event} :
    Numbered n (es ++ es') ↔ Numbered n es ∧ Numbered (countFrom n es) es' := by
  induction es generalizing n with
  | nil => simp [Numbered]
  | cons e es ih =>
      rw [List.cons_append, Numbered, Numbered, ih, countFrom_cons, and_assoc]

theorem Numbered.times_eq {n : ℕ} {pre post : List Event} {hb : Heartbeat}
    (h : Numbered n (pre ++ .heartbeat hb :: post)) :
    hb.times = countFrom n pre + 1 :=
  (numbered_append.mp h).2.1 hb rfl

/-- Unanswered heartbeats all carry the same number. -/
theorem numbered_of_unanswered {n : ℕ} {sent : List Heartbeat}
    (hnone : ∀ hb ∈ sent, hb.answer = none)
    (htimes : ∀ hb ∈ sent, hb.times = n + 1) :
    Numbered n (sent.map .heartbeat) := by
  induction sent with
  | nil => trivial
  | cons hb sent ih =>
      rw [List.map_cons, numbered_heartbeat_cons]
      refine ⟨htimes hb List.mem_cons_self, ?_⟩
      simp only [Event.count, hnone hb List.mem_cons_self]
      exact ih (fun hb' h => hnone hb' (List.mem_cons_of_mem _ h))
        (fun hb' h => htimes hb' (List.mem_cons_of_mem _ h))

theorem countFrom_of_unanswered {n : ℕ} {sent : List Heartbeat}
    (hnone : ∀ hb ∈ sent, hb.answer = none) :
    countFrom n (sent.map .heartbeat) = n := by
  induction sent with
  | nil => rfl
  | cons hb sent ih =>
      rw [List.map_cons, countFrom_cons, Event.count,
        hnone hb List.mem_cons_self]
      exact ih fun hb' h => hnone hb' (List.mem_cons_of_mem _ h)

/-! ## Rows which count -/

/-- The row holds nothing of a licence. -/
def Unlicensed (row : Option Row) : Prop :=
  ∀ k ∈ bundleProductRevokeKeys, row.bind (·.get k) = none

/-- The row holds a positive timestamp and the number `n`. -/
def CountsTo (row : Option Row) (n : ℕ) : Prop :=
  ∃ sub ts, row = some sub ∧
    sub.get "last_success_at" = some (.float (.fin ts)) ∧ 0 < ts ∧
    sub.get "heartbeat_times" = some (.int n)

/-- Between two calls: the row counts the authorised answers, unless there are
none. -/
def AuthCache.Counting {β : Type} (P : Primitives β) (c : AuthCache)
    (st : Storage β) (n : ℕ) : Prop :=
  (Unlicensed (c.currentRow P st) ∧ (IsProductKey c.softwareName → n = 0)) ∨
    (CountsTo (c.currentRow P st) n ∧ 1 ≤ n)

/-- The branch of `_snapshot_auth_row` which clears the cache: there is a
timestamp, but the number is malformed or not positive.  (At an infinite
number the method raises instead.) -/
def AuthCache.Repairs {β : Type} (P : Primitives β) (c : AuthCache)
    (io : SnapshotEnv) (st : Storage β) : Prop :=
  ∃ row, (c.readRow P io.read st).2 = some row ∧
    rowLastSuccessTs row ≠ none ∧
    AuthCache.storedCount row ≠ .error .overflowError ∧
    ∀ n, AuthCache.storedCount row = .ok n → n < 1

section Rows

variable {row : Option Row} {n : ℕ}

theorem Unlicensed.rowLastSuccessTs_eq_none {sub : Row}
    (h : Unlicensed (some sub)) : rowLastSuccessTs sub = none := by
  have hget : sub.get "last_success_at" = none :=
    h "last_success_at" (by decide)
  rw [rowLastSuccessTs, hget]

theorem unlicensed_none : Unlicensed none := fun _ _ => rfl

theorem unlicensed_clearedRow (c : AuthCache) (sub : Row) :
    Unlicensed (some (c.clearedRow sub)) := by
  intro k hk
  have hne : k ≠ "device_id" := by
    rintro rfl
    exact absurd hk (by decide)
  rw [Option.bind_some, AuthCache.get_clearedRow, if_neg hne, if_pos hk]

theorem rowLastSuccessTs_of_fin {sub : Row} {ts : ℚ}
    (h : sub.get "last_success_at" = some (.float (.fin ts))) (hpos : 0 < ts) :
    rowLastSuccessTs sub = some (.fin ts) := by
  rw [rowLastSuccessTs, h]
  simp [Double.isPos, hpos]

theorem storedCount_of_int {sub : Row} {m : ℤ}
    (h : sub.get "heartbeat_times" = some (.int m)) :
    AuthCache.storedCount sub = .ok m := by
  rw [AuthCache.storedCount, h]
  rfl

/-- A change of the stored device id changes neither. -/
theorem unlicensed_set_device_id {id : Json} (h : Unlicensed row) :
    Unlicensed (some ((row.getD .empty).set "device_id" id)) := by
  intro k hk
  have hne : k ≠ "device_id" := by
    rintro rfl
    exact absurd hk (by decide)
  rw [Option.bind_some, Dict.get_set, if_neg hne]
  cases row with
  | none => rfl
  | some sub => exact h k hk

theorem countsTo_set_device_id {id : Json} (h : CountsTo row n) :
    CountsTo (some ((row.getD .empty).set "device_id" id)) n := by
  obtain ⟨sub, ts, rfl, hts, hpos, hn⟩ := h
  refine ⟨_, ts, rfl, ?_, hpos, ?_⟩
  · simp [Dict.get_set, hts]
  · simp [Dict.get_set, hn]

end Rows

namespace AuthCache

variable {β : Type} {P : Primitives β} {c c' : AuthCache} {st st' : Storage β}
  {n : ℕ}

theorem Counting.of_currentRow_eq (h : c.Counting P st n)
    (hname : c'.softwareName = c.softwareName)
    (hrow : c'.currentRow P st' = c.currentRow P st) :
    c'.Counting P st' n := by
  rw [Counting, hname, hrow]
  exact h

theorem counting_zero_of_unlicensed (h : Unlicensed (c.currentRow P st)) :
    c.Counting P st 0 :=
  Or.inl ⟨h, fun _ => rfl⟩

/-- A row which counts needs no repair. -/
theorem Counting.not_repairs (h : c.Counting P st n) (io : SnapshotEnv) :
    ¬c.Repairs P io st := by
  rintro ⟨row, hread, hts, -, hbad⟩
  have hrow : c.currentRow P st = some row := by
    simp only [readRow, readStateDict_snd] at hread
    by_cases hio : io.read.read = true
    · rwa [if_pos hio] at hread
    · rw [if_neg hio] at hread
      contradiction
  rw [Counting, hrow] at h
  rcases h with ⟨hnone, -⟩ | ⟨⟨sub, ts, hsub, -, -, hn⟩, hpos⟩
  · exact hts hnone.rowLastSuccessTs_eq_none
  · obtain rfl := Option.some.inj hsub
    have hlt := hbad n (storedCount_of_int hn)
    omega

/-- A snapshot clears the cache when it repairs the row, and otherwise leaves
the storage as its read leaves it. -/
theorem snapshotAuthRow_fst (io : SnapshotEnv) (st : Storage β) :
    (c.Repairs P io st → (c.snapshotAuthRow P io st).1 =
        (c.clearCache P io.clear (c.readRow P io.read st).1).1) ∧
      (¬c.Repairs P io st → (c.snapshotAuthRow P io st).1 =
        (c.readRow P io.read st).1) := by
  rw [snapshotAuthRow, Repairs]
  cases hrow : (c.readRow P io.read st).2 with
  | none => simp [hrow]
  | some row =>
      by_cases hts : rowLastSuccessTs row = none
      · simp [hrow, hts]
      cases hn : AuthCache.storedCount row with
      | error e => cases e <;> simp [hrow, hts, hn]
      | ok m =>
          by_cases hlt : m < 1
          · simp [hrow, hts, hn, hlt]
          · simp [hrow, hts, hn, hlt]

/-- What a check learns from a row which counts. -/
theorem Counting.snapshotAuthRow_success (h : c.Counting P st n) :
    ∃ cache m, (c.snapshotAuthRow P .success st).2 = .ok (cache, m) ∧
      (IsProductKey c.softwareName → m = n) := by
  have hread : (c.readRow P .success st).2 = c.currentRow P st :=
    readRow_success
  rw [snapshotAuthRow]
  simp only [SnapshotEnv.success, hread]
  rcases h with ⟨hnone, hzero⟩ | ⟨⟨sub, ts, hsub, hts, hpos, hn⟩, hone⟩
  · refine ⟨none, 0, ?_, fun hs => by rw [hzero hs]; rfl⟩
    cases hrow : c.currentRow P st with
    | none => rfl
    | some row =>
        rw [hrow] at hnone
        simp only [hnone.rowLastSuccessTs_eq_none, if_true]
  · have hlt : ¬(n : ℤ) < 1 := by omega
    simp only [hsub, rowLastSuccessTs_of_fin hts hpos, storedCount_of_int hn,
      reduceCtorEq, if_false, hlt]
    exact ⟨_, _, rfl, fun _ => rfl⟩

/-- Saving the next authorised answer. -/
theorem counting_saveCache_true {m : ℤ} {snap : Json} {now : ℚ}
    (hm : IsProductKey c.softwareName → m = n + 1) (hnow : 0 < now) :
    c.Counting P
      (c.saveCache P true .null (.int m) snap (.success now) st).1 (n + 1) := by
  rw [Counting, currentRow_saveCache_success currentRow_software_name]
  by_cases hs : IsProductKey c.softwareName
  · right
    rw [if_pos hs, hm hs]
    exact ⟨⟨_, now, rfl, get_savedRow_last_success_at, hnow,
      get_savedRow_heartbeat_times⟩, by omega⟩
  · left
    rw [if_neg hs]
    exact ⟨unlicensed_none, fun h => (hs h).elim⟩

/-- Saving an unauthorised answer. -/
theorem counting_saveCache_false {hb snap : Json} {now : ℚ} :
    c.Counting P
      (c.saveCache P false .null hb snap (.success now) st).1 0 := by
  apply counting_zero_of_unlicensed
  rw [currentRow_saveCache_success currentRow_software_name, savedRow_false]
  split
  · exact unlicensed_clearedRow c _
  · exact unlicensed_none

theorem counting_clearCache_success :
    c.Counting P (c.clearCache P .success st).1 0 := by
  apply counting_zero_of_unlicensed
  rcases currentRow_clearCache_success (P := P) c st with h | h
  · rw [h]
    exact unlicensed_none
  · rw [h]
    exact unlicensed_clearedRow c _

end AuthCache

/-! ## One call -/

section Calls

variable {β : Type} {P : Primitives β} {cl : AuthClient} {st : Storage β}
  {n : ℕ}

/-- A check starts from a row which counts, at the number of that row. -/
theorem counting_checkSnapshot (h : cl.cache.Counting P st n) :
    cl.cache.Counting P (cl.checkSnapshot P .success st).1 n ∧
      (IsProductKey cl.cache.softwareName →
        (cl.checkSnapshot P .success st).2.2 = n) := by
  obtain ⟨cache, m, hsnap, hm⟩ := h.snapshotAuthRow_success
  have hst : (cl.cache.snapshotAuthRow P .success st).1 =
      (cl.cache.readRow P .success st).1 :=
    (AuthCache.snapshotAuthRow_fst .success _).2 (h.not_repairs .success)
  have hcheck : cl.checkSnapshot P .success st =
      ((cl.cache.readRow P .success st).1, cache, m) := by
    rw [AuthClient.checkSnapshot]
    rcases hres : cl.cache.snapshotAuthRow P .success st with ⟨st', r⟩
    rw [hres] at hsnap hst
    dsimp only at hsnap hst
    rw [hsnap, hst]
  rw [hcheck]
  exact ⟨h.of_currentRow_eq rfl (AuthCache.currentRow_readRow _), hm⟩

theorem checkOnline_heartbeat_times (times : ℤ) (online : Online) :
    ∀ hb ∈ (cl.checkOnline times online).2.1, hb.times = times := by
  intro hb hmem
  cases online with
  | abandoned collected message =>
      cases collected <;> simp [AuthClient.checkOnline] at hmem
  | posted collected publicIp answer =>
      obtain rfl := List.mem_singleton.mp hmem
      rfl

/-- What a check owes when it starts from a row which counts to `n`. -/
structure Checked.Counted (P : Primitives β) (c : AuthCache) (n : ℕ)
    (out : Checked β) : Prop where
  cache_eq : out.client.cache = c
  counting : c.Counting P out.storage
    (countFrom n (out.heartbeats.map .heartbeat))
  numbered : IsProductKey c.softwareName →
    Numbered n (out.heartbeats.map .heartbeat)

/-- Storing an answer moves the counter as the answer moves the count. -/
theorem counting_writeCheckCacheRetries {authorized : Bool} {times : ℤ}
    {now : ℚ} (hnow : 0 < now)
    (htimes : IsProductKey cl.cache.softwareName → times = n + 1) :
    cl.cache.Counting P
      (cl.writeCheckCacheRetries P authorized times (.success now) st).1
      (if authorized then n + 1 else 0) := by
  rw [writeCheckCacheRetries_success]
  cases authorized with
  | true => exact AuthCache.counting_saveCache_true htimes hnow
  | false => exact AuthCache.counting_saveCache_false

/-- Storing the answer of a full heartbeat. -/
theorem counted_of_answered {times : ℤ} {online : Online} {saveAt : ℚ}
    (hsave : 0 < saveAt)
    (htimes : IsProductKey cl.cache.softwareName → times = n + 1)
    (hok : (cl.checkOnline times online).2.2.success = true) :
    Checked.Counted P cl.cache n
      (let (cl', sent, result) := cl.checkOnline times online
       let (st', savedAt) := cl'.writeCheckCacheRetries P result.authorized
         times (.success saveAt) st
       ⟨cl', st', result, recordSave sent savedAt⟩) := by
  obtain ⟨hcache, -, -, -, hanswer⟩ := cl.checkOnline_spec times online
  obtain ⟨hb, hsent, hans⟩ := hanswer hok
  have htime : hb.times = times :=
    checkOnline_heartbeat_times times online hb (by rw [hsent]; simp)
  have hcounting : (cl.checkOnline times online).1.cache.Counting P
      ((cl.checkOnline times online).1.writeCheckCacheRetries P
        (cl.checkOnline times online).2.2.authorized times
        (.success saveAt) st).1
      (if (cl.checkOnline times online).2.2.authorized then n + 1 else 0) :=
    counting_writeCheckCacheRetries hsave (by rw [hcache]; exact htimes)
  rw [hcache] at hcounting
  have hcount : countFrom n
      ((recordSave [hb] (some saveAt)).map .heartbeat) =
        if (cl.checkOnline times online).2.2.authorized then n + 1 else 0 := by
    simp only [recordSave, List.map_cons, List.map_nil, countFrom_cons,
      countFrom_nil, Event.count, hans]
    cases (cl.checkOnline times online).2.2.authorized <;> rfl
  refine ⟨hcache, ?_, ?_⟩
  · simp only [writeCheckCacheRetries_success, hsent, hcount] at hcounting ⊢
    exact hcounting
  · intro hs
    simp only [writeCheckCacheRetries_success, hsent]
    exact numbered_heartbeat_cons.mpr ⟨htime.trans (htimes hs), trivial⟩

/-- A full heartbeat to which no reply was accepted changes nothing. -/
theorem counted_of_unanswered {times : ℤ} {online : Online}
    {out : Checked β} (hst : cl.cache.Counting P st n)
    (htimes : IsProductKey cl.cache.softwareName → times = n + 1)
    (hfail : (cl.checkOnline times online).2.2.success = false)
    (hclient : out.client = (cl.checkOnline times online).1)
    (hrow : cl.cache.currentRow P out.storage = cl.cache.currentRow P st)
    (hsent : out.heartbeats = (cl.checkOnline times online).2.1) :
    out.Counted P cl.cache n := by
  obtain ⟨hcache, -, -, hnone, -⟩ := cl.checkOnline_spec times online
  have hunanswered := hnone hfail
  refine ⟨by rw [hclient, hcache], ?_, fun hs => ?_⟩
  · rw [hsent, countFrom_of_unanswered hunanswered]
    exact hst.of_currentRow_eq rfl hrow
  · rw [hsent]
    refine numbered_of_unanswered hunanswered fun hb hmem => ?_
    rw [checkOnline_heartbeat_times times online hb hmem, htimes hs]

theorem counted_onlineOrCached {times : ℤ} {cached : Option CacheData}
    {online : Online} {saveAt : ℚ} (hst : cl.cache.Counting P st n)
    (hsave : 0 < saveAt)
    (htimes : IsProductKey cl.cache.softwareName → times = n + 1) :
    (cl.onlineOrCached P times cached online (.success saveAt) st).Counted P
      cl.cache n := by
  rw [AuthClient.onlineOrCached]
  cases hok : (cl.checkOnline times online).2.2.success with
  | true =>
      simp only [hok, if_true]
      exact counted_of_answered hsave htimes hok
  | false =>
      simp only [hok, Bool.false_eq_true, if_false]
      cases cached with
      | none => exact counted_of_unanswered hst htimes hok rfl rfl rfl
      | some cache => exact counted_of_unanswered hst htimes hok rfl rfl rfl

theorem counted_completeLight {times : ℤ} (io : ProgressiveEnv) {saveAt : ℚ}
    (hst : cl.cache.Counting P st n) (hsave : 0 < saveAt)
    (hsaveFull : io.saveFull = .success saveAt)
    (htimes : IsProductKey cl.cache.softwareName → times = n + 1) :
    (cl.completeLight P times io st).Counted P cl.cache n := by
  rw [AuthClient.completeLight, hsaveFull]
  cases hok : (cl.checkOnline times io.full).2.2.success with
  | true =>
      simp only [hok, if_true]
      exact counted_of_answered hsave htimes hok
  | false =>
      obtain ⟨hcache, -⟩ := cl.checkOnline_spec times io.full
      simp only [hok, Bool.false_eq_true, if_false, hcache]
      have hget : cl.cache.currentRow P (cl.cache.getCache P io.retest st).1 =
          cl.cache.currentRow P st := AuthCache.currentRow_getCache _
      rcases hread : cl.cache.getCache P io.retest st with ⟨st₁, cached⟩
      rw [hread] at hget
      cases cached with
      | none => exact counted_of_unanswered hst htimes hok rfl hget rfl
      | some cache =>
          have hvalid : cl.cache.currentRow P
              (cl.cache.isCacheValid P io.retestValid io.retestAt st₁).1 =
                cl.cache.currentRow P st :=
            (AuthCache.currentRow_isCacheValid _ _).trans hget
          dsimp only
          split
          · exact counted_of_unanswered hst htimes hok rfl hvalid rfl
          · exact counted_of_unanswered hst htimes hok rfl hvalid rfl

/-- A heartbeat before the rest of a check moves the count it starts from. -/
theorem Checked.Counted.cons {c : AuthCache} {out : Checked β}
    {hb : Heartbeat} (htimes : IsProductKey c.softwareName → hb.times = n + 1)
    (h : out.Counted P c ((Event.heartbeat hb).count n)) :
    Checked.Counted P c n { out with heartbeats := hb :: out.heartbeats } :=
  ⟨h.cache_eq, h.counting, fun hs =>
    numbered_heartbeat_cons.mpr ⟨htimes hs, h.numbered hs⟩⟩

theorem counted_checkAuthorization {testAt saveAt : ℚ} {online : Online}
    (hst : cl.cache.Counting P st n) (hsave : 0 < saveAt) :
    (cl.checkAuthorization P (.success testAt online saveAt) st).Counted P
      cl.cache n := by
  obtain ⟨hst', hcount⟩ := counting_checkSnapshot hst
  rw [AuthClient.checkAuthorization]
  exact counted_onlineOrCached hst' hsave
    fun hs => congrArg (· + 1) (hcount hs)

theorem counted_checkAuthorizationProgressive
    {testAt saveLightAt saveFullAt retestAt : ℚ} {light : Answer}
    {full : Online} (hst : cl.cache.Counting P st n)
    (hlight : 0 < saveLightAt) (hfull : 0 < saveFullAt) :
    (cl.checkAuthorizationProgressive P
        (.success testAt light saveLightAt full saveFullAt retestAt)
        st).Counted P cl.cache n := by
  obtain ⟨hst', hcount⟩ := counting_checkSnapshot hst
  rw [AuthClient.checkAuthorizationProgressive]
  simp only [ProgressiveEnv.success, AuthClient.checkOnlineFast]
  set st₁ := (cl.checkSnapshot P .success st).1
  set m := (cl.checkSnapshot P .success st).2.2
  have htimes : IsProductKey cl.cache.softwareName → m + 1 = (n : ℤ) + 1 :=
    fun hs => by rw [hcount hs]
  cases light with
  | failed message => exact .cons htimes (counted_onlineOrCached hst' hfull htimes)
  | answered authorized message =>
      have hsaved : cl.cache.Counting P
          (cl.writeCheckCacheRetries P authorized (m + 1)
            (.success saveLightAt) st₁).1 (if authorized then n + 1 else 0) :=
        counting_writeCheckCacheRetries hlight htimes
      simp only [Answer.toResult, if_true, writeCheckCacheRetries_success]
        at hsaved ⊢
      cases authorized with
      | true =>
          refine .cons htimes ?_
          exact counted_completeLight (n := n + 1)
            (.success testAt (.answered true message) saveLightAt full
              saveFullAt retestAt) hsaved hfull rfl fun hs => by
                rw [htimes hs]; push_cast; rfl
      | false =>
          exact ⟨rfl, hsaved, fun hs =>
            numbered_heartbeat_cons.mpr ⟨htimes hs, trivial⟩⟩

/-- The clock readings of the saves of a call. -/
def Call.PositiveClock : Call → Prop
  | .check _ _ saveAt => 0 < saveAt
  | .progressive _ _ saveLightAt _ saveFullAt _ =>
      0 < saveLightAt ∧ 0 < saveFullAt
  | .clear => True
  | .softLaunch _ => True

theorem Checked.Counted.toOutcome {c : AuthCache} {out : Checked β}
    (h : out.Counted P c n) :
    out.toOutcome.client.cache = c ∧
      c.Counting P out.toOutcome.storage
        (countFrom n out.toOutcome.events) ∧
      (IsProductKey c.softwareName → Numbered n out.toOutcome.events) :=
  ⟨h.cache_eq, h.counting, h.numbered⟩

/-- One call keeps a row which counts, and numbers its heartbeats. -/
theorem perform_counts (call : Call) (hst : cl.cache.Counting P st n)
    (hclock : call.PositiveClock) :
    (call.perform P cl st).client.cache = cl.cache ∧
      cl.cache.Counting P (call.perform P cl st).storage
        (countFrom n (call.perform P cl st).events) ∧
      (IsProductKey cl.cache.softwareName →
        Numbered n (call.perform P cl st).events) := by
  cases call with
  | check testAt online saveAt =>
      exact (counted_checkAuthorization hst hclock).toOutcome
  | progressive testAt light saveLightAt full saveFullAt retestAt =>
      exact (counted_checkAuthorizationProgressive hst hclock.1
        hclock.2).toOutcome
  | clear =>
      refine ⟨rfl, AuthCache.counting_clearCache_success, fun _ => ?_⟩
      exact ⟨fun hb h => by contradiction, trivial⟩
  | softLaunch testAt =>
      have hget : cl.cache.currentRow P (cl.cache.getCache P .success st).1 =
          cl.cache.currentRow P st := AuthCache.currentRow_getCache _
      simp only [Call.perform, AuthClient.canSoftLaunch]
      rcases hread : cl.cache.getCache P .success st with ⟨st₁, cached⟩
      rw [hread] at hget
      have hst₁ := hst.of_currentRow_eq rfl hget
      cases cached with
      | none => exact ⟨trivial, hst₁, fun _ => trivial⟩
      | some cache =>
          dsimp only
          split
          · exact ⟨trivial, hst₁.of_currentRow_eq rfl
              (AuthCache.currentRow_isCacheValid _ _), fun _ => trivial⟩
          · exact ⟨trivial, hst₁, fun _ => trivial⟩

end Calls

/-! ## Whole runs -/

/-- A step whose file operations succeed, at positive clock readings. -/
def FleetStep.Succeeds : FleetStep → Prop
  | .construct _ io =>
      io.load = .success ∧ io.persist = .success ∧ io.snapshot = .success
  | .call _ request => request.PositiveClock

/-- A construction leaves a row which counts. -/
theorem counting_newAuthClient {β : Type} {P : Primitives β}
    {c : AuthCache} {st : Storage β} {n : ℕ} (h : c.Counting P st n)
    {config : ClientConfig} {io : ConstructEnv}
    (hurl : c.serverUrl = config.stateUrl)
    (hname : c.softwareName = config.softwareName)
    (hpersist : io.persist = .success) :
    c.Counting P (newAuthClient P config io st).1 n := by
  obtain ⟨id, -, -, hroot⟩ := stateRoot_newAuthClient (P := P) config io st
  rcases hroot with hroot | hroot
  · refine h.of_currentRow_eq rfl ?_
    rw [AuthCache.currentRow, AuthCache.currentRow, hurl, hroot]
  have hrow : c.currentRow P (newAuthClient P config io st).1 =
      if IsProductKey c.softwareName then
        some (((c.currentRow P st).getD .empty).set "device_id" (.str id))
      else none := by
    rw [AuthCache.currentRow, AuthCache.currentRow, hurl, hroot, hpersist,
      ← hname]
    exact rowOf_persistRoot c id _
  rw [AuthCache.Counting, hrow]
  by_cases hs : IsProductKey c.softwareName
  · rw [if_pos hs]
    rcases h with ⟨hnone, hzero⟩ | ⟨hcounts, hone⟩
    · exact Or.inl ⟨unlicensed_set_device_id hnone, hzero⟩
    · exact Or.inr ⟨countsTo_set_device_id hcounts, hone⟩
  · rw [if_neg hs]
    exact Or.inl ⟨unlicensed_none, fun h => (hs h).elim⟩

namespace Fleet

variable {β : Type} {P : Primitives β} {serverUrl softwareName : String}
  {w : Fleet β}

/-- The row of the product counts the history, and the heartbeats of the
history are numbered. -/
structure Counts (P : Primitives β) (serverUrl softwareName : String)
    (w : Fleet β) : Prop where
  counting : ∀ c : AuthCache, c.serverUrl = serverUrl →
    c.softwareName = softwareName →
    c.Counting P w.storage (authorisedCount w.history)
  numbered : IsProductKey softwareName → Numbered 0 w.history

theorem Counts.construct (hw : w.Counts P serverUrl softwareName)
    {config : ClientConfig} {io : ConstructEnv}
    (hurl : config.stateUrl = serverUrl)
    (hname : config.softwareName = softwareName)
    (hpersist : io.persist = .success) :
    (w.step P (.construct config io)).Counts P serverUrl softwareName := by
  have hcounting := fun c (hcurl : c.serverUrl = serverUrl)
    (hcname : c.softwareName = softwareName) =>
      counting_newAuthClient (hw.counting c hcurl hcname)
        (hcurl.trans hurl.symm) (hcname.trans hname.symm) hpersist
  rcases hconstruct : newAuthClient P config io w.storage with ⟨st, built⟩
  rw [hconstruct] at hcounting
  cases built with
  | none =>
      simp only [step, hconstruct]
      exact ⟨hcounting, hw.numbered⟩
  | some cl =>
      simp only [step, hconstruct]
      exact ⟨hcounting, hw.numbered⟩

theorem Counts.call (hw : w.Counts P serverUrl softwareName)
    (hproduct : ∀ cl ∈ w.clients,
      cl.cache.serverUrl = serverUrl ∧ cl.cache.softwareName = softwareName)
    (i : ℕ) {call : Call} (hclock : call.PositiveClock) :
    (w.step P (.call i call)).Counts P serverUrl softwareName := by
  cases hi : w.clients[i]? with
  | none =>
      simp only [step, hi]
      exact hw
  | some cl =>
      obtain ⟨hurl, hname⟩ := hproduct cl (List.mem_of_getElem? hi)
      obtain ⟨-, hcounting, hnumbered⟩ :=
        perform_counts call (hw.counting cl.cache hurl hname) hclock
      simp only [step, hi]
      refine ⟨fun c hcurl hcname => ?_, fun hs => ?_⟩
      · rw [authorisedCount, countFrom_append]
        exact hcounting.of_currentRow_eq (hcname.trans hname.symm)
          (AuthCache.currentRow_congr (hcurl.trans hurl.symm) (hcname.trans hname.symm) _)
      · exact numbered_append.mpr
          ⟨hw.numbered hs, hnumbered (by rw [hname]; exact hs)⟩

theorem counts_run {st : Storage β}
    (hfile : st.files (bundlePath P serverUrl) = none) {steps : List FleetStep}
    (hsteps : ∀ a ∈ steps,
      a.StaysWith serverUrl softwareName ∧ a.Succeeds) :
    (run P st steps).Counts P serverUrl softwareName := by
  have hboth : (run P st steps).Inv P serverUrl softwareName ∧
      (run P st steps).Counts P serverUrl softwareName := by
    apply List.foldlRecOn (motive := fun w : Fleet β =>
      w.Inv P serverUrl softwareName ∧ w.Counts P serverUrl softwareName)
    · refine ⟨inv_start hfile, ?_, fun _ => trivial⟩
      intro c hcurl _
      refine AuthCache.counting_zero_of_unlicensed ?_
      rw [AuthCache.currentRow, stateRoot_eq, hcurl, hfile]
      exact unlicensed_none
    · rintro w ⟨hinv, hcounts⟩ a ha
      obtain ⟨hstay, hsucceeds⟩ := hsteps a ha
      cases a with
      | construct config io =>
          obtain ⟨hurl, hname⟩ := hstay
          exact ⟨hinv.step ⟨hurl, hname⟩,
            hcounts.construct hurl hname hsucceeds.2.1⟩
      | call i call =>
          exact ⟨hinv.step hstay, hcounts.call hinv.product i hsucceeds⟩
  exact hboth.2

end Fleet

/-- **The heartbeat counter counts.**  In every reachable state the row of the
product holds nothing of a licence, or a positive timestamp and the number of
authorised answers since the last revocation or clearing; no snapshot repairs
it.  Under the name of a row every heartbeat carries the number of authorised
answers before it, plus one. -/
theorem heartbeat_counter_counts {β : Type} {P : Primitives β}
    (serverUrl softwareName : String) {st : Storage β}
    (hfile : st.files (bundlePath P serverUrl) = none)
    (steps : List FleetStep)
    (hsteps : ∀ a ∈ steps,
      a.StaysWith serverUrl softwareName ∧ a.Succeeds)
    {w : Fleet β} (hw : Fleet.run P st steps = w) :
    (∀ c : AuthCache, c.serverUrl = serverUrl →
      c.softwareName = softwareName →
      (Unlicensed (c.currentRow P w.storage) ∨
        CountsTo (c.currentRow P w.storage) (authorisedCount w.history)) ∧
      ∀ io : SnapshotEnv, ¬c.Repairs P io w.storage) ∧
    (IsProductKey softwareName → ∀ pre hb post,
      w.history = pre ++ Event.heartbeat hb :: post →
      hb.times = authorisedCount pre + 1) := by
  subst hw
  have hcounts := Fleet.counts_run hfile hsteps
  refine ⟨fun c hcurl hcname => ?_, fun hs pre hb post hsplit => ?_⟩
  · have hcounting := hcounts.counting c hcurl hcname
    exact ⟨hcounting.imp And.left And.left, hcounting.not_repairs⟩
  · have hnumbered := hcounts.numbered hs
    rw [hsplit] at hnumbered
    exact hnumbered.times_eq

/-! ## Two checks -/

/-- A progressive check whose two heartbeats are answered authorised, and a
plain one which is not answered. -/
def countedSteps (softwareName : String) : List FleetStep :=
  [.construct { exampleConfig "D" with softwareName := softwareName }
      exampleConstruct,
    .call 0 (.progressive 100 (.answered true "") 100
      (.posted .empty "" (.answered true "")) 101 102),
    .call 0 (unansweredCheck 200)]

theorem countedSteps_succeed (softwareName : String) :
    ∀ a ∈ countedSteps softwareName,
      a.StaysWith "https://auth.example" softwareName ∧ a.Succeeds := by
  have hurl : (exampleConfig "D").stateUrl = "https://auth.example" := by
    decide
  simp only [countedSteps, List.forall_mem_cons, FleetStep.StaysWith,
    FleetStep.Succeeds, Call.PositiveClock, unansweredCheck]
  refine ⟨⟨⟨hurl, trivial⟩, rfl, rfl, rfl⟩, ⟨trivial, ?_, ?_⟩,
    ⟨trivial, ?_⟩, by simp⟩
  all_goals norm_num

theorem heartbeat_counter_counts_editor :
    (∀ c : AuthCache, c.serverUrl = "https://auth.example" →
      c.softwareName = "editor" →
      (Unlicensed (c.currentRow .symbolic
          (Fleet.run .symbolic .fresh (countedSteps "editor")).storage) ∨
        CountsTo (c.currentRow .symbolic
            (Fleet.run .symbolic .fresh (countedSteps "editor")).storage)
          (authorisedCount
            (Fleet.run .symbolic .fresh (countedSteps "editor")).history)) ∧
      ∀ io : SnapshotEnv, ¬c.Repairs .symbolic io
        (Fleet.run .symbolic .fresh (countedSteps "editor")).storage) ∧
    (IsProductKey "editor" → ∀ pre hb post,
      (Fleet.run .symbolic .fresh (countedSteps "editor")).history =
        pre ++ Event.heartbeat hb :: post →
      hb.times = authorisedCount pre + 1) :=
  heartbeat_counter_counts "https://auth.example" "editor" rfl
    (countedSteps "editor") (countedSteps_succeed "editor") rfl

/-- The empty name is trimmed and not reserved, but no row is kept under it:
after two authorised answers a heartbeat carries the number one again. -/
theorem heartbeat_counter_restarts :
    "" ∉ reservedRootKeys ∧ Python.strip "" = "" ∧
      (∀ a ∈ countedSteps "",
        a.StaysWith "https://auth.example" "" ∧ a.Succeeds) ∧
      ∃ pre hb post,
        (Fleet.run .symbolic .fresh (countedSteps "")).history =
          pre ++ Event.heartbeat hb :: post ∧
        authorisedCount pre = 2 ∧ hb.times = 1 := by
  have hrun : ((Fleet.run .symbolic .fresh (countedSteps "")).history.map
      fun e => match e with
        | .heartbeat hb => some (hb.times, hb.answer)
        | .cleared => none) =
      [some (1, some true), some (2, some true), some (1, none)] := by
    decide +kernel
  refine ⟨by decide, by decide, countedSteps_succeed "", ?_⟩
  generalize (Fleet.run .symbolic .fresh (countedSteps "")).history = history
    at hrun ⊢
  obtain ⟨e₁, es, hes, he₁, hes'⟩ := List.map_eq_cons_iff.mp hrun
  obtain ⟨e₂, es', rfl, he₂, hes''⟩ := List.map_eq_cons_iff.mp hes'
  obtain ⟨e₃, es'', rfl, he₃, hnil⟩ := List.map_eq_cons_iff.mp hes''
  obtain rfl := List.map_eq_nil_iff.mp hnil
  cases e₁ with
  | cleared => contradiction
  | heartbeat hb₁ =>
      cases e₂ with
      | cleared => contradiction
      | heartbeat hb₂ =>
          cases e₃ with
          | cleared => contradiction
          | heartbeat hb₃ =>
              simp only [Option.some.injEq, Prod.mk.injEq] at he₁ he₂ he₃
              refine ⟨[.heartbeat hb₁, .heartbeat hb₂], hb₃, [], hes, ?_,
                he₃.1⟩
              simp [authorisedCount, Event.count, he₁.2, he₂.2]

end PyAuth.Client
