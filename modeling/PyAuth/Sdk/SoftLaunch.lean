import PyAuth.Sdk.LightResult

/-!
# Soft launch and the offline fallback

A program may start on the word of `can_soft_launch` before any server is
asked, and `get_authorization_info` shows the same state to its user.  Both
look at the timestamp of the row only.  The fallback of a check whose heartbeat
fails also asks for a usable heartbeat count.  The three agree on every row but
those with a valid timestamp and something else amiss.
-/

/-! ## Python -/

namespace PyAuth.Client

open Support

variable {β : Type} {P : Primitives β} {st : Storage β}

/-- The heartbeat count of the row is a positive number. -/
def countsUsably (row : Row) : Bool :=
  match AuthCache.storedCount row with
  | .ok n => decide (1 ≤ n)
  | .error _ => false

namespace AuthClient

variable (cl : AuthClient)

/-- The entry a check may fall back on. -/
theorem checkSnapshot_entry (clear : ClearEnv) (st : Storage β) :
    (cl.checkSnapshot P ⟨.success, clear⟩ st).2.1 =
      AuthCache.cacheDictFromRow
        ((cl.cache.currentRow P st).filter countsUsably) := by
  rw [checkSnapshot, AuthCache.snapshotAuthRow]
  simp only [AuthCache.readRow_success]
  cases hrow : cl.cache.currentRow P st with
  | none => rfl
  | some row =>
      by_cases hts : rowLastSuccessTs row = none
      · have hnone : AuthCache.cacheDictFromRow
            ((some row).filter countsUsably) = none := by
          rw [AuthCache.cacheDictFromRow]
          cases h : countsUsably row <;> simp [Option.filter, h, hts]
        simp [hts, hnone]
      · cases hn : AuthCache.storedCount row with
        | error e =>
            have hcount : countsUsably row = false := by
              rw [countsUsably, hn]
            cases e <;>
              simp [hts, hn, Option.filter, hcount, AuthCache.cacheDictFromRow]
        | ok n =>
            have hcount : countsUsably row = decide (1 ≤ n) := by
              rw [countsUsably, hn]
            by_cases hlt : n < 1
            · have hnot : ¬1 ≤ n := by omega
              simp [hts, hn, hlt, Option.filter, hcount, hnot,
                AuthCache.cacheDictFromRow]
            · have hle : 1 ≤ n := by omega
              simp [hts, hn, hlt, Option.filter, hcount, hle]

theorem authorized_of_failed {online : Online}
    (hfail : online.toResult.success = false) :
    online.toResult.authorized = false := by
  cases online with
  | abandoned collected message => rfl
  | posted collected publicIp answer => exact Answer.authorized_of_failed hfail

/-- Without an answer a valid entry is the result. -/
theorem onlineOrCached_result (times : ℤ) (cached : Option CacheData)
    {online : Online} (hfail : online.toResult.success = false)
    (save : Attempts) (st : Storage β) :
    (cl.onlineOrCached P times cached online save st).result =
      match cached with
      | some cache => ⟨true, cache.message, true, true⟩
      | none => online.toResult := by
  rw [onlineOrCached]
  simp only [checkOnline_result, hfail, Bool.false_eq_true, if_false]
  cases cached <;> rfl

theorem checkAuthorization_result {io : CheckEnv}
    (hfail : io.online.toResult.success = false) :
    (cl.checkAuthorization P io st).result =
      match (if cl.cache.isCacheValidDict io.testAt
          (cl.checkSnapshot P io.snapshot st).2.1 then
            (cl.checkSnapshot P io.snapshot st).2.1 else none) with
      | some cache => ⟨true, cache.message, true, true⟩
      | none => io.online.toResult := by
  rw [checkAuthorization]
  exact cl.onlineOrCached_result _ _ hfail _ _

/-- The fallback of a check whose heartbeat fails. -/
theorem checkAuthorizationReturn_iff {io : CheckEnv} {clear : ClearEnv}
    {formatAt : ℚ} (hsnapshot : io.snapshot = ⟨.success, clear⟩)
    (hfail : io.online.toResult.success = false) :
    (∃ result, cl.checkAuthorizationReturn P io formatAt st = some result ∧
        result.authorized = true) ↔
      ∃ row ts, cl.cache.currentRow P st = some row ∧
        rowLastSuccessTs row = some (.fin ts) ∧
        cl.cache.IsValidAt io.testAt ts ∧ countsUsably row = true := by
  obtain ⟨snapshot, testAt, online, save⟩ := io
  dsimp only at hsnapshot hfail ⊢
  subst hsnapshot
  have hentry := cl.checkSnapshot_entry (P := P) clear st
  rw [checkAuthorizationReturn]
  simp only [hfail, Bool.false_eq_true, if_false]
  rw [cl.checkAuthorization_result hfail]
  simp only [hentry]
  have hrow : (∃ row ts, cl.cache.currentRow P st = some row ∧
      rowLastSuccessTs row = some (.fin ts) ∧
      cl.cache.IsValidAt testAt ts ∧ countsUsably row = true) ↔
      ∃ ts, ((cl.cache.currentRow P st).filter countsUsably).bind
          rowLastSuccessTs = some (.fin ts) ∧
        cl.cache.IsValidAt testAt ts := by
    cases cl.cache.currentRow P st with
    | none => simp
    | some row =>
        cases hcount : countsUsably row <;> simp [Option.filter, hcount]
  rw [hrow, ← AuthCache.returned_iff testAt formatAt]
  cases hcache : AuthCache.cacheDictFromRow
      ((cl.cache.currentRow P st).filter countsUsably) with
  | none => simp [afterFormatting, authorized_of_failed hfail]
  | some cache =>
      simp only [Option.some.injEq, exists_eq_left', afterFormatting,
        Option.map_eq_some_iff, Option.isSome_iff_exists]
      cases hvalid : cl.cache.isCacheValidDict testAt (some cache) with
      | false => simp [authorized_of_failed hfail]
      | true => simp

/-- `can_soft_launch`. -/
theorem canSoftLaunch_iff (now : ℚ) :
    (cl.canSoftLaunch P .success .success now st).2 = true ↔
      cl.cache.isCacheValidDict now
        (AuthCache.cacheDictFromRow (cl.cache.currentRow P st)) = true := by
  rw [canSoftLaunch]
  have hrow : cl.cache.currentRow P (cl.cache.getCache P .success st).1 =
      cl.cache.currentRow P st := AuthCache.currentRow_getCache _
  have hget : (cl.cache.getCache P .success st).2 =
      AuthCache.cacheDictFromRow (cl.cache.currentRow P st) :=
    AuthCache.getCache_success
  rcases hcall : cl.cache.getCache P .success st with ⟨st', _ | cache⟩
  · rw [hcall] at hget
    simp [← hget, AuthCache.isCacheValidDict]
  · rw [hcall] at hrow hget
    have hauth : cache.authorized = true :=
      (AuthCache.cacheDictFromRow_eq_some_iff.mp hget.symm).2.1
    simp only [hauth, if_true, AuthCache.isCacheValid_success, hrow]

/-- `get_authorization_info`. -/
theorem getAuthorizationInfo_iff (localtime : Double → Option String)
    (formatAt now : ℚ) :
    (∃ info, cl.getAuthorizationInfo P localtime .success .success formatAt
        now st = some info ∧ info.authorized = true ∧
          info.cacheValid = true) ↔
      ∃ ts, cl.cache.currentTs P st = some (.fin ts) ∧
        cl.cache.IsValidAt now ts ∧ (localtime (.fin ts)).isSome = true := by
  have hrow : cl.cache.currentRow P (cl.cache.getCache P .success st).1 =
      cl.cache.currentRow P st := AuthCache.currentRow_getCache _
  have hget : (cl.cache.getCache P .success st).2 =
      AuthCache.cacheDictFromRow (cl.cache.currentRow P st) :=
    AuthCache.getCache_success
  rw [getAuthorizationInfo, AuthCache.currentTs]
  rcases hcall : cl.cache.getCache P .success st with ⟨st', _ | cache⟩
  · rw [hcall] at hget
    have hnone : (cl.cache.currentRow P st).bind rowLastSuccessTs = none := by
      rw [AuthCache.cacheDictFromRow, eq_comm, Option.map_eq_none_iff] at hget
      exact hget
    simp [AuthorizationInfo.absent, hnone]
  · rw [hcall] at hrow hget
    obtain ⟨hts, hauth, -⟩ :=
      AuthCache.cacheDictFromRow_eq_some_iff.mp hget.symm
    obtain ⟨sub, -, hsub⟩ := Option.bind_eq_some_iff.mp hts
    have hpos := isPos_of_rowLastSuccessTs hsub
    have hvalid : (cl.cache.isCacheValid P .success now st').2 =
        cl.cache.isCacheValidDict now (some cache) := by
      rw [AuthCache.isCacheValid_success, hrow, ← hget]
    simp only [hvalid, hpos, if_true, hauth, hts, Option.some.injEq]
    rcases hat : cache.cachedAt with ts | _ | _ | _
    · have hage : cl.cache.isCacheValidDict now (some cache) = true ↔
          cl.cache.IsValidAt now ts := by
        rw [AuthCache.IsValidAt, AuthCache.isCacheValidDict, hat,
          AuthCache.isCacheValidDict]
      simp only [Double.fin.injEq, exists_eq_left']
      rw [← hage]
      cases hlocal : localtime (.fin ts) with
      | none => simp [AuthCache.formatRemainingTime]
      | some text => simp [AuthCache.formatRemainingTime]
    · simp [AuthCache.formatRemainingTime]
    · rw [hat] at hpos
      contradiction
    · rw [hat] at hpos
      contradiction

/-- The row is as a check has left it: its count is usable, its timestamp
finite and within the range of the platform's calendar. -/
def SoundRow (localtime : Double → Option String) (row : Row) : Prop :=
  countsUsably row = true ∧ ∃ ts, rowLastSuccessTs row = some (.fin ts) ∧
    (localtime (.fin ts)).isSome = true

/-- `can_soft_launch`, and `authorized` with `cache_valid` in
`get_authorization_info`, hold exactly when a plain check whose heartbeat
fails returns an authorisation. -/
def SoftLaunchAgrees (P : Primitives β) (cl : AuthClient)
    (localtime : Double → Option String) (infoAt formatAt : ℚ) (io : CheckEnv)
    (st : Storage β) : Prop :=
  let falls : Prop := ∃ result,
    cl.checkAuthorizationReturn P io formatAt st = some result ∧
      result.authorized = true
  ((cl.canSoftLaunch P .success .success io.testAt st).2 = true ↔ falls) ∧
    ((∃ info, cl.getAuthorizationInfo P localtime .success .success infoAt
      io.testAt st = some info ∧ info.authorized = true ∧
        info.cacheValid = true) ↔ falls)

/-- **When soft launch and the fallback agree, in Python**: where the timestamp
of the row is valid the rest of it is sound. -/
theorem softLaunchAgrees_iff (localtime : Double → Option String)
    (infoAt formatAt : ℚ) {io : CheckEnv} {clear : ClearEnv}
    (hsnapshot : io.snapshot = ⟨.success, clear⟩)
    (hfail : io.online.toResult.success = false) :
    cl.SoftLaunchAgrees P localtime infoAt formatAt io st ↔
      (cl.cache.isCacheValidDict io.testAt
          (AuthCache.cacheDictFromRow (cl.cache.currentRow P st)) = true →
        ∃ row, cl.cache.currentRow P st = some row ∧
          SoundRow localtime row) := by
  rw [SoftLaunchAgrees, cl.checkAuthorizationReturn_iff hsnapshot hfail,
    cl.canSoftLaunch_iff, cl.getAuthorizationInfo_iff]
  simp only [SoundRow]
  cases hrow : cl.cache.currentRow P st with
  | none =>
      simp [AuthCache.currentTs, hrow, AuthCache.cacheDictFromRow,
        AuthCache.isCacheValidDict]
  | some row =>
      simp only [AuthCache.currentTs, hrow, Option.bind_some,
        AuthCache.cacheDictFromRow, Option.some.injEq, exists_and_left,
        exists_eq_left']
      cases hts : rowLastSuccessTs row with
      | none => simp [AuthCache.isCacheValidDict]
      | some x =>
          have hpos := isPos_of_rowLastSuccessTs hts
          cases x with
          | fin ts =>
              simp only [Option.map_some, AuthCache.IsValidAt,
                Option.some.injEq, Double.fin.injEq, exists_eq_left']
              cases cl.cache.isCacheValidDict io.testAt
                  (some ⟨true, "设备已授权", .fin ts⟩) with
              | false => simp
              | true => cases countsUsably row <;> simp
          | inf => simp [AuthCache.isCacheValidDict]
          | negInf | nan => contradiction

end AuthClient

end PyAuth.Client

/-! ## Go -/

namespace PyAuth.Go

open Support Client Sdk

/-- The result of a full heartbeat. -/
def Online.toResult (online : Online) : AuthResult := online.answer.toResult

namespace AuthClient

/-- `CanSoftLaunch` at the clock reading `now`. -/
def canSoftLaunch (cl : AuthClient) (env : ReadEnv) (now : ℚ)
    (file : StateFile) : Bool :=
  cl.cache.isCacheValid env now file

/-- `GetAuthorizationInfo`; `localTime` writes a number of seconds as a date. -/
def getAuthorizationInfo (cl : AuthClient) (serverURL : String)
    (localTime : ℤ → String) (env envValid : ReadEnv) (formatAt now : ℚ)
    (file : StateFile) : AuthorizationInfo ℚ :=
  match cl.cache.getCache env file with
  | .ok (some cache) =>
      { authorized := true
        success := true
        fromCache := true
        message := cache.message
        deviceId := cl.cache.deviceID
        serverUrl := serverURL
        remainingTime := remainingTime cl.cache.cacheValiditySeconds formatAt
          cache.lastSuccessAt
        cacheValid := cl.cache.isCacheValid envValid now file
        cachedAt := some cache.lastSuccessAt
        cachedAtReadable :=
          if 0 < cache.lastSuccessAt then
            some (localTime (env.range.toInt cache.lastSuccessAt)) else none }
  | _ => .absent cl.cache.deviceID serverURL

end AuthClient

/-- The row of the product when the members are visited in this order. -/
def AuthCache.rowAt (c : AuthCache) (file : StateFile) (range : Range) :
    Option Row :=
  c.rowOf range (readOrNil ⟨true, range⟩ file)

/-- The entry of the row is valid at the clock reading `now`. -/
def AuthCache.ValidAt (c : AuthCache) (range : Range) (now : ℚ) (row : Row) :
    Prop :=
  c.isCacheTTLValid now (stateMapToCacheData range row) = true

/-- The heartbeat count of the row is a positive number. -/
def CountsUsably (range : Range) (row : Row) : Prop :=
  ∃ n, intFromJSON range (row.get "heartbeat_times") = some n ∧ 1 ≤ n

namespace AuthCache

variable {c : AuthCache} {file : StateFile}

theorem getCache_ok (range : Range) :
    c.getCache ⟨true, range⟩ file =
      .ok ((c.rowAt file range).bind (stateMapToCacheData range)) := by
  rw [getCache, rowAt, readOrNil]
  cases file <;> rfl

/-- A valid row has a timestamp. -/
theorem ts_of_validAt {range : Range} {now : ℚ} {row : Row}
    (h : c.ValidAt range now row) : rowLastSuccessUnix row ≠ none := by
  intro hnone
  simp [ValidAt, stateMapToCacheData, hnone, isCacheTTLValid] at h

theorem isCacheValid_iff {range : Range} {now : ℚ} :
    c.isCacheValid ⟨true, range⟩ now file = true ↔
      ∃ row ∈ c.rowAt file range, c.ValidAt range now row := by
  rw [isCacheValid, getCache_ok]
  cases hrow : c.rowAt file range with
  | none => simp [isCacheTTLValid]
  | some row => simp [ValidAt]

end AuthCache

namespace AuthClient

variable (cl : AuthClient) {file : StateFile}

/-- The entry a check may fall back on. -/
theorem isCacheTTLValid_snapshotAuthRow {c : AuthCache} {env : SnapshotEnv}
    {range : Range} (hread : env.read = ⟨true, range⟩) (now : ℚ)
    (file : StateFile) :
    c.isCacheTTLValid now (c.snapshotAuthRow env file).2.1 = true ↔
      ∃ row ∈ c.rowAt file range, c.ValidAt range now row ∧
        CountsUsably range row := by
  rw [AuthCache.snapshotAuthRow, AuthCache.rowAt, hread]
  cases c.rowOf range (readOrNil ⟨true, range⟩ file) with
  | none => simp [AuthCache.isCacheTTLValid]
  | some row =>
      simp only [Option.mem_def, Option.some.injEq, exists_eq_left',
        AuthCache.ValidAt, CountsUsably]
      cases hts : rowLastSuccessUnix row with
      | none => simp [AuthCache.isCacheTTLValid, stateMapToCacheData, hts]
      | some ts =>
          simp only [reduceCtorEq, if_false]
          cases hcount : intFromJSON range (row.get "heartbeat_times") with
          | none => simp [AuthCache.isCacheTTLValid]
          | some n =>
              by_cases hlt : n < 1
              · have hnot : ¬1 ≤ n := by omega
                simp [hlt, hnot, AuthCache.isCacheTTLValid]
              · have hle : 1 ≤ n := by omega
                simp [hlt, hle, stateMapToCacheData, hts]

theorem orCached_authorized {cached : Option CacheData} {out : Checked}
    (hfail : out.result.success = false)
    (hdenied : out.result.authorized = false) :
    (orCached cached out).result.authorized = cached.isSome := by
  cases cached with
  | none => simp [orCached, hdenied]
  | some cache => simp [orCached, hfail]

/-- The fallback of a check whose heartbeat fails. -/
theorem checkAuthorization_iff {env : CheckEnv} {range : Range}
    (hread : env.snapshot.read = ⟨true, range⟩)
    (hfail : env.online.toResult.success = false) :
    (cl.checkAuthorization env file).result.authorized = true ↔
      ∃ row ∈ cl.cache.rowAt file range,
        cl.cache.ValidAt range env.testAt row ∧ CountsUsably range row := by
  have hanswer : env.online.answer.toResult.success = false := hfail
  have hdenied := Answer.authorized_of_failed hanswer
  have hout : ∀ times file', (cl.checkOnlineAndPersist times env.online
      env.save file').result = env.online.answer.toResult := by
    intro times file'
    simp [checkOnlineAndPersist, checkOnline, hanswer]
  rw [checkAuthorization, orCached_authorized (by rw [hout]; exact hanswer)
    (by rw [hout]; exact hdenied),
    ← isCacheTTLValid_snapshotAuthRow hread _ file]
  cases hentry : (cl.cache.snapshotAuthRow env.snapshot file).2.1 with
  | none => simp [AuthCache.isCacheTTLValid]
  | some cache => simp [Option.isSome_iff_exists]

/-- `GetAuthorizationInfo`. -/
theorem getAuthorizationInfo_iff (serverURL : String) (localTime : ℤ → String)
    (range rangeValid : Range) (formatAt now : ℚ) :
    (let info := cl.getAuthorizationInfo serverURL localTime ⟨true, range⟩
        ⟨true, rangeValid⟩ formatAt now file
     info.authorized = true ∧ info.cacheValid = true) ↔
      (∃ row ∈ cl.cache.rowAt file range, rowLastSuccessUnix row ≠ none) ∧
        ∃ row ∈ cl.cache.rowAt file rangeValid,
          cl.cache.ValidAt rangeValid now row := by
  dsimp only
  rw [getAuthorizationInfo, AuthCache.getCache_ok,
    ← AuthCache.isCacheValid_iff]
  cases hrow : cl.cache.rowAt file range with
  | none => simp [AuthorizationInfo.absent]
  | some row =>
      cases hts : rowLastSuccessUnix row with
      | none => simp [stateMapToCacheData, hts, AuthorizationInfo.absent]
      | some ts => simp [stateMapToCacheData, hts]

/-- Whatever is left to the implementation: `CanSoftLaunch`, and `Authorized`
with `CacheValid` in `GetAuthorizationInfo`, hold exactly when a plain check
whose heartbeat fails returns an authorisation. -/
def SoftLaunchAgrees (cl : AuthClient) (serverURL : String)
    (localTime : ℤ → String) (infoAt now : ℚ) (clear : ClearEnv)
    (online : Online) (save : Attempts) (file : StateFile) : Prop :=
  ∀ soft check range rangeValid : Range,
    let falls : Prop := (cl.checkAuthorization
      ⟨⟨⟨true, check⟩, clear⟩, now, online, save⟩ file).result.authorized = true
    let info := cl.getAuthorizationInfo serverURL localTime ⟨true, range⟩
      ⟨true, rangeValid⟩ infoAt now file
    (cl.canSoftLaunch ⟨true, soft⟩ now file = true ↔ falls) ∧
      (info.authorized = true ∧ info.cacheValid = true ↔ falls)

/-- **When soft launch and the fallback agree, in Go**: no row that may be
loaded is valid, or every row that may be loaded is valid and has a usable
count. -/
theorem softLaunchAgrees_iff (serverURL : String) (localTime : ℤ → String)
    (infoAt now : ℚ) (clear : ClearEnv) {online : Online} (save : Attempts)
    (hfail : online.toResult.success = false) :
    cl.SoftLaunchAgrees serverURL localTime infoAt now clear online save
        file ↔
      (∀ range, ∀ row ∈ cl.cache.rowAt file range,
          ¬cl.cache.ValidAt range now row) ∨
        ∀ range, ∃ row ∈ cl.cache.rowAt file range,
          cl.cache.ValidAt range now row ∧ CountsUsably range row := by
  rw [SoftLaunchAgrees]
  have hcheck : ∀ range, (cl.checkAuthorization
      ⟨⟨⟨true, range⟩, clear⟩, now, online, save⟩ file).result.authorized =
        true ↔ _ :=
    fun range => cl.checkAuthorization_iff rfl hfail
  simp only [hcheck, canSoftLaunch, AuthCache.isCacheValid_iff,
    getAuthorizationInfo_iff]
  constructor
  · intro h
    by_cases hany : ∃ range, ∃ row ∈ cl.cache.rowAt file range,
        cl.cache.ValidAt range now row
    · obtain ⟨range, hvalid⟩ := hany
      exact Or.inr fun range' => (h range range' range range).1.mp hvalid
    · left
      intro range row hrow hvalid
      exact hany ⟨range, row, hrow, hvalid⟩
  · rintro (hnone | hall) soft check range rangeValid
    · have hfalls : ¬∃ row ∈ cl.cache.rowAt file check,
          cl.cache.ValidAt check now row ∧ CountsUsably check row := by
        rintro ⟨row, hrow, hvalid, -⟩
        exact hnone check row hrow hvalid
      have hsoft : ∀ range', ¬∃ row ∈ cl.cache.rowAt file range',
          cl.cache.ValidAt range' now row := by
        rintro range' ⟨row, hrow, hvalid⟩
        exact hnone range' row hrow hvalid
      simp only [hfalls, hsoft, and_false, iff_self, and_self]
    · have hvalid : ∀ range', ∃ row ∈ cl.cache.rowAt file range',
          cl.cache.ValidAt range' now row := by
        intro range'
        obtain ⟨row, hrow, hvalid, -⟩ := hall range'
        exact ⟨row, hrow, hvalid⟩
      have hstamp : ∃ row ∈ cl.cache.rowAt file range,
          rowLastSuccessUnix row ≠ none := by
        obtain ⟨row, hrow, hrowValid⟩ := hvalid range
        exact ⟨row, hrow, AuthCache.ts_of_validAt hrowValid⟩
      simp only [hall check, hvalid, hstamp, and_self]

end AuthClient

end PyAuth.Go

/-! ## TypeScript -/

namespace PyAuth.TypeScript

open Support Client Sdk

/-- `new Date(ms).toISOString()`, which throws beyond a hundred million days;
`text` writes the date. -/
def toISOString (text : ℚ → String) (ms : ℚ) : Option String :=
  if |ms| ≤ 8640000000000000 then some (text ms) else none

namespace AuthClient

/-- `canSoftLaunch` at the clock reading `now`. -/
def canSoftLaunch (cl : AuthClient) (read : Bool) (now : ℚ)
    (file : StateFile) : Bool :=
  match cl.cache.getCache read file with
  | some cache => cache.authorized && cl.cache.isCacheTTLValid now (some cache)
  | none => false

/-- `getAuthorizationInfo`; `none` when it throws. -/
def getAuthorizationInfo (cl : AuthClient) (serverUrl : String)
    (text : ℚ → String) (read : Bool) (formatAt now : ℚ) (file : StateFile) :
    Option (AuthorizationInfo ℚ) :=
  match cl.cache.getCache read file with
  | none => some (.absent cl.cache.deviceId serverUrl)
  | some cache => do
      let readable ←
        if 0 < cache.cachedAt then
          (toISOString text (cache.cachedAt * 1000)).map some
        else some none
      return {
        authorized := cache.authorized
        success := true
        fromCache := true
        message := cache.message
        deviceId := cl.cache.deviceId
        serverUrl := serverUrl
        remainingTime := remainingTime cl.cache.cacheValiditySeconds formatAt
          cache.cachedAt
        cacheValid := cl.cache.isCacheTTLValid now (some cache)
        cachedAt := some cache.cachedAt
        cachedAtReadable := readable }

variable (cl : AuthClient) {file : StateFile}

theorem canSoftLaunch_iff (now : ℚ) :
    cl.canSoftLaunch true now file = true ↔
      ∃ ts, cl.cache.currentTs file = some ts ∧
        cl.cache.IsValidAt now ts := by
  rw [canSoftLaunch, AuthCache.getCache, AuthCache.currentTs,
    ← AuthCache.isCacheTTLValid_iff]
  cases hcache : AuthCache.cacheRecordFromRow
      (cl.cache.rowOf (readStateDict true file)) with
  | none => simp [AuthCache.isCacheTTLValid]
  | some cache =>
      rw [AuthCache.cacheRecordFromRow, Option.map_eq_some_iff] at hcache
      obtain ⟨ts, -, rfl⟩ := hcache
      simp

theorem getAuthorizationInfo_iff (serverUrl : String) (text : ℚ → String)
    (formatAt now : ℚ) :
    (∃ info, cl.getAuthorizationInfo serverUrl text true formatAt now file =
        some info ∧ info.authorized = true ∧ info.cacheValid = true) ↔
      ∃ ts, cl.cache.currentTs file = some ts ∧
        cl.cache.IsValidAt now ts ∧ ts * 1000 ≤ 8640000000000000 := by
  rw [getAuthorizationInfo, AuthCache.getCache, AuthCache.currentTs]
  cases hts : (cl.cache.rowOf (readStateDict true file)).bind
      rowLastSuccessTs with
  | none =>
      simp [AuthCache.cacheRecordFromRow, hts, AuthorizationInfo.absent]
  | some ts =>
      obtain ⟨row, -, hrow⟩ := Option.bind_eq_some_iff.mp hts
      have hpos := AuthCache.pos_of_rowLastSuccessTs hrow
      have habs : |ts * 1000| = ts * 1000 := abs_of_pos (by linarith)
      simp only [AuthCache.cacheRecordFromRow, hts, Option.map_some, hpos,
        if_true, toISOString, habs, Option.some.injEq, exists_eq_left',
        AuthCache.IsValidAt]
      by_cases hrange : ts * 1000 ≤ 8640000000000000
      · simp [hrange]
      · simp [hrange]

theorem authorized_of_failed {online : Online}
    (hfail : online.toResult.success = false) :
    online.toResult.authorized = false := by
  cases online with
  | raised message => rfl
  | posted collected publicIp answer => exact Answer.authorized_of_failed hfail

/-- The fallback of a check whose heartbeat fails. -/
theorem checkAuthorization_iff {env : CheckEnv}
    (hread : env.snapshot.read = true)
    (hfail : env.online.toResult.success = false) :
    (cl.checkAuthorization env file).result.authorized = true ↔
      ∃ row ts, cl.cache.rowOf (readStateDict true file) = some row ∧
        rowLastSuccessTs row = some ts ∧
        cl.cache.IsValidAt env.testAt ts ∧
        (storedCount (row.get "heartbeat_times")).any isCount = true := by
  have hdenied := authorized_of_failed hfail
  rw [checkAuthorization]
  simp only [checkOnlineAndPersist, checkOnline_result, hfail,
    Bool.false_eq_true, if_false]
  rw [AuthCache.snapshotForAuthorizationCheck, hread]
  cases hrow : cl.cache.rowOf (readStateDict true file) with
  | none => simp [AuthCache.isCacheTTLValid, cachedResult, hdenied]
  | some row =>
      simp only [Option.some.injEq, exists_and_left, exists_eq_left']
      cases hts : rowLastSuccessTs row with
      | none => simp [AuthCache.isCacheTTLValid, cachedResult, hdenied]
      | some ts =>
          cases hn : storedCount (row.get "heartbeat_times") with
          | none => simp [AuthCache.isCacheTTLValid, cachedResult, hdenied]
          | some n =>
              cases hcount : isCount n with
              | false =>
                  simp [AuthCache.isCacheTTLValid, cachedResult, hdenied,
                    hcount]
              | true =>
                  simp only [reduceCtorEq, if_false, if_true,
                    Option.some.injEq, exists_eq_left',
                    AuthCache.cacheRecordFromRow, Option.bind_some, hts,
                    Option.map_some, AuthCache.IsValidAt, hcount,
                    Option.any_some, and_true]
                  cases cl.cache.isCacheTTLValid env.testAt
                      (some ⟨true, "设备已授权", ts⟩) with
                  | false => simp [cachedResult, hdenied]
                  | true => simp [cachedResult]

/-- The row is as a check has left it: its count is usable and its timestamp
within the range of dates. -/
def SoundRow (row : Row) : Prop :=
  (storedCount (row.get "heartbeat_times")).any isCount = true ∧
    ∃ ts, rowLastSuccessTs row = some ts ∧ ts * 1000 ≤ 8640000000000000

/-- `canSoftLaunch`, and `authorized` with `cache_valid` in
`getAuthorizationInfo`, hold exactly when a plain check whose heartbeat fails
returns an authorisation. -/
def SoftLaunchAgrees (cl : AuthClient) (serverUrl : String)
    (text : ℚ → String) (infoAt : ℚ) (env : CheckEnv) (file : StateFile) :
    Prop :=
  let falls : Prop :=
    (cl.checkAuthorization env file).result.authorized = true
  (cl.canSoftLaunch true env.testAt file = true ↔ falls) ∧
    ((∃ info, cl.getAuthorizationInfo serverUrl text true infoAt env.testAt
      file = some info ∧ info.authorized = true ∧
        info.cacheValid = true) ↔ falls)

/-- **When soft launch and the fallback agree, in TypeScript**: where the
timestamp of the row is valid the rest of it is sound. -/
theorem softLaunchAgrees_iff (serverUrl : String) (text : ℚ → String)
    (infoAt : ℚ) {env : CheckEnv} (hread : env.snapshot.read = true)
    (hfail : env.online.toResult.success = false) :
    cl.SoftLaunchAgrees serverUrl text infoAt env file ↔
      (cl.cache.isCacheTTLValid env.testAt
          (cl.cache.getCache true file) = true →
        ∃ row, cl.cache.rowOf (readStateDict true file) = some row ∧
          SoundRow row) := by
  rw [SoftLaunchAgrees, cl.checkAuthorization_iff hread hfail,
    cl.canSoftLaunch_iff, cl.getAuthorizationInfo_iff, AuthCache.getCache,
    AuthCache.isCacheTTLValid_iff, AuthCache.currentTs]
  simp only [SoundRow]
  cases cl.cache.rowOf (readStateDict true file) with
  | none => simp
  | some row =>
      simp only [Option.bind_some, Option.some.injEq, exists_and_left,
        exists_eq_left']
      cases hts : rowLastSuccessTs row with
      | none => simp
      | some ts =>
          simp only [Option.some.injEq, exists_eq_left']
          by_cases hvalid : cl.cache.IsValidAt env.testAt ts
          · cases (storedCount (row.get "heartbeat_times")).any isCount <;>
              simp [hvalid]
          · simp [hvalid]

end AuthClient

end PyAuth.TypeScript

/-! ## The three SDKs -/

namespace PyAuth.Sdk

open Support Client

/-- A product with a timestamp and without a heartbeat count. -/
def uncountedRoot : Root :=
  .ofList [("editor", .ofDict (.ofList [("last_success_at", .int 100)]))]

end PyAuth.Sdk
