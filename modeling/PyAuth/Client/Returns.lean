import PyAuth.Client.CacheSpec

/-!
# What a check returns or raises

A check formats the remaining time of the cached entry for its log before it
returns a cached answer.  JSON texts can hold a timestamp which is infinite,
and there the formatting raises, so that no answer is returned.  `none` stands
for a call which raises.
-/

namespace PyAuth.Client

open Support

/-- The remaining time of an entry, written for a reader. -/
def remainingTime (validity : ℤ) (now cachedAt : ℚ) : String :=
  if cachedAt ≤ 0 then "未知"
  else
    let remaining : ℚ := validity - (now - cachedAt)
    if remaining ≤ 0 then "已过期"
    else
      let days := ⌊remaining / 86400⌋
      let hours := ⌊(remaining - 86400 * days) / 3600⌋
      let minutes := ⌊(remaining - 86400 * days - 3600 * hours) / 60⌋
      let parts :=
        (if 0 < days then [toString days ++ "天"] else []) ++
          if 0 < hours then [toString hours ++ "小时"] else []
      String.join
        (if 0 < minutes ∨ parts = [] then parts ++ [toString minutes ++ "分钟"]
          else parts)

/-- `_format_remaining_time` at the clock reading `now`: the floor division of
an infinite time is not a number, which `int()` refuses. -/
def AuthCache.formatRemainingTime (c : AuthCache) (now : ℚ) :
    Double → Option String
  | .fin cachedAt => some (remainingTime c.cacheValiditySeconds now cachedAt)
  | .negInf => some "未知"
  | .inf | .nan => none

theorem AuthCache.isSome_formatRemainingTime {c : AuthCache} {now : ℚ}
    {cachedAt : Double} (hpos : cachedAt.isPos = true) :
    (c.formatRemainingTime now cachedAt).isSome = true ↔
      ∃ ts, cachedAt = .fin ts := by
  cases cachedAt with
  | fin ts =>
      simp [formatRemainingTime]
  | inf => simp [formatRemainingTime]
  | negInf => simp [Double.isPos] at hpos
  | nan => simp [Double.isPos] at hpos

theorem isPos_of_rowLastSuccessTs {row : Row} {x : Double}
    (h : rowLastSuccessTs row = some x) : x.isPos = true := by
  rw [rowLastSuccessTs] at h
  split at h
  · contradiction
  · contradiction
  · split at h
    · split at h
      next hpos =>
        rw [← Option.some.inj h]
        exact hpos
      next => contradiction
    · contradiction

/-- An entry of this time is valid at the clock reading `now`. -/
def AuthCache.IsValidAt (c : AuthCache) (now ts : ℚ) : Prop :=
  c.isCacheValidDict now (some ⟨true, "设备已授权", .fin ts⟩) = true

instance (c : AuthCache) (now ts : ℚ) : Decidable (c.IsValidAt now ts) :=
  inferInstanceAs (Decidable (_ = true))

theorem AuthCache.pos_of_isValidAt {c : AuthCache} {now ts : ℚ}
    (h : c.IsValidAt now ts) : 0 < ts := by
  rw [IsValidAt, isCacheValidDict] at h
  by_contra hpos
  simp [not_lt.mp hpos] at h

/-- The entries which a check returns: they are valid, and their timestamp is
finite. -/
theorem AuthCache.returned_iff {c : AuthCache} (now formatAt : ℚ)
    (row : Option Row) :
    (∃ cache, cacheDictFromRow row = some cache ∧
        c.isCacheValidDict now (some cache) = true ∧
        (c.formatRemainingTime formatAt cache.cachedAt).isSome = true) ↔
      ∃ ts, row.bind rowLastSuccessTs = some (.fin ts) ∧
        c.IsValidAt now ts := by
  cases hts : row.bind rowLastSuccessTs with
  | none => simp [cacheDictFromRow, hts]
  | some x =>
      obtain ⟨sub, -, hsub⟩ := Option.bind_eq_some_iff.mp hts
      have hpos := isPos_of_rowLastSuccessTs hsub
      simp only [cacheDictFromRow, hts, Option.map_some, Option.some.injEq,
        exists_eq_left', isSome_formatRemainingTime hpos]
      constructor
      · rintro ⟨hvalid, ts, rfl⟩
        exact ⟨ts, rfl, hvalid⟩
      · rintro ⟨ts, rfl, hvalid⟩
        exact ⟨hvalid, ts, rfl⟩

/-- The result of a full heartbeat. -/
def Online.toResult : Online → AuthResult
  | .abandoned _ message => (Answer.failed message).toResult
  | .posted _ _ answer => answer.toResult

namespace AuthClient

theorem checkOnline_result (cl : AuthClient) (times : ℤ) (online : Online) :
    (cl.checkOnline times online).2.2 = online.toResult := by
  rcases online with ⟨_ | _, _⟩ | _ <;> rfl

variable {β : Type} (P : Primitives β) (cl : AuthClient)

/-- The result is returned after the remaining time of the entry, if there is
one, was formatted. -/
def afterFormatting (formatAt : ℚ) (entry : Option CacheData)
    (result : AuthResult) : Option AuthResult :=
  match entry with
  | none => some result
  | some cache =>
      (cl.cache.formatRemainingTime formatAt cache.cachedAt).map
        fun _ => result

/-- What `check_authorization` returns. -/
def checkAuthorizationReturn (io : CheckEnv) (formatAt : ℚ) (st : Storage β) :
    Option AuthResult :=
  let result := (cl.checkAuthorization P io st).result
  if io.online.toResult.success then some result
  else
    cl.afterFormatting formatAt (cl.checkSnapshot P io.snapshot st).2.1 result

/-- What `check_authorization_progressive` returns. -/
def checkAuthorizationProgressiveReturn (io : ProgressiveEnv) (formatAt : ℚ)
    (st : Storage β) : Option AuthResult :=
  let result := (cl.checkAuthorizationProgressive P io st).result
  let (st, cacheData, storedHb) := cl.checkSnapshot P io.snapshot st
  if io.light.toResult.success then
    if result.fromCache then
      let (st, _) :=
        cl.writeCheckCacheRetries P true (storedHb + 1) io.saveLight st
      cl.afterFormatting formatAt (cl.cache.getCache P io.retest st).2 result
    else some result
  else if io.full.toResult.success then some result
  else cl.afterFormatting formatAt cacheData result

end AuthClient

/-- The dictionary returned by `get_authorization_info`, with timestamps in
`τ`. -/
structure AuthorizationInfo (τ : Type) where
  authorized : Bool
  success : Bool
  fromCache : Bool
  message : String
  deviceId : String
  serverUrl : String
  remainingTime : String
  cacheValid : Bool
  cachedAt : Option τ
  cachedAtReadable : Option String

/-- The answer when there is no cached entry. -/
def AuthorizationInfo.absent {τ : Type} (deviceId serverUrl : String) :
    AuthorizationInfo τ where
  authorized := false
  success := false
  fromCache := false
  message := "无本地授权缓存"
  deviceId := deviceId
  serverUrl := serverUrl
  remainingTime := "无缓存"
  cacheValid := false
  cachedAt := none
  cachedAtReadable := none

/-- `get_authorization_info`.  Two clock readings go into the remaining time
and the validity; `localtime` is `time.strftime` after `time.localtime`, whose
range depends on the platform. -/
def AuthClient.getAuthorizationInfo {β : Type} (P : Primitives β)
    (cl : AuthClient) (localtime : Double → Option String)
    (io ioValid : ReadEnv) (formatAt now : ℚ) (st : Storage β) :
    Option (AuthorizationInfo Double) :=
  match cl.cache.getCache P io st with
  | (_, none) => some (.absent cl.cache.deviceId cl.cache.serverUrl)
  | (st, some cache) => do
      let remaining ← cl.cache.formatRemainingTime formatAt cache.cachedAt
      let valid := (cl.cache.isCacheValid P ioValid now st).2
      let readable ←
        if cache.cachedAt.isPos then (localtime cache.cachedAt).map some
        else some none
      return {
        authorized := cache.authorized
        success := true
        fromCache := true
        message := cache.message
        deviceId := cl.cache.deviceId
        serverUrl := cl.cache.serverUrl
        remainingTime := remaining
        cacheValid := valid
        cachedAt := some cache.cachedAt
        cachedAtReadable := readable }

end PyAuth.Client
