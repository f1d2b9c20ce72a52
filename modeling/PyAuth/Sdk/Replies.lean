import PyAuth.Client.Post
import PyAuth.Go.StateBundle
import PyAuth.Sdk.TypeScriptPosts

/-!
# How the SDKs read a reply

A reply of status 200 is decrypted and parsed.  What each SDK makes of the
JSON value depends on the truth testing, the type assertions and the
exceptions of its language.
-/

namespace PyAuth.Sdk

open Support Client

/-- What a client takes a reply for. -/
inductive Reading
  | failure
  | authorised
  | denied
deriving DecidableEq

/-- The checks look at `success`, and then at `authorized`. -/
def Reading.ofPosted : Posted → Reading
  | .failed _ => .failure
  | .accepted authorized _ =>
      if Python.truthy authorized then .authorised else .denied

/-- `json.Unmarshal` into a `map[string]interface{}`, which takes `null` for
an empty one and fails on a number beyond the doubles. -/
def goUnmarshalMap (v : Json) : Option (Dict String Json) :=
  if v.asDoubles.allNumbers Json.finiteNumber then
    if v = .null then some .empty else v.asDoubles.dict?
  else none

/-- What `executeHeartbeat` makes of a decrypted reply. -/
def goReadDecrypted (v : Json) : Posted :=
  match goUnmarshalMap v with
  | none => .failed (some (.str "解析解密数据失败"))
  | some result =>
      .accepted
        (match result.get "authorized" with
          | some (.bool b) => .bool b
          | _ => .bool false)
        (match result.get "message" with
          | some (.str s) => .str s
          | _ => .str "")

/-- What `postHeartbeatDeviceInfo` makes of a decrypted reply; reading a
property of `null` throws. -/
def typeScriptReadDecrypted (v : Json) : Posted :=
  if v = .null then .failed none
  else
    let decrypted := v.asDoubles.dict?.getD .empty
    .accepted
      (.bool (TypeScript.truthy ((decrypted.get "authorized").getD .null)))
      (match decrypted.get "message" with
        | none | some .null => .str ""
        | some message => message)

def pythonReading (v : Json) : Reading :=
  .ofPosted (readDecrypted (some v))

def goReading (v : Json) : Reading := .ofPosted (goReadDecrypted v)

def typeScriptReading (v : Json) : Reading :=
  .ofPosted (typeScriptReadDecrypted v)

/-- The values of `authorized` which every language reads alike: none, `null`,
the booleans, zero and the empty string. -/
def plainFlag : Option Json → Bool
  | none | some .null | some (.bool _) => true
  | some (.int n) => decide (n = 0)
  | some (.float x) => decide (x = .fin 0)
  | some (.str s) => decide (s = "")
  | some (.arr _) | some (.obj _) => false

/-- The reply is an object with members, its numbers are in the range of the
doubles, and its `authorized` is plain. -/
structure PlainReply (v : Json) : Prop where
  isObject : ∃ d, v.dict? = some d ∧ d.isEmpty = false ∧
    plainFlag (d.get "authorized") = true
  finite : v.asDoubles.allNumbers Json.finiteNumber = true

/-! ## What each SDK makes of an object -/

section

variable {v : Json} {d : Dict String Json}

theorem truthy_of_dict? (hd : v.dict? = some d) :
    Python.truthy v = !d.isEmpty := by
  cases v with
  | obj members =>
      obtain rfl := Option.some.inj hd
      cases members with
      | nil => rfl
      | cons e members =>
          have hne : (Dict.ofList (e :: members)).isEmpty = false := by
            cases hget : (Dict.ofList (e :: members)).get e.1 with
            | some value => exact Dict.isEmpty_eq_false_of_get hget
            | none =>
                rw [Dict.get_ofList, List.lookup_eq_none_iff] at hget
                have := hget e (by simp)
                simp at this
          rw [hne]
          rfl
  | null | bool | int | float | str | arr => cases hd

theorem pythonReading_of_dict? (hd : v.dict? = some d) :
    pythonReading v =
      if d.isEmpty then .failure
      else if Python.truthy ((d.get "authorized").getD (.bool false)) then
        .authorised
      else .denied := by
  rw [pythonReading, readDecrypted, truthy_of_dict? hd, hd]
  cases d.isEmpty <;> rfl

theorem get_asDoubles {k : String} (hd : v.dict? = some d) :
    (v.asDoubles.dict?.getD .empty).get k = (d.get k).map Json.asDoubles := by
  rw [Json.dict?_asDoubles, hd, Option.map_some, Option.getD_some,
    Dict.get_mapValues]

theorem ne_null_of_dict? (hd : v.dict? = some d) : v ≠ .null := by
  rintro rfl
  cases hd

theorem goReading_of_dict? (hd : v.dict? = some d) :
    goReading v =
      if v.asDoubles.allNumbers Json.finiteNumber then
        if d.get "authorized" = some (.bool true) then .authorised
        else .denied
      else .failure := by
  rw [goReading, goReadDecrypted, goUnmarshalMap, if_neg (ne_null_of_dict? hd),
    Json.dict?_asDoubles, hd, Option.map_some]
  by_cases hfinite : v.asDoubles.allNumbers Json.finiteNumber = true
  · rw [if_pos hfinite, if_pos hfinite, Reading.ofPosted, Dict.get_mapValues]
    cases d.get "authorized" with
    | none => rfl
    | some authorized =>
        cases authorized with
        | bool b =>
            cases b <;> simp [Json.asDoubles, Json.mapNumbers, Python.truthy]
        | null | int | float | str | arr | obj =>
            simp [Json.asDoubles, Json.mapNumbers, Python.truthy]
  · rw [if_neg hfinite, if_neg hfinite]
    rfl

theorem typeScriptReading_of_dict? (hd : v.dict? = some d) :
    typeScriptReading v =
      if TypeScript.truthy (((d.get "authorized").map Json.asDoubles).getD
        .null) then .authorised
      else .denied := by
  rw [typeScriptReading, typeScriptReadDecrypted, if_neg (ne_null_of_dict? hd)]
  simp only [get_asDoubles hd]
  rfl

/-- Where the reply is no object, Python sees a failure. -/
theorem pythonReading_of_none (hd : v.dict? = none) :
    pythonReading v = .failure := by
  rw [pythonReading, readDecrypted, hd]
  cases Python.truthy v <;> rfl

/-- Where the reply is no object, either Go or TypeScript sees none. -/
theorem denied_of_none (hd : v.dict? = none) :
    goReading v = .denied ∨ typeScriptReading v = .denied := by
  by_cases hnull : v = .null
  · subst hnull
    left
    rfl
  · right
    rw [typeScriptReading, typeScriptReadDecrypted, if_neg hnull,
      Json.dict?_asDoubles, hd]
    rfl

/-! ## Plain flags -/

theorem truthy_asDoubles_zero :
    TypeScript.truthy (Json.int 0).asDoubles = false := by
  decide +kernel

/-- A flag that every language reads alike says "true" or nothing. -/
theorem flag_of_plainFlag {flag : Option Json} (h : plainFlag flag = true) :
    (Python.truthy (flag.getD (.bool false)) = true ↔
        flag = some (.bool true)) ∧
      (TypeScript.truthy ((flag.map Json.asDoubles).getD .null) = true ↔
        flag = some (.bool true)) := by
  cases flag with
  | none => simp [Python.truthy, TypeScript.truthy]
  | some v =>
      cases v with
      | null => simp [Python.truthy, TypeScript.truthy, Json.asDoubles,
          Json.mapNumbers]
      | bool b => simp [Python.truthy, TypeScript.truthy, Json.asDoubles,
          Json.mapNumbers]
      | int n =>
          obtain rfl : n = 0 := by simpa [plainFlag] using h
          simp [Python.truthy, truthy_asDoubles_zero]
      | float x =>
          obtain rfl : x = .fin 0 := by simpa [plainFlag] using h
          simp [Python.truthy, TypeScript.truthy, Json.asDoubles,
            Json.mapNumbers]
      | str s =>
          obtain rfl : s = "" := by simpa [plainFlag] using h
          simp [Python.truthy, TypeScript.truthy, Json.asDoubles,
            Json.mapNumbers]
      | arr | obj => simp [plainFlag] at h

/-- Any other flag is taken for "true" by Python or by TypeScript, and not by
Go. -/
theorem flag_of_not_plainFlag {flag : Option Json}
    (h : plainFlag flag = false) :
    flag ≠ some (.bool true) ∧
      (Python.truthy (flag.getD (.bool false)) = true ∨
        TypeScript.truthy ((flag.map Json.asDoubles).getD .null) = true) := by
  cases flag with
  | none => simp [plainFlag] at h
  | some v =>
      cases v with
      | null | bool => simp [plainFlag] at h
      | int | float | str =>
          exact ⟨by simp, Or.inl (by simpa [plainFlag, Python.truthy] using h)⟩
      | arr items =>
          simp [TypeScript.truthy, Json.asDoubles, Json.mapNumbers]
      | obj members =>
          simp [TypeScript.truthy, Json.asDoubles, Json.mapNumbers]

/-- The three SDKs read a flag alike when it is plain. -/
theorem flag_read_alike_iff {flag : Option Json} :
    ((if Python.truthy (flag.getD (.bool false)) then Reading.authorised
          else .denied) =
        (if flag = some (.bool true) then .authorised else .denied) ∧
      (if flag = some (.bool true) then Reading.authorised else .denied) =
        if TypeScript.truthy ((flag.map Json.asDoubles).getD .null) then
          .authorised
        else .denied) ↔
      plainFlag flag = true := by
  cases hflag : plainFlag flag with
  | true =>
      obtain ⟨hpython, htypeScript⟩ := flag_of_plainFlag hflag
      simp [hpython, htypeScript]
  | false =>
      obtain ⟨hgo, hor⟩ := flag_of_not_plainFlag hflag
      simp only [hgo, if_false]
      refine iff_of_false ?_ (by simp)
      rintro ⟨hpython, htypeScript⟩
      rcases hor with h | h
      · simp [h] at hpython
      · simp [h] at htypeScript

/-! ## One reading -/

theorem not_plainReply_of_none (hd : v.dict? = none) : ¬PlainReply v := by
  intro h
  obtain ⟨d, hd', -⟩ := h.isObject
  rw [hd] at hd'
  cases hd'

theorem plainReply_iff_of_dict? (hd : v.dict? = some d) :
    PlainReply v ↔ d.isEmpty = false ∧
      plainFlag (d.get "authorized") = true ∧
      v.asDoubles.allNumbers Json.finiteNumber = true := by
  constructor
  · rintro ⟨⟨d', hd', hne, hflag⟩, hfinite⟩
    obtain rfl := Option.some.inj (hd.symm.trans hd')
    exact ⟨hne, hflag, hfinite⟩
  · rintro ⟨hne, hflag, hfinite⟩
    exact ⟨⟨d, hd, hne, hflag⟩, hfinite⟩

/-- A reply which is no object is a failure in Python, and denied by one of the
others. -/
theorem reads_apart_of_none (hd : v.dict? = none) :
    ¬(pythonReading v = goReading v ∧ goReading v = typeScriptReading v) := by
  rintro ⟨hpython, hgo⟩
  rw [pythonReading_of_none hd] at hpython
  rcases denied_of_none hd with hdenied | hdenied
  · simp [hdenied] at hpython
  · simp [hdenied, ← hpython] at hgo

/-- **When the three SDKs read a reply alike.** -/
theorem replies_read_alike_iff (v : Json) :
    (pythonReading v = goReading v ∧ goReading v = typeScriptReading v) ↔
      PlainReply v := by
  cases hd : v.dict? with
  | none => exact iff_of_false (reads_apart_of_none hd) (not_plainReply_of_none hd)
  | some d =>
      rw [plainReply_iff_of_dict? hd, pythonReading_of_dict? hd,
        goReading_of_dict? hd, typeScriptReading_of_dict? hd]
      cases hempty : d.isEmpty with
      | true =>
          simp only [if_true, Bool.true_eq_false, false_and, iff_false]
          rintro ⟨hpython, hgo⟩
          rw [← hpython] at hgo
          split at hgo <;> cases hgo
      | false =>
          cases hfinite : v.asDoubles.allNumbers Json.finiteNumber with
          | false =>
              simp only [Bool.false_eq_true, if_false, and_false, iff_false]
              rintro ⟨-, hgo⟩
              split at hgo <;> cases hgo
          | true =>
              simp only [Bool.false_eq_true, if_false, if_true, true_and,
                and_true]
              exact flag_read_alike_iff

/-- The server's own replies are plain. -/
theorem plainReply_responseData (device : Server.Device) :
    PlainReply (Server.responseData device) := by
  constructor
  · refine ⟨_, Json.dict?_ofDict _, rfl, ?_⟩
    simp [Dict.get_ofList, Dict.lookup_cons_eq, plainFlag]
  · rw [Server.responseData]
    cases device.isAuthorized <;> decide +kernel

end

/-- The empty object, a flag that is a number and one that is a list. -/
theorem replies_read_apart :
    (pythonReading (.obj []) = .failure ∧ goReading (.obj []) = .denied ∧
        typeScriptReading (.obj []) = .denied) ∧
      (pythonReading (.obj [("authorized", .int 1)]) = .authorised ∧
        goReading (.obj [("authorized", .int 1)]) = .denied ∧
        typeScriptReading (.obj [("authorized", .int 1)]) = .authorised) ∧
      (pythonReading (.obj [("authorized", .arr [])]) = .denied ∧
        goReading (.obj [("authorized", .arr [])]) = .denied ∧
        typeScriptReading (.obj [("authorized", .arr [])]) = .authorised) := by
  decide +kernel

end PyAuth.Sdk
