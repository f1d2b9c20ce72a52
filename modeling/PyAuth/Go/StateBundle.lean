import Mathlib.Data.Rat.Floor
import PyAuth.Sdk.StateFile
import PyAuth.Sdk.WhiteSpace
import PyAuth.Support.Numbers

/-!
# The Go SDK: products and their rows

This file follows `state_bundle.go`.  Go visits the members of a map in an
order of its own choosing, different at every visit; `loadAppsMap` takes the
order of its loop as an argument.  The other loops over maps do the same
whatever their order.
-/

namespace PyAuth.Go

open Support Client Sdk

/-- What is left to the implementation: the order in which a loop visits the
members of a map, and the integer made of a number beyond `int64`. -/
structure Range where
  order : Root → List (String × Json)
  perm : ∀ m, (order m).Perm m.entries
  toInt : ℚ → ℤ
  toInt_eq : ∀ x, 0 ≤ x → x < 2 ^ 63 → toInt x = ⌊x⌋

/-- The order of the text. -/
def Range.forward : Range where
  order := Dict.entries
  perm _ := .refl _
  toInt x := ⌊x⌋
  toInt_eq _ _ _ := rfl

def Range.backward : Range where
  order m := m.entries.reverse
  perm m := List.reverse_perm m.entries
  toInt x := ⌊x⌋
  toInt_eq _ _ _ := rfl

def bundleProductDeviceInfoSnapshotKey : String := "device_info_snapshot"

def bundleRootStrayKeys : List String :=
  ["heartbeat_times", "device_id", "last_success_at"]

def bundleProductRevokeKeys : List String :=
  ["heartbeat_times", "last_success_at", bundleProductDeviceInfoSnapshotKey]

def bundleProductClearRowKeys : List String :=
  ["heartbeat_times", "last_success_at", bundleProductDeviceInfoSnapshotKey]

def isReservedBundleRootKey (k : String) : Bool :=
  k == "apps" || k == "heartbeat_times" || k == "device_id" ||
    k == "last_success_at"

/-! ## Reading -/

/-- How the disk answers `os.ReadFile`, and the order in which the rows are
then loaded. -/
structure ReadEnv where
  ok : Bool
  range : Range

/-- The error of `os.ReadFile`. -/
inductive ReadError
  | readFile
deriving DecidableEq

/-- `json.Unmarshal` into an `interface{}`; it fails on a number beyond the
doubles. -/
def unmarshal (d : Root) : Option Root :=
  let m := d.mapValues Json.asDoubles
  if (Json.ofDict m).allNumbers Json.finiteNumber then some m else none

/-- `ReadStateDict`. -/
def readStateDict (env : ReadEnv) : StateFile → Except ReadError (Option Root)
  | .absent => .ok none
  | .unreadable => if env.ok then .ok none else .error .readFile
  | .root d =>
      if env.ok then .ok ((unmarshal d).map (·.erase "device_id"))
      else .error .readFile

/-- The map which a caller that ignores the error goes on with. -/
def readOrNil (env : ReadEnv) (file : StateFile) : Option Root :=
  match readStateDict env file with
  | .ok m => m
  | .error _ => none

/-! ## Rows -/

/-- `rowLastSuccessUnix`. -/
def rowLastSuccessUnix (row : Row) : Option ℚ :=
  match row.get "last_success_at" with
  | some (.float (.fin f)) => if 0 < f then some f else none
  | some (.int n) => if 0 < n then some n else none
  | _ => none

/-- `rowDeviceIDString`. -/
def rowDeviceIDString (row : Row) : String :=
  match row.get "device_id" with
  | some (.str s) => trimSpace s
  | _ => ""

/-- The body of the loop of `loadAppsMap`. -/
def loadRow (out : AppsMap) (e : String × Json) : AppsMap :=
  if isReservedBundleRootKey e.1 then out
  else
    match e.2.dict? with
    | none => out
    | some sub =>
        let name := trimSpace e.1
        if name = "" then out else out.set name (sub.erase "software_name")

/-- `loadAppsMap`. -/
def loadAppsMap (range : Range) (m : Root) : AppsMap :=
  (range.order m).foldl loadRow .empty

/-- `commitAppsMap`. -/
def commitAppsMap (m : Root) (apps : AppsMap) : Root :=
  let m := m.erase "apps"
  let stale := m.keys.filter fun k =>
    !isReservedBundleRootKey k && ((m.get k).any Json.isDict) &&
      !apps.contains k
  (m.eraseAll stale).update (apps.mapValues Json.ofDict).entries

/-! ## The same rows as in Python, but for white space -/

theorem isReservedBundleRootKey_eq (k : String) :
    isReservedBundleRootKey k = decide (k ∈ reservedRootKeys) := by
  simp only [isReservedBundleRootKey, reservedRootKeys, List.mem_cons,
    List.not_mem_nil, or_false, Bool.decide_or, Bool.or_assoc,
    ← beq_eq_decide]

theorem foldl_loadRow (es : List (String × Json)) (out : AppsMap) :
    es.foldl loadRow out = out.update (es.filterMap (appRow? isSpace)) := by
  induction es generalizing out with
  | nil => rfl
  | cons e es ih =>
      rw [List.foldl_cons, ih, List.filterMap_cons, loadRow, appRow?,
        isReservedBundleRootKey_eq]
      by_cases hres : e.1 ∈ reservedRootKeys
      · simp [hres]
      · simp only [hres, decide_false, Bool.false_eq_true, if_false]
        cases e.2.dict? with
        | none => rfl
        | some sub =>
            dsimp only [trimSpace]
            by_cases hname : strip isSpace e.1 = ""
            · simp only [hname, if_true]
            · simp only [hname, if_false]
              rfl

theorem loadAppsMap_eq (range : Range) (m : Root) :
    loadAppsMap range m =
      Dict.ofList ((range.order m).filterMap (appRow? isSpace)) :=
  foldl_loadRow _ _

/-- The members after a commit are those which Python's commit leaves. -/
theorem get_commitAppsMap (m : Root) (apps : AppsMap) (k : String) :
    (commitAppsMap m apps).get k = (Client.commitAppsMap m apps).get k := by
  rw [Client.get_commitAppsMap, commitAppsMap, Dict.get_update_entries,
    Dict.get_mapValues, Dict.get_eraseAll, Dict.get_erase]
  cases happs : apps.get k with
  | some row => rfl
  | none =>
      rw [Option.map_none, Option.none_or, Option.none_or]
      by_cases hk : k = "apps"
      · simp [hk]
      · have hkeys : k ∈ (m.erase "apps").keys ↔ (m.get k).isSome := by
          rw [← Dict.get_erase_of_ne hk (d := m), ← not_iff_not,
            ← Dict.get_eq_none_iff, Option.not_isSome_iff_eq_none]
        cases hget : m.get k with
        | none => simp [hk]
        | some v =>
            rw [hget] at hkeys
            simp only [List.mem_filter, hkeys, Option.isSome_some, true_and,
              isReservedBundleRootKey_eq, Dict.get_erase, hk, hget, if_false,
              Option.any_some, Dict.contains_eq, happs, Option.isSome_none,
              Bool.not_false, Bool.and_true, Option.filter]
            by_cases hres : k ∈ reservedRootKeys <;>
              rcases Bool.eq_false_or_eq_true v.isDict with hv | hv <;>
                simp [hres, hv]

end PyAuth.Go
