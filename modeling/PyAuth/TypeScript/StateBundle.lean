import Mathlib.Data.List.Sort
import PyAuth.Sdk.StateFile
import PyAuth.Sdk.WhiteSpace
import PyAuth.Support.Numbers

/-!
# The TypeScript SDK: products and their rows

This file follows `stateBundle.ts`.  Two traits of JavaScript objects show:
members whose names are array indices come first, and assigning to
`__proto__` sets the prototype instead of a member.
-/

namespace PyAuth.TypeScript

open Support Client Sdk

def reservedBundleRoot : List String :=
  ["apps", "heartbeat_times", "device_id", "last_success_at"]

def bundleRootStrayKeys : List String :=
  ["heartbeat_times", "device_id", "last_success_at"]

def bundleProductDeviceInfoSnapshotKey : String := "device_info_snapshot"

def bundleProductRevokeKeys : List String :=
  ["heartbeat_times", "last_success_at", bundleProductDeviceInfoSnapshotKey]

/-! ## Numerals -/

/-- The digits of a numeral in another base. -/
def radixDigits (base : ℕ) (digit : Char → Option ℕ) :
    List Char → Option ℕ
  | [] => none
  | cs => cs.foldlM (fun n c => (digit c).map (base * n + ·)) 0

/-- The value of a digit, if it is below the base. -/
def digitBelow (base : ℕ) (c : Char) : Option ℕ :=
  let d :=
    if c.isDigit then some (c.toNat - 48)
    else if 'a' ≤ c ∧ c ≤ 'f' then some (c.toNat - 87)
    else if 'A' ≤ c ∧ c ≤ 'F' then some (c.toNat - 55)
    else none
  d.filter (· < base)

/-! ## Objects -/

/-- The array index a member name denotes. -/
def arrayIndex? (k : String) : Option ℕ :=
  match radixDigits 10 (digitBelow 10) k.toList with
  | some n => if toString n = k ∧ n < 2 ^ 32 - 1 then some n else none
  | none => none

/-- `Object.entries`. -/
def objectEntries (d : Dict String Json) : List (String × Json) :=
  (d.entries.filter fun e => (arrayIndex? e.1).isSome).insertionSort
      (fun a b => (arrayIndex? a.1).getD 0 ≤ (arrayIndex? b.1).getD 0) ++
    d.entries.filter fun e => !(arrayIndex? e.1).isSome

/-- Members of `Object.prototype`, which every object inherits. -/
def objectPrototype : List String :=
  ["constructor", "__defineGetter__", "__defineSetter__", "hasOwnProperty",
    "__lookupGetter__", "__lookupSetter__", "isPrototypeOf",
    "propertyIsEnumerable", "toString", "valueOf", "__proto__",
    "toLocaleString"]

/-- The object of rows: its own members, and its prototype when one was
assigned. -/
structure Apps where
  own : AppsMap
  proto : Option Row

namespace Apps

/-- `{}`. -/
def empty : Apps := ⟨.empty, none⟩

/-- `apps[name] = row`. -/
def assign (apps : Apps) (name : String) (row : Row) : Apps :=
  if name = "__proto__" then { apps with proto := some row }
  else { apps with own := apps.own.set name row }

/-- `apps[name]`, where an inherited method counts as missing: no caller
makes more of it. -/
def lookup (apps : Apps) (name : String) : Option Json :=
  match apps.own.get name with
  | some row => some (.ofDict row)
  | none =>
      match apps.proto.bind (·.get name) with
      | some v => some v
      | none =>
          if name = "__proto__" then
            some (.ofDict (apps.proto.getD .empty))
          else none

/-- `k in apps`. -/
def hasKey (apps : Apps) (k : String) : Bool :=
  apps.own.contains k || apps.proto.any (·.contains k) ||
    decide (k ∈ objectPrototype)

end Apps

/-! ## Reading -/

/-- `readStateDict`. -/
def readStateDict (ok : Bool) : StateFile → Option Root
  | .absent | .unreadable => none
  | .root d =>
      if ok then some ((d.mapValues Json.asDoubles).erase "device_id")
      else none

/-- `JSON.stringify`, which has no text for a number that is not finite. -/
def stringify (v : Json) : Json :=
  v.mapNumbers
    (fun x => if Json.finiteNumber x then .float x else .null) .int

/-- `writeStateDictWithRetry`. -/
def writeStateDictWithRetry (data : Root) (env : WriteEnv)
    (file : StateFile) : StateFile × Bool :=
  file.writeWithRetry (data.mapValues stringify) env

/-! ## Rows -/

/-- The body of the loop of `loadAppsMap`. -/
def loadRow (out : Apps) (e : String × Json) : Apps :=
  if e.1 ∈ reservedBundleRoot then out
  else
    match e.2.dict? with
    | none => out
    | some v =>
        let name := trim e.1
        if name = "" then out else out.assign name (v.erase "software_name")

/-- `loadAppsMap`. -/
def loadAppsMap (root : Root) : Apps :=
  (objectEntries root).foldl loadRow .empty

/-- `commitAppsMap`. -/
def commitAppsMap (root : Root) (apps : Apps) : Root :=
  let root := root.erase "apps"
  let root := root.filter fun k v =>
    decide (k ∈ reservedBundleRoot) || !v.isDict || apps.hasKey k
  root.update (apps.own.mapValues Json.ofDict).entries

/-- `rowDeviceId`. -/
def rowDeviceId (row : Row) : Option String :=
  match row.get "device_id" with
  | some (.str d) => if trim d = "" then none else some (trim d)
  | _ => none

/-! ## `Number` -/

/-- `Number(s)` on a string. -/
def numberOfStr (s : String) : Double :=
  let ofNat (n : Option ℕ) : Double :=
    match n with
    | some n => .ofInt n
    | none => .nan
  match (trim s).toList with
  | [] => .fin 0
  | '0' :: 'x' :: cs | '0' :: 'X' :: cs =>
      ofNat (radixDigits 16 (digitBelow 16) cs)
  | '0' :: 'o' :: cs | '0' :: 'O' :: cs =>
      ofNat (radixDigits 8 (digitBelow 8) cs)
  | '0' :: 'b' :: cs | '0' :: 'B' :: cs =>
      ofNat (radixDigits 2 (digitBelow 2) cs)
  | cs =>
      let (sign, word) := Python.scanSign cs
      if word = "Infinity".toList then (if sign = 1 then .inf else .negInf)
      else
        match Python.scanDecimal Python.asciiDigit? false cs with
        | some q => Python.nearestDouble q
        | none => .nan

/-- `Number(v)` on the text of the only item of an array. -/
def numberOfItem : Json → Double
  | .null => .fin 0
  | .int n => .ofInt n
  | .float x => x
  | .str s => numberOfStr s
  | .arr [] => .fin 0
  | .arr [v] => numberOfItem v
  | .bool _ | .arr _ | .obj _ => .nan

mutual

/-- `String(v)` throws: an object in it has a member `toString`, which hides
the inherited method. -/
def toStringThrows : Json → Bool
  | .arr items => joinThrows items
  | .obj members => members.any fun e => e.1 == "toString"
  | .null | .bool _ | .int _ | .float _ | .str _ => false

def joinThrows : List Json → Bool
  | [] => false
  | v :: vs => toStringThrows v || joinThrows vs

end

/-- `Number(v)`, where the argument may be `undefined`; `none` is a
`TypeError`. -/
def number : Option Json → Option Double
  | none => some .nan
  | some .null => some (.fin 0)
  | some (.bool b) => some (.fin (if b then 1 else 0))
  | some (.int n) => some (.ofInt n)
  | some (.float x) => some x
  | some (.str s) => some (numberOfStr s)
  | some (.arr items) =>
      if joinThrows items then none else some (numberOfItem (.arr items))
  | some (.obj members) =>
      if toStringThrows (.obj members) then none else some .nan

/-- The finite positive number, if it is one. -/
def positive? : Double → Option ℚ
  | .fin q => if 0 < q then some q else none
  | _ => none

/-- `rowLastSuccessTs`. -/
def rowLastSuccessTs (row : Row) : Option ℚ :=
  match row.get "last_success_at" with
  | some (.int n) => positive? (.ofInt n)
  | some (.float x) => positive? x
  | some (.str s) =>
      if trim s = "" then none else positive? (numberOfStr s)
  | _ => none

end PyAuth.TypeScript
