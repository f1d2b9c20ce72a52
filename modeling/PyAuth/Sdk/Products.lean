import Mathlib.Algebra.Order.Archimedean.Basic
import Mathlib.Data.Rat.Floor
import PyAuth.Client.StateBundle
import PyAuth.Sdk.WhiteSpace
import PyAuth.Support.Numbers

/-!
# The cache as a table of products

What all SDKs do to the shared file, without the file: a table holds the
fields of every product, numbers are numbers however they are written, and the
four operations are pure functions.  The SDKs are compared with this machine.
-/

namespace PyAuth.Sdk

open Support Client

/-! ## Rows and tables -/

/-- The fields of a row. -/
abbrev Fields := String → Option Json

/-- The rows of all products. -/
abbrev Table := String → Option Fields

/-- A number as a field. -/
def ofNumber (q : ℚ) : Json := .float (.fin q)

namespace Fields

def empty : Fields := fun _ => none

def set (fs : Fields) (k : String) (v : Json) : Fields :=
  fun x => if x = k then some v else fs x

def eraseAll (fs : Fields) (ks : List String) : Fields :=
  fun x => if x ∈ ks then none else fs x

/-- The time of the last authorisation, if it is positive. -/
def lastSuccess (fs : Fields) : Option ℚ :=
  match fs "last_success_at" with
  | some (.float (.fin q)) => if 0 < q then some q else none
  | _ => none

/-- The number of heartbeats. -/
def count (fs : Fields) : ℤ :=
  match fs "heartbeat_times" with
  | some (.float (.fin q)) => ⌊q⌋
  | _ => 0

/-- The two fields which the operations read are numbers, the count is an
integer below `2 ^ 53`. -/
structure Proper (fs : Fields) : Prop where
  lastSuccess : ∀ v, fs "last_success_at" = some v → ∃ q, v = ofNumber q
  count : ∀ v, fs "heartbeat_times" = some v →
    ∃ n : ℤ, n < 2 ^ 53 ∧ v = ofNumber n

/-- A number, or nothing. -/
def properLastSuccess : Option Json → Bool
  | none | some (.float (.fin _)) => true
  | _ => false

/-- An integer below `2 ^ 53`, or nothing. -/
def properCount : Option Json → Bool
  | none => true
  | some (.float (.fin q)) => decide (q.den = 1 ∧ q.num < 2 ^ 53)
  | _ => false

theorem proper_iff {fs : Fields} :
    fs.Proper ↔ properLastSuccess (fs "last_success_at") = true ∧
      properCount (fs "heartbeat_times") = true := by
  constructor
  · rintro ⟨hlast, hcount⟩
    constructor
    · cases hv : fs "last_success_at" with
      | none => rfl
      | some v =>
          obtain ⟨q, rfl⟩ := hlast v hv
          rfl
    · cases hv : fs "heartbeat_times" with
      | none => rfl
      | some v =>
          obtain ⟨n, hn, rfl⟩ := hcount v hv
          simpa [properCount, ofNumber] using hn
  · rintro ⟨hlast, hcount⟩
    constructor
    · intro v hv
      rw [hv, properLastSuccess.eq_def] at hlast
      split at hlast
      · contradiction
      next q heq => exact ⟨q, Option.some.inj heq⟩
      · contradiction
    · intro v hv
      rw [hv, properCount.eq_def] at hcount
      split at hcount
      · contradiction
      next q heq =>
        obtain ⟨hden, hnum⟩ := of_decide_eq_true hcount
        refine ⟨q.num, hnum, ?_⟩
        rw [ofNumber, Rat.coe_int_num_of_den_eq_one hden]
        exact Option.some.inj heq
      · contradiction

instance : DecidablePred Proper := fun _ =>
  decidable_of_iff _ proper_iff.symm

end Fields

namespace Table

/-- The fields of a product, none if it has no row. -/
def own (T : Table) (s : String) : Fields := (T s).getD .empty

/-- Replace the row of a product.  A row under a reserved name is lost. -/
def store (T : Table) (s : String) (fs : Fields) : Table := fun t =>
  if t = s then some fs
  else if t ∈ reservedRootKeys then none
  else T t

@[simp] theorem store_self (T : Table) (s : String) (fs : Fields) :
    T.store s fs s = some fs :=
  if_pos rfl

@[simp] theorem own_store (T : Table) (s : String) (fs : Fields) :
    (T.store s fs).own s = fs := by
  rw [own, store_self, Option.getD_some]

end Table

/-! ## The operations -/

/-- A product on a device; `validity` is in seconds. -/
structure Product where
  name : String
  deviceId : String
  validity : ℤ
deriving DecidableEq

/-- A product which has a row of its own in every SDK, on a device which has
an id. -/
structure Product.Ordinary (p : Product) : Prop where
  key : IsProductKey p.name
  trimmed : Go.trimSpace p.name = p.name ∧ TypeScript.trim p.name = p.name
  noProto : p.name ≠ "__proto__"
  device : Python.strip p.deviceId ≠ "" ∧ Go.trimSpace p.deviceId ≠ "" ∧
    TypeScript.trim p.deviceId ≠ ""

theorem Product.Ordinary.trimsAlike {p : Product} (h : p.Ordinary) :
    TrimsAlike p.name :=
  ⟨h.trimmed.1.trans h.key.2.1.symm, h.trimmed.2.trans h.key.2.1.symm⟩

/-- What a check returns, apart from the message. -/
structure Verdict where
  authorized : Bool
  success : Bool
  fromCache : Bool
deriving DecidableEq

/-- How a heartbeat ended: the answer, if there was one, and the information
of the client after it. -/
structure Reply where
  answer : Option Bool
  info : Json
deriving DecidableEq

namespace Product

variable (p : Product)

/-- The fields after a revocation. -/
def cleared (fs : Fields) : Fields :=
  (fs.eraseAll bundleProductRevokeKeys).set "device_id" (.str p.deviceId)

/-- The fields after an authorisation. -/
def granted (now : ℚ) (times : ℤ) (info : Json) (fs : Fields) : Fields :=
  (((fs.set "device_id" (.str p.deviceId)).set "last_success_at"
    (ofNumber now)).set "heartbeat_times" (ofNumber times)).set
      bundleProductDeviceInfoSnapshotKey info

def clear (T : Table) : Table := T.store p.name (p.cleared (T.own p.name))

def persist (T : Table) : Table :=
  T.store p.name ((T.own p.name).set "device_id" (.str p.deviceId))

/-- Store an answer. -/
def save (T : Table) (authorized : Bool) (now : ℚ) (times : ℤ)
    (info : Json) : Table :=
  T.store p.name
    (if authorized then p.granted now times info (T.own p.name)
      else p.cleared (T.own p.name))

/-- The cache entry and the count a check starts from.  An entry without a
positive count is cleared. -/
def snapshot (T : Table) : Table × Option ℚ × ℤ :=
  match (T.own p.name).lastSuccess with
  | none => (T, none, 0)
  | some ts =>
      if (T.own p.name).count < 1 then (p.clear T, none, 0)
      else (T, some ts, (T.own p.name).count)

def isValid (now : ℚ) (entry : Option ℚ) : Bool :=
  entry.any fun ts => decide (now - ts < p.validity)

/-- A full heartbeat, and what follows from it when the cache entry is
`valid` or not. -/
def online (T : Table) (times : ℤ) (valid : Bool) (full : Reply)
    (saveAt : ℚ) : Table × Verdict :=
  match full.answer with
  | some authorized =>
      (p.save T authorized saveAt times full.info, ⟨authorized, true, false⟩)
  | none => (T, if valid then ⟨true, true, true⟩ else ⟨false, false, false⟩)

def check (T : Table) (testAt : ℚ) (full : Reply) (saveAt : ℚ) :
    Table × Verdict :=
  let (T, entry, n) := p.snapshot T
  p.online T (n + 1) (p.isValid testAt entry) full saveAt

def progressive (T : Table) (testAt : ℚ) (light : Reply) (saveLightAt : ℚ)
    (full : Reply) (saveFullAt retestAt : ℚ) : Table × Verdict :=
  let (T, entry, n) := p.snapshot T
  match light.answer with
  | none => p.online T (n + 1) (p.isValid testAt entry) full saveFullAt
  | some false =>
      (p.save T false saveLightAt (n + 1) light.info, ⟨false, true, false⟩)
  | some true =>
      let T := p.save T true saveLightAt (n + 1) light.info
      p.online T (n + 1 + 1)
        (p.isValid retestAt (T.own p.name).lastSuccess) full saveFullAt

variable {p} {T : Table}

/-- After an authorisation the cache entry is that of the authorisation. -/
theorem lastSuccess_save_true {now : ℚ} {times : ℤ} {info : Json} :
    ((p.save T true now times info).own p.name).lastSuccess =
      if 0 < now then some now else none := by
  rw [save, Table.own_store, if_pos rfl, Fields.lastSuccess]
  simp [granted, Fields.set, ofNumber, bundleProductDeviceInfoSnapshotKey]

/-- Its time is a number. -/
theorem ofNumber_save_true {now : ℚ} {times : ℤ} {info v : Json}
    (hv : (p.save T true now times info).own p.name "last_success_at" =
      some v) : ∃ q, v = ofNumber q := by
  rw [save, Table.own_store, if_pos rfl] at hv
  refine ⟨now, ?_⟩
  simpa [granted, Fields.set, eq_comm,
    bundleProductDeviceInfoSnapshotKey] using hv

theorem lastSuccess_pos {fs : Fields} {ts : ℚ}
    (h : fs.lastSuccess = some ts) : 0 < ts := by
  rw [Fields.lastSuccess] at h
  split at h
  · rw [Option.ite_none_right_eq_some, Option.some.injEq] at h
    exact h.2 ▸ h.1
  · contradiction

theorem snapshot_entry_pos {ts : ℚ} (h : (p.snapshot T).2.1 = some ts) :
    0 < ts := by
  rw [snapshot] at h
  split at h
  · contradiction
  next ts' hts =>
    split at h
    · contradiction
    · exact Option.some.inj h ▸ lastSuccess_pos hts

theorem snapshot_count_nonneg : 0 ≤ (p.snapshot T).2.2 := by
  rw [snapshot]
  split
  · exact le_rfl
  · split
    · exact le_rfl
    · dsimp only
      omega

theorem snapshot_count_le :
    (p.snapshot T).2.2 ≤ max 0 (T.own p.name).count := by
  rw [snapshot]
  split
  · exact le_max_left _ _
  · split
    · exact le_max_left _ _
    · exact le_max_right _ _

theorem count_lt_of_proper {fs : Fields} (h : fs.Proper) :
    fs.count < 2 ^ 53 := by
  rw [Fields.count]
  split
  next q hq =>
    obtain ⟨n, hn, heq⟩ := h.count _ hq
    rw [ofNumber, Json.float.injEq, Double.fin.injEq] at heq
    rw [heq, Int.floor_intCast]
    exact hn
  next => norm_num

/-- The count of the next heartbeat. -/
theorem snapshot_count_bounds (h : (T.own p.name).Proper) :
    0 ≤ (p.snapshot T).2.2 + 1 ∧ (p.snapshot T).2.2 + 1 ≤ 2 ^ 53 := by
  have hnonneg := snapshot_count_nonneg (p := p) (T := T)
  have hle := snapshot_count_le (p := p) (T := T)
  have hlt := count_lt_of_proper h
  omega

/-- An entry of a moment ago is valid. -/
theorem isValid_save_true {now retestAt : ℚ} {times : ℤ} {info : Json}
    (hnow : 0 < now) (hretest : retestAt - now < p.validity) :
    p.isValid retestAt
      ((p.save T true now times info).own p.name).lastSuccess = true := by
  rw [lastSuccess_save_true, if_pos hnow, isValid]
  simpa using hretest

end Product

end PyAuth.Sdk
