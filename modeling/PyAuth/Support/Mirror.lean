import Mathlib.Data.List.Basic

/-!
# Copies of a changing source

A copy shows what it read from a source at some time.  On their way to it are
values read earlier, questions which will be answered with what the source
holds by then, and messages after which the copy is changed in place.  As long
as nobody changes the source, `eventually` tells what the copy shows when all
of them have arrived.
-/

namespace Support

variable {Q V : Type*}

/-- What is on its way to a copy. -/
inductive Transit (Q V : Type*)
  | value (v : V)
  | ask (q : Q)
  | edit
  | other

/-- What the copy shows after the arrival, where `read` answers the questions;
`none` when that is not known. -/
def Transit.arrive (read : Q → V) (shown : Option V) : Transit Q V → Option V
  | .value v => some v
  | .ask q => some (read q)
  | .edit => none
  | .other => shown

/-- What the copy shows when all has arrived. -/
def eventually (read : Q → V) (shown : Option V) (items : List (Transit Q V)) :
    Option V :=
  items.foldl (Transit.arrive read) shown

/-- Whatever the source holds, the last that arrives is the answer to `q`. -/
def Asked (items : List (Transit Q V)) (q : Q) : Prop :=
  ∀ read : Q → V, eventually read none items = some (read q)

section

variable {read : Q → V} {shown : Option V} {items items' : List (Transit Q V)}
  {item : Transit Q V} {q : Q} {v : V}

@[simp] theorem eventually_nil : eventually read shown [] = shown := rfl

@[simp] theorem eventually_cons :
    eventually read shown (item :: items) =
      eventually read (item.arrive read shown) items := rfl

theorem eventually_append :
    eventually read shown (items ++ items') =
      eventually read (eventually read shown items) items' :=
  List.foldl_append

/-- What is known without the copy holds for every copy. -/
theorem eventually_of_none (h : eventually read none items = some v) :
    eventually read shown items = some v := by
  induction items generalizing shown with
  | nil => contradiction
  | cons item items ih =>
      cases item with
      | value | ask | edit => exact h
      | other => exact ih h

/-- Messages which show nothing do not matter at the end. -/
theorem eventually_append_other
    (h : ∀ item ∈ items', item = Transit.other) :
    eventually read shown (items ++ items') = eventually read shown items := by
  rw [eventually_append]
  generalize eventually read shown items = shown
  induction items' with
  | nil => rfl
  | cons item items' ih =>
      obtain rfl : item = .other := h item List.mem_cons_self
      exact ih fun item hmem => h item (List.mem_cons_of_mem _ hmem)

theorem Asked.eventually (h : Asked items q) :
    eventually read shown items = some (read q) :=
  eventually_of_none (h read)

theorem asked_append_ask : Asked (V := V) (items ++ [.ask q]) q :=
  fun _ => eventually_append

end

end Support
