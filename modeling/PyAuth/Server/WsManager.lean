import Mathlib.Tactic.IntervalCases
import PyAuth.Server.Heartbeat
import PyAuth.Support.Run
import PyAuth.Support.SetIteration

/-!
# Broadcasts to the admin pages

All tasks of the server share one set of WebSocket clients.  A `broadcast`
loops over that set and gives up control at every `send_json`; meanwhile other
tasks connect, disconnect or broadcast themselves.  The loop of a broadcast
raises exactly when the set has another size at a resumption than it had at
the start.
-/

namespace PyAuth.Server

open Support

/-! ## The manager and its steps -/

section Manager

variable {α : Type} [DecidableEq α]

/-- Where a broadcast stands: at an `await client.send_json(message)`, at its
end, or stopped by a `RuntimeError`. -/
inductive BroadcastStatus (α : Type)
  | sending (client : α)
  | finished
  | raised
deriving DecidableEq

/-- One call of `broadcast`: its iterator, the clients it called `send_json`
for, and those for which that raised. -/
structure Broadcast (α : Type) where
  iterator : SetIterator
  sent : List α
  dead : List α
  status : BroadcastStatus α
deriving DecidableEq

/-- The set of clients, and all calls of `broadcast` so far. -/
structure DeviceWSManager (α : Type) where
  clients : SlotTable α
  broadcasts : List (Broadcast α)
deriving DecidableEq

/-- Run the loop of a broadcast up to its next `await`, or to its end. -/
def Broadcast.advance (clients : SlotTable α) (it : SetIterator)
    (sent dead : List α) : SlotTable α × Broadcast α :=
  match it.next clients with
  | .item client it => (clients, ⟨it, sent ++ [client], dead, .sending client⟩)
  | .stop => (dead.foldl SlotTable.discard clients, ⟨it, sent, dead, .finished⟩)
  | .changedSize => (clients, ⟨it, sent, dead, .raised⟩)

/-- Call `broadcast`. -/
def Broadcast.start (clients : SlotTable α) : SlotTable α × Broadcast α :=
  advance clients (.start clients) [] []

/-- Go on after the `send_json` for `client`; `ok` when it did not raise. -/
def Broadcast.resume (clients : SlotTable α) (b : Broadcast α) (client : α)
    (ok : Bool) : SlotTable α × Broadcast α :=
  advance clients b.iterator b.sent
    (if ok then b.dead else b.dead ++ [client])

/-- What the tasks do between two awaits.  A `connect` comes with the table
into which the client is put. -/
inductive WsEvent (α : Type)
  | connect (client : α) (table : SlotTable α)
  | disconnect (client : α)
  | startBroadcast
  | resume (task : ℕ) (ok : Bool)

namespace DeviceWSManager

def step (m : DeviceWSManager α) : WsEvent α → Option (DeviceWSManager α)
  | .connect client table =>
      if m.clients.Adds client table then some { m with clients := table }
      else none
  | .disconnect client =>
      some { m with clients := m.clients.discard client }
  | .startBroadcast =>
      let (clients, b) := Broadcast.start m.clients
      some ⟨clients, m.broadcasts ++ [b]⟩
  | .resume task ok =>
      match m.broadcasts[task]? with
      | none => none
      | some b =>
          match b.status with
          | .sending client =>
              let (clients, b) := b.resume m.clients client ok
              some ⟨clients, m.broadcasts.set task b⟩
          | .finished | .raised => none

/-- The step takes no broadcast by surprise: one that goes on finds as many
clients as at its start, and a client that connects while one is sending moves
no other client. -/
def Undisturbed (m : DeviceWSManager α) : WsEvent α → Prop
  | .connect _ table =>
      (∃ b ∈ m.broadcasts, ∃ client, b.status = .sending client) →
        m.clients.Keeps table
  | .resume task _ =>
      ∀ b, m.broadcasts[task]? = some b → m.clients.size = b.iterator.used
  | .disconnect _ | .startBroadcast => True

end DeviceWSManager

/-! ## One advance -/

namespace Broadcast

variable {clients : SlotTable α} {it : SetIterator} {sent dead : List α}
  {b : Broadcast α} {a client : α} {i : ℕ} {ok : Bool}

/-- **A broadcast raises exactly when the size has changed.** -/
theorem status_advance_eq_raised_iff :
    (advance clients it sent dead).2.status = .raised ↔
      clients.size ≠ it.used := by
  rw [← SetIterator.next_eq_changedSize_iff, advance]
  cases it.next clients <;> simp

theorem status_start_ne_raised :
    (start clients).2.status ≠ .raised := by
  rw [start, ne_eq, status_advance_eq_raised_iff]
  simp [SetIterator.start]

theorem status_resume_eq_raised_iff :
    (b.resume clients client ok).2.status = .raised ↔
      clients.size ≠ b.iterator.used :=
  status_advance_eq_raised_iff

/-- A client which is still there stands where it stood. -/
theorem holdsAt_advance (ha : clients.HoldsAt i a)
    (hmem : a ∈ (advance clients it sent dead).1.members) :
    (advance clients it sent dead).1.HoldsAt i a := by
  rw [advance] at hmem ⊢
  cases hnext : it.next clients <;> simp only [hnext] at hmem ⊢
  case item => exact ha
  case changedSize => exact ha
  case stop => exact SlotTable.holdsAt_foldl_discard ha hmem

/-- What a broadcast owes the client `a`, which stands in the slot `i` as long
as it is registered: while the broadcast is sending, `a` was sent the message
once its slot was passed, and at the end it was sent once. -/
def Owes (clients : SlotTable α) (i : ℕ) (a : α) (b : Broadcast α) : Prop :=
  match b.status with
  | .sending _ =>
      (a ∈ clients.members → clients.HoldsAt i a) ∧ b.iterator.Met i a b.sent
  | .finished => b.sent.count a = 1
  | .raised => True

theorem owes_advance (ha : clients.HoldsAt i a) (hmet : it.Met i a sent) :
    (advance clients it sent dead).2.Owes
      (advance clients it sent dead).1 i a := by
  rw [advance]
  cases hnext : it.next clients with
  | item client it' => exact ⟨fun _ => ha, hmet.next ha hnext⟩
  | stop => exact hmet.stop ha hnext
  | changedSize => trivial

/-- Where the other clients go does not matter to a broadcast. -/
theorem Owes.of_clients {clients' : SlotTable α}
    (h : b.Owes clients i a) (hreg : b.status ≠ .finished →
      a ∈ clients.members)
    (hkeep : ∀ client, b.status = .sending client → clients.HoldsAt i a →
      a ∈ clients'.members → clients'.HoldsAt i a) :
    b.Owes clients' i a := by
  rw [Owes] at h ⊢
  cases hstatus : b.status <;> simp only [hstatus] at h ⊢
  case sending client =>
    have ha := h.1 (hreg (by simp [hstatus]))
    exact ⟨hkeep client hstatus ha, h.2⟩
  case finished => exact h

end Broadcast

/-! ## One step -/

namespace DeviceWSManager

variable {m m' : DeviceWSManager α} {e : WsEvent α} {b : Broadcast α}
  {task i : ℕ} {ok : Bool} {a : α}

theorem step_resume_eq_some (h : m.step (.resume task ok) = some m') :
    ∃ b client, m.broadcasts[task]? = some b ∧ b.status = .sending client ∧
      m' = ⟨(b.resume m.clients client ok).1,
        m.broadcasts.set task (b.resume m.clients client ok).2⟩ := by
  simp only [step] at h
  cases hb : m.broadcasts[task]? with
  | none => simp [hb] at h
  | some b =>
      cases hstatus : b.status with
      | sending client =>
          simp only [hb, hstatus, Option.some.injEq] at h
          exact ⟨b, client, rfl, hstatus, h.symm⟩
      | finished => simp [hb, hstatus] at h
      | raised => simp [hb, hstatus] at h

/-- In an undisturbed step no broadcast raises. -/
theorem not_raised_step (h : m.step e = some m') (hquiet : m.Undisturbed e)
    (hm : ∀ b ∈ m.broadcasts, b.status ≠ .raised) :
    ∀ b ∈ m'.broadcasts, b.status ≠ .raised := by
  cases e with
  | connect client table =>
      rw [step] at h
      split at h
      · obtain rfl := Option.some.inj h
        exact hm
      · contradiction
  | disconnect client =>
      obtain rfl := Option.some.inj h
      exact hm
  | startBroadcast =>
      obtain rfl := Option.some.inj h
      intro b hb
      rcases List.mem_append.mp hb with hb | hb
      · exact hm b hb
      · obtain rfl := List.mem_singleton.mp hb
        exact Broadcast.status_start_ne_raised
  | resume task ok =>
      obtain ⟨b, client, hb, -, rfl⟩ := step_resume_eq_some h
      intro b' hb'
      rcases List.mem_or_eq_of_mem_set hb' with hb' | rfl
      · exact hm b' hb'
      · rw [ne_eq, Broadcast.status_resume_eq_raised_iff]
        exact fun hne => hne (hquiet b hb)

/-- In an undisturbed step no client is moved while a broadcast is sending. -/
theorem holdsAt_step (h : m.step e = some m') (hquiet : m.Undisturbed e)
    (hsending : ∃ b ∈ m.broadcasts, ∃ client, b.status = .sending client)
    (ha : m.clients.HoldsAt i a) (hmem : a ∈ m'.clients.members) :
    m'.clients.HoldsAt i a := by
  cases e with
  | connect client table =>
      rw [step] at h
      split at h
      · obtain rfl := Option.some.inj h
        exact hquiet hsending i a ha
      · contradiction
  | disconnect client =>
      obtain rfl := Option.some.inj h
      exact SlotTable.holdsAt_discard_of_mem ha hmem
  | startBroadcast =>
      obtain rfl := Option.some.inj h
      exact Broadcast.holdsAt_advance ha hmem
  | resume task ok =>
      obtain ⟨b, client, -, -, rfl⟩ := step_resume_eq_some h
      exact Broadcast.holdsAt_advance ha hmem

/-- Only its own resumptions change a broadcast. -/
theorem getElem?_step (h : m.step e = some m')
    (hb : m.broadcasts[task]? = some b) (hne : ∀ ok, e ≠ .resume task ok) :
    m'.broadcasts[task]? = some b := by
  cases e with
  | connect client table =>
      rw [step] at h
      split at h
      · obtain rfl := Option.some.inj h
        exact hb
      · contradiction
  | disconnect client =>
      obtain rfl := Option.some.inj h
      exact hb
  | startBroadcast =>
      obtain rfl := Option.some.inj h
      have hlt : task < m.broadcasts.length :=
        (List.getElem?_eq_some_iff.mp hb).choose
      exact (List.getElem?_append_left hlt).trans hb
  | resume task' ok =>
      obtain ⟨b', client, -, -, rfl⟩ := step_resume_eq_some h
      have htask : task' ≠ task := fun heq => hne ok (by rw [heq])
      exact (List.getElem?_set_ne htask).trans hb

/-- An undisturbed step keeps what a broadcast owes to a client, as long as
that client is registered. -/
theorem owes_step (h : m.step e = some m') (hquiet : m.Undisturbed e)
    (hb : m.broadcasts[task]? = some b) (howes : b.Owes m.clients i a)
    (hreg : b.status ≠ .finished → a ∈ m.clients.members) :
    ∃ b', m'.broadcasts[task]? = some b' ∧ b'.Owes m'.clients i a := by
  by_cases hown : ∃ ok, e = .resume task ok
  · obtain ⟨ok, rfl⟩ := hown
    obtain ⟨b', client, hb', hstatus, rfl⟩ := step_resume_eq_some h
    obtain rfl := Option.some.inj (hb.symm.trans hb')
    have hlt : task < m.broadcasts.length :=
      (List.getElem?_eq_some_iff.mp hb).choose
    rw [Broadcast.Owes, hstatus] at howes
    have ha := howes.1 (hreg (by simp [hstatus]))
    exact ⟨_, List.getElem?_set_self hlt, Broadcast.owes_advance ha howes.2⟩
  · refine ⟨b, getElem?_step h hb fun ok heq => hown ⟨ok, heq⟩, ?_⟩
    refine howes.of_clients hreg fun client hstatus ha hmem => ?_
    exact holdsAt_step h hquiet
      ⟨b, List.mem_of_getElem? hb, client, hstatus⟩ ha hmem

end DeviceWSManager

/-- What `heartbeat` answers after its commit: nothing before its broadcast has
ended, and an error when that raises. -/
def Broadcast.reply {κ : Type} (b : Broadcast α) (response : Response κ) :
    Option (Response κ) :=
  match b.status with
  | .sending _ => none
  | .finished => some response
  | .raised => some internalServerError

/-! ## A broadcast as its own task sees it -/

namespace Broadcast

variable {clients : SlotTable α} {it : SetIterator} {sent dead : List α}

/-- Go through the resumptions of a broadcast: each comes with the outcome of
the send and with the set of clients at that time. -/
def drive : SlotTable α × Broadcast α → List (Bool × SlotTable α) →
    SlotTable α × Broadcast α
  | s, [] => s
  | s, (ok, table) :: resumptions =>
      match s.2.status with
      | .sending client => drive (s.2.resume table client ok) resumptions
      | .finished | .raised => s

/-- The broadcast ends with the last of the resumptions, and not before. -/
def ends : SlotTable α × Broadcast α → List (Bool × SlotTable α) → Bool
  | s, [] =>
      match s.2.status with
      | .sending _ => false
      | .finished | .raised => true
  | s, (ok, table) :: resumptions =>
      match s.2.status with
      | .sending client => ends (s.2.resume table client ok) resumptions
      | .finished | .raised => false

theorem used_advance :
    (advance clients it sent dead).2.iterator.used = it.used := by
  rw [advance]
  cases hnext : it.next clients with
  | item client it' =>
      obtain ⟨i, -, -, rfl, -⟩ := SetIterator.next_eq_item hnext
      rfl
  | stop => rfl
  | changedSize => rfl

/-- A broadcast which has ended has raised exactly when it found another size
at a resumption. -/
theorem status_drive_eq_raised_iff {s : SlotTable α × Broadcast α}
    {resumptions : List (Bool × SlotTable α)} (hs : s.2.status ≠ .raised)
    (hends : ends s resumptions = true) :
    (drive s resumptions).2.status = .raised ↔
      ∃ r ∈ resumptions, r.2.size ≠ s.2.iterator.used := by
  induction resumptions generalizing s with
  | nil => simp [drive, hs]
  | cons r resumptions ih =>
      obtain ⟨ok, table⟩ := r
      cases hstatus : s.2.status with
      | finished => simp [ends, hstatus] at hends
      | raised => exact absurd hstatus hs
      | sending client =>
          simp only [ends, drive, hstatus] at hends ⊢
          have hused : (s.2.resume table client ok).2.iterator.used =
              s.2.iterator.used := used_advance
          by_cases hsize : table.size = s.2.iterator.used
          · have hraised : (s.2.resume table client ok).2.status ≠ .raised := by
              rw [ne_eq, status_resume_eq_raised_iff]
              exact fun hne => hne hsize
            rw [ih hraised hends, hused]
            simp [hsize]
          · have hraised : (s.2.resume table client ok).2.status = .raised :=
              status_resume_eq_raised_iff.mpr hsize
            -- Nothing is resumed any more.
            have hlast : resumptions = [] := by
              cases resumptions with
              | nil => rfl
              | cons r resumptions => simp [ends, hraised] at hends
            subst hlast
            simp [drive, hraised, hsize]

/-- Over tables of bounded size every broadcast ends. -/
theorem exists_ends {r : ℕ → Bool × SlotTable α} {N : ℕ}
    (hN : ∀ k, (r k).2.slots.length ≤ N) (s : SlotTable α × Broadcast α) :
    ∃ n, ends s ((List.range n).map r) = true := by
  generalize hd : N + 1 - s.2.iterator.pos = d
  induction d using Nat.strong_induction_on generalizing s r with
  | _ d ih =>
      cases hstatus : s.2.status with
      | finished => exact ⟨0, by simp [ends, hstatus]⟩
      | raised => exact ⟨0, by simp [ends, hstatus]⟩
      | sending client =>
          have hstep : ∃ n, ends (s.2.resume (r 0).2 client (r 0).1)
              ((List.range n).map fun k => r (k + 1)) = true := by
            rw [resume, advance]
            cases hnext : s.2.iterator.next (r 0).2 with
            | stop => exact ⟨0, by simp [ends]⟩
            | changedSize => exact ⟨0, by simp [ends]⟩
            | item client' it' =>
                obtain ⟨i, hpos, hi, rfl, -⟩ := SetIterator.next_eq_item hnext
                have hlt : i < (r 0).2.slots.length :=
                  (List.getElem?_eq_some_iff.mp hi).choose
                have hle := hN 0
                refine ih (N + 1 - (i + 1)) (by omega)
                  (fun k => hN (k + 1)) _ rfl
          obtain ⟨n, hn⟩ := hstep
          refine ⟨n + 1, ?_⟩
          rw [List.range_succ_eq_map, List.map_cons, List.map_map]
          simp only [ends, hstatus]
          exact hn

end Broadcast

/-- What the other tasks do to one call of `broadcast`: the clients at its
start, and at each of its resumptions. -/
structure BroadcastEnv (α : Type) [DecidableEq α] where
  clients : SlotTable α
  resumptions : List (Bool × SlotTable α)
  ends : Broadcast.ends (Broadcast.start clients) resumptions = true

/-- How the call ends. -/
def BroadcastEnv.status (env : BroadcastEnv α) : BroadcastStatus α :=
  (Broadcast.drive (Broadcast.start env.clients) env.resumptions).2.status

/-- The number of clients is at each resumption that at the start. -/
def BroadcastEnv.Steady (env : BroadcastEnv α) : Prop :=
  ∀ r ∈ env.resumptions, r.2.size = env.clients.size

theorem BroadcastEnv.status_eq_raised_iff {env : BroadcastEnv α} :
    env.status = .raised ↔ ¬env.Steady := by
  have hused : (Broadcast.start env.clients).2.iterator.used =
      env.clients.size := Broadcast.used_advance
  rw [status, Broadcast.status_drive_eq_raised_iff
    Broadcast.status_start_ne_raised env.ends, hused, Steady]
  push Not
  rfl

/-! ## Whole traces -/

section Trace

variable {m : ℕ → DeviceWSManager α} {e : ℕ → WsEvent α} {n : ℕ}

/-- In an undisturbed trace no broadcast ever raises. -/
theorem not_raised_of_undisturbed
    (htrace : IsTrace (fun m e m' => m.step e = some m') m e n)
    (hinit : (m 0).broadcasts = [])
    (hquiet : ∀ k < n, (m k).Undisturbed (e k)) {k : ℕ} (hk : k ≤ n) :
    ∀ b ∈ (m k).broadcasts, b.status ≠ .raised := by
  refine htrace.invariant
    (fun _ m => ∀ b ∈ m.broadcasts, b.status ≠ .raised)
    (by simp [hinit]) ?_ (Nat.zero_le k) hk
  intro k _ hlt hm hstep
  exact DeviceWSManager.not_raised_step hstep (hquiet k hlt) hm

/-- From its start on, a broadcast owes the message to every client which is
registered as long as it has not finished. -/
theorem owes_of_undisturbed
    (htrace : IsTrace (fun m e m' => m.step e = some m') m e n)
    (hquiet : ∀ k < n, (m k).Undisturbed (e k)) {k₀ : ℕ} (hk₀ : k₀ < n)
    (hstart : e k₀ = .startBroadcast) {i : ℕ} {a : α}
    (ha : (m k₀).clients.HoldsAt i a) {k : ℕ} (hlt : k₀ < k) (hk : k ≤ n)
    (hreg : ∀ j, k₀ ≤ j → j < k →
      (∀ b, (m j).broadcasts[(m k₀).broadcasts.length]? = some b →
        b.status ≠ .finished) → a ∈ (m j).clients.members) :
    ∃ b, (m k).broadcasts[(m k₀).broadcasts.length]? = some b ∧
      b.Owes (m k).clients i a := by
  refine htrace.invariant (fun k m' => (∀ j, k₀ ≤ j → j < k →
      (∀ b, (m j).broadcasts[(m k₀).broadcasts.length]? = some b →
        b.status ≠ .finished) → a ∈ (m j).clients.members) →
    ∃ b, m'.broadcasts[(m k₀).broadcasts.length]? = some b ∧
      b.Owes m'.clients i a) (fun _ => ?_) ?_ hlt hk hreg
  · have hstep := htrace k₀ hk₀
    rw [hstart] at hstep
    have hm := Option.some.inj hstep
    rw [← hm]
    exact ⟨_, List.getElem?_concat_length,
      Broadcast.owes_advance ha SetIterator.met_start⟩
  · intro k hlt hk ih hstep hreg
    obtain ⟨b, hb, howes⟩ := ih fun j hj hjk => hreg j hj (by omega)
    refine DeviceWSManager.owes_step hstep (hquiet k hk) hb howes ?_
    intro hstatus
    refine hreg k (by omega) (by omega) fun b' hb' => ?_
    obtain rfl := Option.some.inj (hb.symm.trans hb')
    exact hstatus

/-- **Broadcasts survive concurrent connects and disconnects** in every trace
whose steps are undisturbed: no broadcast raises, so that a heartbeat is
answered as if there were no broadcast; and a client which is registered from
the start of a broadcast until it has finished is sent the message exactly
once. -/
theorem broadcasts_survive {κ : Type}
    (htrace : IsTrace (fun m e m' => m.step e = some m') m e n)
    (hinit : (m 0).broadcasts = [])
    (hquiet : ∀ k < n, (m k).Undisturbed (e k)) :
    (∀ k ≤ n, ∀ b ∈ (m k).broadcasts, b.status ≠ .raised ∧
      ∀ response answer : Response κ,
        b.reply response = some answer → answer = response) ∧
    ∀ k₀ < n, e k₀ = .startBroadcast → ∀ k, k₀ < k → k ≤ n → ∀ b,
      (m k).broadcasts[(m k₀).broadcasts.length]? = some b →
      b.status = .finished → ∀ client,
      (∀ j, k₀ ≤ j → j < k →
        (∀ b', (m j).broadcasts[(m k₀).broadcasts.length]? = some b' →
          b'.status ≠ .finished) → client ∈ (m j).clients.members) →
      b.sent.count client = 1 := by
  constructor
  · intro k hk b hb
    have hstatus := not_raised_of_undisturbed htrace hinit hquiet hk b hb
    refine ⟨hstatus, fun response answer hanswer => ?_⟩
    rw [Broadcast.reply] at hanswer
    cases hb' : b.status with
    | sending client => simp [hb'] at hanswer
    | finished => simpa [hb'] using hanswer.symm
    | raised => exact absurd hb' hstatus
  · intro k₀ hk₀ hstart k hlt hk b hb hfinished client hreg
    have hmem : client ∈ (m k₀).clients.members :=
      hreg k₀ le_rfl hlt (by simp)
    obtain ⟨i, hi⟩ := SlotTable.mem_members_iff.mp hmem
    obtain ⟨b', hb', howes⟩ :=
      owes_of_undisturbed htrace hquiet hk₀ hstart hi hlt hk hreg
    obtain rfl := Option.some.inj (hb.symm.trans hb')
    rw [Broadcast.Owes, hfinished] at howes
    exact howes

end Trace

end Manager

/-! ## Two admin pages -/

/-- The page `a` alone, and both pages. -/
def onePage : SlotTable String :=
  ⟨[none, some "a", none, none, none, none, none, none], by decide⟩

def twoPages : SlotTable String :=
  ⟨[none, some "a", none, none, some "b", none, none, none], by decide⟩

/-- The states after the first events of a list. -/
def managerAfter (es : List (WsEvent String)) (k : ℕ) :
    DeviceWSManager String :=
  ((es.take k).foldlM DeviceWSManager.step ⟨.empty, []⟩).getD ⟨.empty, []⟩

/-- A heartbeat while both pages are open. -/
def quietEvents : List (WsEvent String) :=
  [.connect "a" onePage, .connect "b" twoPages, .startBroadcast,
    .resume 0 true, .resume 0 true]

theorem broadcasts_survive_two_pages :
    (∀ k ≤ 5, ∀ b ∈ (managerAfter quietEvents k).broadcasts,
      b.status ≠ .raised ∧ ∀ response answer : Response String,
        b.reply response = some answer → answer = response) ∧
    ∀ k₀ < 5, quietEvents.getD k₀ .startBroadcast = .startBroadcast →
      ∀ k, k₀ < k → k ≤ 5 → ∀ b,
      (managerAfter quietEvents k).broadcasts[
        (managerAfter quietEvents k₀).broadcasts.length]? = some b →
      b.status = .finished → ∀ client,
      (∀ j, k₀ ≤ j → j < k →
        (∀ b', (managerAfter quietEvents j).broadcasts[
            (managerAfter quietEvents k₀).broadcasts.length]? = some b' →
          b'.status ≠ .finished) →
        client ∈ (managerAfter quietEvents j).clients.members) →
      b.sent.count client = 1 := by
  have htrace : ∀ k < 5, (managerAfter quietEvents k).step
      (quietEvents.getD k .startBroadcast) =
        some (managerAfter quietEvents (k + 1)) := by
    decide +kernel
  refine broadcasts_survive htrace rfl ?_
  have hnone : ∀ k < 2, (managerAfter quietEvents k).broadcasts = [] := by
    decide +kernel
  have hsize : ∀ k ∈ [3, 4], ∀ b ∈ (managerAfter quietEvents k).broadcasts,
      (managerAfter quietEvents k).clients.size = b.iterator.used := by
    decide +kernel
  intro k hk
  interval_cases k
  · rintro ⟨b, hb, -⟩
    simp [hnone 0 (by omega)] at hb
  · rintro ⟨b, hb, -⟩
    simp [hnone 1 (by omega)] at hb
  · trivial
  · exact fun b hb => hsize 3 (by simp) b (List.mem_of_getElem? hb)
  · exact fun b hb => hsize 4 (by simp) b (List.mem_of_getElem? hb)

/-- A page which is opened, or closed, while a heartbeat is being announced
turns the answer to the committed heartbeat into an error.  And when the set is
rearranged at the same size, the page `a` is told twice and `c` not at all,
which was open all the time. -/
theorem broadcasts_do_not_survive :
    (∀ es ∈ [[WsEvent.connect "a" onePage, .startBroadcast,
          .connect "b" twoPages, .resume 0 true],
        [.connect "a" onePage, .connect "b" twoPages, .startBroadcast,
          .disconnect "b", .resume 0 true]],
      (es.foldlM DeviceWSManager.step ⟨.empty, []⟩).map (fun m =>
          m.broadcasts.map fun b =>
            (b.status, b.reply (⟨200, none⟩ : Response String))) =
        some [(.raised, some internalServerError)]) ∧
    ([WsEvent.startBroadcast, .disconnect "d",
        .connect "x" ⟨[some "c", some "a", some "x"], by decide⟩,
        .resume 0 true, .resume 0 true, .resume 0 true].foldlM
          DeviceWSManager.step
          ⟨⟨[some "a", some "c", some "d"], by decide⟩, []⟩).map (fun m =>
        m.broadcasts.map fun b => (b.status, b.sent)) =
      some [(.finished, ["a", "a", "x"])] := by
  decide +kernel

end PyAuth.Server
