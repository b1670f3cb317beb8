import Colloquy.Process.Pool
import Colloquy.Proofs.Process.View
import Mathlib.Logic.Relation

/-!
# Interleavings

Processes on one state move in any order, one node of one process at a time, and between two moves
something else may change the state. If each process keeps to a contract, and what each of them owes
is what the others rely on, then all of them keep to their contracts in every interleaving. Taking
turns is one of the interleavings.
-/

set_option autoImplicit false

namespace Colloquy.Process

variable {σ Q R α : Type}

/-- One move of a process, with the states before and after it. A query gets some answer. -/
inductive Move : Process σ Q R α → σ → Process σ Q R α → σ → Prop where
  | step (update : σ → σ) (next : σ → Process σ Q R α) (state : σ) :
      Move (step update next) state (next state) (update state)
  | ask (query : Q) (next : R → Process σ Q R α) (answer : R) (state : σ) :
      Move (ask query next) state (next answer) state
  | pause (next : Process σ Q R α) (state : σ) : Move (pause next) state next state

/-- One process of a pool moves, or something around the pool changes the state. -/
inductive Turn (around : σ → σ → Prop) :
    List (Process σ Q R α) × σ → List (Process σ Q R α) × σ → Prop where
  | move {processes : List (Process σ Q R α)} {place : Nat} {process next : Process σ Q R α}
      {before after : σ} (here : processes[place]? = some process)
      (moves : process.Move before next after) :
      Turn around (processes, before) (processes.set place next, after)
  | around {processes : List (Process σ Q R α)} {before after : σ}
      (changed : around before after) : Turn around (processes, before) (processes, after)

/-- A pool and its state come from others by any number of turns, in any order. -/
abbrev Interleaves (around : σ → σ → Prop) :
    List (Process σ Q R α) × σ → List (Process σ Q R α) × σ → Prop :=
  Relation.ReflTransGen (Turn around)

theorem Turn.head {around : σ → σ → Prop} {process next : Process σ Q R α} {before after : σ}
    (moves : process.Move before next after) (rest : List (Process σ Q R α)) :
    Turn around (process :: rest, before) (next :: rest, after) :=
  .move (show (process :: rest)[0]? = some process from rfl) moves

def Nothing (_ _ : σ) : Prop := False

/-- In whatever order the processes of a pool move, all come to their ends: some of them can move
until all have ended, and they do not move for ever. -/
inductive Finishes : List (Process σ Q R α) × σ → Prop where
  | intro {pool : List (Process σ Q R α) × σ}
      (live : (∀ process ∈ pool.1, ∃ result, process = done result) ∨
        ∃ later, Turn Nothing pool later)
      (rest : ∀ later, Turn Nothing pool later → Finishes later) : Finishes pool

/-- A move of a process that keeps to a contract is as the contract says, and what remains of the
process keeps to it. -/
theorem Abides.move {contract : Contract σ Q R} {ends : α → σ → Prop}
    {process next : Process σ Q R α} {before after : σ}
    (abides : process.Abides contract ends before) (moves : process.Move before next after)
    (answers : ∀ query answer, contract.answers query answer) :
    (after = before ∨ contract.guarantees before after) ∧ next.Abides contract ends after := by
  cases moves with
  | step update next =>
      have here := abides before (contract.relies_refl before)
      exact ⟨.inr here.1, here.2⟩
  | ask query next answer => exact ⟨.inl rfl, abides answer (answers query answer)⟩
  | pause next => exact ⟨.inl rfl, abides⟩

theorem Interleaves.length {around : σ → σ → Prop} {before after : List (Process σ Q R α) × σ}
    (interleaves : Interleaves around before after) : after.1.length = before.1.length := by
  induction interleaves with
  | refl => rfl
  | tail _ turn ih =>
      rw [← ih]
      cases turn with
      | move here moves => exact List.length_set
      | around changed => rfl

/-- Contracts of a number of processes that fit together, and keep an invariant of the state. -/
structure Compatible (contracts : Nat → Contract σ Q R) (size : Nat) (around : σ → σ → Prop)
    (invariant : σ → Prop) : Prop where
  answers : ∀ place query answer, (contracts place).answers query answer
  others : ∀ {place other before after}, other ≠ place →
    (contracts place).guarantees before after → (contracts other).relies before after
  outside : ∀ {place before after}, around before after → (contracts place).relies before after
  kept : ∀ {place before after}, place < size → invariant before →
    (contracts place).guarantees before after → invariant after
  keptOutside : ∀ {before after}, invariant before → around before after → invariant after

/-- The invariant holds, and all processes of the pool keep to their contracts. -/
structure Safe (contracts : Nat → Contract σ Q R) (size : Nat) (ends : Nat → α → σ → Prop)
    (invariant : σ → Prop) (pool : List (Process σ Q R α) × σ) : Prop where
  length : pool.1.length = size
  holds : invariant pool.2
  abide : ∀ (place : Nat) (process : Process σ Q R α), pool.1[place]? = some process →
    process.Abides (contracts place) (ends place) pool.2

section

variable {contracts : Nat → Contract σ Q R} {size : Nat} {around : σ → σ → Prop} {invariant : σ → Prop}
variable {ends : Nat → α → σ → Prop} {before after : List (Process σ Q R α) × σ}

theorem Turn.safe (compatible : Compatible contracts size around invariant)
    (turn : Turn around before after) (safe : Safe contracts size ends invariant before) :
    Safe contracts size ends invariant after := by
  cases turn with
  | @move processes place process next state later here moves =>
      have moved := (safe.abide place process here).move moves (compatible.answers place)
      have inside : place < processes.length := (List.getElem?_eq_some_iff.1 here).1
      refine ⟨by simpa using safe.length, ?_, fun other found there => ?_⟩
      · rcases moved.1 with same | owed
        · exact same ▸ safe.holds
        · exact compatible.kept (safe.length ▸ inside) safe.holds owed
      · by_cases same : other = place
        · subst same
          rw [List.getElem?_set_self inside] at there
          cases there
          exact moved.2
        · rw [List.getElem?_set_ne (Ne.symm same)] at there
          have known := safe.abide other found there
          rcases moved.1 with same | owed
          · exact same ▸ known
          · exact known.stable (compatible.others same owed)
  | around changed =>
      exact ⟨safe.length, compatible.keptOutside safe.holds changed, fun place process here =>
        (safe.abide place process here).stable (compatible.outside changed)⟩

theorem Interleaves.safe (compatible : Compatible contracts size around invariant)
    (interleaves : Interleaves around before after)
    (safe : Safe contracts size ends invariant before) : Safe contracts size ends invariant after := by
  induction interleaves with
  | refl => exact safe
  | tail _ turn ih => exact turn.safe compatible ih

end

/-- What remains of a process that is alone keeps to its contract. -/
theorem Interleaves.abides {around : σ → σ → Prop} {contract : Contract σ Q R} {ends : α → σ → Prop}
    (answers : ∀ query answer, contract.answers query answer)
    (outside : ∀ {before after}, around before after → contract.relies before after)
    {process : Process σ Q R α} {state : σ} {after : List (Process σ Q R α) × σ}
    (abides : process.Abides contract ends state)
    (interleaves : Interleaves around ([process], state) after) :
    ∃ last, after.1 = [last] ∧ last.Abides contract ends after.2 := by
  induction interleaves with
  | refl => exact ⟨process, rfl, abides⟩
  | tail _ turn ih =>
      obtain ⟨last, only, abides⟩ := ih
      cases turn with
      | @move _ place moving next _ _ here moves =>
          dsimp only at only abides
          subst only
          obtain ⟨rfl, rfl⟩ : place = 0 ∧ last = moving := by
            simpa [List.getElem?_singleton] using here
          exact ⟨next, rfl, (abides.move moves answers).2⟩
      | around changed => exact ⟨last, only, abides.stable (outside changed)⟩

/-- A process whose queries are answered may run to its end before the others go on. -/
theorem interleaves_run (around : σ → σ → Prop) {reply : Q → R} {process : Process σ Q R α}
    {before after : σ} {result : α}
    (ran : process.run (.answering reply) (before, ()) = (result, after, ()))
    (rest : List (Process σ Q R α)) :
    Interleaves around (process :: rest, before) (.done result :: rest, after) := by
  induction process generalizing before with
  | done result =>
      cases ran
      exact .refl
  | step update next ih => exact .head (.head (.step update next before) rest) (ih before ran)
  | ask query next ih => exact .head (.head (.ask query next _ before) rest) (ih _ ran)
  | pause next ih => exact .head (.head (.pause next before) rest) (ih ran)

/-- What a process comes to before it waits for an answer, and the state by then. -/
def untilAsk : Process σ Q R α → σ → Process σ Q R α × σ
  | done result, state => (done result, state)
  | step update next, state => (next state).untilAsk (update state)
  | ask query next, state => (ask query next, state)
  | pause next, state => next.untilAsk state

/-- A process may go on until it waits for an answer before the others do anything. -/
theorem interleaves_untilAsk (around : σ → σ → Prop) {process next : Process σ Q R α}
    {before after : σ} (comes : process.untilAsk before = (next, after))
    (rest : List (Process σ Q R α)) :
    Interleaves around (process :: rest, before) (next :: rest, after) := by
  induction process generalizing before with
  | done result =>
      cases comes
      exact .refl
  | step update next ih => exact .head (.head (.step update next before) rest) (ih before comes)
  | ask query next ih =>
      cases comes
      exact .refl
  | pause next ih => exact .head (.head (.pause next before) rest) (ih comes)

theorem Move.child {process next : Process σ Empty R α} {before after : σ}
    (moves : process.Move before next after) : Child next process := by
  cases moves with
  | step update next => exact .step update next before
  | ask query => exact query.elim
  | pause next => exact .pause next

/-- What may remain of a process after some of its moves. -/
abbrev Leaves : Process σ Empty R α → Process σ Empty R α → Prop :=
  Relation.ReflTransGen fun process next => Child next process

theorem ended_or_moves (process : Process σ Empty R α) (state : σ) :
    (∃ result, process = done result) ∨ ∃ next after, process.Move state next after := by
  cases process with
  | done result => exact .inl ⟨result, rfl⟩
  | step update next => exact .inr ⟨_, _, .step update next state⟩
  | ask query => exact query.elim
  | pause next => exact .inr ⟨_, _, .pause next state⟩

theorem finishes (processes : List (Process σ Empty R α)) (state : σ) :
    Finishes (processes, state) := by
  -- Every turn leaves less of one process, whatever becomes of the state.
  induction Progress.acc processes generalizing state with
  | intro processes _ ih =>
      refine .intro ?_ ?_
      · by_cases ended : ∀ process ∈ processes, ∃ result, process = done result
        · exact .inl ended
        · simp only [Classical.not_forall] at ended
          obtain ⟨process, member, running⟩ := ended
          obtain ⟨place, here⟩ := List.getElem?_of_mem member
          obtain ⟨next, after, moves⟩ := (process.ended_or_moves state).resolve_left running
          exact .inr ⟨_, .move here moves⟩
      · intro later turn
        cases turn with
        | move here moves => exact ih _ (.set here moves.child) _
        | around changed => exact changed.elim

theorem interleaves_takeTurns (around : σ → σ → Prop) (processes : List (Process σ Empty R α))
    (queue : List Nat) (state : σ) :
    Interleaves around (processes, state) (takeTurns processes queue state) := by
  fun_induction takeTurns processes queue state with
  | case1 processes state => exact .refl
  | case2 processes state place queue here ih => exact ih
  | case3 processes state place queue result here ih => exact ih
  | case4 processes state place queue update next here ih =>
      exact .head (.move here (.step update next state)) ih
  | case5 processes state place queue next here ih =>
      exact .head (.move here (.pause next state)) ih

theorem ended_takeTurns (processes : List (Process σ Empty R α)) (queue : List Nat) (state : σ)
    (queued : ∀ place process, processes[place]? = some process →
      place ∈ queue ∨ ∃ result, process = done result) :
    ∀ process ∈ (takeTurns processes queue state).1, ∃ result, process = done result := by
  fun_induction takeTurns processes queue state with
  | case1 processes state =>
      intro process member
      obtain ⟨place, here⟩ := List.getElem?_of_mem member
      exact (queued place process here).resolve_left List.not_mem_nil
  | case2 processes state place queue here ih =>
      refine ih fun other process there => ?_
      rcases queued other process there with waiting | ended
      · rcases List.mem_cons.1 waiting with rfl | waiting
        · simp [here] at there
        · exact .inl waiting
      · exact .inr ended
  | case3 processes state place queue result here ih =>
      refine ih fun other process there => ?_
      rcases queued other process there with waiting | ended
      · rcases List.mem_cons.1 waiting with rfl | waiting
        · rw [here] at there
          cases there
          exact .inr ⟨result, rfl⟩
        · exact .inl waiting
      · exact .inr ended
  | case4 processes state place queue update next here ih =>
      refine ih fun other process there => ?_
      by_cases same : other = place
      · exact .inl (same ▸ List.mem_cons_self)
      · rw [List.getElem?_set_ne (Ne.symm same)] at there
        exact queued other process there
  | case5 processes state place queue next here ih =>
      refine ih fun other process there => ?_
      by_cases same : other = place
      · exact .inl (by simp [same])
      · rw [List.getElem?_set_ne (Ne.symm same)] at there
        rcases queued other process there with waiting | ended
        · exact .inl (List.mem_append_left _ ((List.mem_cons.1 waiting).resolve_left same))
        · exact .inr ended

/-- Takes a number of turns: what all turns come to, if there are no more than that. -/
def takeTurnsWithin : Nat → List (Process σ Empty R α) → List Nat → σ →
    Option (List (Process σ Empty R α) × σ)
  | _, processes, [], state => some (processes, state)
  | 0, _, _ :: _, _ => none
  | turns + 1, processes, place :: queue, state =>
      match processes[place]? with
      | none => takeTurnsWithin turns processes queue state
      | some (done _) => takeTurnsWithin turns processes queue state
      | some (step update next) =>
          takeTurnsWithin turns (processes.set place (next state)) (place :: queue) (update state)
      | some (pause next) =>
          takeTurnsWithin turns (processes.set place next) (queue ++ [place]) state
      | some (ask query _) => nomatch query

/-- Unlike `takeTurns`, which ends because its processes do, a number of turns can be computed. -/
theorem takeTurns_of_within {turns : Nat} {processes : List (Process σ Empty R α)}
    {queue : List Nat} {state : σ} {last : List (Process σ Empty R α) × σ}
    (within : takeTurnsWithin turns processes queue state = some last) :
    takeTurns processes queue state = last := by
  fun_induction takeTurns processes queue state generalizing turns with
  | case1 processes state =>
      unfold takeTurnsWithin at within
      exact Option.some.inj within
  | case2 processes state place queue here ih
  | case3 processes state place queue result here ih
  | case4 processes state place queue update next here ih
  | case5 processes state place queue next here ih =>
      cases turns with
      | zero => cases within
      | succ turns => exact ih (by simpa only [takeTurnsWithin, here] using within)

end Colloquy.Process
