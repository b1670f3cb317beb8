import Colloquy.Batch.Basic
import Colloquy.Proofs.Process.Interleaving
import Mathlib.Data.List.Nodup
import Mathlib.Data.List.Perm.Lattice
import Mathlib.Data.List.Perm.Subperm
import Mathlib.Logic.Function.Basic

/-!
# The ledger of a batch

However the workers of a batch are interleaved, each task is taken once and settled once. If every
task comes to a result of its own, then the rows of a batch are those of its tasks in order, and its
failures are those of its tasks in some order.
-/

set_option autoImplicit false

namespace Colloquy

def RowResult.row? : RowResult → Option Row
  | success _ row => some row
  | failure _ => none

def RowResult.failure? : RowResult → Option RowFailure
  | success _ _ => none
  | failure cause => some cause

namespace Surroundings

variable {σ : Type} (surroundings : Surroundings σ) (tasks : List (BatchTask σ))

/-- What remains of a worker while it works on a task, `body` being what remains of the task. -/
def attend (turns position : Nat) (task : BatchTask σ)
    (body : Process σ Empty Empty TaskOutcome) : Process (σ × Board) Empty Empty Unit :=
  (body.zoom Prod.fst fun state both => (state, both.2)).bind fun outcome =>
    .step (surroundings.settle tasks.length position
      (TaskOutcome.result? position task.seed outcome)) fun _ => surroundings.worker tasks turns

variable {surroundings tasks}

theorem move_worker {turns : Nat} {before after : σ × Board}
    {next : Process (σ × Board) Empty Empty Unit}
    (moves : (surroundings.worker tasks turns).Move before next after) :
    ∃ left, turns = left + 1 ∧ after = surroundings.begin tasks.length before ∧
      (tasks[before.2.next]? = none ∧ next = surroundings.worker tasks 0 ∨
        ∃ task, tasks[before.2.next]? = some task ∧
          next = surroundings.attend tasks left before.2.next task
            (task.execute before.2.next)) := by
  cases turns with
  | zero =>
      rw [worker] at moves
      cases moves
  | succ left =>
      rw [worker] at moves
      cases moves
      refine ⟨left, rfl, rfl, ?_⟩
      cases found : tasks[before.2.next]? with
      | none => exact .inl ⟨rfl, by simp [worker, found]⟩
      | some task => exact .inr ⟨task, rfl, by simp [attend, found]⟩

theorem move_attend {turns position : Nat} {task : BatchTask σ}
    {body : Process σ Empty Empty TaskOutcome} {before after : σ × Board}
    {next : Process (σ × Board) Empty Empty Unit}
    (moves : (surroundings.attend tasks turns position task body).Move before next after) :
    (∃ outcome, body = .done outcome ∧ next = surroundings.worker tasks turns ∧
      after = surroundings.settle tasks.length position
        (TaskOutcome.result? position task.seed outcome) before) ∨
    ∃ rest state, body.Move before.1 rest state ∧
      next = surroundings.attend tasks turns position task rest ∧ after = (state, before.2) := by
  cases body with
  | done outcome =>
      cases moves
      exact .inl ⟨outcome, rfl, rfl, rfl⟩
  | step update rest =>
      cases moves
      exact .inr ⟨_, _, .step update rest before.1, rfl, rfl⟩
  | ask query rest => exact query.elim
  | pause rest =>
      cases moves
      exact .inr ⟨_, _, .pause rest before.1, rfl, rfl⟩

end Surroundings

/-- What a board says is the sum of what is settled, and each task that has been taken is settled or
some worker is busy with it. -/
structure Board.Books (size : Nat) (results : Nat → Option RowResult) (busy : Nat → Option Nat)
    (settled : List Nat) (board : Board) : Prop where
  apart : ∀ {place other position}, busy place = some position → busy other = some position →
    place = other
  taken : ∀ {place position}, busy place = some position →
    position < board.next ∧ position ∉ settled
  nodup : settled.Nodup
  below : ∀ {position}, position ∈ settled → position < board.next
  covered : ∀ {position}, position < board.next →
    position ∈ settled ∨ ∃ place, busy place = some position
  next_le : board.next ≤ size
  completed : board.completed = settled.length
  next_eq : board.next = board.inProgress + board.completed
  rows : board.rows = settled.filterMap fun position =>
    ((results position).bind RowResult.row?).map (position, ·)
  failures : board.failures = settled.filterMap fun position =>
    (results position).bind RowResult.failure?

namespace Board.Books

variable {size : Nat} {results : Nat → Option RowResult} {busy : Nat → Option Nat}
variable {settled : List Nat} {board : Board}

theorem empty : Board.empty.Books size results (fun _ => none) [] where
  apart here := by cases here
  taken here := by cases here
  nodup := .nil
  below member := by cases member
  covered early := absurd early (Nat.not_lt_zero _)
  next_le := Nat.zero_le _
  completed := rfl
  next_eq := rfl
  rows := rfl
  failures := rfl

theorem enter (books : board.Books size results busy settled) {place : Nat}
    (free : busy place = none) (left : board.next < size) :
    board.enter.Books size results (Function.update busy place (some board.next)) settled where
  apart := by
    intro first second position here there
    by_cases firstHere : first = place <;> by_cases secondHere : second = place
    · rw [firstHere, secondHere]
    · rw [firstHere, Function.update_self, Option.some.injEq] at here
      rw [Function.update_of_ne secondHere] at there
      have early := (books.taken there).1
      omega
    · rw [secondHere, Function.update_self, Option.some.injEq] at there
      rw [Function.update_of_ne firstHere] at here
      have early := (books.taken here).1
      omega
    · rw [Function.update_of_ne firstHere] at here
      rw [Function.update_of_ne secondHere] at there
      exact books.apart here there
  taken := by
    intro other position here
    by_cases same : other = place
    · rw [same, Function.update_self, Option.some.injEq] at here
      subst here
      exact ⟨Nat.lt_succ_self _, fun member => Nat.lt_irrefl _ (books.below member)⟩
    · rw [Function.update_of_ne same] at here
      exact ⟨Nat.lt_succ_of_lt (books.taken here).1, (books.taken here).2⟩
  nodup := books.nodup
  below member := Nat.lt_succ_of_lt (books.below member)
  covered := by
    intro position early
    rcases Nat.lt_succ_iff_lt_or_eq.1 early with earlier | rfl
    · rcases books.covered earlier with done | ⟨other, there⟩
      · exact .inl done
      · have differ : other ≠ place := by
          rintro rfl
          rw [free] at there
          cases there
        exact .inr ⟨other, by rw [Function.update_of_ne differ, there]⟩
    · exact .inr ⟨place, Function.update_self ..⟩
  next_le := left
  completed := books.completed
  next_eq := by
    simp only [Board.enter, books.next_eq]
    omega
  rows := books.rows
  failures := books.failures

theorem filterMap_one {α β : Type} (read : α → Option β) (item : α) :
    [item].filterMap read = (read item).toList := by
  cases found : read item <;> simp [found]

theorem busy_of_update {place other position : Nat}
    (there : Function.update busy place none other = some position) :
    other ≠ place ∧ busy other = some position := by
  by_cases same : other = place
  · rw [same, Function.update_self] at there
    cases there
  · rw [Function.update_of_ne same] at there
    exact ⟨same, there⟩

/-- A task that is under way counts as such. -/
theorem running (books : board.Books size results busy settled) {place position : Nat}
    (here : busy place = some position) : 0 < board.inProgress := by
  obtain ⟨early, absent⟩ := books.taken here
  have all : (position :: settled) ⊆ List.range board.next := by
    intro other member
    rcases List.mem_cons.1 member with rfl | known
    · exact List.mem_range.2 early
    · exact List.mem_range.2 (books.below known)
  have distinct : (position :: settled).Nodup := List.nodup_cons.2 ⟨absent, books.nodup⟩
  have length := (distinct.subperm all).length_le
  rw [List.length_cons, List.length_range, books.next_eq, books.completed] at length
  omega

/-- The tasks that are under way and those that are settled are those that have been taken. -/
theorem underway (books : board.Books size results busy settled) {places : Nat}
    (vacant : ∀ place, places ≤ place → busy place = none) :
    ((List.range places).filterMap busy ++ settled).Perm (List.range board.next) := by
  have distinct : ((List.range places).filterMap busy).Nodup :=
    List.nodup_range.filterMap fun _ _ _ here there => books.apart here there
  have nodup : ((List.range places).filterMap busy ++ settled).Nodup := by
    refine List.nodup_append.2 ⟨distinct, books.nodup, ?_⟩
    rintro position member _ known rfl
    obtain ⟨place, _, here⟩ := List.mem_filterMap.1 member
    exact (books.taken here).2 known
  refine (List.perm_ext_iff_of_nodup nodup List.nodup_range).2 fun position => ?_
  rw [List.mem_append, List.mem_filterMap, List.mem_range]
  constructor
  · rintro (⟨place, _, here⟩ | known)
    · exact (books.taken here).1
    · exact books.below known
  · intro early
    rcases books.covered early with known | ⟨place, here⟩
    · exact .inr known
    · refine .inl ⟨place, List.mem_range.2 ?_, here⟩
      by_contra outside
      rw [vacant place (Nat.not_lt.1 outside)] at here
      cases here

theorem settle (books : board.Books size results busy settled) {place position : Nat}
    (here : busy place = some position) {after : Board} (next : after.next = board.next)
    (inProgress : after.inProgress = board.inProgress - 1)
    (completed : after.completed = board.completed + 1) (rows : after.rows = board.rows ++
      (((results position).bind RowResult.row?).map (position, ·)).toList)
    (failures : after.failures = board.failures ++
      ((results position).bind RowResult.failure?).toList) :
    after.Books size results (Function.update busy place none) (settled ++ [position]) where
  apart there elsewhere := books.apart (busy_of_update there).2 (busy_of_update elsewhere).2
  taken := by
    intro other taken there
    obtain ⟨differ, there⟩ := busy_of_update there
    obtain ⟨early, absent⟩ := books.taken there
    refine ⟨by omega, fun member => ?_⟩
    rcases List.mem_append.1 member with known | new
    · exact absent known
    · rw [List.mem_singleton.1 new] at there
      exact differ (books.apart there here)
  nodup := by
    refine List.nodup_append.2 ⟨books.nodup, List.nodup_singleton _, ?_⟩
    rintro known member _ new rfl
    rw [List.mem_singleton.1 new] at member
    exact (books.taken here).2 member
  below := by
    intro earlier member
    rw [next]
    rcases List.mem_append.1 member with known | new
    · exact books.below known
    · rw [List.mem_singleton.1 new]
      exact (books.taken here).1
  covered := by
    intro earlier early
    rw [next] at early
    rcases books.covered early with known | ⟨other, there⟩
    · exact .inl (List.mem_append_left _ known)
    · by_cases same : other = place
      · rw [same, here] at there
        cases there
        exact .inl (by simp)
      · exact .inr ⟨other, by rw [Function.update_of_ne same, there]⟩
  next_le := next ▸ books.next_le
  completed := by rw [completed, books.completed, List.length_append, List.length_singleton]
  next_eq := by
    have running := books.running here
    rw [next, inProgress, completed, books.next_eq]
    omega
  rows := by rw [rows, books.rows, List.filterMap_append, filterMap_one]
  failures := by rw [failures, books.failures, List.filterMap_append, filterMap_one]

/-- When no task is left and no worker is busy, each task has been settled once. -/
theorem complete (books : board.Books size results busy settled) (all : size ≤ board.next)
    (free : ∀ place, busy place = none) : settled.Perm (List.range size) := by
  have next : board.next = size := Nat.le_antisymm books.next_le all
  refine (List.perm_ext_iff_of_nodup books.nodup List.nodup_range).2 fun position => ?_
  rw [List.mem_range, ← next]
  refine ⟨books.below, fun early => ?_⟩
  rcases books.covered early with done | ⟨place, there⟩
  · exact done
  · rw [free place] at there
    cases there

theorem congr (books : board.Books size results busy settled)
    {results' : Nat → Option RowResult}
    (same : ∀ position ∈ settled, results position = results' position) :
    board.Books size results' busy settled where
  __ := books
  rows := books.rows.trans (List.filterMap_congr fun position member => by rw [same position member])
  failures :=
    books.failures.trans (List.filterMap_congr fun position member => by rw [same position member])

end Board.Books

namespace Surroundings

variable {σ : Type} {surroundings : Surroundings σ} {tasks : List (BatchTask σ)}

theorem next_keep (position : Nat) (result : Option RowResult) (both : σ × Board) :
    (surroundings.keep position result both).2.next = both.2.next := by
  rcases result with _ | ⟨index, row⟩ | cause <;> rfl

theorem counts_keep (position : Nat) (result : Option RowResult) (both : σ × Board) :
    (surroundings.keep position result both).2.inProgress = both.2.inProgress ∧
      (surroundings.keep position result both).2.completed = both.2.completed := by
  rcases result with _ | ⟨index, row⟩ | cause <;> exact ⟨rfl, rfl⟩

theorem rows_keep (position : Nat) (result : Option RowResult) (both : σ × Board) :
    (surroundings.keep position result both).2.rows =
      both.2.rows ++ ((result.bind RowResult.row?).map (position, ·)).toList := by
  rcases result with _ | ⟨index, row⟩ | cause <;> simp [keep, RowResult.row?]

theorem failures_keep (position : Nat) (result : Option RowResult) (both : σ × Board) :
    (surroundings.keep position result both).2.failures =
      both.2.failures ++ (result.bind RowResult.failure?).toList := by
  rcases result with _ | ⟨index, row⟩ | cause <;> simp [keep, RowResult.failure?]

/-- What the tasks of a batch owe and may expect, by position: a task waits until it is taken, keeps to
its contract, and ends as it should. -/
structure Duties (σ : Type) where
  contract : Nat → Contract σ Empty Empty
  holds : σ → Prop
  waits : Nat → σ → Prop
  ends : Nat → TaskOutcome → σ → Prop

/-- A change of the state that every task may rely on, and that keeps the invariant. -/
structure Duties.Harmless (duties : Duties σ) (before after : σ) : Prop where
  relied : ∀ position, (duties.contract position).relies before after
  kept : duties.holds before → duties.holds after

theorem Duties.Harmless.refl (duties : Duties σ) (state : σ) : duties.Harmless state state :=
  ⟨fun position => (duties.contract position).relies_refl state, id⟩

theorem Duties.Harmless.trans {duties : Duties σ} {before between after : σ}
    (first : duties.Harmless before between) (second : duties.Harmless between after) :
    duties.Harmless before after :=
  ⟨fun position => (duties.contract position).relies_trans (first.relied position)
    (second.relied position), fun held => second.kept (first.kept held)⟩

/-- The tasks do their duties, whatever the batch does around them. -/
structure Dependable (surroundings : Surroundings σ) (tasks : List (BatchTask σ))
    (duties : Duties σ) : Prop where
  notify : ∀ notice state, duties.Harmless state (surroundings.notify notice state)
  report : ∀ level text state, duties.Harmless state (surroundings.report level text state)
  owed : ∀ {position other before after}, other ≠ position →
    (duties.contract position).guarantees before after → (duties.contract other).relies before after
  kept : ∀ {position before after}, position < tasks.length → duties.holds before →
    (duties.contract position).guarantees before after → duties.holds after
  patient : ∀ {position before after}, (duties.contract position).relies before after →
    duties.waits position before → duties.waits position after
  tasks : ∀ (position : Nat) (task : BatchTask σ), tasks[position]? = some task → ∀ state,
    duties.holds state → duties.waits position state →
      (task.execute position).Abides (duties.contract position) (duties.ends position) state

variable (tasks) in
/-- The results that the outcomes of the tasks stand for, by position. -/
def resultsOf (outcomes : Nat → TaskOutcome) (position : Nat) : Option RowResult :=
  tasks[position]?.bind fun task => TaskOutcome.result? position task.seed (outcomes position)

theorem resultsOf_update {position : Nat} {task : BatchTask σ}
    (found : tasks[position]? = some task) (outcomes : Nat → TaskOutcome) (outcome : TaskOutcome) :
    resultsOf tasks (Function.update outcomes position outcome) position =
      TaskOutcome.result? position task.seed outcome := by
  simp [resultsOf, found]

/-- What remains of a worker: if it is free, it has turns left for all tasks that are left; else it is
at a task, which does its duty. -/
def Staffed (surroundings : Surroundings σ) (tasks : List (BatchTask σ)) (duties : Duties σ)
    (process : Process (σ × Board) Empty Empty Unit) (both : σ × Board) : Option Nat → Prop
  | none => ∃ turns, process = surroundings.worker tasks turns ∧
      tasks.length ≤ turns + both.2.next
  | some position => ∃ turns task body, tasks[position]? = some task ∧
      process = surroundings.attend tasks turns position task body ∧
      (task.execute position).Leaves body ∧
      body.Abides (duties.contract position) (duties.ends position) both.1 ∧
      tasks.length ≤ turns + both.2.next

/-- What a batch has come to: the state and the board, the tasks that are settled in their order, and
their outcomes. -/
structure Account (σ : Type) where
  both : σ × Board
  settled : List Nat
  outcomes : Nat → TaskOutcome

/-- What a move of a worker does to the account of a batch: a task is taken if there is one left, or a
task changes the state, or a task that has come to its outcome is settled. -/
inductive Stage (surroundings : Surroundings σ) (tasks : List (BatchTask σ)) (duties : Duties σ) :
    Account σ → Account σ → Prop where
  | take (account : Account σ) :
      Stage surroundings tasks duties account
        { account with both := surroundings.begin tasks.length account.both }
  | work {account : Account σ} (position : Nat) {state : σ}
      (owed : state = account.both.1 ∨ (duties.contract position).guarantees account.both.1 state) :
      Stage surroundings tasks duties account { account with both := (state, account.both.2) }
  | settle {account : Account σ} {position : Nat} {task : BatchTask σ} (outcome : TaskOutcome)
      (found : tasks[position]? = some task) (fresh : position ∉ account.settled)
      (running : 0 < account.both.2.inProgress) :
      Stage surroundings tasks duties account
        ⟨surroundings.settle tasks.length position
          (TaskOutcome.result? position task.seed outcome) account.both,
          account.settled ++ [position], Function.update account.outcomes position outcome⟩

/-- `busy` tells which task each worker is at, and `outcomes` what the settled tasks came to. -/
structure Ledger (surroundings : Surroundings σ) (tasks : List (BatchTask σ)) (duties : Duties σ)
    (busy : Nat → Option Nat) (settled : List Nat) (outcomes : Nat → TaskOutcome)
    (pool : List (Process (σ × Board) Empty Empty Unit) × (σ × Board)) : Prop where
  staffed : ∀ (place : Nat) (process : Process (σ × Board) Empty Empty Unit),
    pool.1[place]? = some process →
      surroundings.Staffed tasks duties process pool.2 (busy place)
  vacant : ∀ place, pool.1.length ≤ place → busy place = none
  holding : duties.holds pool.2.1
  waiting : ∀ position, pool.2.2.next ≤ position → position < tasks.length →
    duties.waits position pool.2.1
  books : pool.2.2.Books tasks.length (resultsOf tasks outcomes) busy settled
  ended : ∀ position ∈ settled, (Process.done (outcomes position)).Abides
    (duties.contract position) (duties.ends position) pool.2.1

section

variable {duties : Duties σ}

theorem Staffed.stable {process : Process (σ × Board) Empty Empty Unit} {before after : σ × Board}
    {slot : Option Nat} (staffed : surroundings.Staffed tasks duties process before slot)
    (relied : ∀ position, slot = some position →
      (duties.contract position).relies before.1 after.1)
    (later : before.2.next ≤ after.2.next) :
    surroundings.Staffed tasks duties process after slot := by
  cases slot with
  | none =>
      obtain ⟨turns, same, enough⟩ := staffed
      exact ⟨turns, same, by omega⟩
  | some position =>
      obtain ⟨turns, task, body, found, same, leaves, abides, enough⟩ := staffed
      exact ⟨turns, task, body, found, same, leaves, abides.stable (relied position rfl), by omega⟩

theorem Ledger.start (count : Nat) {state : σ} (holding : duties.holds state)
    (waiting : ∀ position < tasks.length, duties.waits position state)
    (outcomes : Nat → TaskOutcome) :
    surroundings.Ledger tasks duties (fun _ => none) [] outcomes
      (List.replicate count (surroundings.worker tasks tasks.length), (state, Board.empty)) where
  staffed place process here := by
    rw [(List.mem_replicate.1 (List.mem_of_getElem? here)).2]
    exact ⟨tasks.length, rfl, Nat.le_add_right _ _⟩
  vacant _ _ := rfl
  holding := holding
  waiting position _ inside := waiting position inside
  books := .empty
  ended _ member := by cases member

variable {busy : Nat → Option Nat} {settled : List Nat} {outcomes : Nat → TaskOutcome}
variable {processes : List (Process (σ × Board) Empty Empty Unit)} {before after : σ × Board}
variable (dependable : surroundings.Dependable tasks duties)

include dependable

omit dependable in
theorem Ledger.still_ended (ledger : surroundings.Ledger tasks duties busy settled outcomes
      (processes, before))
    (place : Nat) {state : σ} (relied : ∀ position, busy place ≠ some position →
      (duties.contract position).relies before.1 state) :
    ∀ position ∈ settled, (Process.done (outcomes position)).Abides
      (duties.contract position) (duties.ends position) state := by
  intro position member
  have ended : (Process.done (outcomes position)).Abides (duties.contract position)
      (duties.ends position) before.1 := ledger.ended position member
  exact ended.stable (relied position fun mine => (ledger.books.taken mine).2 member)

/-- The worker at a place moves. Every other task can rely on what it does. -/
theorem Ledger.set (ledger : surroundings.Ledger tasks duties busy settled outcomes
      (processes, before))
    {place : Nat} {process next : Process (σ × Board) Empty Empty Unit} (slot : Option Nat)
    (here : processes[place]? = some process)
    (relied : ∀ position, busy place ≠ some position →
      (duties.contract position).relies before.1 after.1)
    (holding : duties.holds after.1) (later : before.2.next ≤ after.2.next)
    (staffed : surroundings.Staffed tasks duties next after slot) {settled' : List Nat}
    {outcomes' : Nat → TaskOutcome}
    (books : after.2.Books tasks.length (resultsOf tasks outcomes')
      (Function.update busy place slot) settled')
    (ended : ∀ position ∈ settled', (Process.done (outcomes' position)).Abides
      (duties.contract position) (duties.ends position) after.1) :
    surroundings.Ledger tasks duties (Function.update busy place slot) settled' outcomes'
      (processes.set place next, after) where
  staffed other found there := by
    by_cases same : other = place
    · subst same
      rw [List.getElem?_set_self (List.getElem?_eq_some_iff.1 here).1] at there
      cases there
      rw [Function.update_self]
      exact staffed
    · rw [List.getElem?_set_ne (Ne.symm same)] at there
      rw [Function.update_of_ne same]
      refine (ledger.staffed other found there).stable (fun position taken => ?_) later
      exact relied position fun mine => same (ledger.books.apart taken mine)
  vacant other outside := by
    have inside : place < processes.length := (List.getElem?_eq_some_iff.1 here).1
    have differ : other ≠ place := by
      rintro rfl
      simp only [List.length_set] at outside
      omega
    rw [Function.update_of_ne differ]
    exact ledger.vacant other (by simpa using outside)
  holding := holding
  waiting position notYet inside := by
    refine dependable.patient (relied position fun mine => ?_)
      (ledger.waiting position (Nat.le_trans later notYet) inside)
    exact absurd (ledger.books.taken mine).1 (Nat.not_lt.2 (Nat.le_trans later notYet))
  books := books
  ended := ended

theorem Dependable.begin (both : σ × Board) :
    duties.Harmless both.1 (surroundings.begin tasks.length both).1 := by
  unfold Surroundings.begin
  split
  · exact dependable.notify _ _
  · exact .refl duties both.1

theorem Dependable.settle (position : Nat) (result : Option RowResult) (both : σ × Board) :
    duties.Harmless both.1 (surroundings.settle tasks.length position result both).1 := by
  have kept : duties.Harmless both.1 (surroundings.keep position result both).1 := by
    rcases result with _ | ⟨index, row⟩ | cause
    · exact .refl duties both.1
    · exact .refl duties both.1
    · exact (dependable.report _ _ _).trans (dependable.notify _ _)
  exact kept.trans (dependable.notify _ _)

theorem Ledger.take (ledger : surroundings.Ledger tasks duties busy settled outcomes
      (processes, before))
    {place : Nat} {process next : Process (σ × Board) Empty Empty Unit}
    (here : processes[place]? = some process) (free : busy place = none)
    (moves : process.Move before next after) :
    after = surroundings.begin tasks.length before ∧
      ∃ busy, surroundings.Ledger tasks duties busy settled outcomes
        (processes.set place next, after) := by
  have staffed : surroundings.Staffed tasks duties process before (busy place) :=
    ledger.staffed place process here
  rw [free] at staffed
  obtain ⟨turns, rfl, enough⟩ := staffed
  obtain ⟨left, rfl, rfl, ⟨absent, rfl⟩ | ⟨task, found, rfl⟩⟩ := move_worker moves <;>
    refine ⟨rfl, ?_⟩
  · have exhausted : ¬before.2.next < tasks.length := by
      rw [Nat.not_lt]
      exact List.getElem?_eq_none_iff.1 absent
    -- A worker that finds no task left changes nothing and has no turns left either.
    have same : surroundings.begin tasks.length before = before := by
      simp [Surroundings.begin, exhausted]
    have books : before.2.Books tasks.length (resultsOf tasks outcomes)
        (Function.update busy place none) settled := by
      rw [← free, Function.update_eq_self]
      exact ledger.books
    rw [same]
    exact ⟨_, ledger.set dependable none here (fun position _ => (Duties.Harmless.refl ..).relied _)
      ledger.holding (Nat.le_refl _) ⟨0, rfl, by omega⟩ books ledger.ended⟩
  · have early : before.2.next < tasks.length := (List.getElem?_eq_some_iff.1 found).1
    have entered : (surroundings.begin tasks.length before).2 = before.2.enter := by
      simp [Surroundings.begin, early]
    have later : (surroundings.begin tasks.length before).2.next = before.2.next + 1 := by
      rw [entered]
      rfl
    have harmless := dependable.begin before
    have holding := harmless.kept ledger.holding
    have waiting := dependable.patient (harmless.relied before.2.next)
      (ledger.waiting before.2.next (Nat.le_refl _) early)
    refine ⟨_, ledger.set dependable (some before.2.next) here (fun position _ =>
      harmless.relied position) holding (by omega)
      ⟨left, task, _, found, rfl, .refl, dependable.tasks _ task found _ holding waiting,
        by omega⟩ ?_
      (ledger.still_ended place fun position _ => harmless.relied position)⟩
    rw [entered]
    exact ledger.books.enter free early

/-- A task that has come to an outcome is settled with it. -/
theorem Ledger.settle (ledger : surroundings.Ledger tasks duties busy settled outcomes
      (processes, before))
    {place position turns : Nat} {process : Process (σ × Board) Empty Empty Unit}
    {task : BatchTask σ} {outcome : TaskOutcome} (here : processes[place]? = some process)
    (taken : busy place = some position) (found : tasks[position]? = some task)
    (abides : (Process.done outcome).Abides (duties.contract position) (duties.ends position)
      before.1)
    (enough : tasks.length ≤ turns + before.2.next) :
    surroundings.Ledger tasks duties (Function.update busy place none) (settled ++ [position])
      (Function.update outcomes position outcome)
      (processes.set place (surroundings.worker tasks turns),
        surroundings.settle tasks.length position (TaskOutcome.result? position task.seed outcome)
          before) := by
  let result := TaskOutcome.result? position task.seed outcome
  have harmless : duties.Harmless before.1
      (surroundings.settle tasks.length position result before).1 :=
    dependable.settle position result before
  have next : (surroundings.settle tasks.length position result before).2.next = before.2.next :=
    next_keep position result before
  have results : resultsOf tasks (Function.update outcomes position outcome) position = result :=
    resultsOf_update found outcomes outcome
  -- What is known of the tasks that are settled does not depend on the outcome of this one.
  have known (other : Nat) (member : other ∈ settled) :
      Function.update outcomes position outcome other = outcomes other := by
    refine Function.update_of_ne ?_ ..
    rintro rfl
    exact (ledger.books.taken taken).2 member
  have books := (ledger.books.congr fun other member =>
    show resultsOf tasks outcomes other =
        resultsOf tasks (Function.update outcomes position outcome) other by
      simp [resultsOf, known other member]).settle taken next
    (congrArg (· - 1) (counts_keep position result before).1)
    (congrArg (· + 1) (counts_keep position result before).2)
    (by rw [results]; exact rows_keep position result before)
    (by rw [results]; exact failures_keep position result before)
  refine ledger.set dependable none here (fun other _ => harmless.relied other)
    (harmless.kept ledger.holding) (Nat.le_of_eq next.symm) ⟨turns, rfl, by omega⟩ books ?_
  intro other member
  rcases List.mem_append.1 member with before | last
  · rw [known other before]
    exact ledger.still_ended place (fun other _ => harmless.relied other) other before
  · rw [List.mem_singleton.1 last, Function.update_self]
    exact abides.stable (harmless.relied position)

theorem Ledger.work (ledger : surroundings.Ledger tasks duties busy settled outcomes
      (processes, before))
    {place position : Nat} {process next : Process (σ × Board) Empty Empty Unit}
    (here : processes[place]? = some process) (taken : busy place = some position)
    (moves : process.Move before next after) :
    ∃ busy settled' outcomes',
      surroundings.Stage tasks duties ⟨before, settled, outcomes⟩ ⟨after, settled', outcomes'⟩ ∧
        surroundings.Ledger tasks duties busy settled' outcomes'
          (processes.set place next, after) := by
  have staffed : surroundings.Staffed tasks duties process before (busy place) :=
    ledger.staffed place process here
  rw [taken] at staffed
  obtain ⟨turns, task, body, found, rfl, leaves, abides, enough⟩ := staffed
  obtain ⟨outcome, rfl, rfl, rfl⟩ | ⟨rest, state, bodyMoves, rfl, rfl⟩ := move_attend moves
  · exact ⟨_, _, _, .settle outcome found (ledger.books.taken taken).2 (ledger.books.running taken),
      ledger.settle dependable here taken found abides enough⟩
  · have moved := abides.move bodyMoves fun query _ => query.elim
    have inside : position < tasks.length := (List.getElem?_eq_some_iff.1 found).1
    have relied (other : Nat) (free : busy place ≠ some other) :
        (duties.contract other).relies before.1 state := by
      rcases moved.1 with same | owed
      · rw [same]
        exact (duties.contract other).relies_refl _
      · refine dependable.owed ?_ owed
        rintro rfl
        exact free taken
    have holding : duties.holds state := by
      rcases moved.1 with same | owed
      · rw [same]
        exact ledger.holding
      · exact dependable.kept inside ledger.holding owed
    have books : before.2.Books tasks.length (resultsOf tasks outcomes)
        (Function.update busy place (some position)) settled := by
      rw [← taken, Function.update_eq_self]
      exact ledger.books
    have staffed : surroundings.Staffed tasks duties
        (surroundings.attend tasks turns position task rest) (state, before.2) (some position) :=
      ⟨turns, task, rest, found, rfl, leaves.tail bodyMoves.child, moved.2, enough⟩
    refine ⟨_, _, _, .work position moved.1, ledger.set dependable (some position) here relied holding ?_ staffed books
      (ledger.still_ended place relied)⟩
    exact Nat.le_refl _

theorem Ledger.turn {pool later : List (Process (σ × Board) Empty Empty Unit) × (σ × Board)}
    (ledger : surroundings.Ledger tasks duties busy settled outcomes pool)
    (turn : Process.Turn Process.Nothing pool later) :
    ∃ busy settled' outcomes',
      surroundings.Stage tasks duties ⟨pool.2, settled, outcomes⟩ ⟨later.2, settled', outcomes'⟩ ∧
        surroundings.Ledger tasks duties busy settled' outcomes' later := by
  cases turn with
  | @move processes place process next before after here moves =>
      cases state : busy place with
      | none =>
          obtain ⟨rfl, busy, ledger⟩ := ledger.take dependable here state moves
          exact ⟨busy, settled, outcomes, .take _, ledger⟩
      | some position => exact ledger.work dependable here state moves
  | around changed => exact changed.elim

/-- The ledger is kept on all ways that the workers may move, and so is what every stage keeps. -/
theorem Ledger.interleaves
    {pool later : List (Process (σ × Board) Empty Empty Unit) × (σ × Board)}
    (ledger : surroundings.Ledger tasks duties busy settled outcomes pool)
    {invariant : Account σ → Prop}
    (kept : ∀ {before after}, surroundings.Stage tasks duties before after → invariant before →
      invariant after)
    (holds : invariant ⟨pool.2, settled, outcomes⟩)
    (interleaves : Process.Interleaves Process.Nothing pool later) :
    ∃ busy settled outcomes, invariant ⟨later.2, settled, outcomes⟩ ∧
      surroundings.Ledger tasks duties busy settled outcomes later := by
  induction interleaves with
  | refl => exact ⟨busy, settled, outcomes, holds, ledger⟩
  | tail _ turn ih =>
      obtain ⟨busy, settled, outcomes, holds, ledger⟩ := ih
      obtain ⟨busy', settled', outcomes', stage, ledger⟩ := ledger.turn dependable turn
      exact ⟨busy', settled', outcomes', kept stage holds, ledger⟩

end

variable (surroundings tasks) in
/-- The workers of a batch before the first of them moves. -/
def crew (concurrency : Nat) (state : σ) :
    List (Process (σ × Board) Empty Empty Unit) × (σ × Board) :=
  (List.replicate (min concurrency tasks.length) (surroundings.worker tasks tasks.length),
    (surroundings.notify (.start tasks.length concurrency) state, Board.empty))

variable (surroundings tasks) in
/-- A batch that has come to its end, its workers having moved in any order. -/
def Batched (concurrency : Nat) (state : σ) (last : σ × Board) : Prop :=
  ∃ (workers : List (Process (σ × Board) Empty Empty Unit)) (both : σ × Board),
    Process.Interleaves Process.Nothing (surroundings.crew tasks concurrency state)
      (workers, both) ∧
    (∀ worker ∈ workers, ∃ result, worker = .done result) ∧
    last = (surroundings.notify
      (.finish both.2.completed both.2.failures.length tasks.length) both.1, both.2)

theorem batched_runBatch (concurrency : Nat) (state : σ) :
    surroundings.Batched tasks concurrency state
      (surroundings.runBatch concurrency tasks state) := by
  refine ⟨_, _, Process.interleaves_takeTurns _ _ (List.range _) _, ?_, rfl⟩
  refine Process.ended_takeTurns _ _ _ fun place process here => .inl ?_
  exact List.mem_range.2 (List.getElem?_eq_some_iff.1 here).1

theorem lookup_filterMap {β : Type} (value : Nat → Option β) (settled : List Nat)
    (position : Nat) :
    (settled.filterMap fun place => (value place).map (place, ·)).lookup position =
      if position ∈ settled then value position else none := by
  induction settled with
  | nil => rfl
  | cons place rest ih =>
      by_cases same : position = place
      · subst same
        cases found : value position with
        | none => simp [found, ih]
        | some result => simp [found]
      · have missed : (position == place) = false := by simpa using same
        cases found : value place with
        | none => simp [found, ih, same]
        | some result => simp [found, ih, same, List.lookup_cons, missed]

theorem filterMap_range {α β : Type} (items : List α) (read : α → Option β) :
    (List.range items.length).filterMap (fun place => items[place]?.bind read) =
      items.filterMap read := by
  induction items with
  | nil => rfl
  | cons item rest ih =>
      rw [List.length_cons, List.range_succ_eq_map, List.filterMap_cons, List.filterMap_map,
        List.filterMap_cons, ← ih]
      rfl

section

variable {duties : Duties σ} {busy : Nat → Option Nat} {settled : List Nat}
variable {outcomes : Nat → TaskOutcome}
variable {pool : List (Process (σ × Board) Empty Empty Unit) × (σ × Board)}

theorem Ledger.free (ledger : surroundings.Ledger tasks duties busy settled outcomes pool)
    (ended : ∀ worker ∈ pool.1, ∃ result, worker = .done result) (place : Nat) :
    busy place = none := by
  cases here : pool.1[place]? with
  | none => exact ledger.vacant place (List.getElem?_eq_none_iff.1 here)
  | some process =>
      have staffed := ledger.staffed place process here
      obtain ⟨result, rfl⟩ := ended process (List.mem_of_getElem? here)
      cases state : busy place with
      | none => rfl
      | some position =>
          rw [state] at staffed
          obtain ⟨turns, task, body, _, same, _⟩ := staffed
          cases body <;> cases same

theorem Ledger.exhausted (ledger : surroundings.Ledger tasks duties busy settled outcomes pool)
    (ended : ∀ worker ∈ pool.1, ∃ result, worker = .done result)
    (worked : tasks ≠ [] → pool.1 ≠ []) : tasks.length ≤ pool.2.2.next := by
  by_cases empty : tasks = []
  · simp [empty]
  · obtain ⟨worker, rest, workers⟩ := List.exists_cons_of_ne_nil (worked empty)
    have here : pool.1[0]? = some worker := by simp [workers]
    have staffed := ledger.staffed 0 worker here
    rw [ledger.free ended 0] at staffed
    obtain ⟨turns, same, enough⟩ := staffed
    obtain ⟨result, rfl⟩ := ended worker (List.mem_of_getElem? here)
    cases turns with
    | zero => simpa using enough
    | succ left => cases same

/-- However the workers of a batch move, behind them each task has been settled once, and has ended as it
should. What every stage keeps holds of the account. -/
theorem Batched.closed (dependable : surroundings.Dependable tasks duties) {concurrency : Nat}
    (positive : 1 ≤ concurrency) {state : σ} (holding : duties.holds state)
    (waiting : ∀ position < tasks.length, duties.waits position state)
    {invariant : Account σ → Prop}
    (kept : ∀ {before after}, surroundings.Stage tasks duties before after → invariant before →
      invariant after)
    (holds : invariant ⟨(surroundings.crew tasks concurrency state).2, [], fun _ => .ok none⟩)
    {last : σ × Board} (batched : surroundings.Batched tasks concurrency state last) :
    ∃ account : Account σ, invariant account ∧ account.settled.Perm (List.range tasks.length) ∧
      duties.holds account.both.1 ∧
      (∀ position < tasks.length, (Process.done (account.outcomes position)).Abides
        (duties.contract position) (duties.ends position) account.both.1) ∧
      account.both.2.Books tasks.length (resultsOf tasks account.outcomes) (fun _ => none)
        account.settled ∧
      last = (surroundings.notify (.finish account.both.2.completed
        account.both.2.failures.length tasks.length) account.both.1, account.both.2) := by
  obtain ⟨workers, both, interleaves, ended, rfl⟩ := batched
  have begins := dependable.notify (.start tasks.length concurrency) state
  obtain ⟨busy, settled, outcomes, holds, ledger⟩ :=
    (Ledger.start (min concurrency tasks.length) (begins.kept holding) (fun position inside =>
      dependable.patient (begins.relied position) (waiting position inside))
      fun _ => .ok none).interleaves dependable kept holds interleaves
  have worked : tasks ≠ [] → workers ≠ [] := by
    intro staffed idle
    have length : workers.length = min concurrency tasks.length := by
      simpa [crew] using interleaves.length
    have tasksLength : 0 < tasks.length := List.length_pos_iff.2 staffed
    rw [idle] at length
    simp only [List.length_nil] at length
    omega
  -- The positions have been settled in some order, and each of them once.
  have idle : busy = fun _ => none := funext (ledger.free ended)
  have all := ledger.books.complete (ledger.exhausted ended worked) (ledger.free ended)
  have books := ledger.books
  rw [idle] at books
  refine ⟨⟨both, settled, outcomes⟩, holds, all, ledger.holding, fun position inside => ?_, books,
    rfl⟩
  exact ledger.ended position (all.mem_iff.2 (List.mem_range.2 inside))

/-- However the workers of a batch move, each of its tasks ends as it should, its rows are those of the
tasks in order, and its failures are those of the tasks. -/
theorem Batched.complete (dependable : surroundings.Dependable tasks duties) {concurrency : Nat}
    (positive : 1 ≤ concurrency) {state : σ} (holding : duties.holds state)
    (waiting : ∀ position < tasks.length, duties.waits position state) {last : σ × Board}
    (batched : surroundings.Batched tasks concurrency state last) :
    ∃ outcomes : Nat → TaskOutcome, duties.holds last.1 ∧
      (∀ position < tasks.length, duties.ends position (outcomes position) last.1) ∧
      last.2.rowsInOrder tasks.length =
        (List.range tasks.length).filterMap (fun position =>
          (resultsOf tasks outcomes position).bind RowResult.row?) ∧
      last.2.failures.Perm ((List.range tasks.length).filterMap fun position =>
        (resultsOf tasks outcomes position).bind RowResult.failure?) := by
  let anything (_ : Account σ) : Prop := True
  have kept {before after : Account σ} (_ : surroundings.Stage tasks duties before after)
      (_ : anything before) : anything after := trivial
  obtain ⟨⟨both, settled, outcomes⟩, _, all, holding, ended, books, rfl⟩ :=
    batched.closed dependable positive holding waiting kept trivial
  have finished := dependable.notify
    (.finish both.2.completed both.2.failures.length tasks.length) both.1
  refine ⟨outcomes, finished.kept holding, fun position inside => ?_, ?_, ?_⟩
  · exact ended position inside _ (finished.relied position)
  · refine List.filterMap_congr fun position member => ?_
    have rows := books.rows
    dsimp only at rows
    rw [rows, lookup_filterMap, if_pos (all.mem_iff.2 member)]
  · have failures := books.failures
    dsimp only at failures
    rw [failures]
    exact all.filterMap _

end

/-- What tasks owe of which nothing is asked but an outcome as it should be. -/
def Duties.outcomes (good : TaskOutcome → Prop) : Duties σ where
  contract _ := .any
  holds _ := True
  waits _ _ := True
  ends _ outcome _ := good outcome

theorem dependable_outcomes {good : TaskOutcome → Prop}
    (yields : ∀ (position : Nat) (task : BatchTask σ), tasks[position]? = some task →
      (task.execute position).Yields good) :
    surroundings.Dependable tasks (.outcomes good) where
  notify _ _ := ⟨fun _ => trivial, id⟩
  report _ _ _ := ⟨fun _ => trivial, id⟩
  owed _ _ := trivial
  kept _ _ _ := trivial
  patient _ _ := trivial
  tasks position task found state _ _ := yields position task found state

end Surroundings

end Colloquy
