import Colloquy.Process.Basic

/-!
# Contracts of processes

What can be said of a process among others whose code is not known: if the others change the state
only as the process may rely on, and queries are answered as it may expect, then each of its own
steps keeps to what it guarantees, and it ends as it should. Contracts follow the tree of a process,
so each way of building processes has one rule.
-/

set_option autoImplicit false

namespace Colloquy

/-- What a process on a state `σ` may count on, and what each of its steps owes the others. -/
structure Contract (σ Q R : Type) where
  /-- How others may have changed the state before the process goes on. -/
  relies : σ → σ → Prop
  /-- How a step of the process may change the state. -/
  guarantees : σ → σ → Prop
  /-- How a query may be answered. -/
  answers : Q → R → Prop
  relies_refl : ∀ state, relies state state
  relies_trans : ∀ {before between after}, relies before between → relies between after →
    relies before after

/-- Others may do anything, answers may be anything, and nothing is owed. -/
def Contract.any {σ Q R : Type} : Contract σ Q R :=
  ⟨fun _ _ => True, fun _ _ => True, fun _ _ => True, fun _ => trivial, fun _ _ => trivial⟩

/-- A contract about what can be seen of a larger state. Answers may be anything. -/
def Contract.along {σ τ Q R Q' R' : Type} (view : τ → σ) (contract : Contract σ Q R) :
    Contract τ Q' R' where
  relies before after := contract.relies (view before) (view after)
  guarantees before after := contract.guarantees (view before) (view after)
  answers _ _ := True
  relies_refl _ := contract.relies_refl _
  relies_trans := contract.relies_trans

/-- Whether an environment changes the state and answers as a contract lets it. -/
structure Environment.Respects {σ μ Q R : Type} (environment : Environment σ μ Q R)
    (contract : Contract σ Q R) : Prop where
  meanwhile : ∀ both, contract.relies both.1 (environment.meanwhile both).1
  answer : ∀ query both, contract.answers query (environment.answer query both).1
  relies : ∀ query both, contract.relies both.1 (environment.answer query both).2.1

theorem Environment.respects_any {σ μ Q R : Type} (environment : Environment σ μ Q R) :
    environment.Respects Contract.any :=
  ⟨fun _ => trivial, fun _ _ => trivial, fun _ _ => trivial⟩

namespace Process

variable {σ τ Q R Q' R' α β : Type}

/-- The process keeps to a contract from a state on, and ends with results and states that are as
they should be. Between any two of its nodes others may have changed the state. -/
def Abides (contract : Contract σ Q R) (ends : α → σ → Prop) : Process σ Q R α → σ → Prop
  | done result, state => ∀ after, contract.relies state after → ends result after
  | step update next, state => ∀ after, contract.relies state after →
      contract.guarantees after (update after) ∧
        (next after).Abides contract ends (update after)
  | ask query next, state => ∀ answer, contract.answers query answer →
      (next answer).Abides contract ends state
  | pause next, state => next.Abides contract ends state

/-- Every result of the process is as it should be, whatever happens around it. -/
def Yields (ends : α → Prop) (process : Process σ Q R α) : Prop :=
  ∀ state, process.Abides Contract.any (fun result _ => ends result) state

namespace Abides

variable {contract : Contract σ Q R} {ends : α → σ → Prop}

theorem stable {process : Process σ Q R α} {before after : σ}
    (abides : process.Abides contract ends before) (changed : contract.relies before after) :
    process.Abides contract ends after := by
  induction process with
  | done result =>
      intro later relied
      exact abides later (contract.relies_trans changed relied)
  | step update next ih =>
      intro later relied
      exact abides later (contract.relies_trans changed relied)
  | ask query next ih =>
      intro answer admitted
      exact ih answer (abides answer admitted)
  | pause next ih => exact ih abides

theorem mono {ends' : α → σ → Prop} (weaker : ∀ result state, ends result state → ends' result state)
    {process : Process σ Q R α} {state : σ} (abides : process.Abides contract ends state) :
    process.Abides contract ends' state := by
  induction process generalizing state with
  | done result =>
      intro after relied
      exact weaker result after (abides after relied)
  | step update next ih =>
      intro after relied
      exact ⟨(abides after relied).1, ih after (abides after relied).2⟩
  | ask query next ih =>
      intro answer admitted
      exact ih answer (abides answer admitted)
  | pause next ih => exact ih abides

/-- A process that has ended as it should stays so, whatever others do afterwards. -/
theorem lasting {process : Process σ Q R α} {state : σ}
    (abides : process.Abides contract ends state) :
    process.Abides contract
      (fun result state => ∀ after, contract.relies state after → ends result after) state := by
  induction process generalizing state with
  | done result =>
      intro between relied after later
      exact abides after (contract.relies_trans relied later)
  | step update next ih =>
      intro after relied
      exact ⟨(abides after relied).1, ih after (abides after relied).2⟩
  | ask query next ih =>
      intro answer admitted
      exact ih answer (abides answer admitted)
  | pause next ih => exact ih abides

/-- A process keeps to another contract that expects more and owes less. For what it owes an
invariant may be used that all changes keep. -/
theorem keeping (invariant : σ → Prop) {other : Contract σ Q R}
    (relies : ∀ before after, other.relies before after → contract.relies before after)
    (kept : ∀ before after, invariant before → contract.relies before after → invariant after)
    (owed : ∀ before after, invariant before → contract.guarantees before after →
      other.guarantees before after ∧ invariant after)
    (answers : ∀ query answer, other.answers query answer → contract.answers query answer)
    {process : Process σ Q R α} {state : σ} (abides : process.Abides contract ends state)
    (holds : invariant state) :
    process.Abides other (fun result after => ends result after ∧ invariant after) state := by
  induction process generalizing state with
  | done result =>
      intro after relied
      have relied := relies _ _ relied
      exact ⟨abides after relied, kept _ _ holds relied⟩
  | step update next ih =>
      intro after relied
      have relied := relies _ _ relied
      have here := abides after relied
      obtain ⟨guaranteed, holds⟩ := owed _ _ (kept _ _ holds relied) here.1
      exact ⟨guaranteed, ih after here.2 holds⟩
  | ask query next ih =>
      intro answer admitted
      exact ih answer (abides answer (answers _ _ admitted)) holds
  | pause next ih => exact ih abides holds

/-- A process that keeps to a contract keeps to one that expects more and owes less. -/
theorem weaken {other : Contract σ Q R}
    (relies : ∀ before after, other.relies before after → contract.relies before after)
    (guarantees : ∀ before after, contract.guarantees before after → other.guarantees before after)
    (answers : ∀ query answer, other.answers query answer → contract.answers query answer)
    {process : Process σ Q R α} {state : σ} (abides : process.Abides contract ends state) :
    process.Abides other ends state := by
  have kept := abides.keeping (fun _ => True) relies (fun _ _ _ _ => trivial)
    (fun before after _ owed => ⟨guarantees before after owed, trivial⟩) answers trivial
  exact kept.mono fun _ _ known => known.1

theorem of_free (free : ∀ before after, contract.guarantees before after)
    (process : Process σ Q R α) (state : σ) :
    process.Abides contract (fun _ _ => True) state := by
  induction process generalizing state with
  | done result => exact fun _ _ => trivial
  | step update next ih => exact fun after _ => ⟨free _ _, ih after _⟩
  | ask query next ih => exact fun answer _ => ih answer state
  | pause next ih => exact ih state

theorem bind {process : Process σ Q R β} {next : β → Process σ Q R α} {state : σ}
    (abides : process.Abides contract
      (fun result state => (next result).Abides contract ends state) state) :
    (process.bind next).Abides contract ends state := by
  induction process generalizing state with
  | done result => exact abides state (contract.relies_refl state)
  | step update rest ih =>
      intro after relied
      exact ⟨(abides after relied).1, ih after (abides after relied).2⟩
  | ask query rest ih =>
      intro answer admitted
      exact ih answer (abides answer admitted)
  | pause rest ih => exact ih abides

theorem of_bind {process : Process σ Q R β} {next : β → Process σ Q R α} {state : σ}
    (abides : (process.bind next).Abides contract ends state) :
    process.Abides contract (fun result state => (next result).Abides contract ends state) state := by
  induction process generalizing state with
  | done result => exact fun after relied => abides.stable relied
  | step update rest ih =>
      intro after relied
      exact ⟨(abides after relied).1, ih after (abides after relied).2⟩
  | ask query rest ih =>
      intro answer admitted
      exact ih answer (abides answer admitted)
  | pause rest ih => exact ih abides

theorem and {ends' : α → σ → Prop} {process : Process σ Q R α} {state : σ}
    (first : process.Abides contract ends state) (second : process.Abides contract ends' state) :
    process.Abides contract (fun result state => ends result state ∧ ends' result state) state := by
  induction process generalizing state with
  | done result =>
      intro after relied
      exact ⟨first after relied, second after relied⟩
  | step update next ih =>
      intro after relied
      exact ⟨(first after relied).1, ih after (first after relied).2 (second after relied).2⟩
  | ask query next ih =>
      intro answer admitted
      exact ih answer (first answer admitted) (second answer admitted)
  | pause next ih => exact ih first second

/-- If all changes keep to a relation, then the last state is related to the first. -/
theorem within (related : σ → σ → Prop) (refl : ∀ state, related state state)
    (trans : ∀ {before between after}, related before between → related between after →
      related before after)
    (relies : ∀ {before after}, contract.relies before after → related before after)
    (guarantees : ∀ {before after}, contract.guarantees before after → related before after)
    {process : Process σ Q R α} {state : σ} (abides : process.Abides contract ends state) :
    process.Abides contract (fun result after => ends result after ∧ related state after)
      state := by
  refine abides.keeping (related state) (fun _ _ relied => relied) ?_ ?_ (fun _ _ admitted => admitted)
    (refl state)
  · exact fun _ _ reached relied => trans reached (relies relied)
  · exact fun _ _ reached owed => ⟨owed, trans reached (guarantees owed)⟩

theorem run {μ : Type} {environment : Environment σ μ Q R}
    (respects : environment.Respects contract) {process : Process σ Q R α} {both : σ × μ}
    (abides : process.Abides contract ends both.1) :
    ends (process.run environment both).1 (process.run environment both).2.1 := by
  induction process generalizing both with
  | done result => exact abides _ (contract.relies_refl _)
  | step update next ih => exact ih both.1 (abides _ (contract.relies_refl _)).2
  | ask query next ih =>
      have asked := abides _ (respects.answer query both)
      exact ih _ (asked.stable (respects.relies query both))
  | pause next ih => exact ih (abides.stable (respects.meanwhile both))

/-- The rule for a process on a part of a larger state. The part has to be found again as each of
the guaranteed steps leaves it. -/
theorem zoom {whole : Contract τ Q R} {part : τ → σ} {replace : σ → τ → τ}
    (relies : ∀ before after, whole.relies before after →
      contract.relies (part before) (part after))
    (guarantees : ∀ before after, contract.guarantees (part before) after →
      part (replace after before) = after ∧ whole.guarantees before (replace after before))
    (answers : ∀ query answer, whole.answers query answer → contract.answers query answer)
    {process : Process σ Q R α} {state : τ} (abides : process.Abides contract ends (part state)) :
    (process.zoom part replace).Abides whole (fun result state => ends result (part state))
      state := by
  induction process generalizing state with
  | done result =>
      intro after relied
      exact abides _ (relies _ _ relied)
  | step update next ih =>
      intro after relied
      have here := abides _ (relies _ _ relied)
      have kept := guarantees after _ here.1
      exact ⟨kept.2, ih _ (by rw [kept.1]; exact here.2)⟩
  | ask query next ih =>
      intro answer admitted
      exact ih answer (abides answer (answers _ _ admitted))
  | pause next ih => exact ih abides

/-- The rule for a process that keeps a part of its state to itself. -/
theorem own {whole : Contract (σ × τ) Q R} {ends : α → σ × τ → Prop}
    (relies : ∀ before after part, contract.relies before after →
      whole.relies (before, part) (after, part))
    (guarantees : ∀ before after, whole.guarantees before after →
      contract.guarantees before.1 after.1)
    (answers : ∀ query answer, contract.answers query answer → whole.answers query answer)
    {process : Process (σ × τ) Q R α} {state : σ} {part : τ}
    (abides : process.Abides whole ends (state, part)) :
    (process.own part).Abides contract (fun result state => ends result.1 (state, result.2))
      state := by
  induction process generalizing state part with
  | done result =>
      intro after relied
      exact abides _ (relies _ _ part relied)
  | step update next ih =>
      intro after relied
      have here := abides _ (relies _ _ part relied)
      exact ⟨guarantees _ _ here.1, ih _ here.2⟩
  | ask query next ih =>
      intro answer admitted
      exact ih answer (abides answer (answers _ _ admitted))
  | pause next ih => exact ih abides

/-- The rule for a process whose queries are answered by another process, which owes what the first
may rely on or what it owes itself. -/
theorem handle {other : Contract σ Q' R'} {answer : Q → Process σ Q' R' R}
    (relies : ∀ before after, other.relies before after → contract.relies before after)
    (guarantees : ∀ before after, contract.guarantees before after → other.guarantees before after)
    (answered : ∀ query state, (answer query).Abides other
      (fun reply after => contract.answers query reply ∧ contract.relies state after) state)
    {process : Process σ Q R α} {state : σ} (abides : process.Abides contract ends state) :
    (process.handle answer).Abides other ends state := by
  induction process generalizing state with
  | done result =>
      intro after relied
      exact abides _ (relies _ _ relied)
  | step update next ih =>
      intro after relied
      have here := abides _ (relies _ _ relied)
      exact ⟨guarantees _ _ here.1, ih after here.2⟩
  | ask query next ih =>
      refine bind ((answered query state).mono fun reply after replied => ?_)
      exact ih reply ((abides reply replied.1).stable replied.2)
  | pause next ih => exact ih abides

end Abides

namespace Yields

variable {ends : α → Prop}

theorem done {result : α} (holds : ends result) :
    (Process.done result : Process σ Q R α).Yields ends :=
  fun _ _ _ => holds

theorem bind {process : Process σ Q R β} {next : β → Process σ Q R α}
    (yields : process.Yields fun result => (next result).Yields ends) :
    (process.bind next).Yields ends := by
  intro state
  exact Abides.bind ((yields state).mono fun result state holds => holds state)

theorem mono {ends' : α → Prop} (weaker : ∀ result, ends result → ends' result)
    {process : Process σ Q R α} (yields : process.Yields ends) : process.Yields ends' :=
  fun state => (yields state).mono fun result _ => weaker result

theorem step {update : σ → σ} {next : σ → Process σ Q R α}
    (yields : ∀ state, (next state).Yields ends) : (Process.step update next).Yields ends :=
  fun _ after _ => ⟨trivial, yields after (update after)⟩

theorem of_step {update : σ → σ} {next : σ → Process σ Q R α}
    (yields : (Process.step update next).Yields ends) (state : σ) : (next state).Yields ends :=
  fun _ => (yields state state trivial).2.stable trivial

theorem ask {query : Q} {next : R → Process σ Q R α}
    (yields : ∀ answer, (next answer).Yields ends) : (Process.ask query next).Yields ends :=
  fun state answer _ => yields answer state

theorem pause {next : Process σ Q R α} (yields : next.Yields ends) :
    (Process.pause next).Yields ends :=
  yields

theorem abides {contract : Contract σ Q R} {process : Process σ Q R α}
    (yields : process.Yields ends) (free : ∀ before after, contract.guarantees before after)
    (state : σ) : process.Abides contract (fun result _ => ends result) state :=
  (yields state).weaken (fun _ _ _ => trivial) (fun before after _ => free before after)
    fun _ _ _ => trivial

theorem run {μ : Type} {process : Process σ Q R α} (yields : process.Yields ends)
    (environment : Environment σ μ Q R) (both : σ × μ) :
    ends (process.run environment both).1 :=
  Abides.run environment.respects_any (yields both.1)

end Yields

theorem zoom_bind (process : Process σ Q R α) (next : α → Process σ Q R β) (part : τ → σ)
    (replace : σ → τ → τ) :
    (process.bind next).zoom part replace =
      (process.zoom part replace).bind fun result => (next result).zoom part replace := by
  induction process with
  | done result => rfl
  | step update rest ih => simp [bind, zoom, ih]
  | ask query rest ih => simp [bind, zoom, ih]
  | pause rest ih => simp [bind, zoom, ih]

theorem run_bind {μ : Type} (process : Process σ Q R α) (next : α → Process σ Q R β)
    (environment : Environment σ μ Q R) (both : σ × μ) :
    (process.bind next).run environment both =
      (next (process.run environment both).1).run environment (process.run environment both).2 := by
  induction process generalizing both with
  | done result => rfl
  | step update rest ih => exact ih _ _
  | ask query rest ih => exact ih _ _
  | pause rest ih => exact ih _

end Process

end Colloquy
