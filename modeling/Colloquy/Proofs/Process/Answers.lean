import Colloquy.Proofs.Process.Contract

/-!
# Results under given answers

What a process may come to among others of which nothing is known, if its queries are answered as they
may be. Since others may do anything to the state, nothing is said of it, and the rules for parts of
larger states have no side conditions.
-/

set_option autoImplicit false

namespace Colloquy.Process

variable {σ τ Q R Q' R' α β : Type} {answers : Q → R → Prop} {ends : α → Prop}

/-- Every result of the process is as it should be, whatever happens to the state, if each query is
answered as it may be. -/
def YieldsGiven (answers : Q → R → Prop) (ends : α → Prop) : Process σ Q R α → Prop
  | done result => ends result
  | step _ next => ∀ state, (next state).YieldsGiven answers ends
  | ask query next => ∀ answer, answers query answer → (next answer).YieldsGiven answers ends
  | pause next => next.YieldsGiven answers ends

namespace YieldsGiven

variable {process : Process σ Q R α}

theorem of_free (process : Process σ Q R α) : process.YieldsGiven answers fun _ => True := by
  induction process with
  | done result => trivial
  | step update next ih => exact ih
  | ask query next ih => exact fun answer _ => ih answer
  | pause next ih => exact ih

theorem mono {ends' : α → Prop} (weaker : ∀ result, ends result → ends' result)
    (yields : process.YieldsGiven answers ends) : process.YieldsGiven answers ends' := by
  induction process with
  | done result => exact weaker result yields
  | step update next ih => exact fun state => ih state (yields state)
  | ask query next ih => exact fun answer admitted => ih answer (yields answer admitted)
  | pause next ih => exact ih yields

theorem bind {next : α → Process σ Q R β} {ends : β → Prop}
    (yields : process.YieldsGiven answers fun result => (next result).YieldsGiven answers ends) :
    (process.bind next).YieldsGiven answers ends := by
  induction process with
  | done result => exact yields
  | step update rest ih => exact fun state => ih state (yields state)
  | ask query rest ih => exact fun answer admitted => ih answer (yields answer admitted)
  | pause rest ih => exact ih yields

theorem zoom {part : τ → σ} {replace : σ → τ → τ} (yields : process.YieldsGiven answers ends) :
    (process.zoom part replace).YieldsGiven answers ends := by
  induction process with
  | done result => exact yields
  | step update next ih => exact fun whole => ih (part whole) (yields (part whole))
  | ask query next ih => exact fun answer admitted => ih answer (yields answer admitted)
  | pause next ih => exact ih yields

theorem own {process : Process (σ × τ) Q R α} (yields : process.YieldsGiven answers ends)
    (part : τ) : (process.own part).YieldsGiven answers fun result => ends result.1 := by
  induction process generalizing part with
  | done result => exact yields
  | step update next ih => exact fun shared => ih (shared, part) (yields (shared, part)) _
  | ask query next ih => exact fun answer admitted => ih answer (yields answer admitted) part
  | pause next ih => exact ih yields part

/-- The rule for a process whose queries are answered by another process. -/
theorem handle {answer : Q → Process σ Q' R' R} {answers' : Q' → R' → Prop}
    (answered : ∀ query, (answer query).YieldsGiven answers' (answers query))
    (yields : process.YieldsGiven answers ends) :
    (process.handle answer).YieldsGiven answers' ends := by
  induction process with
  | done result => exact yields
  | step update next ih => exact fun state => ih state (yields state)
  | ask query next ih =>
      refine bind ((answered query).mono fun reply admitted => ?_)
      exact ih reply (yields reply admitted)
  | pause next ih => exact ih yields

theorem abides {contract : Contract σ Q R} (yields : process.YieldsGiven answers ends)
    (free : ∀ before after, contract.guarantees before after)
    (expects : ∀ query answer, contract.answers query answer → answers query answer) (state : σ) :
    process.Abides contract (fun result _ => ends result) state := by
  induction process generalizing state with
  | done result => exact fun _ _ => yields
  | step update next ih => exact fun after _ => ⟨free _ _, ih after (yields after) _⟩
  | ask query next ih =>
      exact fun answer admitted => ih answer (yields answer (expects query answer admitted)) state
  | pause next ih => exact ih yields state

end YieldsGiven

end Colloquy.Process
