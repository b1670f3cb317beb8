import Colloquy.Proofs.Process.Interleaving
import Mathlib.Data.List.Forall2

/-!
# Annotated processes

A process on a larger state may do what another does, and beside that write down what nobody reads.
Whatever way the processes of a pool go, their annotated versions can go the same way, so that what
they write down is a record of what the others did.
-/

set_option autoImplicit false

namespace Colloquy.Process

variable {σ σ' τ τ' Q Q' R R' α β : Type}

/-- The second process does on a state what the first does on the part that `erase` shows. Beside
that it may take steps that do not show. -/
inductive AnnotatedBy (erase : τ → σ) : Process σ Q R α → Process τ Q R α → Prop where
  | done (result : α) : AnnotatedBy erase (done result) (done result)
  | step {update : σ → σ} {update' : τ → τ} {next : σ → Process σ Q R α}
      {next' : τ → Process τ Q R α}
      (shown : ∀ whole, erase (update' whole) = update (erase whole))
      (rest : ∀ whole, AnnotatedBy erase (next (erase whole)) (next' whole)) :
      AnnotatedBy erase (step update next) (step update' next')
  | ask {query : Q} {next : R → Process σ Q R α} {next' : R → Process τ Q R α}
      (rest : ∀ answer, AnnotatedBy erase (next answer) (next' answer)) :
      AnnotatedBy erase (ask query next) (ask query next')
  | pause {next : Process σ Q R α} {next' : Process τ Q R α} (rest : AnnotatedBy erase next next') :
      AnnotatedBy erase (pause next) (pause next')
  | note {process : Process σ Q R α} {update : τ → τ} {next : τ → Process τ Q R α}
      (hidden : ∀ whole, erase (update whole) = erase whole)
      (rest : ∀ whole, AnnotatedBy erase process (next whole)) :
      AnnotatedBy erase process (step update next)

namespace AnnotatedBy

variable {erase : τ → σ} {process : Process σ Q R α} {annotated : Process τ Q R α}

theorem bind {next : α → Process σ Q R β} {next' : α → Process τ Q R β}
    (annotates : process.AnnotatedBy erase annotated)
    (rest : ∀ result, (next result).AnnotatedBy erase (next' result)) :
    (process.bind next).AnnotatedBy erase (annotated.bind next') := by
  induction annotates with
  | done result => exact rest result
  | step shown _ ih => exact .step shown ih
  | ask _ ih => exact .ask ih
  | pause _ ih => exact .pause ih
  | note hidden _ ih => exact .note hidden ih

/-- The rule for processes on parts of larger states. -/
theorem zoom {whole : τ' → σ'} {part : σ' → σ} {replace : σ → σ' → σ'} {part' : τ' → τ}
    {replace' : τ → τ' → τ'} (inside : ∀ state, erase (part' state) = part (whole state))
    (back : ∀ inner state, whole (replace' inner state) = replace (erase inner) (whole state))
    (same : ∀ state, replace (part state) state = state)
    (annotates : process.AnnotatedBy erase annotated) :
    (process.zoom part replace).AnnotatedBy whole (annotated.zoom part' replace') := by
  induction annotates with
  | done result => exact .done result
  | step shown _ ih =>
      refine .step ?_ ?_
      · intro state
        rw [back, shown, inside]
      · intro state
        rw [← inside]
        exact ih (part' state)
  | ask _ ih => exact .ask ih
  | pause _ ih => exact .pause ih
  | note hidden _ ih =>
      refine .note ?_ ?_
      · intro state
        rw [back, hidden, inside, same]
      · intro state
        exact ih (part' state)

/-- The rule for processes that keep a part of their state to themselves, all of which shows. -/
theorem own {ρ : Type} {process : Process (σ × ρ) Q R α} {annotated : Process (τ × ρ) Q R α}
    (annotates : process.AnnotatedBy (fun both => (erase both.1, both.2)) annotated) (part : ρ) :
    (process.own part).AnnotatedBy erase (annotated.own part) := by
  induction annotates generalizing part with
  | done result => exact .done (result, part)
  | step shown _ ih =>
      refine .step (fun whole => congrArg Prod.fst (shown (whole, part))) fun whole => ?_
      have kept := congrArg Prod.snd (shown (whole, part))
      dsimp only at kept
      rw [kept]
      exact ih (whole, part) _
  | ask _ ih => exact .ask fun answer => ih answer part
  | pause _ ih => exact .pause (ih part)
  | note hidden _ ih =>
      refine .note (fun whole => congrArg Prod.fst (hidden (whole, part))) fun whole => ?_
      have kept := congrArg Prod.snd (hidden (whole, part))
      dsimp only at kept
      rw [kept]
      exact ih (whole, part) part

/-- The rule for processes whose queries are answered by processes. -/
theorem handle {answer : Q → Process σ Q' R' R} {answer' : Q → Process τ Q' R' R}
    (answered : ∀ query, (answer query).AnnotatedBy erase (answer' query))
    (annotates : process.AnnotatedBy erase annotated) :
    (process.handle answer).AnnotatedBy erase (annotated.handle answer') := by
  induction annotates with
  | done result => exact .done result
  | step shown _ ih => exact .step shown ih
  | ask _ ih => exact (answered _).bind ih
  | pause _ ih => exact .pause ih
  | note hidden _ ih => exact .note hidden ih

/-- A process is annotated by itself. -/
theorem refl (process : Process σ Q R α) : process.AnnotatedBy id process := by
  induction process with
  | done result => exact .done result
  | step update next ih => exact .step (fun _ => rfl) ih
  | ask query next ih => exact .ask ih
  | pause next ih => exact .pause ih

/-- A process on the shown part is annotated by itself. -/
theorem zoomed {part : τ → σ} {replace : σ → τ → τ}
    (back : ∀ inner state, part (replace inner state) = inner) (process : Process σ Q R α) :
    process.AnnotatedBy part (process.zoom part replace) := by
  induction process with
  | done result => exact .done result
  | step update next ih =>
      refine .step ?_ ?_
      · intro state
        rw [back]
      · intro state
        exact ih (part state)
  | ask query next ih => exact .ask ih
  | pause next ih => exact .pause ih

end AnnotatedBy

section

variable {around : σ → σ → Prop}

theorem Turn.cons (process : Process σ Q R α) {before after : List (Process σ Q R α) × σ}
    (turn : Turn around before after) :
    Turn around (process :: before.1, before.2) (process :: after.1, after.2) := by
  cases turn with
  | @move processes place moving next before after here moves =>
      have there : (process :: processes)[place + 1]? = some moving := by simpa using here
      exact .move there moves
  | around changed => exact .around changed

theorem Interleaves.cons (process : Process σ Q R α) {before after : List (Process σ Q R α) × σ}
    (interleaves : Interleaves around before after) :
    Interleaves around (process :: before.1, before.2) (process :: after.1, after.2) := by
  induction interleaves with
  | refl => exact .refl
  | tail _ turn ih => exact ih.tail (turn.cons process)

end

section

variable {erase : τ → σ} {whole : τ}

/-- What the annotated process at the head of a pool does until it has made a move of the other. -/
theorem AnnotatedBy.move {process next : Process σ Q R α} {annotated : Process τ Q R α} {after : σ}
    (annotates : process.AnnotatedBy erase annotated)
    (moves : process.Move (erase whole) next after) (rest : List (Process τ Q R α)) :
    ∃ next' whole', Interleaves Nothing (annotated :: rest, whole) (next' :: rest, whole') ∧
      erase whole' = after ∧ next.AnnotatedBy erase next' := by
  induction annotates generalizing whole with
  | done result => cases moves
  | step shown onward _ =>
      cases moves
      exact ⟨_, _, .single (.head (.step _ _ whole) rest), shown whole, onward whole⟩
  | ask onward _ =>
      cases moves with
      | ask query next answer =>
          exact ⟨_, _, .single (.head (.ask _ _ answer whole) rest), rfl, onward answer⟩
  | pause onward _ =>
      cases moves
      exact ⟨_, _, .single (.head (.pause _ whole) rest), rfl, onward⟩
  | note hidden _ ih =>
      rw [← hidden whole] at moves
      obtain ⟨next', whole', interleaves, shown, annotates⟩ := ih whole moves
      exact ⟨next', whole', .head (.head (.step _ _ whole) rest) interleaves, shown, annotates⟩

/-- What the annotated process at the head of a pool does when the other has ended. -/
theorem AnnotatedBy.finish {process : Process σ Q R α} {annotated : Process τ Q R α}
    (annotates : process.AnnotatedBy erase annotated) {result : α} (ended : process = .done result)
    (rest : List (Process τ Q R α)) :
    ∃ whole', Interleaves Nothing (annotated :: rest, whole) (.done result :: rest, whole') ∧
      erase whole' = erase whole := by
  induction annotates generalizing whole with
  | done value =>
      cases ended
      exact ⟨whole, .refl, rfl⟩
  | step _ _ _ => cases ended
  | ask _ _ => cases ended
  | pause _ _ => cases ended
  | note hidden _ ih =>
      obtain ⟨whole', interleaves, shown⟩ := ih whole ended
      refine ⟨whole', .head (.head (.step _ _ whole) rest) interleaves, ?_⟩
      rw [shown, hidden]

/-- The processes of a pool are annotated by those of another, each by the one at its place. -/
abbrev PoolAnnotatedBy (erase : τ → σ) :
    List (Process σ Q R α) → List (Process τ Q R α) → Prop :=
  List.Forall₂ (AnnotatedBy erase)

variable {processes : List (Process σ Q R α)} {annotated : List (Process τ Q R α)}

theorem PoolAnnotatedBy.replicate (count : Nat) {process : Process σ Q R α}
    {annotated : Process τ Q R α} (annotates : process.AnnotatedBy erase annotated) :
    PoolAnnotatedBy erase (List.replicate count process) (List.replicate count annotated) := by
  induction count with
  | zero => exact .nil
  | succ count ih => exact .cons annotates ih

theorem PoolAnnotatedBy.move (annotates : PoolAnnotatedBy erase processes annotated) {place : Nat}
    {process next : Process σ Q R α} {after : σ} (here : processes[place]? = some process)
    (moves : process.Move (erase whole) next after) :
    ∃ annotated' whole', Interleaves Nothing (annotated, whole) (annotated', whole') ∧
      erase whole' = after ∧ PoolAnnotatedBy erase (processes.set place next) annotated' := by
  induction annotates generalizing place with
  | nil => simp at here
  | @cons first annotatedFirst rest annotatedRest same others ih =>
      cases place with
      | zero =>
          rw [List.getElem?_cons_zero, Option.some.injEq] at here
          subst here
          obtain ⟨next', whole', interleaves, shown, annotates⟩ := same.move moves annotatedRest
          exact ⟨_, whole', interleaves, shown, .cons annotates others⟩
      | succ place =>
          obtain ⟨annotated', whole', interleaves, shown, annotates⟩ := ih (by simpa using here)
          exact ⟨_, whole', interleaves.cons annotatedFirst, shown, .cons same annotates⟩

theorem PoolAnnotatedBy.finish (annotates : PoolAnnotatedBy erase processes annotated)
    (ended : ∀ process ∈ processes, ∃ result, process = done result) (whole : τ) :
    ∃ annotated' whole', Interleaves Nothing (annotated, whole) (annotated', whole') ∧
      erase whole' = erase whole ∧ ∀ process ∈ annotated', ∃ result, process = done result := by
  induction annotates generalizing whole with
  | nil => exact ⟨[], whole, .refl, rfl, fun _ member => nomatch member⟩
  | @cons first annotatedFirst rest annotatedRest same others ih =>
      obtain ⟨result, last⟩ := ended first List.mem_cons_self
      obtain ⟨between, interleaves, shown⟩ := same.finish last annotatedRest
      obtain ⟨annotated', whole', onward, shown', all⟩ :=
        ih (fun process member => ended process (List.mem_cons_of_mem _ member)) between
      refine ⟨_, whole', interleaves.trans (onward.cons (done result)), shown'.trans shown, ?_⟩
      intro process member
      rcases List.mem_cons.1 member with rfl | later
      · exact ⟨result, rfl⟩
      · exact all process later

/-- The annotated pool can go the way of the other. -/
theorem PoolAnnotatedBy.follow {before after : List (Process σ Q R α) × σ}
    (annotates : PoolAnnotatedBy erase before.1 annotated) (shown : erase whole = before.2)
    (interleaves : Interleaves Nothing before after) :
    ∃ annotated' whole', Interleaves Nothing (annotated, whole) (annotated', whole') ∧
      erase whole' = after.2 ∧ PoolAnnotatedBy erase after.1 annotated' := by
  induction interleaves with
  | refl => exact ⟨annotated, whole, .refl, shown, annotates⟩
  | tail _ turn ih =>
      obtain ⟨between, middle, reached, same, annotates⟩ := ih
      cases turn with
      | move here moves =>
          dsimp only at same
          rw [← same] at moves
          obtain ⟨annotated', whole', onward, shown, annotates⟩ := annotates.move here moves
          exact ⟨annotated', whole', reached.trans onward, shown, annotates⟩
      | around changed => exact changed.elim

end

end Colloquy.Process
