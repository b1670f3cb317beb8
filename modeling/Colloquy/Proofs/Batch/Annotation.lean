import Colloquy.Proofs.Batch.Ledger
import Colloquy.Proofs.Process.Annotation

/-!
# Annotated batches

A batch whose tasks write down what they do, and that is else like another, can go every way that the
other goes.
-/

set_option autoImplicit false

namespace Colloquy

variable {σ τ : Type}

namespace Surroundings

/-- The second surroundings do on a state what the first do on the part that `erase` shows. -/
structure AnnotatedBy (erase : τ → σ) (surroundings : Surroundings σ) (annotated : Surroundings τ) :
    Prop where
  report : ∀ level text whole, erase (annotated.report level text whole) =
    surroundings.report level text (erase whole)
  hear : ∀ notice whole, surroundings.observer.hear notice (erase whole) =
    ((annotated.observer.hear notice whole).1, erase (annotated.observer.hear notice whole).2)

/-- The second task is recorded with the seed of the first, and does the same. -/
structure TaskAnnotatedBy (erase : τ → σ) (task : BatchTask σ) (annotated : BatchTask τ) :
    Prop where
  seed : annotated.seed = task.seed
  execute : ∀ position, (task.execute position).AnnotatedBy erase (annotated.execute position)

/-- What an annotated batch shows of the state and the board. -/
def eraseBoth (erase : τ → σ) (both : τ × Board) : σ × Board := (erase both.1, both.2)

variable {erase : τ → σ} {surroundings : Surroundings σ} {annotated : Surroundings τ}

theorem taskAnnotatedBy_at {tasks : List (BatchTask σ)} {annotatedTasks : List (BatchTask τ)}
    (each : List.Forall₂ (TaskAnnotatedBy erase) tasks annotatedTasks) (position : Nat) :
    Option.Rel (TaskAnnotatedBy erase) tasks[position]? annotatedTasks[position]? := by
  induction each generalizing position with
  | nil => exact .none
  | cons same _ ih =>
      cases position with
      | zero => exact .some same
      | succ position => simpa using ih position

namespace AnnotatedBy

variable (annotates : surroundings.AnnotatedBy erase annotated)

include annotates

theorem notify (notice : Notice) (whole : τ) :
    erase (annotated.notify notice whole) = surroundings.notify notice (erase whole) := by
  unfold Surroundings.notify
  rw [annotates.hear]
  rcases annotated.observer.hear notice whole with ⟨result, heard⟩
  cases result with
  | ok => rfl
  | error error => exact annotates.report _ _ heard

theorem begin (total : Nat) (both : τ × Board) :
    eraseBoth erase (annotated.begin total both) =
      surroundings.begin total (eraseBoth erase both) := by
  unfold Surroundings.begin eraseBoth
  split
  · rw [annotates.notify]
  · rfl

theorem keep (position : Nat) (result : Option RowResult) (both : τ × Board) :
    eraseBoth erase (annotated.keep position result both) =
      surroundings.keep position result (eraseBoth erase both) := by
  rcases result with _ | ⟨index, row⟩ | cause
  · rfl
  · rfl
  · simp [Surroundings.keep, drop, eraseBoth, annotates.notify, annotates.report]

theorem settle (total position : Nat) (result : Option RowResult) (both : τ × Board) :
    eraseBoth erase (annotated.settle total position result both) =
      surroundings.settle total position result (eraseBoth erase both) := by
  unfold Surroundings.settle
  rw [← annotates.keep]
  simp [eraseBoth, annotates.notify]

variable {tasks : List (BatchTask σ)} {annotatedTasks : List (BatchTask τ)}
variable (each : List.Forall₂ (TaskAnnotatedBy erase) tasks annotatedTasks)

include each

theorem worker (turns : Nat) :
    (surroundings.worker tasks turns).AnnotatedBy (eraseBoth erase)
      (annotated.worker annotatedTasks turns) := by
  induction turns with
  | zero => exact .done ()
  | succ turns ih =>
      refine .step (fun both => ?_) fun before => ?_
      · rw [← each.length_eq]
        exact annotates.begin _ both
      · have here := taskAnnotatedBy_at each before.2.next
        rw [show (eraseBoth erase before).2.next = before.2.next from rfl]
        generalize tasks[before.2.next]? = task at here ⊢
        generalize annotatedTasks[before.2.next]? = task' at here ⊢
        cases here with
        | none => exact .done ()
        | some same =>
            refine .bind (.zoom (fun _ => rfl) (fun _ _ => rfl) (fun _ => rfl) (same.execute _)) ?_
            refine fun outcome => .step (fun both => ?_) fun _ => ih
            rw [← each.length_eq, same.seed]
            exact annotates.settle _ _ _ both

/-- The workers of an annotated batch can move as those of the other do. -/
theorem follow {concurrency : Nat} {whole : τ}
    {moment : List (Process (σ × Board) Empty Empty Unit) × (σ × Board)}
    (interleaves : Process.Interleaves Process.Nothing
      (surroundings.crew tasks concurrency (erase whole)) moment) :
    ∃ workers both, Process.Interleaves Process.Nothing
        (annotated.crew annotatedTasks concurrency whole) (workers, both) ∧
      eraseBoth erase both = moment.2 ∧
      Process.PoolAnnotatedBy (eraseBoth erase) moment.1 workers := by
  let crew := annotated.crew annotatedTasks concurrency whole
  have shown : eraseBoth erase crew.2 = (surroundings.crew tasks concurrency (erase whole)).2 := by
    simp only [crew, Surroundings.crew, eraseBoth, annotates.notify, each.length_eq]
  have follows : Process.PoolAnnotatedBy (eraseBoth erase)
      (surroundings.crew tasks concurrency (erase whole)).1 crew.1 := by
    simp only [crew, Surroundings.crew, ← each.length_eq]
    exact .replicate _ (annotates.worker each tasks.length)
  exact follows.follow shown interleaves

/-- An annotated batch can go every way that the other goes, to the same board. -/
theorem batched {concurrency : Nat} {whole : τ} {last : σ × Board}
    (batched : surroundings.Batched tasks concurrency (erase whole) last) :
    ∃ last', annotated.Batched annotatedTasks concurrency whole last' ∧
      last = eraseBoth erase last' := by
  obtain ⟨workers, both, interleaves, ended, rfl⟩ := batched
  obtain ⟨reached, between, onward, same, follows⟩ := annotates.follow each interleaves
  -- Behind the last move of the other workers some steps may be left that do not show.
  obtain ⟨idle, last, finish, same', ended'⟩ := follows.finish ended between
  refine ⟨_, ⟨idle, last, onward.trans finish, ended', rfl⟩, ?_⟩
  have both : both = eraseBoth erase last := (same'.trans same).symm
  subst both
  simp only [eraseBoth, annotates.notify, each.length_eq]

end AnnotatedBy

/-- The same surroundings, beside something that they leave alone. -/
def beside (surroundings : Surroundings σ) (ρ : Type) : Surroundings (σ × ρ) where
  report level text both := (surroundings.report level text both.1, both.2)
  observer := surroundings.observer.zoom Prod.fst fun state both => (state, both.2)

theorem annotatedBy_beside (surroundings : Surroundings σ) (ρ : Type) :
    surroundings.AnnotatedBy Prod.fst (surroundings.beside ρ) where
  report _ _ _ := rfl
  hear _ _ := rfl

theorem notify_beside {ρ : Type} (surroundings : Surroundings σ) (notice : Notice) (both : σ × ρ) :
    (surroundings.beside ρ).notify notice both = (surroundings.notify notice both.1, both.2) := by
  unfold Surroundings.notify
  rcases heard : surroundings.observer.hear notice both.1 with ⟨result, after⟩
  have same : (surroundings.beside ρ).observer.hear notice both = (result, after, both.2) := by
    simp [beside, Observer.zoom, heard]
  rw [same]
  cases result <;> rfl

end Surroundings

end Colloquy
