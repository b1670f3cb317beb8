import Colloquy.Dataset.Run
import Colloquy.Proofs.Row.Alone

/-!
# Rows with a client

A client whose answers are a function of the call answers the calls of a row always alike. The row
then comes to its own result, in a pool of its own or in one from which it takes nothing.
-/

set_option autoImplicit false

namespace Colloquy

variable {μ α : Type}

/-- The answers of the client are a function of the calls, whatever others do meanwhile. It has no
access to the pool. -/
def Client.Answers (client : Client μ) (reply : ModelCall → Except Error Reply) : Prop :=
  ∀ call both, (client.answer call).Abides
    (.preserving (fun both => both.1.pool) fun _ _ => True) (fun answer _ => answer = reply call) both

/-- The answers to calls whose system messages are moved to the front. -/
def hoistedReply (reply : ModelCall → Except Error Reply) (call : ModelCall) : Except Error Reply :=
  match Model.hoist call.messages with
  | .ok messages => reply ⟨call.form, messages⟩
  | .error error => .error error

namespace Client.Answers

variable {client : Client μ} {reply : ModelCall → Except Error Reply}

theorem hoisted (answers : client.Answers reply) : client.hoisted.Answers (hoistedReply reply) := by
  intro call both
  simp only [Client.hoisted, hoistedReply]
  cases Model.hoist call.messages with
  | ok messages => exact answers ⟨call.form, messages⟩ both
  | error error => exact fun _ _ => rfl

theorem abides_serve (answers : client.Answers reply) {owed : Shared → Shared → Prop}
    (lenient : ∀ before after : Shared, after.pool = before.pool → owed before after)
    {process : RowProcess α} {ends : α → Prop} {both : Shared × μ}
    (abides : process.Abides (.sheltered Shared.pool owed fun call answer => answer = reply call)
      (fun result _ => ends result) both.1) :
    (client.serve process).Abides
      (.sheltered (fun both => both.1.pool) (fun before after => owed before.1 after.1)
        fun _ _ => True)
      (fun result _ => ends result) both := by
  let asked : Contract (Shared × μ) ModelCall (Except Error Reply) :=
    .sheltered (fun both => both.1.pool) (fun before after => owed before.1 after.1)
      fun call answer => answer = reply call
  have zoomed : (process.zoom Prod.fst fun shared (both : Shared × μ) => (shared, both.2)).Abides
      asked (fun result _ => ends result) both := by
    refine Process.Abides.zoom ?_ ?_ ?_ abides
    · exact fun _ _ relied => relied
    · exact fun _ _ owed => ⟨rfl, owed⟩
    · exact fun _ _ admitted => admitted
  refine Process.Abides.handle ?_ ?_ ?_ zoomed
  · exact fun _ _ relied => relied
  · exact fun _ _ owed => owed
  · intro call both
    -- What the row relies on while it waits is what the client owes: the pool stays as it is.
    have answered := (answers call both).within fun before after => after.1.pool = before.1.pool
    refine (answered ?_ ?_ ?_ ?_).weaken ?_ ?_ ?_
    · exact fun _ => rfl
    · exact fun first second => second.trans first
    · exact fun relied => relied
    · exact fun kept => kept
    · exact fun _ _ relied => relied
    · exact fun _ _ kept => lenient _ _ kept
    · exact fun _ _ admitted => admitted

end Client.Answers

/-- A computation with a pool of its own that starts out fresh keeps the shared pool as it is. -/
theorem abides_inOwnPool {process : Process (Shared × μ) Empty Empty α} {ends : α → Prop}
    (abides : ∀ both : Shared × μ, both.1.pool = .fresh → process.Abides
      (.sheltered (fun both => both.1.pool) (fun _ _ => True) fun _ _ => True)
      (fun result _ => ends result) both) (both : Shared × μ) :
    (inOwnPool process).Abides (.preserving (fun both => both.1.pool) fun _ _ => True)
      (fun result _ => ends result) both := by
  let whole : Contract ((Shared × μ) × Unique.Store) Empty Empty :=
    .sheltered Prod.snd (fun before after => after.1.1.pool = before.1.1.pool) fun _ _ => True
  have zoomed : (process.zoom
      (fun whole : (Shared × μ) × Unique.Store => ({ whole.1.1 with pool := whole.2 }, whole.1.2))
      fun inner whole =>
        (({ inner.1 with pool := whole.1.1.pool }, inner.2), inner.1.pool)).Abides whole
      (fun result _ => ends result) (both, .fresh) := by
    refine Process.Abides.zoom ?_ ?_ ?_ (abides _ rfl)
    · exact fun _ _ relied => relied
    · exact fun _ _ _ => ⟨rfl, rfl⟩
    · exact fun _ _ _ => trivial
  refine .bind ((Process.Abides.own ?_ ?_ ?_ zoomed).mono ?_)
  · exact fun _ _ _ _ => rfl
  · exact fun _ _ owed => owed
  · exact fun _ _ _ => trivial
  · exact fun _ _ ended _ _ => ended

/-- All choices of the recipe may be repeated: none is made by a uniqueness rule. -/
def RowRecipe.IsRepeatable (recipe : RowRecipe) : Prop :=
  recipe.ChoosesBy fun uniqueBy => uniqueBy = none

/-- A row that the run generates comes to its own result, and keeps the pool that rows share. -/
theorem Run.abides_serve {π ω : Type} {run : Run μ π ω} {reply : ModelCall → Except Error Reply}
    (answers : run.client.Answers reply) {recipe : RowRecipe}
    (seeded : recipe.seed.isSome = true) (separate : run.scope = .row ∨ recipe.IsRepeatable)
    (both : Shared × μ) :
    (run.serve recipe).Abides (.preserving (fun both => both.1.pool) fun _ _ => True)
      (fun result _ =>
        result = (recipe.result (hoistedReply reply)).dated recipe.startTimestamp) both := by
  have answers := answers.hoisted
  unfold Run.serve
  dsimp only
  split
  next scope =>
    have repeatable : recipe.IsRepeatable := by
      rcases separate with row | repeatable
      · rw [scope] at row
        cases row
      · exact repeatable
    have served := answers.abides_serve (fun _ _ kept => kept)
      (RowRecipe.abides_once_repeatable seeded repeatable both.1)
    exact .bind (served.mono fun _ _ ended _ _ => ended)
  next =>
    refine abides_inOwnPool (fun both fresh => ?_) both
    have served := answers.abides_serve (fun _ _ _ => trivial)
      (RowRecipe.abides_once_fresh seeded fresh)
    exact .bind (served.mono fun _ _ ended _ _ => ended)

end Colloquy
