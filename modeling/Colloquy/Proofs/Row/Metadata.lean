import Colloquy.Proofs.Resolution.Rehearsal
import Colloquy.Proofs.Resolution.Updates
import Colloquy.Proofs.Row.Catalogue

/-!
# The metadata of a row

The metadata of the caller enters a row twice: the updates of the schema begin with it, and what they
leave is overridden by it. The id of a row with a seed overrides both. The plan keeps what the updates
leave.
-/

set_option autoImplicit false

namespace Colloquy

variable {μ : Type}

/-- What a process that asks nothing comes to does not depend on the answers. -/
theorem Process.IsSilent.run_congr {σ Q R α : Type} {process : Process σ Q R α}
    (silent : process.IsSilent) {environment other : Environment σ μ Q R}
    (same : other.meanwhile = environment.meanwhile) (both : σ × μ) :
    process.run other both = process.run environment both := by
  induction process generalizing both with
  | done result => rfl
  | step update next ih => exact ih _ (silent _) _
  | ask query next ih => exact silent.elim
  | pause next ih =>
      rw [run, run, same]
      exact ih silent _

namespace RowRecipe

/-- How things are as the check phase of a row begins: what the row sees, its state, and the memory
of what is around it. -/
def checking (recipe : RowRecipe) (both : RowWorld × μ) : Shared × RowState × μ :=
  let entered := both.1.tryEnter recipe.rowIndex .checking
  (entered.view, entered.state, both.2)

/-- The updates of metadata that the check phase of a row comes to, in order. -/
def updates (recipe : RowRecipe)
    (environment : Environment RowWorld μ ModelCall (Except Error Reply)) (both : RowWorld × μ) :
    List MetadataUpdate :=
  match recipe.schema.resolve with
  | .error _ => []
  | .ok root =>
      (root.script .done).updates environment.seen
        (.startCheck recipe.seed (some recipe.rowIndex) recipe.stream recipe.metadata)
        (recipe.checking both)

variable {recipe : RowRecipe}
variable {environment : Environment RowWorld μ ModelCall (Except Error Reply)}
variable {both : RowWorld × μ}

theorem run_transition (recipe : RowRecipe) (target : RowState) :
    ((recipe.transition target).run environment both).2 =
      (both.1.tryEnter recipe.rowIndex target, both.2) := by
  unfold transition
  rw [Process.run]
  split <;> rfl

/-- A row that comes to its generate phase has a plan from its check phase. -/
theorem checked_of_begun {root : Item} {plan : Plan} {ready : RowWorld × μ}
    (begun : recipe.begun environment both = some (root, plan, ready)) :
    recipe.schema.resolve = .ok root ∧ ∃ last,
      ((check root recipe.seed (some recipe.rowIndex) recipe.stream recipe.metadata).run
        environment.seen (recipe.checking both)).1 = .ok (plan, last) := by
  unfold RowRecipe.begun at begun
  cases resolved : recipe.schema.resolve with
  | error error =>
      rw [resolved] at begun
      cases begun
  | ok found =>
      rw [resolved, run_transition] at begun
      have chooses : (check found recipe.seed (some recipe.rowIndex) recipe.stream
          recipe.metadata).MadeOf fun _ => True := madeOf_check (.any _) _ _ _ _
      dsimp only at begun
      rw [run_onView chooses] at begun
      rcases checked : ((check found recipe.seed (some recipe.rowIndex) recipe.stream
        recipe.metadata).run environment.seen (recipe.checking both)) with
        ⟨halt | ⟨made, last⟩, later⟩
      · unfold checking at checked
        simp only [checked] at begun
        cases begun
      · unfold checking at checked
        simp only [checked] at begun
        cases begun
        exact ⟨rfl, last, congrArg Prod.fst checked⟩

/-- The metadata of the plan is what the updates leave of the metadata of the caller. -/
theorem metadata_of_begun {root : Item} {plan : Plan} {ready : RowWorld × μ}
    (mapping : recipe.metadata.AreMapping)
    (begun : recipe.begun environment both = some (root, plan, ready)) :
    (recipe.updates environment both).foldlM MetadataUpdate.apply recipe.metadata =
      .ok plan.metadata := by
  obtain ⟨resolved, last, checked⟩ := checked_of_begun begun
  obtain ⟨initial, taken, folded⟩ := metadata_of_check checked
  cases mapping.eq_of_planMetadata taken
  unfold updates
  rw [resolved]
  exact folded

/-- If only the generate phase asks the model, the plan is the same whatever the answers are. -/
theorem plan_of_begun_silent {root root' : Item} {plan plan' : Plan} {ready ready' : RowWorld × μ}
    {other : Environment RowWorld μ ModelCall (Except Error Reply)}
    (silent : (root.script .done).IsSilent) (same : other.meanwhile = environment.meanwhile)
    (begun : recipe.begun environment both = some (root, plan, ready))
    (begun' : recipe.begun other both = some (root', plan', ready')) : plan' = plan := by
  obtain ⟨resolved, last, checked⟩ := checked_of_begun begun
  obtain ⟨resolved', last', checked'⟩ := checked_of_begun begun'
  cases resolved.symm.trans resolved'
  have alike : other.seen.meanwhile = environment.seen.meanwhile := by
    unfold Environment.seen
    rw [same]
  rw [(silent_check silent _ _ _ _).run_congr alike, checked] at checked'
  cases checked'
  rfl

theorem metadata_of_finish {plan : Plan} {conversation : Generated} {tokens : Option TokenCount}
    {row : Row} (finished : recipe.finish plan conversation tokens = .ok row) :
    Fit.dictionary (.mapping (recipe.mergedMetadata conversation.metadata)) =
      .ok row.provenance.metadata := by
  obtain ⟨origin, fitted, rfl⟩ := map_eq_ok.1 finished
  obtain ⟨⟨⟨model, output⟩, metadata⟩, both, rfl⟩ := Fitted.map_eq_ok.1 (mapError_eq_ok.1 fitted)
  exact Fitted.under_eq_ok.1 (Fitted.both_eq_ok.1 both).2

theorem areMapping_mergedMetadata {fromSchema : Entries}
    (mapping : recipe.metadata.AreMapping) (schema : fromSchema.AreMapping) :
    Entries.AreMapping (recipe.mergedMetadata fromSchema) := by
  have merged := schema.mergeEntries mapping.noBytes
  unfold mergedMetadata
  cases recipe.seed with
  | none => exact merged
  | some seed =>
      refine merged.putEntry (fun name same => ?_) _
      cases same

/-- The id of a seed goes first, then what the caller gives, then what the schema leaves. -/
theorem get?_mergedMetadata (mapping : recipe.metadata.AreMapping) (fromSchema : Entries)
    (name : String) :
    Entries.get? (recipe.mergedMetadata fromSchema) name =
      ((recipe.seed.bind fun seed => if name = "id" then some (.text (rowId seed)) else none).or
        (recipe.metadata.get? name)).or (fromSchema.get? name) := by
  have merged := Entries.get?_mergeEntries fromSchema mapping.distinct name
  unfold mergedMetadata
  cases recipe.seed with
  | none => exact merged
  | some seed =>
      dsimp only [Option.bind_some]
      rw [Entries.get?_putEntry, merged]
      by_cases same : name = "id"
      · rw [if_pos same, if_pos (Datum.equal_text_iff.2 (congrArg Datum.text same.symm))]
        rfl
      · have differs : ¬(Datum.text "id").equal (.text name) = true := by
          rw [Datum.equal_text_iff, Datum.text.injEq]
          exact Ne.symm same
        rw [if_neg same, if_neg differs]
        rfl

/-- The metadata of a row that completes. The plan has what the updates leave that the check phase
comes to, one after the other, of the metadata of the caller. In the row the caller has the last word
on every name but the id, which is that of the seed if there is one; all else is as in the plan. Unless
the check phase asks the model itself, the plan does not depend on the answers. -/
theorem metadata_of_generateRow {row : Row}
    (returned : (recipe.generateRow.run environment both).1 = .ok row)
    (mapping : recipe.metadata.AreMapping)
    (keep : ∀ change ∈ recipe.updates environment both, change.KeepsMapping) :
    (recipe.updates environment both).foldlM MetadataUpdate.apply recipe.metadata =
      .ok row.plan.metadata ∧
    (∀ name value, name ≠ "id" → recipe.metadata.get? name = some value →
      row.provenance.metadata.get? name = some value) ∧
    (∀ seed, recipe.seed = some seed →
      row.provenance.metadata.get? "id" = some (.text (rowId seed))) ∧
    (recipe.seed = none → ∀ value, recipe.metadata.get? "id" = some value →
      row.provenance.metadata.get? "id" = some value) ∧
    (∀ name, recipe.metadata.get? name = none → (name = "id" → recipe.seed = none) →
      row.provenance.metadata.get? name = row.plan.metadata.get? name) ∧
    ∀ root answer other, recipe.schema.resolve = .ok root → (root.script .done).IsSilent →
      (recipe.generateRow.run { environment with answer := answer } both).1 = .ok other →
      other.plan = row.plan := by
  obtain ⟨root, plan, world, memory, conversation, last, tokens, begun, generated, finished⟩ :=
    generated_of_attempt (attempt_of_generateRow returned)
  have folded := metadata_of_begun mapping begun
  have samePlan := (finish_eq_ok finished).2.2
  have schema := MetadataUpdate.areMapping_foldlM keep mapping folded
  have read := metadata_of_finish finished
  rw [metadata_of_generate generated] at read
  have lookup (name : String) : row.provenance.metadata.get? name =
      ((recipe.seed.bind fun seed => if name = "id" then some (.text (rowId seed)) else none).or
        (recipe.metadata.get? name)).or (row.plan.metadata.get? name) := by
    have merged := areMapping_mergedMetadata mapping schema
    rw [← Entries.get?_toEntries, ← merged.toEntries_of_dictionary read,
      get?_mergedMetadata mapping, samePlan]
  refine ⟨samePlan ▸ folded, ?_, ?_, ?_, ?_, ?_⟩
  · intro name value differs given
    rw [lookup, given]
    cases recipe.seed <;> simp [differs]
  · intro seed seeded
    rw [lookup, seeded]
    rfl
  · intro unseeded value given
    rw [lookup, given, unseeded]
    rfl
  · intro name absent unseeded
    rw [lookup, absent]
    by_cases same : name = "id"
    · rw [unseeded same]
      rfl
    · cases recipe.seed <;> simp [same]
  · intro found answer other resolved silent returnedToo
    obtain ⟨root', plan', world', memory', conversation', last', tokens', begun', _, finished'⟩ :=
      generated_of_attempt (attempt_of_generateRow returnedToo)
    cases (checked_of_begun begun).1.symm.trans resolved
    rw [samePlan, (finish_eq_ok finished').2.2]
    refine plan_of_begun_silent silent ?_ begun begun'
    rfl

end RowRecipe

def moodNotes : Entries :=
  [(.text "topic", .text "schema"), (.text "id", .text "none"), (.text "mood", .text "calm")]

def dropSource (draft : Entries) : Except Error (Entries × Datum) :=
  .ok (Datum.dropEntry draft (.text "source"), .null)

/-- A tree that writes over the metadata of the caller, and takes from it. -/
def notes : Item :=
  .list [.node (.metadata (.merge (.mapping moodNotes))),
    .node (.group [.metadata (.edit dropSource)])]

def noteRecipe : RowRecipe :=
  { plainRecipe notes with
    metadata := [(.text "topic", .text "caller"), (.text "source", .text "caller")] }

theorem mergeEntries_noteRecipe : Datum.dropEntry
    (Datum.mergeEntries noteRecipe.metadata moodNotes) (.text "source") = moodNotes := by
  simp [noteRecipe, moodNotes, Datum.mergeEntries, Datum.putEntry, Datum.dropEntry, Datum.equal]

theorem finish_noteRecipe :
    ∃ row, noteRecipe.finish ⟨[], [], moodNotes⟩ ⟨[], [], moodNotes⟩ none = .ok row := by
  have merged : noteRecipe.mergedMetadata moodNotes = [(.text "topic", .text "caller"),
      (.text "id", .text (rowId 7)), (.text "mood", .text "calm"),
      (.text "source", .text "caller")] := by
    simp [RowRecipe.mergedMetadata, noteRecipe, plainRecipe, moodNotes, Datum.mergeEntries,
      Datum.putEntry, Datum.equal]
  unfold RowRecipe.finish
  dsimp only
  rw [merged]
  exact ⟨_, rfl⟩

theorem generateRow_noteRecipe : ∃ row,
    (noteRecipe.generateRow.run (.answering fun _ => .ok ⟨.text "", .null⟩) (.fresh, ())).1 =
      .ok row := by
  let left := Datum.dropEntry (Datum.mergeEntries noteRecipe.metadata moodNotes) (.text "source")
  have attempted : ∃ later, noteRecipe.attempt.run
      (.answering fun _ => .ok ⟨.text "", .null⟩) (.fresh, ()) =
        (noteRecipe.finish ⟨[], [], left⟩ ⟨[], [], left⟩ none, later) ∧
      later.1.mayEnter .completed = true := ⟨_, rfl, rfl⟩
  obtain ⟨later, attempted, mayComplete⟩ := attempted
  obtain ⟨row, finished⟩ := finish_noteRecipe
  refine ⟨row, ?_⟩
  change ((noteRecipe.attempt.bind _ : RowLife (Except Error Row)).run _ _).1 = _
  rw [Process.run_bind, attempted, show left = moodNotes from mergeEntries_noteRecipe, finished]
  change ((noteRecipe.transition .completed).bind _ |>.run _ later).1 = _
  unfold RowRecipe.transition
  rw [Process.bind, Process.run, if_pos mayComplete]
  rfl

theorem keepsMapping_noteRecipe :
    ∀ change ∈ [MetadataUpdate.merge (.mapping moodNotes), .edit dropSource],
      change.KeepsMapping := by
  intro change member
  rcases List.mem_pair.1 member with rfl | rfl
  · rintro _ ⟨⟩
    constructor <;> simp [moodNotes, Datum.equal]
  · rintro draft _ _ mapping ⟨⟩
    refine ⟨⟨mapping.distinct.filter _, fun entry member =>
      mapping.noBytes entry (List.mem_of_mem_filter member)⟩, ?_⟩
    rintro _ ⟨⟩

theorem RowRecipe.metadata_of_generateRow_noteRecipe : ∃ row,
    (noteRecipe.generateRow.run (.answering fun _ => .ok ⟨.text "", .null⟩) (.fresh, ())).1 =
      .ok row ∧
    row.provenance.metadata.get? "topic" = some (.text "caller") ∧
    row.provenance.metadata.get? "source" = some (.text "caller") ∧
    row.provenance.metadata.get? "id" = some (.text (rowId 7)) ∧
    row.provenance.metadata.get? "mood" = some (.text "calm") ∧
    row.plan.metadata = moodNotes := by
  obtain ⟨row, returned⟩ := generateRow_noteRecipe
  have mapping : noteRecipe.metadata.AreMapping := by
    constructor <;> simp [noteRecipe, Datum.equal]
  have updates : noteRecipe.updates (.answering fun _ => .ok ⟨.text "", .null⟩) (.fresh, ()) =
      [.merge (.mapping moodNotes), .edit dropSource] := rfl
  obtain ⟨folded, overridden, seeded, _, others, _⟩ := RowRecipe.metadata_of_generateRow returned
    mapping (updates ▸ keepsMapping_noteRecipe)
  rw [updates] at folded
  have plan : row.plan.metadata = moodNotes :=
    (Except.ok.inj folded).symm.trans mergeEntries_noteRecipe
  have mood := others "mood" (by simp [noteRecipe, Entries.get?_cons, Datum.equal])
    (fun same => absurd same (by decide))
  refine ⟨row, returned, ?_, ?_, seeded 7 rfl, ?_, plan⟩
  · exact overridden "topic" _ (by decide) (by simp [noteRecipe, Entries.get?_cons, Datum.equal])
  · exact overridden "source" _ (by decide) (by simp [noteRecipe, Entries.get?_cons, Datum.equal])
  · rw [mood, plan]
    simp [moodNotes, Entries.get?_cons, Datum.equal]

end Colloquy
