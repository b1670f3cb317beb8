import Colloquy.Proofs.Resolution.References
import Colloquy.Proofs.Resolution.Totals

/-!
# Updates of metadata

The metadata of a plan is what becomes of the metadata of the caller by the updates that the check
phase comes to, one after the other. The generate phase leaves it as it is.
-/

set_option autoImplicit false

namespace Colloquy

/-! ## Mappings -/

namespace Datum

theorem equal_text_iff {key : Datum} {name : String} :
    key.equal (.text name) = true ↔ key = .text name := by
  cases key <;> simp [equal, isNull, numberEqual, quantity?]

theorem of_mem_putEntry {entries : Entries} {key value : Datum} {entry : Datum × Datum}
    (member : entry ∈ putEntry entries key value) :
    entry.1 = key ∨ ∃ old ∈ entries, old.1 = entry.1 := by
  induction entries with
  | nil =>
      cases List.mem_singleton.1 member
      exact .inl rfl
  | cons first rest ih =>
      rw [putEntry] at member
      split at member
      · rcases List.mem_cons.1 member with rfl | member
        · exact .inr ⟨first, List.mem_cons_self, rfl⟩
        · exact .inr ⟨entry, List.mem_cons_of_mem _ member, rfl⟩
      · rcases List.mem_cons.1 member with rfl | member
        · exact .inr ⟨first, List.mem_cons_self, rfl⟩
        · rcases ih member with same | ⟨old, known, same⟩
          · exact .inl same
          · exact .inr ⟨old, List.mem_cons_of_mem _ known, same⟩

end Datum

/-- The value under a name. -/
def Entries.get? (entries : Entries) (name : String) : Option Datum :=
  Datum.entry? entries (.text name)

namespace Entries

@[simp]
theorem get?_nil (name : String) : get? [] name = none := rfl

theorem get?_cons (first : Datum × Datum) (rest : Entries) (name : String) :
    get? (first :: rest) name =
      if first.1.equal (.text name) = true then some first.2 else get? rest name := by
  unfold get? Datum.entry?
  rw [List.find?_cons]
  cases first.1.equal (.text name) <;> rfl

theorem get?_toEntries (fields : Fields) (name : String) :
    get? fields.toEntries name = fields.get? name := by
  induction fields with
  | nil => rfl
  | cons field rest ih =>
      obtain ⟨other, value⟩ := field
      change get? ((.text other, value) :: Fields.toEntries rest) name = _
      rw [get?_cons, ih, Fields.get?_cons]
      exact if_congr (by rw [Datum.equal_text_iff, Datum.text.injEq]) rfl rfl

theorem get?_putEntry (entries : Entries) (key value : Datum) (name : String) :
    get? (Datum.putEntry entries key value) name =
      if key.equal (.text name) = true then some value else get? entries name := by
  induction entries with
  | nil => rw [Datum.putEntry, get?_cons]
  | cons first rest ih =>
      obtain ⟨other, old⟩ := first
      rw [Datum.putEntry]
      by_cases same : other.equal key = true
      · -- A text is equal to no other key.
        have alike : other.equal (.text name) = key.equal (.text name) := by
          rw [Bool.eq_iff_iff, Datum.equal_text_iff, Datum.equal_text_iff]
          constructor
          · rintro rfl
            cases key <;> simp_all [Datum.equal]
          · rintro rfl
            exact Datum.equal_text_iff.1 same
        rw [if_pos same, get?_cons, get?_cons, alike]
        split <;> rfl
      · rw [if_neg same, get?_cons, get?_cons, ih]
        by_cases found : other.equal (.text name) = true
        · have differs : ¬key.equal (.text name) = true := fun also => same (by
            rw [Datum.equal_text_iff.1 also]
            exact found)
          rw [if_pos found, if_neg differs, if_pos found]
        · rw [if_neg found, if_neg found]

/-- Of what is merged the newer value of a name wins. -/
theorem get?_mergeEntries (entries : Entries) {newer : Entries}
    (distinct : newer.Pairwise fun earlier later => earlier.1.equal later.1 = false)
    (name : String) :
    get? (Datum.mergeEntries entries newer) name = (get? newer name).or (get? entries name) := by
  induction newer generalizing entries with
  | nil => rfl
  | cons first rest ih =>
      rw [List.pairwise_cons] at distinct
      change get? (Datum.mergeEntries (Datum.putEntry entries first.1 first.2) rest) name = _
      rw [ih _ distinct.2, get?_putEntry, get?_cons]
      by_cases same : first.1.equal (.text name) = true
      · have none : get? rest name = none := by
          refine Option.map_eq_none_iff.2 (List.find?_eq_none.2 fun later member found => ?_)
          have differs := distinct.1 later member
          rw [Datum.equal_text_iff.1 found, same] at differs
          cases differs
        rw [if_pos same, if_pos same, none]
        rfl
      · rw [if_neg same, if_neg same]

end Entries

/-- The entries of a mapping: no two of the keys are equal. Metadata has texts for keys. All that is
asked here is that no key is a byte string, which would be read as a text. -/
structure Entries.AreMapping (entries : Entries) : Prop where
  distinct : entries.Pairwise fun earlier later => earlier.1.equal later.1 = false
  noBytes : ∀ entry ∈ entries, ∀ name, entry.1 ≠ .bytes name

namespace Entries.AreMapping

variable {entries : Entries}

theorem putEntry (mapping : AreMapping entries) {key : Datum} (noBytes : ∀ name, key ≠ .bytes name)
    (value : Datum) : AreMapping (Datum.putEntry entries key value) where
  distinct := by
    have distinct := mapping.distinct
    clear mapping
    induction entries with
    | nil => exact List.pairwise_singleton _ _
    | cons first rest ih =>
        rw [List.pairwise_cons] at distinct
        rw [Datum.putEntry]
        split
        · exact List.pairwise_cons.2 distinct
        next differs =>
          refine List.pairwise_cons.2 ⟨fun later member => ?_, ih distinct.2⟩
          rcases Datum.of_mem_putEntry member with same | ⟨old, known, same⟩
          · rw [same]
            exact Bool.eq_false_iff.2 differs
          · rw [← same]
            exact distinct.1 old known
  noBytes entry member name := by
    rcases Datum.of_mem_putEntry member with same | ⟨old, known, same⟩
    · exact same ▸ noBytes name
    · exact same ▸ mapping.noBytes old known name

theorem mergeEntries (mapping : AreMapping entries) {newer : Entries}
    (noBytes : ∀ entry ∈ newer, ∀ name, entry.1 ≠ .bytes name) :
    AreMapping (Datum.mergeEntries entries newer) := by
  induction newer generalizing entries with
  | nil => exact mapping
  | cons first rest ih =>
      have put := mapping.putEntry (noBytes first List.mem_cons_self) first.2
      exact ih put fun entry member => noBytes entry (List.mem_cons_of_mem _ member)

theorem toEntries_of_namedEntries (mapping : AreMapping entries) {fields : Fields}
    (read : Fit.namedEntries entries = .ok fields) : entries = fields.toEntries := by
  have noBytes := mapping.noBytes
  clear mapping
  induction entries generalizing fields with
  | nil =>
      cases read
      rfl
  | cons first rest ih =>
      obtain ⟨key, value⟩ := first
      rw [Fit.namedEntries] at read
      obtain ⟨⟨name, later⟩, both, rfl⟩ := Fitted.map_eq_ok.1 read
      obtain ⟨readKey, readRest⟩ := Fitted.both_eq_ok.1 both
      replace readKey := Fitted.under_eq_ok.1 (Fitted.under_eq_ok.1 readKey)
      have same : key = .text name := by
        cases key with
        | text value =>
            cases readKey
            rfl
        | bytes value => exact absurd rfl (noBytes _ List.mem_cons_self value)
        | _ => cases readKey
      rw [same, ih readRest fun entry member => noBytes entry (List.mem_cons_of_mem _ member)]
      rfl

theorem nodup_names {fields : Fields} (mapping : AreMapping fields.toEntries) :
    (fields.map Prod.fst).Nodup := by
  have distinct := mapping.distinct
  rw [Fields.toEntries, List.pairwise_map] at distinct
  refine List.pairwise_map.2 (distinct.imp fun differs same => ?_)
  rw [Datum.equal_text_iff.2 (congrArg Datum.text same)] at differs
  cases differs

/-- A mapping that is read as a dictionary of texts is read as it is. -/
theorem toEntries_of_dictionary (mapping : AreMapping entries) {fields : Fields}
    (read : Fit.dictionary (.mapping entries) = .ok fields) : entries = fields.toEntries := by
  obtain ⟨named, found, rfl⟩ := Fitted.map_eq_ok.1 read
  have same := mapping.toEntries_of_namedEntries found
  have distinct : (([] ++ named : Fields).map Prod.fst).Nodup := nodup_names (same ▸ mapping)
  rw [Fields.merge_of_nodup distinct, List.nil_append, same]

theorem eq_of_planMetadata (mapping : AreMapping entries) {initial : Entries}
    (taken : planMetadata entries = .ok initial) : initial = entries := by
  obtain ⟨fields, read, rfl⟩ := map_eq_ok.1 (mapError_eq_ok.1 taken)
  exact (mapping.toEntries_of_dictionary (Fitted.under_eq_ok.1 read)).symm

end Entries.AreMapping

/-! ## Updates -/

namespace MetadataUpdate

/-- What an update writes, leaves or returns are mappings. -/
def KeepsMapping : MetadataUpdate → Prop
  | merge update => ∀ entries, update = .mapping entries → Entries.AreMapping entries
  | edit change => ∀ draft left returned, Entries.AreMapping draft →
      change draft = .ok (left, returned) →
      Entries.AreMapping left ∧ ∀ entries, returned = .mapping entries → Entries.AreMapping entries

theorem KeepsMapping.apply {change : MetadataUpdate} (keeps : change.KeepsMapping)
    {metadata after : Entries} (mapping : Entries.AreMapping metadata)
    (applied : change.apply metadata = .ok after) : Entries.AreMapping after := by
  cases change with
  | merge update =>
      cases update with
      | mapping entries =>
          cases applied
          exact mapping.mergeEntries (keeps entries rfl).noBytes
      | _ => cases applied
  | edit change =>
      obtain ⟨⟨left, returned⟩, changed, applied⟩ := bind_eq_ok.1 applied
      obtain ⟨leftMapping, returnedMapping⟩ := keeps metadata left returned mapping changed
      cases returned with
      | null =>
          cases applied
          exact leftMapping
      | mapping entries =>
          cases applied
          exact returnedMapping _ rfl
      | _ => cases applied

theorem areMapping_foldlM {changes : List MetadataUpdate}
    (keep : ∀ change ∈ changes, change.KeepsMapping) {metadata after : Entries}
    (mapping : Entries.AreMapping metadata) (applied : changes.foldlM apply metadata = .ok after) :
    Entries.AreMapping after := by
  induction changes generalizing metadata with
  | nil =>
      cases applied
      exact mapping
  | cons change changes ih =>
      rw [List.foldlM_cons] at applied
      obtain ⟨between, first, rest⟩ := bind_eq_ok.1 applied
      have kept := (keep change List.mem_cons_self).apply mapping first
      exact ih (fun later member => keep later (List.mem_cons_of_mem _ member)) kept rest

end MetadataUpdate

theorem Context.metadata_update {context after : Context} {change : MetadataUpdate}
    (phase : context.phase = .check) (updated : context.update change = .ok after) :
    change.apply context.metadata = .ok after.metadata ∧ after.phase = .check := by
  unfold Context.update at updated
  rw [phase] at updated
  obtain ⟨metadata, applied, updated⟩ := bind_eq_ok.1 updated
  cases updated
  exact ⟨applied, rfl⟩

section

variable {μ : Type} (environment : Environment Shared μ ModelCall (Except Error Reply))

/-- The updates of metadata that the check phase comes to on a script, in order. -/
def Script.updates : Script → Walk → Shared × μ → List MetadataUpdate
  | done, _, _ => []
  | fail _, _, _ => []
  | draw next, walk, both =>
      (next walk.context.draw.1).updates (walk.within walk.context.draw.2) both
  | choose options uniqueBy next, walk, both =>
      match (walk.choose options uniqueBy).run environment both with
      | (.ok (place, walk), both) => (next place).updates walk both
      | (.error _, _) => []
  | entry leaf next, walk, both =>
      match (walk.planLeaf leaf).run environment both with
      | (.ok (_, walk), both) => next.updates walk both
      | (.error _, _) => []
  | list tool next, walk, both => next.updates (walk.within (walk.context.addTool tool)) both
  | update change next, walk, both =>
      match walk.context.update change with
      | .ok context => change :: next.updates (walk.within context) both
      | .error _ => [change]
  | observe next, walk, both => (next walk.context).updates walk both
  | ask call next, walk, both =>
      (next (environment.answer call both).1).updates walk (environment.answer call both).2
  | pause next, walk, both => next.updates walk (environment.meanwhile both)

variable {environment}

/-- Behind a script the metadata is what the updates that the script comes to make of it. -/
theorem Script.metadata_of_follow {script : Script} {walk last : Walk} {both : Shared × μ}
    (phase : walk.context.phase = .check)
    (followed : ((script.follow Walk.planLeaf walk).run environment both).1 = .ok ((), last)) :
    (script.updates environment walk both).foldlM MetadataUpdate.apply walk.context.metadata =
      .ok last.context.metadata := by
  induction script generalizing walk both with
  | done =>
      cases followed
      rfl
  | fail error => cases followed
  | draw next ih =>
      have drawn : (walk.within walk.context.draw.2).context.phase = .check := phase
      exact ih _ drawn followed
  | choose options uniqueBy next ih =>
      rw [follow, Process.run_bind] at followed
      have aside := walk.aside_chosen options uniqueBy both.1
      rcases chosen : (walk.choose options uniqueBy).run environment both with
        ⟨halt | ⟨place, after⟩, later⟩
      · rw [chosen] at followed
        cases followed
      · rw [chosen] at followed
        have same : (walk.chosen options uniqueBy both.1).1 = .ok (place, after) :=
          congrArg Prod.fst chosen
        rw [same] at aside
        have context : after.context = { walk.context with stream := after.context.stream } :=
          aside.context
        have rest := ih place (context ▸ phase) followed
        rw [show after.context.metadata = walk.context.metadata by rw [context]] at rest
        simpa only [updates, chosen] using rest
  | entry leaf next ih =>
      unfold follow Walk.planLeaf at followed
      unfold updates Walk.planLeaf
      cases planned : leaf.plan walk.context with
      | error error =>
          rw [planned] at followed
          cases followed
      | ok entry =>
          rw [planned] at followed
          have added : (walk.within (walk.context.addEntry entry)).context.phase = .check := phase
          exact ih added followed
  | list tool next ih =>
      have same := Context.addTool_eq walk.context tool
      have listed : (walk.within (walk.context.addTool tool)).context.phase = .check :=
        (walk.context.keeps_addTool tool).phase.trans phase
      have rest := ih listed followed
      rw [show (walk.within (walk.context.addTool tool)).context.metadata = _ from
        congrArg Context.metadata same] at rest
      exact rest
  | update change next ih =>
      unfold follow at followed
      unfold updates
      cases updated : walk.context.update change with
      | error error =>
          rw [updated] at followed
          cases followed
      | ok context =>
          rw [updated] at followed
          obtain ⟨applied, kept⟩ := Context.metadata_update phase updated
          have changed : (walk.within context).context.phase = .check := kept
          have rest := ih changed followed
          rw [List.foldlM_cons, applied]
          exact rest
  | observe next ih => exact ih _ phase followed
  | ask call next ih => exact ih _ phase followed
  | pause next ih => exact ih phase followed

variable {root : Item} {seed rowIndex : Option Int} {stream : Random.Stream} {plan : Plan}
variable {last : Walk} {both : Shared × μ}

/-- The metadata of a plan: what the updates that the check phase comes to make of what is given. -/
theorem metadata_of_check {metadata : Entries}
    (checked : ((check root seed rowIndex stream metadata).run environment both).1 =
      .ok (plan, last)) :
    ∃ initial, planMetadata metadata = .ok initial ∧
      ((root.script .done).updates environment (.startCheck seed rowIndex stream initial)
        both).foldlM MetadataUpdate.apply initial = .ok plan.metadata := by
  unfold check at checked
  split at checked
  next => cases checked
  next initial taken =>
    refine ⟨initial, taken, ?_⟩
    rw [Process.run_bind] at checked
    rcases followed : (((root.script .done).follow Walk.planLeaf
      (.startCheck seed rowIndex stream initial)).run environment both).1 with halt | ⟨⟨⟩, after⟩
    · rw [followed] at checked
      cases checked
    · rw [followed] at checked
      cases checked
      exact Script.metadata_of_follow rfl followed

theorem metadata_of_generate {making : Making} {conversation : Generated}
    (generated : ((generate making root seed rowIndex stream plan).run environment both).1 =
      .ok (conversation, last)) : conversation.metadata = plan.metadata := by
  obtain ⟨followed, rfl, _⟩ := walk_of_generate generated
  have stays := (Script.lasting_follow (Walk.lasting_staysOnPlan making.verifyDraws)
    (Walk.staysOnPlan_makeLeaf making) (root.script .done)
    (.startGenerate seed rowIndex stream plan)).run environment both
  rw [followed, Walked.walk_ok] at stays
  exact congrArg Plan.metadata (stays.plan rfl)

end

end Colloquy
