import Colloquy.Proofs.Resolution.Emissions

/-!
# Catalogues of tools

The catalogue of a row lists the tools whose definitions a walk comes to, each name once: the first
definition of a name stays. Calls and results list nothing, whatever tool they name.
-/

set_option autoImplicit false

namespace Colloquy

namespace ToolSpec

/-- The tools without those that have the name of an earlier one. -/
def firsts : List ToolSpec → List ToolSpec
  | [] => []
  | spec :: specs => spec :: (firsts specs).filter fun other => other.name ≠ spec.name

theorem mem_names_firsts {name : String} {specs : List ToolSpec} :
    name ∈ (firsts specs).map ToolSpec.name ↔ name ∈ specs.map ToolSpec.name := by
  induction specs with
  | nil => rfl
  | cons spec specs ih =>
      rw [firsts, List.map_cons, List.map_cons, List.mem_cons, List.mem_cons, ← ih]
      refine or_congr_right' fun differs => ?_
      simp only [List.mem_map, List.mem_filter, decide_eq_true_eq]
      constructor
      · rintro ⟨other, ⟨member, _⟩, same⟩
        exact ⟨other, member, same⟩
      · rintro ⟨other, member, rfl⟩
        exact ⟨other, ⟨member, differs⟩, rfl⟩

theorem nodup_names_firsts (specs : List ToolSpec) :
    ((firsts specs).map ToolSpec.name).Nodup := by
  induction specs with
  | nil => exact List.nodup_nil
  | cons spec specs ih =>
      rw [firsts, List.map_cons, List.nodup_cons]
      refine ⟨fun member => ?_, ih.sublist (List.filter_sublist.map _)⟩
      obtain ⟨other, kept, same⟩ := List.mem_map.1 member
      exact of_decide_eq_true (List.mem_filter.1 kept).2 same

theorem count_firsts (specs : List ToolSpec) (name : String) :
    ((firsts specs).map ToolSpec.name).count name =
      if name ∈ specs.map ToolSpec.name then 1 else 0 := by
  rw [(nodup_names_firsts specs).count]
  exact if_congr mem_names_firsts rfl rfl

/-- A catalogue with the tools behind it whose names are new, each name once. -/
def joined (known specs : List ToolSpec) : List ToolSpec :=
  known ++ (firsts specs).filter fun other => other.name ∉ known.map ToolSpec.name

theorem joined_nil (known : List ToolSpec) : joined known [] = known := List.append_nil known

theorem nil_joined (specs : List ToolSpec) : joined [] specs = firsts specs := by
  simp [joined]

theorem joined_cons (known specs : List ToolSpec) (spec : ToolSpec) :
    joined known (spec :: specs) =
      joined (if known.any fun other => other.name = spec.name then known else known ++ [spec])
        specs := by
  unfold joined
  rw [firsts]
  by_cases listed : spec.name ∈ known.map ToolSpec.name
  · have known' : (known.any fun other => other.name = spec.name) = true := by
      simpa using listed
    rw [if_pos known', List.filter_cons_of_neg (by simpa using listed), List.filter_filter]
    -- A name that is new is not that of the tool, which is known.
    congr 1
    refine List.filter_congr fun other _ => ?_
    simp only [decide_not, Bool.and_eq_left_iff_imp, Bool.not_eq_true', decide_eq_false_iff_not]
    rintro fresh same
    exact fresh (same ▸ listed)
  · have known' : ¬(known.any fun other => other.name = spec.name) = true := by
      simpa using listed
    rw [if_neg known', List.filter_cons_of_pos (by simpa using listed), List.filter_filter,
      List.append_assoc, List.singleton_append]
    congr 2
    refine List.filter_congr fun other _ => ?_
    simp [not_or, Bool.and_comm]

end ToolSpec

namespace Walk

variable {μ : Type}

/-- Making entries lists no tools. -/
def ListsNone (emit : Leaf → Walk → RowProcess (Walked Unit)) : Prop :=
  ∀ leaf walk, (emit leaf walk).Yields fun walked =>
    (Walked.walk walked).context.tools = walk.context.tools

theorem Aside.tools {before after : Walk} (aside : before.Aside after) :
    after.context.tools = before.context.tools := by
  rw [aside.context]

theorem listsNone_makeLeaf (making : Making) : ListsNone (makeLeaf making) := by
  intro leaf walk
  refine Process.Yields.bind ((walk.aside_makeMessage making leaf).mono fun walked aside => ?_)
  rcases walked with halt | ⟨message, after⟩
  · exact .done aside.tools
  · unfold append
    dsimp only
    split
    · exact .done (Aside.tools aside)
    · refine (yields_join making message after).mono fun walked joined => ?_
      subst joined
      exact aside.tools

end Walk

theorem Context.tools_update {context after : Context} {change : MetadataUpdate}
    (updated : context.update change = .ok after) : after.tools = context.tools := by
  unfold Context.update at updated
  split at updated
  · cases updated
    rfl
  · obtain ⟨metadata, _, updated⟩ := bind_eq_ok.1 updated
    cases updated
    rfl

section

variable {μ : Type} (emit : Leaf → Walk → RowProcess (Walked Unit))
variable (environment : Environment Shared μ ModelCall (Except Error Reply))

/-- The tools whose definitions a script comes to in an environment, in order. -/
def Script.listings : Script → Walk → Shared × μ → List ToolSpec
  | done, _, _ => []
  | fail _, _, _ => []
  | draw next, walk, both =>
      (next walk.context.draw.1).listings (walk.within walk.context.draw.2) both
  | choose options uniqueBy next, walk, both =>
      match (walk.choose options uniqueBy).run environment both with
      | (.ok (place, walk), both) => (next place).listings walk both
      | (.error _, _) => []
  | entry leaf next, walk, both =>
      match (emit leaf walk).run environment both with
      | (.ok (_, walk), both) => next.listings walk both
      | (.error _, _) => []
  | list tool next, walk, both =>
      tool :: next.listings (walk.within (walk.context.addTool tool)) both
  | update change next, walk, both =>
      match walk.context.update change with
      | .ok context => next.listings (walk.within context) both
      | .error _ => []
  | observe next, walk, both => (next walk.context).listings walk both
  | ask call next, walk, both =>
      (next (environment.answer call both).1).listings walk (environment.answer call both).2
  | pause next, walk, both => next.listings walk (environment.meanwhile both)

variable {emit environment}

/-- Behind a script the catalogue has the tools more that the script comes to, each name once. -/
theorem Script.tools_of_follow (listsNone : Walk.ListsNone emit) {script : Script}
    {walk last : Walk} {both : Shared × μ}
    (followed : ((script.follow emit walk).run environment both).1 = .ok ((), last)) :
    last.context.tools =
      ToolSpec.joined walk.context.tools (script.listings emit environment walk both) := by
  induction script generalizing walk both with
  | done =>
      cases followed
      exact (ToolSpec.joined_nil _).symm
  | fail error => cases followed
  | draw next ih => exact ih _ followed
  | choose options uniqueBy next ih =>
      rw [follow, Process.run_bind] at followed
      have aside := walk.aside_chosen options uniqueBy both.1
      rcases chosen : (walk.choose options uniqueBy).run environment both with
        ⟨halt | ⟨place, after⟩, later⟩
      · rw [chosen] at followed
        cases followed
      · rw [chosen] at followed
        have same : (walk.chosen options uniqueBy both.1).1 = .ok (place, after) :=
          congrArg Prod.fst chosen
        rw [same] at aside
        have rest := ih place followed
        rw [show after.context.tools = _ from aside.tools] at rest
        simpa only [listings, chosen] using rest
  | entry leaf next ih =>
      rw [follow, Process.run_bind] at followed
      have kept := (listsNone leaf walk).run environment both
      rcases made : (emit leaf walk).run environment both with ⟨halt | ⟨⟨⟩, after⟩, later⟩
      · rw [made] at followed
        cases followed
      · rw [made] at followed kept
        have rest := ih followed
        rw [show after.context.tools = _ from kept] at rest
        simpa only [listings, made] using rest
  | list tool next ih =>
      have rest := ih followed
      rw [show (walk.within (walk.context.addTool tool)).context.tools = _ from
        congrArg Context.tools (Context.addTool_eq _ tool)] at rest
      exact rest.trans (ToolSpec.joined_cons _ _ tool).symm
  | update change next ih =>
      unfold follow at followed
      cases updated : walk.context.update change with
      | error error =>
          rw [updated] at followed
          cases followed
      | ok context =>
          rw [updated] at followed
          have rest := ih followed
          rw [show (walk.within context).context.tools = walk.context.tools from
            Context.tools_update updated] at rest
          simpa only [listings, updated] using rest
  | observe next ih => exact ih _ followed
  | ask call next ih => exact ih _ followed
  | pause next ih => exact ih followed

/-- The catalogue of a generated conversation: the tools that the generate phase comes to. -/
theorem tools_of_generate {making : Making} {root : Item} {seed rowIndex : Option Int}
    {stream : Random.Stream} {plan : Plan} {both : Shared × μ} {conversation : Generated}
    {last : Walk}
    (generated : ((generate making root seed rowIndex stream plan).run environment both).1 =
      .ok (conversation, last)) :
    conversation.tools = ToolSpec.firsts ((root.script .done).listings (Walk.makeLeaf making)
      environment (.startGenerate seed rowIndex stream plan) both) := by
  obtain ⟨followed, rfl, _⟩ := walk_of_generate generated
  rw [← ToolSpec.nil_joined]
  exact Script.tools_of_follow (Walk.listsNone_makeLeaf making) followed

end

end Colloquy
