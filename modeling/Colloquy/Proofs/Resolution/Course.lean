import Colloquy.Proofs.Resolution.Catalogue
import Colloquy.Proofs.Resolution.Lockstep

/-!
# The course of a resolution

A tree is resolved from left to right. Each choice, each optional node and each repetition of drawn
length that is resolved takes the next draw, whatever branch it leads to, and no other node takes
any. So the draws alone fix which leaves are visited, after how many draws, which tools are listed
and which updates are made: the course of the resolution. It knows nothing of plans, streams or
walks.
-/

set_option autoImplicit false

namespace Colloquy

open Selection (Choice)

/-- A part of a resolution that a plan has a trace of. -/
inductive Event where
  | entry (visit : Visit)
  | list (tool : ToolSpec)
  | update (change : MetadataUpdate)

namespace Event

def visit? : Event → Option Visit
  | entry visit => some visit
  | _ => none

def tool? : Event → Option ToolSpec
  | list tool => some tool
  | _ => none

def update? : Event → Option MetadataUpdate
  | update change => some change
  | _ => none

end Event

/-- How far a resolution has come: how many random nodes it has resolved, and which identifiers are
used as it sees them. -/
structure Reached where
  taken : Nat
  used : Unique.Store

/-- What happens in a resolution, and how far it comes or what it stops at. -/
structure Course where
  events : List Event
  outcome : Except Error Reached

namespace Reached

def afterDraw (reached : Reached) : Reached := { reached with taken := reached.taken + 1 }

/-- The place of the option that a draw leads to; its identifier is used from then on. -/
def choose (options : List (Choice Datum)) (rule : Option Unique.UniqueBy) (draw : Float)
    (reached : Reached) : Except Error (Nat × Reached) := do
  let found ← Unique.candidatesIn options rule reached.used
  let candidate ← Selection.pick found draw
  let used := match rule, candidate.key with
    | some rule, some key => reached.used.mark rule.collection key
    | _, _ => reached.used
  return (candidate.item.1, ⟨reached.taken + 1, used⟩)

end Reached

/-- How often a node is repeated. Only a drawn number takes a draw. -/
def Count.resolve (draws : Nat → Float) (reached : Reached) : Count → Except Error (Nat × Reached)
  | .fixed count => (Count.repetitions count).map (·, reached)
  | .between minimum maximum => do
      if ← Datum.ordered .above minimum maximum then .error (.emptyRange minimum maximum)
      else
        let number ← Selection.valueBetween minimum maximum (draws reached.taken)
        (Count.drawnRepetitions number).map (·, reached.afterDraw)

namespace Course

def stay (reached : Reached) : Course := ⟨[], .ok reached⟩

def stop (error : Error) : Course := ⟨[], .error error⟩

def mark (event : Event) (reached : Reached) : Course := ⟨[event], .ok reached⟩

/-- A course and then, if it does not stop, what follows it. -/
def andThen (course : Course) (next : Reached → Course) : Course :=
  match course.outcome with
  | .ok reached => ⟨course.events ++ (next reached).events, (next reached).outcome⟩
  | .error _ => course

/-- What follows a result, if there is one. -/
def onward {α : Type} (next : α → Reached → Course) : Except Error (α × Reached) → Course
  | .ok (value, reached) => next value reached
  | .error error => stop error

theorem onward_map {α β : Type} (next : β → Reached → Course) (further : α → Except Error β)
    (found : Except Error α) (reached : Reached) :
    onward (fun value reached => onward next ((further value).map (·, reached)))
        (found.map (·, reached)) =
      onward next (found >>= fun value => (further value).map (·, reached)) := by
  cases found <;> rfl

def times (step : Reached → Course) : Nat → Reached → Course
  | 0, reached => stay reached
  | number + 1, reached => (step reached).andThen (times step number)

/-- The leaves that are visited, each with the number of random nodes resolved before it. -/
def visits (course : Course) : List Visit := course.events.filterMap Event.visit?

def tools (course : Course) : List ToolSpec := course.events.filterMap Event.tool?

def updates (course : Course) : List MetadataUpdate := course.events.filterMap Event.update?

/-- The counts at the leaves go up from a number of draws on, and none is beyond where the course
comes. -/
structure Advances (taken : Nat) (course : Course) : Prop where
  lower : ∀ visit ∈ course.visits, taken ≤ visit.draws
  sorted : course.visits.Pairwise fun earlier later => earlier.draws ≤ later.draws
  upper : ∀ reached, course.outcome = .ok reached →
    taken ≤ reached.taken ∧ ∀ visit ∈ course.visits, visit.draws ≤ reached.taken

theorem advances_stay (reached : Reached) : (stay reached).Advances reached.taken where
  lower _ member := nomatch member
  sorted := .nil
  upper _ same := by
    cases same
    exact ⟨Nat.le_refl _, fun _ member => nomatch member⟩

theorem advances_stop (taken : Nat) (error : Error) : (stop error).Advances taken where
  lower _ member := nomatch member
  sorted := .nil
  upper _ same := nomatch same

theorem advances_entry (leaf : Leaf) (reached : Reached) :
    (mark (.entry ⟨leaf, reached.taken⟩) reached).Advances reached.taken where
  lower visit member := by
    cases List.mem_singleton.1 member
    exact Nat.le_refl _
  sorted := List.pairwise_singleton _ _
  upper _ same := by
    cases same
    refine ⟨Nat.le_refl _, fun visit member => ?_⟩
    cases List.mem_singleton.1 member
    exact Nat.le_refl _

theorem advances_list (tool : ToolSpec) (reached : Reached) :
    (mark (.list tool) reached).Advances reached.taken :=
  have still := advances_stay reached
  ⟨still.lower, still.sorted, still.upper⟩

theorem advances_update (change : MetadataUpdate) (reached : Reached) :
    (mark (.update change) reached).Advances reached.taken :=
  have still := advances_stay reached
  ⟨still.lower, still.sorted, still.upper⟩

theorem Advances.mono {fewer taken : Nat} {course : Course} (less : fewer ≤ taken)
    (advances : course.Advances taken) : course.Advances fewer where
  lower visit member := Nat.le_trans less (advances.lower visit member)
  sorted := advances.sorted
  upper reached same :=
    ⟨Nat.le_trans less (advances.upper reached same).1, (advances.upper reached same).2⟩

theorem Advances.andThen {taken : Nat} {course : Course} {next : Reached → Course}
    (first : course.Advances taken) (later : ∀ reached, (next reached).Advances reached.taken) :
    (course.andThen next).Advances taken := by
  obtain ⟨events, outcome⟩ := course
  cases outcome with
  | error error => exact first
  | ok reached =>
      obtain ⟨least, most⟩ := first.upper reached rfl
      have visits : (Course.andThen ⟨events, .ok reached⟩ next).visits =
          visits ⟨events, .ok reached⟩ ++ (next reached).visits := List.filterMap_append
      refine ⟨?_, ?_, fun last same => ?_⟩
      · rw [visits]
        intro visit member
        rcases List.mem_append.1 member with here | there
        · exact first.lower visit here
        · exact Nat.le_trans least ((later reached).lower visit there)
      · rw [visits, List.pairwise_append]
        exact ⟨first.sorted, (later reached).sorted, fun visit here other there =>
          Nat.le_trans (most visit here) ((later reached).lower other there)⟩
      · obtain ⟨further, all⟩ := (later reached).upper last same
        refine ⟨Nat.le_trans least further, ?_⟩
        rw [visits]
        intro visit member
        rcases List.mem_append.1 member with here | there
        · exact Nat.le_trans (most visit here) further
        · exact all visit there

theorem advances_onward {α : Type} {taken : Nat} {next : α → Reached → Course}
    (later : ∀ value reached, (next value reached).Advances reached.taken)
    {found : Except Error (α × Reached)}
    (less : ∀ value reached, found = .ok (value, reached) → taken ≤ reached.taken) :
    (onward next found).Advances taken := by
  rcases found with error | ⟨value, reached⟩
  · exact advances_stop taken error
  · exact (later value reached).mono (less value reached rfl)

end Course

theorem Reached.taken_of_choose {options : List (Choice Datum)} {rule : Option Unique.UniqueBy}
    {draw : Float} {reached later : Reached} {place : Nat}
    (chosen : reached.choose options rule draw = .ok (place, later)) :
    later.taken = reached.taken + 1 := by
  obtain ⟨found, _, chosen⟩ := bind_eq_ok.1 chosen
  obtain ⟨candidate, _, chosen⟩ := bind_eq_ok.1 chosen
  cases chosen
  rfl

section

variable (draws : Nat → Float)

mutual

/-- The course of a tree. Code that builds a part of a tree has none. -/
def Node.course : Node → Reached → Course
  | .null, reached => .stay reached
  | .group nodes, reached => Node.courseAll nodes reached
  | .leaf leaf, reached => .mark (.entry ⟨leaf, reached.taken⟩) reached
  | .tool definition, reached => .mark (.list definition.spec) reached
  | .oneOf options rule, reached =>
      .onward (fun place => Node.courseOption options place)
        (reached.choose (options.map (Choice.map Item.describe)) rule (draws reached.taken))
  | .times count node, reached =>
      .onward (fun number => .times node.course number) (count.resolve draws reached)
  | .optional node probability, reached =>
      .onward (fun included reached => if included then node.course reached else .stay reached)
        ((Datum.ordered .below (.float (draws reached.taken)) probability).map
          (·, reached.afterDraw))
  | .metadata change, reached => .mark (.update change) reached
  | .dynamic _, _ => .stop (.schema (.unknownNode "Dynamic()"))
  | .unknown, _ => .stop (.schema (.unknownNode "Unknown()"))

def Node.courseAll : List Node → Reached → Course
  | [], reached => .stay reached
  | node :: nodes, reached => (node.course reached).andThen (Node.courseAll nodes)

def Item.courseNodes : Item → Reached → Course
  | .node one, reached => one.course reached
  | .list items, reached => Item.courseAll items reached
  | .tuple items, reached => Item.courseAll items reached
  | .weighted _ _, reached => .stay reached
  | .mapping _, reached => .stay reached
  | .datum _, reached => .stay reached

def Item.courseAll : List Item → Reached → Course
  | [], reached => .stay reached
  | item :: items, reached => (item.courseNodes reached).andThen (Item.courseAll items)

def Node.courseOption : List (Choice Item) → Nat → Reached → Course
  | [], _, reached => .stay reached
  | option :: _, 0, reached => Node.courseChosen option reached
  | _ :: options, place + 1, reached => Node.courseOption options place reached

def Node.courseChosen : Choice Item → Reached → Course
  | .plain item, reached =>
      match item.fault? with
      | some error => .stop error
      | none => item.courseNodes reached
  | .weighted item _, reached =>
      match item.fault? with
      | some error => .stop error
      | none => item.courseNodes reached
  | .entry item _ _, reached =>
      match item.fault? with
      | some error => .stop error
      | none => item.courseNodes reached

end

/-- The course of an item. An item that is no tree has none. -/
def Item.course (item : Item) (reached : Reached) : Course :=
  match item.fault? with
  | some error => .stop error
  | none => item.courseNodes draws reached

end

mutual

/-- No part of the tree is built by code. -/
def Node.IsStatic : Node → Prop
  | .group nodes => Node.AllStatic nodes
  | .oneOf options _ => Node.OptionsStatic options
  | .times _ node => node.IsStatic
  | .optional node _ => node.IsStatic
  | .dynamic _ => False
  | .null => True
  | .leaf _ => True
  | .tool _ => True
  | .metadata _ => True
  | .unknown => True

def Node.AllStatic : List Node → Prop
  | [] => True
  | node :: nodes => node.IsStatic ∧ Node.AllStatic nodes

def Item.IsStatic : Item → Prop
  | .node one => one.IsStatic
  | .list items => Item.AllStatic items
  | .tuple items => Item.AllStatic items
  | .weighted _ _ => True
  | .mapping _ => True
  | .datum _ => True

def Item.AllStatic : List Item → Prop
  | [] => True
  | item :: items => item.IsStatic ∧ Item.AllStatic items

def Node.OptionsStatic : List (Choice Item) → Prop
  | [] => True
  | option :: options => Node.OptionStatic option ∧ Node.OptionsStatic options

def Node.OptionStatic : Choice Item → Prop
  | .plain item => item.IsStatic
  | .weighted item _ => item.IsStatic
  | .entry item _ _ => item.IsStatic

end

end Colloquy
