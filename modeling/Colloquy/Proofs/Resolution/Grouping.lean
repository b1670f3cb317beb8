import Colloquy.Proofs.Results
import Colloquy.Proofs.Selection.Intervals
import Colloquy.Resolution.Generate
import Colloquy.Schema.Builder

/-!
# Grouping and repetition

How the nodes of a schema are grouped makes no difference to either phase, and a repetition is the
list of its copies. Both phases follow the script of the schema, so that it is enough to compare the
scripts.
-/

set_option autoImplicit false

namespace Colloquy

open Selection (placeInRange)

/-- A way to write nodes down, in order, with nothing else between them. -/
inductive Arrangement where
  | node (node : Node)
  | none
  | null
  | list (parts : List Arrangement)
  | tuple (parts : List Arrangement)
  | group (parts : List Arrangement)
  /-- What is written is turned into a node at once. -/
  | converted (part : Arrangement)

namespace Arrangement

mutual

def write : Arrangement → Except Error Item
  | .node one => .ok (.node one)
  | .none => .ok (.datum .null)
  | .null => .ok (.node .null)
  | .list parts => do return .list (← writeAll parts)
  | .tuple parts => do return .tuple (← writeAll parts)
  | .group parts => do return .node (← Node.grouped (← writeAll parts))
  | .converted part => do return .node (← (← part.write).toNode)

def writeAll : List Arrangement → Except Error (List Item)
  | [] => .ok []
  | part :: parts => do return (← part.write) :: (← writeAll parts)

end

mutual

/-- The nodes that are arranged, as they follow each other. -/
def nodes : Arrangement → List Node
  | .node one => [one]
  | .none => []
  | .null => []
  | .list parts => nodesAll parts
  | .tuple parts => nodesAll parts
  | .group parts => nodesAll parts
  | .converted part => part.nodes

def nodesAll : List Arrangement → List Node
  | [] => []
  | part :: parts => part.nodes ++ nodesAll parts

end

end Arrangement

namespace Item

/-- Both phases run alike on two schemas: the same draws, plans, messages, calls of the model, log
lines and errors, in the same order. -/
def RunAlike (first second : Item) : Prop :=
  (∀ (seed rowIndex : Option Int) (stream : Random.Stream) (metadata : Entries),
    check first seed rowIndex stream metadata = check second seed rowIndex stream metadata) ∧
  ∀ (making : Making) (seed rowIndex : Option Int) (stream : Random.Stream) (plan : Plan),
    generate making first seed rowIndex stream plan =
      generate making second seed rowIndex stream plan

/-- Two items can stand for each other: as a whole schema, and among other items. -/
structure Alike (first second : Item) : Prop where
  whole : first.RunAlike second
  among : ∀ before after : List Item,
    (Item.list (before ++ first :: after)).RunAlike (.list (before ++ second :: after))

theorem fault?_eq_none_iff {item : Item} :
    item.fault? = none ↔ ∃ node, item.toNode = .ok node := by
  unfold fault?
  cases item.toNode with
  | ok node => exact ⟨fun _ => ⟨node, rfl⟩, fun _ => rfl⟩
  | error error => exact ⟨nofun, nofun⟩

theorem toNode_list (items : List Item) :
    (Item.list items).toNode = (toNodes items).map .group := by rw [toNode]

theorem toNode_tuple (items : List Item) :
    (Item.tuple items).toNode = (toNodes items).map .group := by rw [toNode]

theorem fault?_list_cons (item : Item) (items : List Item) :
    (Item.list (item :: items)).fault? = item.fault?.or (Item.list items).fault? := by
  unfold fault?
  rw [toNode_list, toNode_list, toNodes]
  cases item.toNode with
  | error error => rfl
  | ok node => cases toNodes items <;> rfl

theorem scriptAll_append (before after : List Item) (next : Script) :
    scriptAll (before ++ after) next = scriptAll before (scriptAll after next) := by
  induction before with
  | nil => rw [List.nil_append, scriptAll]
  | cons item items ih => rw [List.cons_append, scriptAll, scriptAll, ih]

/-- Items that can be resolved leave the first fault of a list where it is. -/
theorem fault?_among {first second : Item} (firstMade : first.fault? = none)
    (secondMade : second.fault? = none) (before after : List Item) :
    (Item.list (before ++ first :: after)).fault? =
      (Item.list (before ++ second :: after)).fault? := by
  induction before with
  | nil =>
      rw [List.nil_append, List.nil_append, fault?_list_cons, fault?_list_cons, firstMade,
        secondMade]
  | cons item items ih =>
      rw [List.cons_append, List.cons_append, fault?_list_cons, fault?_list_cons, ih]

theorem runAlike_of_script {first second : Item}
    (same : first.script .done = second.script .done) : first.RunAlike second := by
  constructor
  · intro seed rowIndex stream metadata
    unfold check
    rw [same]
  · intro making seed rowIndex stream plan
    unfold generate
    rw [same]

theorem alike_of_scriptNodes {first second : Item} (firstMade : first.fault? = none)
    (secondMade : second.fault? = none)
    (same : ∀ next, first.scriptNodes next = second.scriptNodes next) : first.Alike second where
  whole := by
    refine runAlike_of_script ?_
    unfold script
    rw [firstMade, secondMade]
    exact same .done
  among before after := by
    refine runAlike_of_script ?_
    unfold script
    rw [fault?_among firstMade secondMade]
    simp only [scriptNodes, scriptAll_append, scriptAll, same]

/-- An item stands for some nodes: it can be resolved, and its script is theirs. -/
structure Holds (item : Item) (nodes : List Node) : Prop where
  made : item.fault? = none
  script : ∀ next, item.scriptNodes next = Node.scriptAll nodes next

namespace Holds

theorem alike {first second : Item} {nodes : List Node} (held : first.Holds nodes)
    (heldToo : second.Holds nodes) : first.Alike second :=
  alike_of_scriptNodes held.made heldToo.made fun next =>
    (held.script next).trans (heldToo.script next).symm

theorem node (one : Node) : (Item.node one).Holds [one] where
  made := rfl
  script next := by rw [scriptNodes, Node.scriptAll, Node.scriptAll]

theorem nil : (Item.list []).Holds [] where
  made := rfl
  script next := by rw [scriptNodes, scriptAll, Node.scriptAll]

theorem cons {item : Item} {items : List Item} {nodes more : List Node} (first : item.Holds nodes)
    (rest : (Item.list items).Holds more) : (Item.list (item :: items)).Holds (nodes ++ more) where
  made := by rw [fault?_list_cons, first.made, rest.made, Option.none_or]
  script next := by
    have script := rest.script next
    rw [scriptNodes] at script
    rw [scriptNodes, scriptAll, first.script, script, Node.scriptAll_append]

theorem tuple {items : List Item} {nodes : List Node} (held : (Item.list items).Holds nodes) :
    (Item.tuple items).Holds nodes := by
  obtain ⟨made, script⟩ := held
  refine ⟨?_, ?_⟩
  · rw [← made]
    unfold fault?
    rw [toNode_tuple, toNode_list]
  · intro next
    rw [← script next, scriptNodes, scriptNodes]

theorem list (nodes : List Node) : (Item.list (nodes.map Item.node)).Holds nodes := by
  induction nodes with
  | nil => exact nil
  | cons one nodes ih => exact (node one).cons ih

end Holds

end Item

mutual

theorem Datum.script_toNode (next : Script) :
    ∀ {value : Datum} {made : Node}, value.toNode = .ok made → made.script next = next
  | .null, made, same => by
      cases same
      rw [Node.script]
  | .list items, made, same => by
      rw [Datum.toNode] at same
      obtain ⟨nodes, sameNodes, rfl⟩ := map_eq_ok.1 same
      rw [Node.script, Datum.scriptAll_toNodes next sameNodes]
  | .tuple items, made, same => by
      rw [Datum.toNode] at same
      obtain ⟨nodes, sameNodes, rfl⟩ := map_eq_ok.1 same
      rw [Node.script, Datum.scriptAll_toNodes next sameNodes]

theorem Datum.scriptAll_toNodes (next : Script) :
    ∀ {values : List Datum} {made : List Node}, Datum.toNodes values = .ok made →
      Node.scriptAll made next = next
  | [], made, same => by
      cases same
      rw [Node.scriptAll]
  | value :: values, made, same => by
      rw [Datum.toNodes] at same
      obtain ⟨first, sameFirst, same⟩ := bind_eq_ok.1 same
      obtain ⟨rest, sameRest, same⟩ := bind_eq_ok.1 same
      cases same
      rw [Node.scriptAll, Datum.scriptAll_toNodes next sameRest,
        Datum.script_toNode next sameFirst]

end

mutual

/-- Whether an item is turned into a node beforehand makes no difference to its script. -/
theorem Item.script_toNode :
    ∀ {item : Item} {made : Node} (next : Script), item.toNode = .ok made →
      made.script next = item.scriptNodes next
  | .node one, made, next, same => by
      cases same
      rw [Item.scriptNodes]
  | .list items, made, next, same => by
      rw [Item.toNode] at same
      obtain ⟨nodes, sameNodes, rfl⟩ := map_eq_ok.1 same
      rw [Node.script, Item.scriptNodes, Item.scriptAll_toNodes next sameNodes]
  | .tuple items, made, next, same => by
      rw [Item.toNode] at same
      obtain ⟨nodes, sameNodes, rfl⟩ := map_eq_ok.1 same
      rw [Node.script, Item.scriptNodes, Item.scriptAll_toNodes next sameNodes]
  | .datum value, made, next, same => by
      rw [Item.toNode] at same
      rw [Item.scriptNodes, Datum.script_toNode next same]

theorem Item.scriptAll_toNodes :
    ∀ {items : List Item} {made : List Node} (next : Script), Item.toNodes items = .ok made →
      Node.scriptAll made next = Item.scriptAll items next
  | [], made, next, same => by
      cases same
      rw [Node.scriptAll, Item.scriptAll]
  | item :: items, made, next, same => by
      rw [Item.toNodes] at same
      obtain ⟨first, sameFirst, same⟩ := bind_eq_ok.1 same
      obtain ⟨rest, sameRest, same⟩ := bind_eq_ok.1 same
      cases same
      rw [Node.scriptAll, Item.scriptAll, Item.scriptAll_toNodes next sameRest,
        Item.script_toNode _ sameFirst]

end

theorem Item.Holds.converted {item : Item} {nodes : List Node} (held : item.Holds nodes) :
    ∃ node, item.toNode = .ok node ∧ (Item.node node).Holds nodes := by
  obtain ⟨node, made⟩ := fault?_eq_none_iff.1 held.made
  refine ⟨node, made, rfl, ?_⟩
  intro next
  rw [scriptNodes, script_toNode next made, held.script]

mutual

theorem Arrangement.write_holds :
    ∀ arrangement : Arrangement, ∃ item, arrangement.write = .ok item ∧
      item.Holds arrangement.nodes
  | .node one => ⟨_, rfl, .node one⟩
  | .none => ⟨_, rfl, rfl, fun next => by rw [Item.scriptNodes, nodes, Node.scriptAll]⟩
  | .null => ⟨_, rfl, rfl, fun next => by
      rw [Item.scriptNodes, Node.script, nodes, Node.scriptAll]⟩
  | .list parts => by
      obtain ⟨items, written, held⟩ := Arrangement.writeAll_holds parts
      rw [write, written, nodes]
      exact ⟨_, rfl, held⟩
  | .tuple parts => by
      obtain ⟨items, written, held⟩ := Arrangement.writeAll_holds parts
      rw [write, written, nodes]
      exact ⟨_, rfl, held.tuple⟩
  | .group parts => by
      obtain ⟨items, written, held⟩ := Arrangement.writeAll_holds parts
      obtain ⟨one, made, held⟩ := held.converted
      rw [Item.toNode_list] at made
      rw [write, written, nodes]
      refine ⟨.node one, ?_, held⟩
      change Item.node <$> ((Item.toNodes items).map .group) = _
      rw [made]
      rfl
  | .converted part => by
      obtain ⟨item, written, held⟩ := part.write_holds
      obtain ⟨one, made, held⟩ := held.converted
      rw [write, written, nodes]
      refine ⟨.node one, ?_, held⟩
      change (do return Item.node (← item.toNode)) = _
      rw [made]
      rfl

theorem Arrangement.writeAll_holds :
    ∀ parts : List Arrangement, ∃ items, writeAll parts = .ok items ∧
      (Item.list items).Holds (nodesAll parts)
  | [] => ⟨[], rfl, .nil⟩
  | part :: parts => by
      obtain ⟨item, writtenFirst, first⟩ := part.write_holds
      obtain ⟨items, writtenRest, rest⟩ := Arrangement.writeAll_holds parts
      rw [writeAll, writtenFirst, writtenRest, nodesAll]
      exact ⟨_, rfl, first.cons rest⟩

end

/-! ## Repetitions -/

theorem Node.repeat_script (one : Node) (count : Nat) (next : Script) :
    Nat.repeat one.script count next = Node.scriptAll (List.replicate count one) next := by
  induction count with
  | zero => rw [Nat.repeat, List.replicate_zero, Node.scriptAll]
  | succ count ih => rw [Nat.repeat, List.replicate_succ, Node.scriptAll, ih]

theorem Count.repetitions_natCast (count : Nat) : Count.repetitions (.int count) = .ok count := by
  unfold Count.repetitions
  dsimp only
  rw [if_neg (Int.not_lt.2 (Int.natCast_nonneg count)), Int.toNat_natCast]

theorem Item.Holds.times (count : Nat) (one : Node) :
    (Item.node (.times (.fixed (.int count)) one)).Holds (List.replicate count one) where
  made := rfl
  script next := by
    rw [Item.scriptNodes, Node.script, Count.script, Count.repetitions_natCast]
    exact one.repeat_script count next

theorem Item.Holds.replicate (count : Nat) (one : Node) :
    (Item.list (List.replicate count (.node one))).Holds (List.replicate count one) := by
  rw [← List.map_replicate]
  exact .list _

/-- The code of an author that draws once, and lists a node as often as the draw says. -/
def drawnCopies (minimum maximum : Int) (one : Node) : Decision Item :=
  .draw fun value =>
    match placeInRange minimum maximum value with
    | .ok count => .done (.list (List.replicate count.toNat (.node one)))
    | .error error => .fail error

theorem Item.alike_drawnCopies {minimum maximum : Int} (ordered : minimum ≤ maximum)
    (one : Node) :
    (Item.node (.times (.between (.int minimum) (.int maximum)) one)).Alike
      (.node (.dynamic (drawnCopies minimum maximum one))) := by
  refine alike_of_scriptNodes rfl rfl fun next => ?_
  rw [Item.scriptNodes, Item.scriptNodes, Node.script, Node.script, drawnCopies,
    Node.scriptDecision, Count.script, Selection.betweenBounds_int ordered]
  refine congrArg Script.draw (funext fun value => ?_)
  beta_reduce
  cases placeInRange minimum maximum value with
  | error error =>
      dsimp only
      rw [Node.scriptDecision]
      rfl
  | ok count =>
      have held := Item.Holds.replicate count.toNat one
      dsimp only
      rw [Node.scriptDecision, held.made]
      exact (one.repeat_script count.toNat next).trans (held.script next).symm

/-- However nodes are arranged, they are resolved as their list; a repetition is resolved as the list
of its copies, and one of a drawn length as one draw and that many copies. With rational draws each
length of the range has a part of the draws, all parts being equally long. -/
theorem alike_arranged_and_repeated :
    (∀ arrangement : Arrangement, ∃ item, arrangement.write = .ok item ∧
      item.Alike (.list (arrangement.nodes.map .node))) ∧
    (∀ (count : Nat) (one : Node),
      (Item.node (.times (.fixed (.int count)) one)).Alike
        (.list (List.replicate count (.node one)))) ∧
    ∀ minimum maximum : Int, 0 ≤ minimum → minimum ≤ maximum →
      (∀ one : Node, (Item.node (.times (.between (.int minimum) (.int maximum)) one)).Alike
        (.node (.dynamic (drawnCopies minimum maximum one)))) ∧
      ∀ draw : Rat, 0 ≤ draw → draw < 1 →
        ∃ count : Nat, placeInRange minimum maximum draw = .ok (count : Int) ∧
          minimum ≤ count ∧ count ≤ maximum ∧
          ∀ value : Int, (count : Int) = value ↔
            draw ∈ Set.Ico (((value : Rat) - minimum) / (maximum - minimum + 1))
              ((value - minimum + 1) / (maximum - minimum + 1)) := by
  refine ⟨?_, ?_, ?_⟩
  · intro arrangement
    obtain ⟨item, written, held⟩ := arrangement.write_holds
    exact ⟨item, written, held.alike (.list _)⟩
  · intro count one
    exact (Item.Holds.times count one).alike (.replicate count one)
  · intro minimum maximum nonneg ordered
    refine ⟨Item.alike_drawnCopies ordered, ?_⟩
    intro draw drawNonneg drawBelow
    obtain ⟨place, led⟩ : ∃ place, placeInRange minimum maximum draw = .ok place := ⟨_, rfl⟩
    obtain ⟨low, high⟩ := Selection.bounds_of_placeInRange ordered drawNonneg drawBelow led
    obtain ⟨count, rfl⟩ := Int.eq_ofNat_of_zero_le (nonneg.trans low)
    refine ⟨count, led, low, high, fun value => ?_⟩
    rw [← Selection.placeInRange_eq_ok_iff ordered, led, Except.ok.injEq]

def openingLine : Node := .leaf (.fixed (.text "user") (.text "Hello"))

def closingLine : Node := .leaf (.fixed (.text "assistant") (.text "Goodbye"))

theorem alike_arranged_and_repeated_openingLine :
    (Item.list [.datum .null, .node openingLine, .tuple [.node (.group [closingLine, .null])]]).Alike
      (.list [.node openingLine, .node closingLine]) ∧
    (Item.node (.times (.fixed (.int 2)) openingLine)).Alike
      (.list [.node openingLine, .node openingLine]) ∧
    (Item.node (.times (.between (.int 1) (.int 3)) openingLine)).Alike
      (.node (.dynamic (drawnCopies 1 3 openingLine))) ∧
    placeInRange 1 3 (1 / 2 : Rat) = .ok 2 := by
  obtain ⟨arranged, repeated, drawn⟩ := alike_arranged_and_repeated
  refine ⟨?_, repeated 2 openingLine, ?_⟩
  · obtain ⟨item, written, alike⟩ := arranged
      (.list [.none, .node openingLine, .tuple [.group [.converted (.node closingLine), .null]]])
    cases written
    exact alike
  · obtain ⟨alike, parts⟩ := drawn 1 3 (by decide) (by decide)
    obtain ⟨count, led, _, _, part⟩ := parts (1 / 2) (by norm_num) (by norm_num)
    have two : (count : Int) = 2 := (part 2).2 (by norm_num)
    rw [two] at led
    exact ⟨alike openingLine, led⟩

end Colloquy
