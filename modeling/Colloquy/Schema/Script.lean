import Colloquy.Schema.Node

/-!
# Scripts

The script of a schema is the order of events of its resolution: entries to make, draws and choices
on which the rest depends, tools and metadata. Both phases follow the same script; they differ only
in what they do with an entry. Groups leave no trace in it, and a repetition is the script repeated.
-/

set_option autoImplicit false

namespace Colloquy

open Selection (Choice)

inductive Script where
  | done
  | fail (error : Error)
  | draw (next : Float → Script)
  /-- Chooses one of the options, and goes on with its position. -/
  | choose (options : List (Choice Datum)) (uniqueBy : Option Unique.UniqueBy)
      (next : Nat → Script)
  | entry (leaf : Leaf) (next : Script)
  | list (tool : ToolSpec) (next : Script)
  | update (change : MetadataUpdate) (next : Script)
  | observe (next : Context → Script)
  | ask (call : ModelCall) (next : Except Error Reply → Script)
  | pause (next : Script)

namespace Script

def ofExcept {α : Type} (next : α → Script) : Except Error α → Script
  | .ok result => next result
  | .error error => fail error

def ofDrawing {α : Type} (next : α → Script) : Selection.Drawing Float (Except Error α) → Script
  | .done result => ofExcept next result
  | .draw rest => draw fun value => ofDrawing next (rest value)

end Script

/-- How often a node with a fixed count is repeated: as often as a natural number says. -/
def Count.repetitions (count : Datum) : Except Error Nat :=
  match count with
  | .int value =>
      if value < 0 then .error (.schema (.times count.shown)) else .ok value.toNat
  | _ => .error (.schema (.times count.shown))

/-- How often a node with a drawn count is repeated: not at all for a count below zero. -/
def Count.drawnRepetitions (count : Datum) : Except Error Nat :=
  match count.integer? with
  | some number => .ok number.toNat
  | none => Selection.notInteger count

def Count.script (next : Nat → Script) : Count → Script
  | .fixed count => .ofExcept next (Count.repetitions count)
  | .between minimum maximum =>
      .ofDrawing (fun number => .ofExcept next (Count.drawnRepetitions number))
        (Selection.betweenBounds minimum maximum)

mutual

def Node.script : Node → Script → Script
  | .null, next => next
  | .group nodes, next => Node.scriptAll nodes next
  | .leaf leaf, next => .entry leaf next
  | .tool definition, next => .list definition.spec next
  | .oneOf options uniqueBy, next =>
      .choose (options.map (Choice.map Item.describe)) uniqueBy fun place =>
        Node.scriptOption options place next
  | .times count node, next => count.script fun number => Nat.repeat node.script number next
  | .optional node probability, next =>
      .ofDrawing (fun included => if included then node.script next else next)
        (Selection.chance probability)
  | .metadata change, next => .update change next
  | .dynamic factory, next => Node.scriptDecision factory next
  | .unknown, _ => .fail (.schema (.unknownNode "Unknown()"))

def Node.scriptAll : List Node → Script → Script
  | [], next => next
  | node :: nodes, next => node.script (Node.scriptAll nodes next)

/-- The script of the nodes that an item holds, if it holds nothing else. -/
def Item.scriptNodes : Item → Script → Script
  | .node one, next => one.script next
  | .list items, next => Item.scriptAll items next
  | .tuple items, next => Item.scriptAll items next
  | .weighted _ _, next => next
  | .mapping _, next => next
  | .datum _, next => next

def Item.scriptAll : List Item → Script → Script
  | [], next => next
  | item :: items, next => item.scriptNodes (Item.scriptAll items next)

def Node.scriptOption : List (Choice Item) → Nat → Script → Script
  | [], _, next => next
  | option :: _, 0, next => Node.scriptChosen option next
  | _ :: options, place + 1, next => Node.scriptOption options place next

def Node.scriptChosen : Choice Item → Script → Script
  | .plain item, next =>
      match item.fault? with
      | some error => .fail error
      | none => item.scriptNodes next
  | .weighted item _, next =>
      match item.fault? with
      | some error => .fail error
      | none => item.scriptNodes next
  | .entry item _ _, next =>
      match item.fault? with
      | some error => .fail error
      | none => item.scriptNodes next

def Node.scriptDecision : Decision Item → Script → Script
  | .done item, next =>
      match item.fault? with
      | some error => .fail error
      | none => item.scriptNodes next
  | .fail error, _ => .fail error
  | .draw rest, next => .draw fun value => Node.scriptDecision (rest value) next
  | .choose options uniqueBy rest, next =>
      .choose options uniqueBy fun place => Node.scriptDecision (rest place) next
  | .observe rest, next => .observe fun context => Node.scriptDecision (rest context) next
  | .ask call rest, next => .ask call fun reply => Node.scriptDecision (rest reply) next
  | .pause rest, next => .pause (Node.scriptDecision rest next)

end

/-- The script of an item: nothing of it is resolved unless all of it can be. -/
def Item.script (item : Item) (next : Script) : Script :=
  match item.fault? with
  | some error => .fail error
  | none => item.scriptNodes next

theorem Node.scriptAll_append (before after : List Node) (next : Script) :
    Node.scriptAll (before ++ after) next = Node.scriptAll before (Node.scriptAll after next) := by
  induction before with
  | nil => rw [List.nil_append, Node.scriptAll]
  | cons node nodes ih => rw [List.cons_append, Node.scriptAll, Node.scriptAll, ih]

end Colloquy
