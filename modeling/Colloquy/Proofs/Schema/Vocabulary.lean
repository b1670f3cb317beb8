import Colloquy.Schema.Script

/-!
# What schemas are written in

A vocabulary says which leaves and which rules of choice a schema may use, and whether its decisions
may look at the context or ask the model. A script has the vocabulary of its schema, also where it
comes from decisions.
-/

set_option autoImplicit false

namespace Colloquy

open Selection (Choice Drawing)

structure Vocabulary where
  leaf : Leaf → Prop
  rule : Option Unique.UniqueBy → Prop
  /-- Whether decisions may look at the context and ask the model. -/
  looks : Prop

mutual

/-- All that may be resolved of a node is written in a vocabulary. -/
def Node.WrittenIn (vocabulary : Vocabulary) : Node → Prop
  | .null => True
  | .group nodes => Node.AllWrittenIn vocabulary nodes
  | .leaf leaf => vocabulary.leaf leaf
  | .tool _ => True
  | .oneOf options uniqueBy => vocabulary.rule uniqueBy ∧ Node.OptionsWrittenIn vocabulary options
  | .times _ node => node.WrittenIn vocabulary
  | .optional node _ => node.WrittenIn vocabulary
  | .metadata _ => True
  | .dynamic factory => Node.DecisionWrittenIn vocabulary factory
  | .unknown => True

def Node.AllWrittenIn (vocabulary : Vocabulary) : List Node → Prop
  | [] => True
  | node :: nodes => node.WrittenIn vocabulary ∧ Node.AllWrittenIn vocabulary nodes

def Item.WrittenIn (vocabulary : Vocabulary) : Item → Prop
  | .node one => one.WrittenIn vocabulary
  | .list items => Item.AllWrittenIn vocabulary items
  | .tuple items => Item.AllWrittenIn vocabulary items
  | .weighted _ _ => True
  | .mapping _ => True
  | .datum _ => True

def Item.AllWrittenIn (vocabulary : Vocabulary) : List Item → Prop
  | [] => True
  | item :: items => item.WrittenIn vocabulary ∧ Item.AllWrittenIn vocabulary items

def Node.OptionsWrittenIn (vocabulary : Vocabulary) : List (Choice Item) → Prop
  | [] => True
  | option :: options =>
      Node.OptionWrittenIn vocabulary option ∧ Node.OptionsWrittenIn vocabulary options

def Node.OptionWrittenIn (vocabulary : Vocabulary) : Choice Item → Prop
  | .plain item => item.WrittenIn vocabulary
  | .weighted item _ => item.WrittenIn vocabulary
  | .entry item _ _ => item.WrittenIn vocabulary

/-- A decision keeps to a vocabulary, and so does each item that it may end with. -/
def Node.DecisionWrittenIn (vocabulary : Vocabulary) : Decision Item → Prop
  | .done item => item.WrittenIn vocabulary
  | .fail _ => True
  | .draw rest => ∀ value, Node.DecisionWrittenIn vocabulary (rest value)
  | .choose _ uniqueBy rest =>
      vocabulary.rule uniqueBy ∧ ∀ place, Node.DecisionWrittenIn vocabulary (rest place)
  | .observe rest =>
      vocabulary.looks ∧ ∀ context, Node.DecisionWrittenIn vocabulary (rest context)
  | .ask _ rest => vocabulary.looks ∧ ∀ reply, Node.DecisionWrittenIn vocabulary (rest reply)
  | .pause rest => Node.DecisionWrittenIn vocabulary rest

end

inductive Script.WrittenIn (vocabulary : Vocabulary) : Script → Prop where
  | done : WrittenIn vocabulary .done
  | fail (error : Error) : WrittenIn vocabulary (.fail error)
  | draw {next : Float → Script} (rest : ∀ value, WrittenIn vocabulary (next value)) :
      WrittenIn vocabulary (.draw next)
  | choose {options : List (Choice Datum)} {uniqueBy : Option Unique.UniqueBy}
      {next : Nat → Script} (rule : vocabulary.rule uniqueBy)
      (rest : ∀ place, WrittenIn vocabulary (next place)) :
      WrittenIn vocabulary (.choose options uniqueBy next)
  | entry {leaf : Leaf} {next : Script} (known : vocabulary.leaf leaf)
      (rest : WrittenIn vocabulary next) : WrittenIn vocabulary (.entry leaf next)
  | list {tool : ToolSpec} {next : Script} (rest : WrittenIn vocabulary next) :
      WrittenIn vocabulary (.list tool next)
  | update {change : MetadataUpdate} {next : Script} (rest : WrittenIn vocabulary next) :
      WrittenIn vocabulary (.update change next)
  | observe {next : Context → Script} (looks : vocabulary.looks)
      (rest : ∀ context, WrittenIn vocabulary (next context)) :
      WrittenIn vocabulary (.observe next)
  | ask {call : ModelCall} {next : Except Error Reply → Script} (looks : vocabulary.looks)
      (rest : ∀ reply, WrittenIn vocabulary (next reply)) : WrittenIn vocabulary (.ask call next)
  | pause {next : Script} (rest : WrittenIn vocabulary next) : WrittenIn vocabulary (.pause next)

variable {vocabulary : Vocabulary}

theorem Script.WrittenIn.ofExcept {α : Type} {next : α → Script}
    (rest : ∀ value, (next value).WrittenIn vocabulary) (result : Except Error α) :
    (Script.ofExcept next result).WrittenIn vocabulary := by
  cases result with
  | ok value => exact rest value
  | error error => exact .fail error

theorem Script.WrittenIn.ofDrawing {α : Type} {next : α → Script}
    (rest : ∀ value, (next value).WrittenIn vocabulary)
    (drawing : Drawing Float (Except Error α)) :
    (Script.ofDrawing next drawing).WrittenIn vocabulary := by
  induction drawing with
  | done result => exact .ofExcept rest result
  | draw further ih => exact .draw ih

theorem Count.writtenIn_script {next : Nat → Script}
    (rest : ∀ number, (next number).WrittenIn vocabulary) (count : Count) :
    (count.script next).WrittenIn vocabulary := by
  cases count with
  | fixed count => exact .ofExcept rest _
  | between minimum maximum => exact .ofDrawing (fun _ => .ofExcept rest _) _

theorem Script.WrittenIn.repeat {before : Script → Script}
    (keeps : ∀ script, script.WrittenIn vocabulary → (before script).WrittenIn vocabulary)
    {next : Script} (rest : next.WrittenIn vocabulary) (number : Nat) :
    (Nat.repeat before number next).WrittenIn vocabulary := by
  induction number with
  | zero => exact rest
  | succ number ih => exact keeps _ ih

mutual

theorem Node.writtenIn_script {next : Script} (rest : next.WrittenIn vocabulary) :
    ∀ node : Node, node.WrittenIn vocabulary → (node.script next).WrittenIn vocabulary
  | .null, _ => by
      rw [Node.script]
      exact rest
  | .group nodes, written => by
      rw [Node.script]
      exact Node.writtenIn_scriptAll rest nodes written
  | .leaf leaf, written => by
      rw [Node.script]
      exact .entry written rest
  | .tool definition, _ => by
      rw [Node.script]
      exact .list rest
  | .oneOf options uniqueBy, written => by
      rw [Node.script]
      exact .choose written.1 fun place =>
        Node.writtenIn_scriptOption rest options written.2 place
  | .times count node, written => by
      rw [Node.script]
      exact count.writtenIn_script fun number =>
        .repeat (fun _ rest => Node.writtenIn_script rest node written) rest number
  | .optional node probability, written => by
      rw [Node.script]
      refine .ofDrawing (fun included => ?_) _
      cases included with
      | false => exact rest
      | true => exact Node.writtenIn_script rest node written
  | .metadata change, _ => by
      rw [Node.script]
      exact .update rest
  | .dynamic factory, written => by
      rw [Node.script]
      exact Node.writtenIn_scriptDecision rest factory written
  | .unknown, _ => by
      rw [Node.script]
      exact .fail _

theorem Node.writtenIn_scriptAll {next : Script} (rest : next.WrittenIn vocabulary) :
    ∀ nodes : List Node, Node.AllWrittenIn vocabulary nodes →
      (Node.scriptAll nodes next).WrittenIn vocabulary
  | [], _ => by
      rw [Node.scriptAll]
      exact rest
  | node :: nodes, written => by
      rw [Node.scriptAll]
      exact Node.writtenIn_script (Node.writtenIn_scriptAll rest nodes written.2) node written.1

theorem Item.writtenIn_scriptNodes {next : Script} (rest : next.WrittenIn vocabulary) :
    ∀ item : Item, item.WrittenIn vocabulary → (item.scriptNodes next).WrittenIn vocabulary
  | .node one, written => by
      rw [Item.scriptNodes]
      exact Node.writtenIn_script rest one written
  | .list items, written => by
      rw [Item.scriptNodes]
      exact Item.writtenIn_scriptAll rest items written
  | .tuple items, written => by
      rw [Item.scriptNodes]
      exact Item.writtenIn_scriptAll rest items written
  | .weighted _ _, _ => by
      rw [Item.scriptNodes]
      exact rest
  | .mapping _, _ => by
      rw [Item.scriptNodes]
      exact rest
  | .datum _, _ => by
      rw [Item.scriptNodes]
      exact rest

theorem Item.writtenIn_scriptAll {next : Script} (rest : next.WrittenIn vocabulary) :
    ∀ items : List Item, Item.AllWrittenIn vocabulary items →
      (Item.scriptAll items next).WrittenIn vocabulary
  | [], _ => by
      rw [Item.scriptAll]
      exact rest
  | item :: items, written => by
      rw [Item.scriptAll]
      exact Item.writtenIn_scriptNodes (Item.writtenIn_scriptAll rest items written.2) item
        written.1

theorem Node.writtenIn_scriptOption {next : Script} (rest : next.WrittenIn vocabulary) :
    ∀ options : List (Choice Item), Node.OptionsWrittenIn vocabulary options → ∀ place : Nat,
      (Node.scriptOption options place next).WrittenIn vocabulary
  | [], _, _ => by
      rw [Node.scriptOption]
      exact rest
  | option :: _, written, 0 => by
      rw [Node.scriptOption]
      exact Node.writtenIn_scriptChosen rest option written.1
  | _ :: options, written, place + 1 => by
      rw [Node.scriptOption]
      exact Node.writtenIn_scriptOption rest options written.2 place

theorem Node.writtenIn_scriptChosen {next : Script} (rest : next.WrittenIn vocabulary) :
    ∀ option : Choice Item, Node.OptionWrittenIn vocabulary option →
      (Node.scriptChosen option next).WrittenIn vocabulary
  | .plain item, written => by
      rw [Node.scriptChosen]
      split
      · exact .fail _
      · exact Item.writtenIn_scriptNodes rest item written
  | .weighted item _, written => by
      rw [Node.scriptChosen]
      split
      · exact .fail _
      · exact Item.writtenIn_scriptNodes rest item written
  | .entry item _ _, written => by
      rw [Node.scriptChosen]
      split
      · exact .fail _
      · exact Item.writtenIn_scriptNodes rest item written

theorem Node.writtenIn_scriptDecision {next : Script} (rest : next.WrittenIn vocabulary) :
    ∀ decision : Decision Item, Node.DecisionWrittenIn vocabulary decision →
      (Node.scriptDecision decision next).WrittenIn vocabulary
  | .done item, written => by
      rw [Node.scriptDecision]
      split
      · exact .fail _
      · exact Item.writtenIn_scriptNodes rest item written
  | .fail _, _ => by
      rw [Node.scriptDecision]
      exact .fail _
  | .draw further, written => by
      rw [Node.scriptDecision]
      exact .draw fun value => Node.writtenIn_scriptDecision rest (further value) (written value)
  | .choose _ _ further, written => by
      rw [Node.scriptDecision]
      exact .choose written.1 fun place =>
        Node.writtenIn_scriptDecision rest (further place) (written.2 place)
  | .observe further, written => by
      rw [Node.scriptDecision]
      exact .observe written.1 fun context =>
        Node.writtenIn_scriptDecision rest (further context) (written.2 context)
  | .ask _ further, written => by
      rw [Node.scriptDecision]
      exact .ask written.1 fun reply =>
        Node.writtenIn_scriptDecision rest (further reply) (written.2 reply)
  | .pause further, written => by
      rw [Node.scriptDecision]
      exact .pause (Node.writtenIn_scriptDecision rest further written)

end

theorem Item.writtenIn_script {item : Item} (written : item.WrittenIn vocabulary) {next : Script}
    (rest : next.WrittenIn vocabulary) : (item.script next).WrittenIn vocabulary := by
  unfold Item.script
  split
  · exact .fail _
  · exact Item.writtenIn_scriptNodes rest item written

end Colloquy
