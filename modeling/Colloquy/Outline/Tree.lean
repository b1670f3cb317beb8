import Colloquy.Datum.CalendarDate
import Colloquy.Outline.Edit
import Colloquy.Outline.Scope
import Colloquy.Outline.Shape

/-!
# Outlines of values, trees and code

A value beyond plain data is outlined by a mapping with a single key that begins with a dollar sign,
a node by a mapping that says its kind under `t`, and code by a list of statements, each of which
says under `do` what it does. All readers are bounded by the depth of the outline.
-/

set_option autoImplicit false

namespace Colloquy.Outline

open Selection (Choice)
open Colloquy.Unique (UniqueBy)

def plain? : Item → Option Datum
  | .datum value => some value
  | _ => none

/-- A list or tuple of items, as a value if all of them are values. -/
def listed (tuple : Bool) (items : List Item) : Item :=
  match items.mapM plain? with
  | some values => .datum (if tuple then .tuple values else .list values)
  | none => if tuple then .tuple items else .list items

def mapped (entries : List (Datum × Item)) : Item :=
  match entries.mapM fun entry => (plain? entry.2).map fun value => (entry.1, value) with
  | some values => .datum (.mapping values)
  | none => .mapping entries

def weighed (item : Item) (weight : Datum) : Item :=
  match item with
  | .datum value => .datum (Selection.weightedDatum value weight)
  | other => .weighted other weight

def namedNumber (name : String) : Except Error Datum :=
  match (Number.Numeral.ofText? name).bind Number.Numeral.toFloat? with
  | some number => .ok (.float number)
  | none => .error (.unsupported .value ("could not convert string to float: " ++ Text.quoted name))

def writtenNumber (text : String) : Except Error Datum :=
  match Number.Numeral.ofText? text with
  | some numeral => .ok (.decimal numeral)
  | none => .error (.unsupported .decimal "[<class 'decimal.ConversionSyntax'>]")

def range (bounds : Datum) : Except Error Datum :=
  match itemsOf bounds with
  | [minimum, maximum] => Count.checkedRange minimum maximum
  | _ => senseless "between"

def choicesOf : Options → Except Error (List (Choice Item))
  | .listed options => .ok options
  | .value options => return (← Selection.choicesOfDatum options).map (Choice.map Item.datum)

def toolIn (scope : Scope) (outline : Datum) : Except Error ToolDefinition :=
  match outline with
  | .text name =>
      match scope.tools.get? name with
      | some outline => tool outline
      | none => .error (.raised .key (.text name))
  | other => tool other

def containsText (text part : String) : Bool :=
  part = "" || (text.splitOn part).length > 1

/-- The variables behind a statement: those before it, and the one it stores its result in. -/
def remember (statement : Datum) (locals : Bindings) (item : Item) : Bindings :=
  match statement.get? "as" with
  | some (.text name) => (name, item) :: locals.filter fun entry => entry.1 ≠ name
  | _ => locals

abbrev Progress := Bindings × Option Item

def drawCount (context : Context) (count : Datum) : Except Error Nat := do
  let count ← match count with
    | .mapping entries =>
        match Datum.entry? entries (.text context.phase.name) with
        | some count => .ok count
        | none => .error (.raised .key (.text context.phase.name))
    | count => .ok count
  match count.integer? with
  | some number => return number.toNat
  | none => Selection.notInteger count

/-- What a statement says besides what is done and where its result goes. -/
def statementDetails (statement : Datum) : Datum :=
  Fields.toDatum (((entriesOf statement).remove "do").remove "as")

def lastContains (last part : Datum) : Except Error Bool :=
  match last, part with
  | .text last, .text part => .ok (containsText last part)
  | .text _, other =>
      .error (.unsupported .type
        ("'in <string>' requires string as left operand, not " ++ other.typePath))
  | _, _ => .ok false

mutual

def itemWithin : Nat → Scope → Datum → Except Error Item
  | 0, scope, .text text => return .datum (.text (← scope.fill text))
  | 0, _, .list _ => senseless "value"
  | 0, _, .mapping _ => senseless "value"
  | 0, _, value => .ok (.datum value)
  | _ + 1, scope, .text text => return .datum (.text (← scope.fill text))
  | depth + 1, scope, .list items => (items.mapM (itemWithin depth scope)).map (listed false)
  | depth + 1, scope, .mapping entries =>
      match tag? (.mapping entries) with
      | some (key, outline) =>
          let written : String := outline.text?.getD ""
          match key with
          | "$float" => (namedNumber written).map .datum
          | "$bytes" => .ok (.datum (.bytes written))
          | "$decimal" => (writtenNumber written).map .datum
          | "$date" => do return .datum (.date (← CalendarDate.ofText written).text)
          | "$obj" => do
              let fields ← (entriesOf outline).mapM fun entry => do
                return (entry.1, ← valueWithin depth scope entry.2)
              return .datum (.object .bundle fields)
          | "$tuple" =>
              ((itemsOf outline).mapM (itemWithin depth scope)).map (listed true)
          | "$map" => do
              let entries ← (itemsOf outline).mapM fun pair => do
                let parts := itemsOf pair
                let key ← (← valueWithin depth scope (parts.getD 0 .null)).asKey
                return (key, ← itemWithin depth scope (parts.getD 1 .null))
              return mapped (Datum.joinEntries entries)
          | "$weighted" => do
              let parts := itemsOf outline
              let item ← itemWithin depth scope (parts.getD 0 .null)
              return weighed item (← valueWithin depth scope (parts.getD 1 .null))
          | "$node" => nodeWithin depth scope outline
          | "$model" => do
              let shape ← shape (field outline "schema")
              let data ← valueWithin depth scope (field outline "data")
              return .datum (← (shape.fit data).mapError (Error.ofFaults shape.name))
          | "var" =>
              if scope.bindings.isSome then scope.lookup outline.spoken
              else mappingWithin depth scope entries
          | _ => mappingWithin depth scope entries
      | none => mappingWithin depth scope entries
  | _ + 1, _, value => .ok (.datum value)

def mappingWithin : Nat → Scope → List (Datum × Datum) → Except Error Item
  | 0, _, [] => .ok (.datum (.mapping []))
  | 0, _, _ => senseless "mapping"
  | depth + 1, scope, entries => do
      let entries ← entries.mapM fun entry => do
        return (entry.1, ← itemWithin depth scope entry.2)
      return mapped entries

def valueWithin : Nat → Scope → Datum → Except Error Datum
  | 0, scope, .text text => return .text (← scope.fill text)
  | 0, _, value => .ok value
  | depth + 1, scope, outline => (itemWithin depth scope outline).map Item.describe

def optionWithin : Nat → Scope → Datum → Except Error Item
  | 0, scope, outline => itemWithin 0 scope outline
  | depth + 1, scope, .list items =>
      (items.mapM (optionWithin depth scope)).map (listed false)
  | depth + 1, scope, .mapping [(.text "$weighted", parts)] => do
      let parts := itemsOf parts
      let item ← optionWithin depth scope (parts.getD 0 .null)
      return weighed item (← valueWithin depth scope (parts.getD 1 .null))
  | depth + 1, scope, outline =>
      if (outline.get? "t").isSome then nodeWithin depth scope outline
      else if (outline.get? "value").isSome then do
        let entries ← (entriesOf outline).mapM fun entry => do
          let item ← if entry.1 = "value" then optionWithin depth scope entry.2
            else itemWithin depth scope entry.2
          return (Datum.text entry.1, item)
        return mapped entries
      else itemWithin depth scope outline

def optionsWithin : Nat → Scope → Datum → Except Error Options
  | 0, _, _ => senseless "options"
  | depth + 1, scope, .list items => do
      return .listed ((← items.mapM (optionWithin depth scope)).map Item.choice)
  | depth + 1, scope, outline => do
      match ← itemWithin depth scope outline with
      | .list items => return .listed (items.map Item.choice)
      | .tuple items => return .listed (items.map Item.choice)
      | item => return .value item.describe

/-- The uniqueness rule that outlines of a collection and of an identification give. -/
def ruleWithin : Nat → Scope → Datum → Datum → Except Error UniqueBy
  | 0, _, _, _ => senseless "unique"
  | depth + 1, scope, collection, itemId => do
      let collection ← valueWithin depth scope collection
      match itemId with
      | .null => UniqueBy.make collection none
      | .mapping [(.text "$fn", .text name)] =>
          match scope.functions.lookup name with
          | some compute =>
              UniqueBy.make collection (some (.computed ("<fn " ++ name ++ ">") compute))
          | none => .error (.raised .key (.text name))
      | other => UniqueBy.make collection (some (.named (← valueWithin depth scope.bare other)))

def uniqueWithin : Nat → Scope → Datum → Except Error (Option UniqueBy)
  | 0, _, outline => if outline.isNull then .ok none else senseless "unique"
  | depth + 1, scope, outline =>
      if outline.isNull then .ok none
      else
        (ruleWithin depth scope.bare (field outline "collection") (field outline "item_id")).map some

def nodeWithin : Nat → Scope → Datum → Except Error Item
  | 0, scope, outline => itemWithin 0 scope outline
  | depth + 1, scope, .list items => (items.mapM (nodeWithin depth scope)).map .list
  | depth + 1, scope, .mapping [(.text "$tuple", items)] =>
      ((itemsOf items).mapM (nodeWithin depth scope)).map .tuple
  | depth + 1, scope, outline =>
      match (outline.get? "t").bind Datum.text? with
      | none => itemWithin depth scope outline
      | some kind => do
          let value (name : String) : Except Error Datum :=
            valueWithin depth scope (field outline name)
          let child : Except Error Item := nodeWithin depth scope (field outline "node")
          let made (node : Except Error Node) : Except Error Item := node.map Item.node
          match kind with
          | "system" => made (Node.message .system (← value "content"))
          | "user" => made (Node.message .user (← value "content"))
          | "assistant" => made (Node.message .assistant (← value "content"))
          | "generated_system" => return .node (.generated .system (← value "prompt"))
          | "generated_user" => return .node (.generated .user (← value "prompt"))
          | "generated_assistant" => return .node (.generated .assistant (← value "prompt"))
          | "static" => return .node (.leaf (.fixed (← value "role") (← value "content")))
          | "generated" => return .node (.leaf (.written (← value "role") (← value "prompt")))
          | "tool" => return .node (.tool (← toolIn scope (field outline "tool")))
          | "call" =>
              return .node (.leaf (.call ⟨← toolIn scope (field outline "tool"), ← value "id",
                ← value "arguments", ← value "reuse_args_from", ← value "prompt"⟩))
          | "result" => do
              let result ← (outline.get? "result").mapM (valueWithin depth scope)
              return .node (.leaf (.result ⟨← toolIn scope (field outline "tool"), ← value "id",
                result, ← value "prompt"⟩))
          | "null" => return .node .null
          | "group" =>
              made (Node.grouped (← (itemsOf (field outline "nodes")).mapM (nodeWithin depth scope)))
          | "one_of" => do
              let options ← optionsWithin depth scope (field outline "options")
              made (Node.choice options (← uniqueWithin depth scope (field outline "unique_by")))
          | "unique_one_of" => do
              let options ← optionsWithin depth scope (field outline "options")
              let rule ← ruleWithin depth scope (field outline "collection")
                (field outline "item_id")
              made (Node.choice options (some rule))
          | "times" => do
              let count ← countWithin depth scope (field outline "count")
              made (Node.repeated count (← child))
          | "raw_times" => do
              let count ← countWithin depth scope (field outline "count")
              return .node (.times (.ofDatum count) (← (← child).toNode))
          | "between" => return .datum (← range (.list [← value "min", ← value "max"]))
          | "optional" => do
              let included ← child
              let probability ← (outline.get? "probability").mapM (valueWithin depth scope)
              made (Node.perhaps included (probability.getD (.float 0.5)))
          | "metadata" =>
              match outline.get? "fn" with
              | none => return .node (.metadata (.merge (← value "update")))
              | some change => return .node (.metadata (← editWithin depth scope.bare change).update)
          | "dynamic" =>
              return .node (.dynamic (codeWithin depth scope.bare (itemsOf (field outline "body"))))
          | "unknown" => return .node .unknown
          | _ => itemWithin depth scope outline

def countWithin : Nat → Scope → Datum → Except Error Datum
  | 0, scope, outline => valueWithin 0 scope outline
  | depth + 1, scope, .mapping [(.text "between", bounds)] => do
      range (← valueWithin depth scope bounds)
  | depth + 1, scope, outline => valueWithin depth scope outline

def editWithin : Nat → Scope → Datum → Except Error Edit
  | 0, _, _ => senseless "edit"
  | depth + 1, scope, outline => do
      let keys (name : String) : Except Error (List Datum) :=
        (itemsOf (field outline name)).mapM (valueWithin depth scope)
      let set ← (entriesOf (field outline "set")).mapM fun entry => do
        return (Datum.text entry.1, ← valueWithin depth scope entry.2)
      let returned ← (outline.get? "return").mapM (valueWithin depth scope)
      return ⟨← keys "delete", set, ← keys "increment", returned,
        (field outline "return_draft").isTruthy⟩

def codeWithin : Nat → Scope → List Datum → Decision Item
  | 0, _, _ => .fail (.unsupported .value "senseless outline: code")
  | depth + 1, scope, statements =>
      (blockWithin depth scope ([], none) statements).bind fun progress =>
        .done (progress.2.getD (.datum .null))

def blockWithin : Nat → Scope → Progress → List Datum → Decision Progress
  | 0, _, progress, _ => .done progress
  | depth + 1, scope, progress, statements =>
      statements.foldl (fun before statement => before.bind fun (locals, returned) =>
        match returned with
        | some item => .done (locals, some item)
        | none => .observe fun context =>
            statementWithin depth scope context locals statement) (.done progress)

def statementWithin : Nat → Scope → Context → Bindings → Datum → Decision Progress
  | 0, _, _, locals, _ => .done (locals, none)
  | depth + 1, outer, context, locals, statement =>
      let scope := outer.within (locals ++ Scope.ofContext context)
      let value (name : String) (fallback : Datum) : Decision Datum :=
        .ofExcept (valueWithin depth scope ((statement.get? name).getD fallback))
      let finish (item : Item) : Decision Progress := .done (remember statement locals item, none)
      match fieldText statement "do" with
      | "random" => do
          let count ← Decision.ofExcept (drawCount context (← value "n" (.int 1)))
          let last ← Decision.drawLast none count
          finish (.datum ((last.map Datum.float).getD .null))
      | "one_of" => do
          let options ← Decision.ofExcept (do
            choicesOf (← optionsWithin depth scope (field statement "options")))
          let rule ← Decision.ofExcept (uniqueWithin depth scope (field statement "unique_by"))
          let place ← Decision.choose (options.map (Choice.map Item.describe)) rule .done
          finish ((options[place]?.map Choice.item).getD (.datum .null))
      | "between" => do
          let minimum ← value "min" .null
          finish (.datum (← Decision.between minimum (← value "max" .null)))
      | "chance" => do
          let probability ← value "p" (.float 0.5)
          finish (.datum (.bool (← Decision.chance probability)))
      | "sample" => do
          let count ← value "n" .null
          let items ← Decision.ofExcept (sampleWithin depth scope (field statement "items"))
          finish (listed false (← Decision.sample count items))
      | "if" => do
          let yes ← Decision.ofExcept (holdsWithin depth scope context (field statement "cond"))
          let (locals, returned) ← blockWithin depth outer (locals, none)
            (itemsOf (field statement (if yes then "then" else "else")))
          match returned with
          | some item => return (locals, some item)
          | none => return (remember statement locals (.datum .null), none)
      | "raise" => .fail (scope.error (statementDetails statement))
      | "return" => do
          let item ← Decision.ofExcept (nodeWithin depth scope (field statement "node"))
          return (locals, some item)
      | _ => .fail (.unsupported .value "senseless outline: statement")

def sampleWithin : Nat → Scope → Datum → Except Error (List Item)
  | 0, _, _ => senseless "sample"
  | depth + 1, scope, .list items => items.mapM (optionWithin depth scope)
  | depth + 1, scope, outline => do
      match ← itemWithin depth scope outline with
      | .list items => return items
      | .tuple items => return items
      | item => return (← item.describe.elements).map Item.datum

/-- Whether a condition holds. Nothing in it is a variable but what it asks about. -/
def holdsWithin : Nat → Scope → Context → Datum → Except Error Bool
  | 0, _, _, _ => senseless "condition"
  | depth + 1, scope, context, condition => do
      let some (kind, wanted) := tag? condition | senseless "condition"
      match kind with
      | "last_contains" => lastContains (← scope.lookup "last").describe wanted
      | "var" =>
          let parts := itemsOf wanted
          let expected ← valueWithin depth scope.bare (parts.getD 1 .null)
          return (← scope.lookup (parts.getD 0 .null).spoken).describe.equal expected
      | "has_call" =>
          let callId ← wanted.asCallId
          match context.phase with
          | .check => return context.hasPlannedToolCall callId
          | .generate => return (context.findToolCall callId).isSome
      | kind =>
          if ["phase", "seed", "row_index", "step", "draws"].contains kind then
            return wanted.equal (← scope.lookup kind).describe
          else senseless "condition"

end

/-- A bound on the steps of reading an outline; no reader takes more than four for each level. -/
def bound (outline : Datum) : Nat := 4 * outline.depth + 8

def value (scope : Scope) (outline : Datum) : Except Error Datum :=
  valueWithin (bound outline) scope outline

def values (scope : Scope) (outline : Datum) : Except Error Fields :=
  (entriesOf outline).mapM fun entry => do return (entry.1, ← value scope entry.2)

def tree (scope : Scope) (outline : Datum) : Except Error Item :=
  nodeWithin (bound outline) scope outline

def options (scope : Scope) (outline : Datum) : Except Error (List (Choice Item)) := do
  choicesOf (← optionsWithin (bound outline) scope outline)

def unique (scope : Scope) (outline : Datum) : Except Error (Option UniqueBy) :=
  uniqueWithin (bound outline) scope outline

def sample (scope : Scope) (outline : Datum) : Except Error (List Item) :=
  sampleWithin (bound outline) scope outline

def code (scope : Scope) (outline : Datum) : Decision Item :=
  codeWithin (bound outline) scope (itemsOf outline)

end Colloquy.Outline
