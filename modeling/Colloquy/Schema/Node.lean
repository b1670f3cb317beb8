import Colloquy.Schema.Context
import Colloquy.Selection.Reading
import Colloquy.Shape.Document

/-!
# Schema trees

A schema is a tree of nodes. Its leaves make the entries of a conversation; the other nodes decide
which leaves are reached, list tools, or change the metadata of the row. Where a node is expected
authors may also write lists of nodes, or null for nothing, which is what an `Item` is.
-/

set_option autoImplicit false

namespace Colloquy

open Selection (Choice)

structure ToolDefinition where
  name : String
  description : String
  parameters : Option Shape
  output : Option Shape

namespace ToolDefinition

def takesArguments (tool : ToolDefinition) : Bool := Shape.hasFields tool.parameters

def returnsValue (tool : ToolDefinition) : Bool := Shape.hasFields tool.output

def spec (tool : ToolDefinition) : ToolSpec :=
  ⟨tool.name, tool.description, schemaOf tool.parameters, schemaOf tool.output⟩

/-- The tool as a value. Its shapes bring their schemas along. -/
def describe (tool : ToolDefinition) : Datum :=
  let shape (shape : Option Shape) : Datum :=
    match shape with
    | some shape => .object (.marker "ModelMetaclass" ("<class '" ++ shape.name ++ "'>")) [
        ("schema", Fields.toDatum shape.schema), ("filled", .bool (Shape.hasFields shape))]
    | none => .null
  .object (.node "ToolDefinition") [
    ("name", .text tool.name), ("description", .text tool.description),
    ("parameters", shape tool.parameters), ("output", shape tool.output)]

end ToolDefinition

/-- What an author writes for a use of a tool. Nothing is known yet of the ids and arguments. -/
structure ToolCall where
  tool : ToolDefinition
  callId : Datum
  arguments : Datum
  /-- The id of an earlier call whose arguments are used again. -/
  reuseFrom : Datum
  prompt : Datum

/-- What an author writes for the result of a call. Without a result the model writes one. -/
structure ToolResult where
  tool : ToolDefinition
  callId : Datum
  result : Option Datum
  prompt : Datum

inductive Leaf where
  | fixed (role content : Datum)
  | written (role prompt : Datum)
  | call (use : ToolCall)
  | result (answer : ToolResult)

def Leaf.describe : Leaf → Datum
  | fixed role content =>
      .object (.node "StaticMessage") [("role", role), ("content", content)]
  | written role prompt =>
      .object (.node "GeneratedMessage") [("role", role), ("prompt", prompt)]
  | call use =>
      .object (.node "ToolCall") [
        ("tool", use.tool.describe), ("call_id", use.callId), ("arguments", use.arguments),
        ("reuse_args_from", use.reuseFrom), ("prompt", use.prompt)]
  | result answer =>
      .object (.node "ToolCallResult") [
        ("tool", answer.tool.describe), ("call_id", answer.callId),
        ("result", answer.result.getD (.object (.marker "_NotGiven" "NOT_GIVEN") [])),
        ("prompt", answer.prompt)]

/-- How often a node is repeated: as often as a value says, or a drawn number of times. -/
inductive Count where
  | fixed (count : Datum)
  | between (minimum maximum : Datum)

def Count.range (minimum maximum : Datum) : Datum :=
  .object (.record "Between") [("minimum", minimum), ("maximum", maximum)]

def Count.describe : Count → Datum
  | fixed count => count
  | between minimum maximum => Count.range minimum maximum

def Count.ofDatum (value : Datum) : Count :=
  match value with
  | .object (.record "Between") [(_, minimum), (_, maximum)] => between minimum maximum
  | other => fixed other

inductive MetadataUpdate where
  /-- Writes the entries of a mapping over the metadata. -/
  | merge (update : Datum)
  /-- Edits a draft, and may return what takes its place; null keeps the draft. -/
  | edit (change : Entries → Except Error (Entries × Datum))

def MetadataUpdate.describe : MetadataUpdate → Datum
  | merge update => update
  | edit _ => .object (.marker "function" "<fn update>") []

def Unique.UniqueBy.describe (rule : Unique.UniqueBy) : Datum :=
  let itemId : Datum :=
    match rule.itemId with
    | none => .null
    | some (.named name) => name
    | some (.computed shown _) => .object (.marker "function" shown) []
  .object (.record "UniqueBy") [("collection", .text rule.collection), ("item_id", itemId)]

mutual

inductive Node where
  | null
  | group (nodes : List Node)
  | leaf (leaf : Leaf)
  | tool (definition : ToolDefinition)
  | oneOf (options : List (Choice Item)) (uniqueBy : Option Unique.UniqueBy)
  | times (count : Count) (node : Node)
  | optional (node : Node) (probability : Datum)
  | metadata (update : MetadataUpdate)
  /-- A part of the tree that code of the author builds. -/
  | dynamic (factory : Decision Item)
  | unknown

/-- What may be written where a node is expected. -/
inductive Item where
  | node (node : Node)
  | list (items : List Item)
  | tuple (items : List Item)
  | weighted (item : Item) (weight : Datum)
  | mapping (entries : List (Datum × Item))
  /-- A value that is no node; null stands for nothing. -/
  | datum (value : Datum)

end

instance : Inhabited Item := ⟨.datum .null⟩

mutual

def Node.describe : Node → Datum
  | .null => .object (.node "Null") []
  | .group nodes => .object (.node "Group") [("nodes", .tuple (Node.describeAll nodes))]
  | .leaf leaf => leaf.describe
  | .tool definition => definition.describe
  | .oneOf options rule =>
      .object (.node "OneOf") [
        ("options", .tuple (Node.describeOptions options)),
        ("unique_by", (rule.map Unique.UniqueBy.describe).getD .null)]
  | .times count node =>
      .object (.node "Times") [("count", count.describe), ("node", node.describe)]
  | .optional node probability =>
      .object (.node "OptionalNode") [("node", node.describe), ("probability", probability)]
  | .metadata update => .object (.node "Metadata") [("update", update.describe)]
  | .dynamic _ =>
      .object (.node "Dynamic") [("factory", .object (.marker "function" "<fn factory>") [])]
  | .unknown => .object (.node "Unknown") []

def Node.describeAll : List Node → List Datum
  | [] => []
  | node :: nodes => node.describe :: Node.describeAll nodes

def Item.describe : Item → Datum
  | .node node => node.describe
  | .list items => .list (Item.describeAll items)
  | .tuple items => .tuple (Item.describeAll items)
  | .weighted item weight => Selection.weightedDatum item.describe weight
  | .mapping entries => .mapping (Item.describeEntries entries)
  | .datum datum => datum

def Item.describeAll : List Item → List Datum
  | [] => []
  | item :: items => item.describe :: Item.describeAll items

def Item.describeEntries : List (Datum × Item) → Entries
  | [] => []
  | (key, item) :: entries => (key, item.describe) :: Item.describeEntries entries

def Node.describeOption : Choice Item → Datum
  | .plain item => item.describe
  | .weighted item weight => Selection.weightedDatum item.describe weight
  | .entry item none _ => .mapping [(.text "value", item.describe)]
  | .entry item (some weight) false =>
      .mapping [(.text "value", item.describe), (.text "weight", weight)]
  | .entry item (some weight) true =>
      .mapping [(.text "weight", weight), (.text "value", item.describe)]

def Node.describeOptions : List (Choice Item) → List Datum
  | [] => []
  | option :: options => Node.describeOption option :: Node.describeOptions options

end

mutual

/-- The node that a value stands for: lists and tuples stand for groups, null for nothing, and no
other value is a node. -/
def Datum.toNode : Datum → Except Error Node
  | .null => .ok .null
  | .list items => (Datum.toNodes items).map .group
  | .tuple items => (Datum.toNodes items).map .group
  | other => .error (.schema (.notNode other.typeName other.shown))

def Datum.toNodes : List Datum → Except Error (List Node)
  | [] => .ok []
  | item :: items => do
      let first ← item.toNode
      return first :: (← Datum.toNodes items)

end

mutual

/-- The node that an item stands for: a list stands for a group, null for nothing. -/
def Item.toNode : Item → Except Error Node
  | .node one => .ok one
  | .list items => (Item.toNodes items).map .group
  | .tuple items => (Item.toNodes items).map .group
  | .datum value => value.toNode
  | other => other.describe.toNode

def Item.toNodes : List Item → Except Error (List Node)
  | [] => .ok []
  | item :: items => do
      let first ← item.toNode
      return first :: (← Item.toNodes items)

end

def Item.choice : Item → Choice Item
  | .weighted item weight => .weighted item weight
  | .mapping [(.text "value", item)] => .entry item none false
  | .mapping [(.text "value", item), (.text "weight", weight)] =>
      .entry item (some weight.describe) false
  | .mapping [(.text "weight", weight), (.text "value", item)] =>
      .entry item (some weight.describe) true
  | .datum value => (Choice.ofDatum value).map Item.datum
  | other => .plain other

/-- Why an item is not a tree, if so: the first part that is neither a node nor a list nor null. -/
def Item.fault? (item : Item) : Option Error :=
  match item.toNode with
  | .ok _ => none
  | .error error => some error

/-- The schema of a row: a tree, or code that builds one for each row. -/
inductive Schema where
  | tree (root : Item)
  | factory (build : Except Error Item)

def Schema.resolve : Schema → Except Error Item
  | .tree (.datum value) =>
      if value.isNull || value.items?.isSome then value.toNode.map .node
      else .error (.schema (.notSchema value.shown))
  | .tree root => root.toNode.map .node
  | .factory build => do return .node (← (← build).toNode)

end Colloquy
