import Colloquy.Conversation.Document
import Colloquy.Error.Conversion
import Colloquy.Schema.Node

/-!
# Listings

What values and trees look like when they are written down again as plain data. A listing holds
texts, numbers, truth values, null, lists and mappings with text keys, and nothing else.
-/

set_option autoImplicit false

namespace Colloquy

def Datum.tagged (tag : String) (value : Datum) : Datum := .mapping [(.text tag, value)]

/-- The listing of a double: one that is not finite has a form of its own. -/
def listedFloat (value : Float) : Datum :=
  if value.isFinite then .float value
  else .tagged "$float" (.text (if value.isNaN then "nan" else if value > 0.0 then "inf" else "-inf"))

def Datum.kinded (kind : String) (fields : Fields) : Datum :=
  Fields.toDatum (("t", .text kind) :: fields)

def nodeKind (typeName : String) : String :=
  (([("Null", "null"), ("Group", "group"), ("StaticMessage", "static"),
    ("GeneratedMessage", "generated"), ("ToolDefinition", "tool"), ("ToolCall", "call"),
    ("ToolCallResult", "result"), ("OneOf", "one_of"), ("Times", "times"),
    ("OptionalNode", "optional"), ("Metadata", "metadata"), ("Dynamic", "dynamic")]).lookup
      typeName).getD "unknown"

/-- What a tool that is described shows of one of its shapes: whether it has fields, and its
schema. -/
def shapeParts (shape : Datum) : Bool × Datum :=
  match shape with
  | .object _ fields =>
      ((fields.lookup "filled").any Datum.isTruthy, (fields.lookup "schema").getD .null)
  | _ => (false, emptySchema.toDatum)

def toolListing (fields : Fields) : Datum :=
  let part (name : String) : Datum := (fields.get? name).getD .null
  let (takesArguments, parameters) := shapeParts (part "parameters")
  let (returnsValue, output) := shapeParts (part "output")
  .kinded "tool" [("takes_arguments", .bool takesArguments), ("returns_value", .bool returnsValue),
    ("spec", Fields.toDatum [("name", part "name"), ("description", part "description"),
      ("parameters", parameters), ("output", output)])]

def toolName (tool : Datum) : Datum :=
  match tool with
  | .object _ fields => (fields.lookup "name").getD .null
  | _ => .null

mutual

/-- The listing of a document, in which doubles that are not finite get their form. -/
def Datum.plainListing : Datum → Datum
  | .float value => listedFloat value
  | .list items => .list (plainListingItems items)
  | .mapping entries => .mapping (plainListingEntries entries)
  | other => other

def Datum.plainListingItems : List Datum → List Datum
  | [] => []
  | item :: items => item.plainListing :: plainListingItems items

def Datum.plainListingEntries : List (Datum × Datum) → Entries
  | [] => []
  | (key, value) :: entries => (key, value.plainListing) :: plainListingEntries entries

end

def instanceListing (value : Datum) : Datum :=
  match value.document with
  | .ok document => document.plainListing
  | .error fault => .text fault.typeName

mutual

/-- The listing of a value. A node is marked as one unless nothing but nodes can stand there. -/
def Datum.listingAs (marked : Bool) : Datum → Datum
  | .float value => listedFloat value
  | .list items => .list (listingItems true items)
  | .tuple items => .list (listingItems marked items)
  | .mapping entries => .mapping (listingEntries entries)
  | .bytes content => .text content
  | .decimal written => .text written.text
  | .date written => .text written
  | .object .bundle fields => .tagged "$obj" (.mapping (listingFields fields))
  | .object (.record "Weighted") fields => .tagged "$weighted" (.list (listingValues fields))
  | .object (.record "Between") fields => .tagged "between" (.list (listingValues fields))
  | .object (.record _) fields => .mapping (listingFields fields)
  | .object (.instance tag) fields => instanceListing (.object (.instance tag) fields)
  | .object (.marker "function" _) _ => .text "callable"
  | .object (.marker _ _) fields => .mapping (listingFields fields)
  | .object (.node kind) fields =>
      let listed := if kind = "ToolDefinition" then toolListing fields
        else .kinded (nodeKind kind) (listingNode fields)
      if marked then .tagged "$node" listed else listed
  | other => other

def Datum.listingItems (marked : Bool) : List Datum → List Datum
  | [] => []
  | item :: items => item.listingAs marked :: listingItems marked items

def Datum.listingEntries : List (Datum × Datum) → Entries
  | [] => []
  | (key, value) :: entries => (.text key.spoken, value.listingAs true) :: listingEntries entries

def Datum.listingFields : List (String × Datum) → Entries
  | [] => []
  | (name, value) :: fields => (.text name, value.listingAs true) :: listingFields fields

def Datum.listingValues : List (String × Datum) → List Datum
  | [] => []
  | (_, value) :: fields => value.listingAs true :: listingValues fields

def Datum.listingNode : List (String × Datum) → Fields
  | [] => []
  | (name, value) :: fields =>
      (match name with
        | "tool" => [("tool", toolName value)]
        | "call_id" => [("id", value.listingAs true)]
        | "result" => [("given", .bool (value.typeName ≠ "_NotGiven")),
            ("result", if value.typeName = "_NotGiven" then .null else value.listingAs true)]
        | "factory" => []
        | name => [(name, value.listingAs (name ≠ "node" && name ≠ "nodes"))]) ++
        listingNode fields

end

def Datum.listing (value : Datum) : Datum := value.listingAs true

def Item.listing (item : Item) : Datum := item.describe.listing

def Node.listing (node : Node) : Datum := node.describe.listingAs false

def documented (document : Except Datum.NoDocument Fields) : Except Error Datum :=
  (document.mapError Error.ofNoDocument).map Fields.toDatum

/-- The document of validated data, or the error that there is none. -/
def Outline.documentOf (value : Datum) : Except Error Datum :=
  value.document.mapError Error.ofNoDocument

def Message.brief (message : Message) : Datum :=
  .list [.text message.role.name, message.content]

/-- A row in brief: its seed, what was planned and drawn, what was said, and its metadata. -/
def Row.brief (row : Row) : Datum :=
  Fields.toDatum [("seed", .ofInt? row.provenance.seed),
    ("plan", .list (row.plan.entries.map PlanEntry.content)),
    ("draws", .list (row.plan.entries.map fun entry => .int entry.drawCount)),
    ("messages", .list (row.messages.map Message.brief)),
    ("metadata", row.provenance.metadata.toDatum)]

end Colloquy
