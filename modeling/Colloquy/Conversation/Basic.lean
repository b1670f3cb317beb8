import Colloquy.Datum.Equality

/-!
# Conversations

The messages of a generated conversation, the plan it follows, the tools it may use, and the row of
a dataset that holds all three.
-/

set_option autoImplicit false

namespace Colloquy

inductive Role where
  | system
  | user
  | assistant
  | tool
  deriving Repr, DecidableEq

def Role.name : Role → String
  | system => "system"
  | user => "user"
  | assistant => "assistant"
  | tool => "tool"

def Role.all : List Role := [.system, .user, .assistant, .tool]

def Role.ofName? (name : String) : Option Role :=
  Role.all.find? fun role => role.name = name

inductive Phase where
  /-- The dry run that fixes the shape of a conversation and its draws. -/
  | check
  /-- The run that writes the conversation with the model. -/
  | generate
  deriving Repr, DecidableEq

def Phase.name : Phase → String
  | check => "check"
  | generate => "generate"

inductive EntryKind where
  | message
  | toolCall
  | toolResult
  deriving Repr, DecidableEq

def EntryKind.name : EntryKind → String
  | message => "message"
  | toolCall => "tool-call"
  | toolResult => "tool-result"

def EntryKind.all : List EntryKind := [.message, .toolCall, .toolResult]

def EntryKind.ofName? (name : String) : Option EntryKind :=
  EntryKind.all.find? fun kind => kind.name = name

structure CallPart where
  id : String
  name : String
  arguments : Fields

structure Message where
  role : Role
  content : Datum
  toolCalls : Option (List CallPart)
  toolCallId : Option String
  name : Option String
  generationId : String

def Message.kind (message : Message) : EntryKind :=
  if message.role = .tool then .toolResult
  else if (message.toolCalls.getD []).isEmpty then .message
  else .toolCall

/-- A tool as listed in the catalogue of a row. -/
structure ToolSpec where
  name : String
  description : String
  parameters : Fields
  output : Fields

/-- A planned entry. Its draw count is that of all entries up to and including it. -/
structure PlanEntry where
  kind : EntryKind
  role : Role
  content : Datum
  toolName : Option String
  toolCallId : Option String
  arguments : Datum
  drawCount : Int

def PlanEntry.stepType (entry : PlanEntry) : String :=
  let tool := entry.toolName.getD "None"
  match entry.kind with
  | .toolCall => s!"tool-call ({tool})"
  | .toolResult => s!"tool-result ({tool})"
  | .message => s!"{entry.role.name} message"

/-- The first characters of a text; a negative limit leaves characters out at the end. -/
def leading (limit : Int) (text : String) : String :=
  let characters := text.toList
  let count := if limit < 0 then limit + characters.length else limit
  String.ofList (characters.take count.toNat)

def PlanEntry.preview (entry : PlanEntry) (limit : Int) : String :=
  let shorten (text : String) : String :=
    leading limit text ++ (if limit < text.length then "..." else "")
  match entry.content with
  | .null => ""
  | .text text => shorten text
  | _ => shorten "[complex content]"

def previewLimit : Int := 50

/-- A planned conversation: its entries, its tool catalogue and its metadata. -/
structure Plan where
  entries : List PlanEntry
  tools : List ToolSpec
  metadata : Entries

def Plan.empty : Plan := ⟨[], [], []⟩

def Plan.hasToolCall (plan : Plan) (callId : String) : Bool :=
  plan.entries.any fun entry =>
    entry.kind = .toolCall && entry.toolCallId = some callId

/-- Whether a tool call of an id given as a value is planned; null stands for the lack of an id. -/
def Plan.mentions (plan : Plan) (callId : Datum) : Bool :=
  plan.entries.any fun entry =>
    entry.kind = .toolCall && (Datum.ofText? entry.toolCallId).equal callId

structure TokenCount where
  messageTokens : Int
  toolTokens : Int
  total : Int
  deriving Repr, DecidableEq

structure RowMeta where
  seed : Option Int
  model : String
  output : Option String
  startTimestamp : String
  tokenCount : Option TokenCount
  metadata : Fields

structure Row where
  messages : List Message
  tools : List ToolSpec
  plan : Plan
  provenance : RowMeta

def finalSuffix : String := "-FINAL"

def normalizeCallId (callId : String) : String :=
  if callId.endsWith finalSuffix then
    String.ofList (callId.toList.take (callId.length - finalSuffix.length))
  else callId

end Colloquy
