import Colloquy.Conversation.Identity
import Colloquy.Prompt.Extras
import Colloquy.Prompt.Flow
import Colloquy.Prompt.Wording
import Colloquy.Resolution.Check

/-!
# The generate phase

The schema is resolved again on the same draws, now with the model. Every entry is compared with the
plan before it joins the conversation: another kind, role or number of draws ends the row.
-/

set_option autoImplicit false

namespace Colloquy

/-- How entries are made in the generate phase. -/
structure Making where
  hasModel : Bool
  extras : Option PromptExtras
  verifyDraws : Bool
  logSteps : Bool

namespace Walk

def skewAt (walk : Walk) (planned : PlanEntry) (detail : Option String) : SkewReport :=
  { seed := walk.context.seed
    stepIndex := walk.context.messages.length
    totalSteps := walk.context.plan.entries.length
    expectedDraws := some planned.drawCount
    actualDraws := some walk.context.draws
    role := some planned.role.name
    contentPreview := some (planned.preview previewLimit)
    stepType := some planned.stepType
    rowIndex := walk.context.rowIndex
    detail := detail }

def surplus (walk : Walk) (message : Message) : SkewReport :=
  { seed := walk.context.seed
    stepIndex := walk.context.messages.length
    totalSteps := walk.context.plan.entries.length
    expectedDraws := none
    actualDraws := some walk.context.draws
    role := some message.role.name
    rowIndex := walk.context.rowIndex
    detail := some ("Generate emitted an extra " ++ message.kind.name ++ " entry") }

def shortfall (walk : Walk) : SkewReport :=
  { seed := walk.context.seed
    stepIndex := walk.context.messages.length
    totalSteps := walk.context.plan.entries.length
    expectedDraws := none
    actualDraws := none
    rowIndex := walk.context.rowIndex
    detail := some (s!"Check planned {walk.context.plan.entries.length} steps, " ++
      s!"generate produced {walk.context.messages.length}") }

def objection? (verifyDraws : Bool) (walk : Walk) (message : Message) : Option Error :=
  match walk.context.plan.entries[walk.context.messages.length]? with
  | none => some (.mismatch (walk.surplus message))
  | some planned =>
      if planned.kind ≠ message.kind ∨ planned.role ≠ message.role then
        some (.mismatch (walk.skewAt planned (some
          (s!"Expected {planned.kind.name} ({planned.role.name}), " ++
            s!"got {message.kind.name} ({message.role.name})"))))
      else if verifyDraws ∧ planned.drawCount ≠ walk.context.draws then
        some (.skew (walk.skewAt planned none))
      else none

def stepReport (walk : Walk) (message : Message) : StepReport :=
  ⟨walk.context.messages.length, walk.context.plan.entries.length,
    (walk.context.plan.entries[walk.context.messages.length]?.map PlanEntry.stepType).getD "",
    ⟨message.kind, message.role, walk.context.draws⟩⟩

def addMessage (walk : Walk) (message : Message) : Walk :=
  { walk with
    context := { walk.context with messages := walk.context.messages ++ [message] }
    reports := walk.reports ++ [walk.stepReport message] }

def stepLine (walk : Walk) (message : Message) : String :=
  let report := walk.stepReport message
  s!"Row {shownIndex walk.context.rowIndex} | " ++
    s!"Step {report.step + 1}/{report.total} | {report.stepType}"

def join (making : Making) (message : Message) (walk : Walk) : RowProcess (Walked Unit) :=
  if making.logSteps then
    .step (Shared.report .debug (walk.stepLine message)) fun _ =>
      .done (.ok ((), walk.addMessage message))
  else .done (.ok ((), walk.addMessage message))

def append (making : Making) (message : Message) (walk : Walk) : RowProcess (Walked Unit) :=
  match walk.objection? making.verifyDraws message with
  | some error => .done (walk.halt error)
  | none => walk.join making message

end Walk

/-- What the model is asked for an entry: for whom the extra messages are, the prompts before and
after them, what it is to write, and the line that reports the call. -/
structure ModelRequest where
  target : Datum
  systemPrompt : String
  userPrompt : String
  form : ReplyForm
  line : Context → String

def ModelRequest.messages (request : ModelRequest) (extra : List Datum) : List Datum :=
  promptMessage "system" request.systemPrompt :: extra ++ [promptMessage "user" request.userPrompt]

/-- Asks the model. The extra messages are collected first. -/
def ModelRequest.send (making : Making) (request : ModelRequest) (walk : Walk) :
    RowProcess (Walked Reply) :=
  ((extraMessages making.extras request.target).follow walk).bind fun
    | .error halt => .done (.error halt)
    | .ok (extra, walk) =>
        .step (Shared.report .debug (request.line walk.context)) fun _ =>
          .ask ⟨request.form, request.messages extra⟩ fun reply => .done (walk.lift reply)

/-- The request for a message. The instructions of the role are looked up first, for which the role
has to be a possible key. -/
def messageRequest (context : Context) (role prompt : Datum) : Except Error ModelRequest := do
  let target ← role.asKey
  let role := target.spoken
  let flow ← context.flowText
  let tools ← context.toolsText
  return ⟨target, Prompt.messageSystem role flow tools, Prompt.messageUser role prompt.spoken, .text,
    fun context =>
      s!"Generating {role} message | Row: {shownIndex context.rowIndex} | " ++
        s!"Step: {context.stepIndex}"⟩

def schemaText (shape : Shape) : Except Error String :=
  jsonText Json.Style.pretty.escaped (Fields.toDatum shape.schema)

def extraInstructions (prompt : Datum) : String :=
  if prompt.isTruthy then prompt.spoken else ""

def argumentsRequest (context : Context) (tool : ToolDefinition) (shape : Shape)
    (prompt : Datum) : Except Error ModelRequest := do
  let flow ← context.flowText
  let schema ← schemaText shape
  return ⟨.text "tool_call",
    Prompt.argumentsSystem tool.name tool.description flow (extraInstructions prompt),
    Prompt.argumentsUser schema, .object shape,
    fun context =>
      s!"Generating arguments | Tool: {tool.name} | Row: {shownIndex context.rowIndex}"⟩

def resultRequest (context : Context) (tool : ToolDefinition) (shape : Shape)
    (arguments : Fields) (prompt : Datum) : Except Error ModelRequest := do
  let flow ← context.flowText
  let written ← jsonText .pretty (Fields.toDatum arguments)
  let schema ← schemaText shape
  return ⟨.text "tool_result",
    Prompt.resultSystem tool.name tool.description flow written (extraInstructions prompt),
    Prompt.resultUser schema, .object shape,
    fun context =>
      s!"Generating result | Tool: {tool.name} | Row: {shownIndex context.rowIndex}"⟩

/-- Sends a request that may fail to be made, if there is a model. -/
def Walk.request (making : Making) (make : Context → Except Error ModelRequest) (walk : Walk) :
    RowProcess (Walked Reply) :=
  if making.hasModel then
    match make walk.context with
    | .ok request => request.send making walk
    | .error error => .done (walk.halt error)
  else .done (walk.halt (.configuration .noClient))

/-- What a model returns where the result of a tool is a single field of that name: its value. -/
def unwrapResult (shape : Shape) (value : Datum) : Datum :=
  if shape.fieldNames = ["result"] then (value.get? "result").getD value else value

def Context.messageId (context : Context) (kind : String) (responseId : Datum) : Datum :=
  if responseId.isTruthy then responseId
  else .text (generationId kind context.seed context.stepIndex)

def fitMessage (role content : Datum) (calls : Option (List CallPart)) (callId : Option String)
    (name : Option String) (messageId : Datum) : Except Error Message :=
  let fitted : Fitted Message :=
    (((Role.read role).under (.key "role")).both
      ((Fit.text messageId).under (.key "generation_id"))).map fun pair =>
        ⟨pair.1, content, calls, callId, name, pair.2⟩
  fitted.mapError (Error.ofFaults "DatasetMessage")

def fitCallPart (callId : Datum) (name : String) (arguments : Datum) : Except Error CallPart :=
  let fitted : Fitted CallPart :=
    (((Fit.text callId).under (.key "id")).both
      ((Fit.dictionary arguments).under (.key "arguments"))).map fun pair =>
        ⟨pair.1, name, pair.2⟩
  fitted.mapError (Error.ofFaults "ToolCallPart")

/-- The arguments that an author has given, as the tool takes them. -/
def ToolDefinition.takeArguments (tool : ToolDefinition) (arguments : Datum) :
    Except Error Datum := do
  let entries ← arguments.asEntries
  match tool.parameters with
  | none => return .mapping entries
  | some shape =>
      let fitted ← (shape.fit (.mapping entries)).mapError (Error.ofFaults shape.name)
      fitted.document.mapError Error.ofNoDocument

/-- Where the arguments of a call come from. -/
inductive ArgumentSource where
  | known (arguments : Datum)
  | model (shape : Shape)

/-- Where the arguments of a call come from: an earlier call of its id or of the id it reuses, else
what the author has given, else the model. -/
def ToolCall.source (context : Context) (call : ToolCall) : Except Error ArgumentSource := do
  let lookup ← (if call.reuseFrom.isTruthy then call.reuseFrom else call.callId).asCallId
  match context.findToolCall lookup with
  | some earlier => return .known (Fields.toDatum earlier.arguments)
  | none =>
      if call.reuseFrom.isTruthy then
        .error (.toolCallNotFound lookup (normalizeCallId lookup))
      else if !call.arguments.isNull then
        return .known (← call.tool.takeArguments call.arguments)
      else
        match call.tool.parameters with
        | some shape =>
            if call.tool.takesArguments then return .model shape else return .known (.mapping [])
        | none => return .known (.mapping [])

inductive ResultSource where
  | known (result : Datum)
  /-- The model writes it, being shown the arguments of the call. -/
  | model (shape : Shape) (arguments : Fields)

/-- Where the result of a call comes from: the author, or the model if the tool has a result. -/
def ToolResult.source (context : Context) (answer : ToolResult) :
    Except Error (String × ResultSource) := do
  let callId ← answer.callId.asCallId
  match context.findToolCall callId with
  | none => .error (.toolCallNotFound callId (normalizeCallId callId))
  | some call =>
      match answer.result with
      | some result => return (callId, .known result)
      | none =>
          match answer.tool.output with
          | some shape =>
              if answer.tool.returnsValue then return (callId, .model shape call.arguments)
              else return (callId, .known (.mapping []))
          | none => return (callId, .known (.mapping []))

namespace Walk

def fixedMessage (role content : Datum) (walk : Walk) : Walked Message :=
  walk.lift (fitMessage role content none none none (walk.context.messageId role.spoken .null))

def writtenMessage (role : Datum) (reply : Reply) (walk : Walk) : Walked Message :=
  walk.lift (fitMessage role reply.value none none none
    (walk.context.messageId role.spoken reply.responseId))

def callMessage (call : ToolCall) (arguments responseId : Datum) (walk : Walk) : Walked Message :=
  walk.lift do
    let part ← fitCallPart call.callId call.tool.name arguments
    fitMessage (.text Role.assistant.name) .null (some [part]) none none
      (walk.context.messageId "tool_call" responseId)

def resultMessage (answer : ToolResult) (callId : String) (result responseId : Datum)
    (walk : Walk) : Walked Message :=
  walk.lift (fitMessage (.text Role.tool.name) result none (some callId) (some answer.tool.name)
    (walk.context.messageId "tool_result" responseId))

def withReply (making : Making) (make : Context → Except Error ModelRequest)
    (next : Reply → Walk → Walked Message) (walk : Walk) : RowProcess (Walked Message) :=
  (walk.request making make).bind fun
    | .error halt => .done (.error halt)
    | .ok (reply, walk) => .done (next reply walk)

def makeMessage (making : Making) (leaf : Leaf) (walk : Walk) : RowProcess (Walked Message) :=
  match leaf with
  | .fixed role content => .done (walk.fixedMessage role content)
  | .written role prompt =>
      walk.withReply making (fun context => messageRequest context role prompt)
        (writtenMessage role)
  | .call use =>
      match use.source walk.context with
      | .error error => .done (walk.halt error)
      | .ok (.known arguments) => .done (walk.callMessage use arguments .null)
      | .ok (.model shape) =>
          walk.withReply making
            (fun context => argumentsRequest context use.tool shape use.prompt)
            fun reply => callMessage use reply.value reply.responseId
  | .result answer =>
      match answer.source walk.context with
      | .error error => .done (walk.halt error)
      | .ok (callId, .known result) => .done (walk.resultMessage answer callId result .null)
      | .ok (callId, .model shape arguments) =>
          walk.withReply making
            (fun context => resultRequest context answer.tool shape arguments answer.prompt)
            fun reply =>
              resultMessage answer callId (unwrapResult shape reply.value) reply.responseId

/-- Makes the entry of a leaf: its message joins the conversation if it is as planned. -/
def makeLeaf (making : Making) (leaf : Leaf) (walk : Walk) : RowProcess (Walked Unit) :=
  (walk.makeMessage making leaf).bind fun
    | .error halt => .done (.error halt)
    | .ok (message, walk) => walk.append making message

def startGenerate (seed rowIndex : Option Int) (stream : Random.Stream) (plan : Plan) : Walk :=
  ⟨⟨.generate, seed, rowIndex, stream.reset, plan, [], [], plan.metadata⟩, .empty, []⟩

end Walk

structure Generated where
  messages : List Message
  tools : List ToolSpec
  metadata : Entries

def Walk.conversation (walk : Walk) : Generated :=
  ⟨walk.context.messages, walk.context.tools, walk.context.plan.metadata⟩

def generate (making : Making) (root : Item) (seed rowIndex : Option Int)
    (stream : Random.Stream) (plan : Plan) : RowProcess (Walked Generated) :=
  ((root.script .done).follow (Walk.makeLeaf making)
    (.startGenerate seed rowIndex stream plan)).bind fun
    | .error halt => .done (.error halt)
    | .ok (_, walk) =>
        if walk.context.messages.length = walk.context.plan.entries.length then
          .done (.ok (walk.conversation, walk))
        else .done (walk.halt (.mismatch walk.shortfall))

end Colloquy
