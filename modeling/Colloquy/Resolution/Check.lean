import Colloquy.Conversation.Reading
import Colloquy.Error.Conversion
import Colloquy.Resolution.Walk

/-!
# The check phase

A dry run of a schema. It records every entry that the conversation will have and how many values
were drawn before it, and asks the model nothing.
-/

set_option autoImplicit false

namespace Colloquy

def Context.requirePlanned (context : Context) (callId : Datum) : Except Error Unit := do
  let wanted ← callId.asCallId
  if context.hasPlannedToolCall wanted then .ok ()
  else .error (.toolCallNotFound wanted (normalizeCallId wanted))

/-- The fields of a planned entry as they are found in a leaf. -/
structure EntryDraft where
  kind : EntryKind
  role : Datum
  content : Datum
  toolName : Option String
  callId : Datum
  arguments : Datum

def EntryDraft.fit (draft : EntryDraft) (drawCount : Nat) : Except Error PlanEntry :=
  let fitted : Fitted PlanEntry :=
    ((Role.read draft.role).under (.key "role") |>.both
      ((Fit.nullable Fit.text draft.callId).under (.key "tool_call_id"))).map fun pair =>
        ⟨draft.kind, pair.1, draft.content, draft.toolName, pair.2, draft.arguments, drawCount⟩
  fitted.mapError (Error.ofFaults "PlanEntry")

def Leaf.draft (context : Context) : Leaf → Except Error EntryDraft
  | fixed role content => .ok ⟨.message, role, content, none, .null, .null⟩
  | written role prompt => .ok ⟨.message, role, prompt, none, .null, .null⟩
  | call use => do
      if use.reuseFrom.isTruthy then context.requirePlanned use.reuseFrom
      let arguments ← if use.arguments.isNull then .ok .null else
        use.arguments.asEntries.map Datum.mapping
      return ⟨.toolCall, .text Role.assistant.name, use.prompt, some use.tool.name, use.callId,
        arguments⟩
  | result answer => do
      context.requirePlanned answer.callId
      return ⟨.toolResult, .text Role.tool.name, answer.result.getD .null, some answer.tool.name,
        answer.callId, .null⟩

def Leaf.plan (context : Context) (leaf : Leaf) : Except Error PlanEntry := do
  (← leaf.draft context).fit context.draws

def Context.addEntry (context : Context) (entry : PlanEntry) : Context :=
  { context with plan := { context.plan with entries := context.plan.entries ++ [entry] } }

def Walk.planLeaf (leaf : Leaf) (walk : Walk) : RowProcess (Walked Unit) :=
  match leaf.plan walk.context with
  | .ok entry => .done (.ok ((), walk.within (walk.context.addEntry entry)))
  | .error error => .done (walk.halt error)

def Walk.startCheck (seed rowIndex : Option Int) (stream : Random.Stream) (metadata : Entries) :
    Walk :=
  ⟨⟨.check, seed, rowIndex, stream.reset, ⟨[], [], metadata⟩, [], [], metadata⟩, .empty, []⟩

/-- The metadata that a plan starts from, whose keys have to be texts. -/
def planMetadata (metadata : Entries) : Except Error Entries :=
  let fitted := (Fit.dictionary (.mapping metadata)).under (.key "metadata")
  (fitted.map Fields.toEntries).mapError (Error.ofFaults "StructuralPlan")

def Walk.finishedPlan (walk : Walk) : Plan :=
  ⟨walk.context.plan.entries, walk.context.tools, walk.context.metadata⟩

def shownIndex (index : Option Int) : String :=
  match index with
  | some index => toString index
  | none => "None"

def Walk.checkLine (walk : Walk) : String :=
  s!"Check complete | Row: {shownIndex walk.context.rowIndex} | " ++
    s!"Steps: {walk.context.plan.entries.length} | Draws: {walk.context.draws}"

def check (root : Item) (seed rowIndex : Option Int) (stream : Random.Stream)
    (metadata : Entries) : RowProcess (Walked Plan) :=
  match planMetadata metadata with
  | .error error => .done ((Walk.startCheck seed rowIndex stream []).halt error)
  | .ok metadata =>
      ((root.script .done).follow Walk.planLeaf (.startCheck seed rowIndex stream metadata)).bind
        fun
        | .error halt => .done (.error halt)
        | .ok (_, walk) =>
            .step (Shared.report .debug walk.checkLine) fun _ =>
              .done (.ok (walk.finishedPlan, walk))

end Colloquy
