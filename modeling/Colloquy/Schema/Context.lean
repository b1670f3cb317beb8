import Colloquy.Model.Call
import Colloquy.Random.Stream
import Colloquy.Selection.Bounds
import Colloquy.Unique.Identifier

/-!
# The context of a resolution

What a schema sees while it is resolved for one row: the phase, the stream, the plan, and what has
been made so far. A `Decision` is the code of a schema author that runs against the context; it may
draw, choose, look, ask the model and fail, but it changes nothing.
-/

set_option autoImplicit false

namespace Colloquy

/-- The state of the resolution of one row in one phase. -/
structure Context where
  phase : Phase
  seed : Option Int
  rowIndex : Option Int
  stream : Random.Stream
  plan : Plan
  messages : List Message
  tools : List ToolSpec
  metadata : Entries

namespace Context

def draws (context : Context) : Nat := context.stream.draws

def stepIndex (context : Context) : Nat :=
  match context.phase with
  | .check => context.plan.entries.length
  | .generate => context.messages.length

def draw (context : Context) : Float × Context :=
  (context.stream.next.1, { context with stream := context.stream.next.2 })

/-- The context with a tool in the catalogue. The first tool of a name stays. -/
def addTool (context : Context) (spec : ToolSpec) : Context :=
  if context.tools.any fun known => known.name = spec.name then context
  else { context with tools := context.tools ++ [spec] }

/-- The ids under which a call is looked for: the id itself, then the one it is deferred from. -/
def lookupIds (callId : String) : List String := [callId, normalizeCallId callId]

def findExactly (messages : List Message) (callId : String) : Option CallPart :=
  messages.findSome? fun message =>
    if message.kind = .toolCall then
      (message.toolCalls.getD []).find? fun part => part.id = callId
    else none

def findCall (messages : List Message) (callId : String) : Option CallPart :=
  (lookupIds callId).findSome? (findExactly messages)

def findToolCall (context : Context) (callId : String) : Option CallPart :=
  findCall context.messages callId

def hasPlannedToolCall (context : Context) (callId : String) : Bool :=
  (lookupIds callId).any context.plan.hasToolCall

end Context

/-- Code that runs against the context and ends with a result. -/
inductive Decision (α : Type) where
  | done (result : α)
  | fail (error : Error)
  | draw (next : Float → Decision α)
  /-- Chooses one of the options, and goes on with its position. -/
  | choose (options : List (Selection.Choice Datum)) (uniqueBy : Option Unique.UniqueBy)
      (next : Nat → Decision α)
  | observe (next : Context → Decision α)
  /-- Calls the model of the row, which may fail to answer. -/
  | ask (call : ModelCall) (next : Except Error Reply → Decision α)
  | pause (next : Decision α)

namespace Decision

variable {α β : Type}

def bind (decision : Decision α) (next : α → Decision β) : Decision β :=
  match decision with
  | done result => next result
  | fail error => fail error
  | draw rest => draw fun value => (rest value).bind next
  | choose options uniqueBy rest => choose options uniqueBy fun place => (rest place).bind next
  | observe rest => observe fun context => (rest context).bind next
  | ask call rest => ask call fun reply => (rest reply).bind next
  | pause rest => pause (rest.bind next)

instance : Monad Decision where
  pure := done
  bind := bind

def ofExcept : Except Error α → Decision α
  | .ok result => done result
  | .error error => fail error

def context : Decision Context := observe done

def drawLast (last : Option Float) : Nat → Decision (Option Float)
  | 0 => done last
  | count + 1 => draw fun value => drawLast (some value) count

def ofDrawing : Selection.Drawing Float (Except Error α) → Decision α
  | .done result => ofExcept result
  | .draw next => draw fun value => ofDrawing (next value)

def between (minimum maximum : Datum) : Decision Datum :=
  ofDrawing (Selection.betweenBounds minimum maximum)

def chance (probability : Datum) : Decision Bool :=
  ofDrawing (Selection.chance probability)

def sample (count : Datum) (items : List α) : Decision (List α) :=
  ofDrawing (Selection.sampleOf count items)

end Decision

end Colloquy
