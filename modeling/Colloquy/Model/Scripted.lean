import Colloquy.Error.Conversion
import Colloquy.Hash.Sha256
import Colloquy.Model.Client
import Colloquy.Shape.Document
import Colloquy.Shape.Sample

/-!
# Scripted models

A model that answers from a script, for trying schemas out. It pauses once in every call, so that
other rows can run, and it keeps a record of the calls.
-/

set_option autoImplicit false

namespace Colloquy.Model

structure Script where
  /-- The texts in order, the last one being repeated; without any, texts depend on the prompt. -/
  texts : List Datum
  objects : List (String × List Datum)
  responseIds : List Datum
  failing : List Nat
  failure : Error

structure Record where
  calls : List ModelCall
  textsGiven : Nat
  objectsGiven : List String
  running : Nat
  /-- The greatest number of calls that were running at the same time. -/
  peak : Nat

def Record.empty : Record := ⟨[], 0, [], 0, 0⟩

def Record.enter (call : ModelCall) (record : Record) : Record :=
  { record with
    calls := record.calls ++ [call]
    running := record.running + 1
    peak := max record.peak (record.running + 1) }

def Record.leave (record : Record) : Record := { record with running := record.running - 1 }

/-- The value for a turn: values in order, the last one being repeated. -/
def turn? (values : List Datum) (index : Nat) : Option Datum :=
  values[index]?.or values.getLast?

def digestText (messages : List Datum) : Except Error Datum := do
  let written ← jsonText Json.Style.line.escaped.byKey (.list messages)
  return .text ("stub text " ++ String.ofList ((Hash.sha256 written).toList.take 8))

def Script.text (script : Script) (record : Record) (messages : List Datum) : Except Error Datum :=
  match turn? script.texts record.textsGiven with
  | some text => .ok text
  | none => digestText messages

def Script.object (script : Script) (record : Record) (shape : Shape) : Except Error Datum := do
  let given := record.objectsGiven.countP (· = shape.name)
  let value := ((script.objects.lookup shape.name).bind fun values =>
    turn? values given).getD shape.sample
  let fitted ← (shape.fit value).mapError (Error.ofFaults shape.name)
  fitted.document.mapError Error.ofNoDocument

/-- The answer to the call at a position, and the record behind it. -/
def Script.reply (script : Script) (position : Nat) (call : ModelCall) (record : Record) :
    Except Error Reply × Record :=
  let responseId := script.responseIds[position]?.getD .null
  if script.failing.contains position then (.error script.failure, record)
  else
    match call.form with
    | .text =>
        ((script.text record call.messages).map fun text => ⟨text, responseId⟩,
          { record with textsGiven := record.textsGiven + 1 })
    | .object shape =>
        ((script.object record shape).map fun value => ⟨value, responseId⟩,
          { record with objectsGiven := shape.name :: record.objectsGiven })

def Script.answer (script : Script) (call : ModelCall) :
    Process Record Empty Empty (Except Error Reply) :=
  .step (Record.enter call) fun before =>
    .pause (.step (fun record => (script.reply before.calls.length call record.leave).2)
      fun record => .done (script.reply before.calls.length call record.leave).1)

def Script.client (script : Script) (name : Datum) : Client Record :=
  ⟨name, fun call =>
    (script.answer call).zoom Prod.snd fun record both => (both.1, record)⟩

end Colloquy.Model
