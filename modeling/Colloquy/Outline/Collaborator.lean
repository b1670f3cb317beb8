import Colloquy.Model.Provider
import Colloquy.Model.Scripted
import Colloquy.Outline.Tree
import Colloquy.Prompt.Extras

/-!
# Outlines of prompts and models

Extra prompt messages are outlined by the messages, or by a mapping that says what is drawn and
whether it fails before the messages are made. A model is outlined by what it answers.
-/

set_option autoImplicit false

namespace Colloquy

namespace Outline

def computedMessages (scope : Scope) (outline : Datum) : Decision Datum := do
  let _ ← Decision.drawLast none ((Datum.integer? (field outline "draws")).getD 0).toNat
  match outline.get? "raise" with
  | some error => .fail (scope.error error)
  | none =>
      let context ← Decision.context
      .ofExcept (value (scope.within (Scope.ofContext context)) (field outline "messages"))

/-- The source of extra messages that an outline gives, none for null. -/
def promptSource (scope : Scope) (outline : Datum) : Except Error (Option PromptSource) :=
  if outline.isNull then .ok none
  else if (outline.get? "messages").isSome || (outline.get? "raise").isSome then
    .ok (some (.computed (computedMessages scope outline)))
  else return some (.fixed (← value scope outline))

def promptExtras (scope : Scope) (outline : Datum) : Except Error (Option PromptExtras) :=
  if outline.isNull then .ok none
  else do
    let source (name : String) : Except Error (Option PromptSource) :=
      promptSource scope (field outline name)
    return some ⟨← source "global", ← source "system", ← source "user", ← source "assistant",
      ← source "tool_call", ← source "tool_result"⟩

/-- The scripted model that an outline gives; `failure` is what failing calls give by default. -/
def modelScript (scope : Scope) (failure : Error) (outline : Datum) : Except Error Model.Script := do
  let all (outline : Datum) : Except Error (List Datum) := (itemsOf outline).mapM (value scope)
  let texts ← all (field outline "text")
  let objects ← (entriesOf (field outline "objects")).mapM fun entry => do
    return (entry.1, ← all entry.2)
  let failing := (itemsOf (field outline "fail_calls")).filterMap Datum.integer?
  return ⟨texts, objects, ← all (field outline "response_ids"), failing.map Int.toNat,
    ((outline.get? "fail_error").map scope.error).getD failure⟩

def completion (scope : Scope) (outline : Datum) : Except Error Model.Completion :=
  match outline.get? "raise" with
  | some error => .ok (.failure (scope.error error))
  | none =>
      if (field outline "no_choices").isTruthy then .ok .empty
      else do
        let content ← value scope (field outline "content")
        return .content content (← value scope (field outline "id"))

def completions (scope : Scope) (outline : Datum) : Except Error (List Model.Completion) :=
  (itemsOf outline).mapM (completion scope)

def environment (outline : Datum) : Model.Environment :=
  (entriesOf outline).filterMap fun entry => entry.2.text?.map fun text => (entry.1, text)

def services : List (String × Model.Service) := [
  ("openrouter", .openRouter), ("openai", .openAi), ("anthropic", .anthropic), ("ollama", .ollama)]

/-- The service, the model and the settings of a provider that an outline gives. -/
def providerParts (scope : Scope) (outline : Datum) :
    Except Error (Model.Service × Datum × Fields) := do
  match services.lookup (fieldText outline "provider") with
  | none => senseless "provider"
  | some service =>
      let settings ← values scope (field outline "params")
      match outline.get? "model", settings.get? "model_id" with
      | some model, _ => return (service, ← value scope model, settings)
      | none, some model => return (service, model, settings.remove "model_id")
      | none, none => return (service, .text service.defaultModel, settings)

/-- The provider that an outline gives, and the environment that it leaves. -/
def provider (scope : Scope) (environment : Model.Environment) (outline : Datum) :
    Model.Logged (Except Error (Model.Provider × Model.Environment)) :=
  match providerParts scope outline with
  | .error error => (.error error, [])
  | .ok (service, model, settings) => Model.Provider.make service model settings environment

def serviceVariables (environment : Model.Environment) : Fields :=
  Model.Service.all.filterMap fun service =>
    (environment.lookup service.keyVariable).map fun value => (service.keyVariable, Datum.text value)

/-- A call in brief: what was asked for, and the roles of the messages. -/
def briefCall (asked : Datum) (messages : List Datum) : Datum :=
  .list [asked, .list (messages.map fun message => field message "role")]

end Outline

def Model.Record.listing (full : Bool) (record : Model.Record) : Datum :=
  .list (record.calls.map fun call =>
    if full then
      Fields.toDatum [("kind", .text call.form.name), ("messages", .list call.messages)]
    else Outline.briefCall (.text call.form.name) call.messages)

def Model.Traffic.listing (full : Bool) (traffic : Model.Traffic) : Datum :=
  .list (traffic.requests.map fun request =>
    if full then request.toDatum
    else Outline.briefCall ((request.get? "model").getD .null)
      (Outline.itemsOf ((request.get? "messages").getD .null)))

end Colloquy
