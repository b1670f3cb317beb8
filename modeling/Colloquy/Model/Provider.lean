import Colloquy.Error.Conversion
import Colloquy.Model.Client
import Colloquy.Model.ReplyText
import Colloquy.Shape.Document

/-!
# Providers

Clients for the services that offer language models. A provider is configured once, takes its key
from the environment if it is given none, and turns every kind of failure of the service into an
error of the client.
-/

set_option autoImplicit false

namespace Colloquy.Model

inductive Service where
  | openRouter
  | openAi
  | anthropic
  | ollama
  deriving Repr, DecidableEq

namespace Service

def all : List Service := [openRouter, openAi, anthropic, ollama]

def name : Service → String
  | openRouter => "openrouter"
  | openAi => "openai"
  | anthropic => "anthropic"
  | ollama => "ollama_chat"

def shownName : Service → String
  | openRouter => "OpenRouterProvider"
  | openAi => "OpenAIProvider"
  | anthropic => "AnthropicProvider"
  | ollama => "OllamaProvider"

/-- The environment variable that holds the key, or for a local service its address. -/
def keyVariable : Service → String
  | openRouter => "OPENROUTER_API_KEY"
  | openAi => "OPENAI_API_KEY"
  | anthropic => "ANTHROPIC_API_KEY"
  | ollama => "OLLAMA_API_BASE"

def defaultModel : Service → String
  | openRouter => "openai/gpt-4o-mini"
  | openAi => "gpt-4o-mini"
  | anthropic => "claude-3-5-haiku-latest"
  | ollama => "llama3"

def needsKey (service : Service) : Bool := service ≠ ollama

/-- The names of the settings that a provider of the service takes. -/
def settingNames (service : Service) : List String :=
  let sampling := ["temperature", "max_tokens", "top_p", "frequency_penalty", "timeout"]
  if service.needsKey then "api_key" :: sampling else "api_base" :: sampling

end Service

abbrev Environment := List (String × String)

def Environment.set (environment : Environment) (name value : String) : Environment :=
  environment.filter (fun entry => entry.1 ≠ name) ++ [(name, value)]

structure Provider where
  service : Service
  model : Datum
  key : Datum
  /-- The settings that go into every request, in order. -/
  sampling : Fields

namespace Provider

def modelString (provider : Provider) : String :=
  provider.service.name ++ "/" ++ provider.model.spoken

def shown (provider : Provider) : String :=
  provider.service.shownName ++ "(model_id=" ++ provider.model.shown ++ ")"

def unexpected (name : String) : Error :=
  .unsupported .type ("unexpected setting '" ++ name ++ "'")

/-- The environment with a variable set to a value, which has to be a text if it is there. -/
def exportText (environment : Environment) (name : String) (value : Datum) :
    Except Error Environment :=
  match value with
  | .text text =>
      if text = "" then .ok environment
      else if text.contains '\x00' then .error (.unsupported .value "embedded null byte")
      else .ok (environment.set name text)
  | other =>
      if other.isTruthy then
        .error (.unsupported .type ("str expected, not " ++ other.typeName))
      else .ok environment

/-- The key of a provider: the one given, or that of the environment. -/
def findKey (service : Service) (environment : Environment) (given : Datum) :
    Logged (Except Error Datum) :=
  if given.isTruthy then (.ok given, [])
  else if !service.needsKey then (.ok (.text ""), [])
  else
    match environment.lookup service.keyVariable with
    | some key =>
        if key = "" then missing else (.ok (.text key), [])
    | none => missing
where
  missing : Logged (Except Error Datum) :=
    (.error (.missingKey service.keyVariable),
      [⟨LogLevel.error.name,
        "Missing API key | Set " ++ service.keyVariable ++ " environment variable"⟩])

def samplingOf (settings : Fields) : Fields :=
  ["temperature", "max_tokens", "top_p", "frequency_penalty", "timeout"].filterMap fun name =>
    match settings.get? name with
    | some .null => none
    | some value => some (name, value)
    | none => none

def readyLine (provider : Provider) : LogLine :=
  ⟨LogLevel.info.name,
    "Initialized " ++ provider.service.name ++ " | Model: " ++ provider.model.spoken⟩

/-- Configures a provider, and sets the variables that the service reads. -/
def make (service : Service) (model : Datum) (settings : Fields) (environment : Environment) :
    Logged (Except Error (Provider × Environment)) :=
  match settings.find? fun setting => !service.settingNames.contains setting.1 with
  | some setting => (.error (unexpected setting.1), [])
  | none =>
      match exportText environment Service.ollama.keyVariable
          ((settings.get? "api_base").getD .null) with
      | .error error => (.error error, [])
      | .ok environment =>
          let (key, lines) := findKey service environment ((settings.get? "api_key").getD .null)
          match key with
          | .error error => (.error error, lines)
          | .ok key =>
              match exportText environment service.keyVariable key with
              | .error error => (.error error, lines)
              | .ok environment =>
                  let provider : Provider := ⟨service, model, key, samplingOf settings⟩
                  (.ok (provider, environment), lines ++ [provider.readyLine])

end Provider

inductive Completion where
  | content (content responseId : Datum)
  | empty
  | failure (error : Error)

/-- The completions that are to come, the last being repeated, and the requests made so far. -/
structure Traffic where
  completions : List Completion
  requests : List Fields

namespace Traffic

def next (traffic : Traffic) : Completion :=
  (traffic.completions[traffic.requests.length]?.or traffic.completions.getLast?).getD .empty

def send (request : Fields) (traffic : Traffic) : Traffic :=
  { traffic with requests := traffic.requests ++ [request] }

end Traffic

namespace Provider

def request (provider : Provider) (call : ModelCall) : Fields :=
  let format : Fields :=
    match call.form with
    | .text => []
    | .object shape => [("response_format", .text shape.name)]
  [("model", .text provider.modelString), ("messages", .list call.messages)] ++
    provider.sampling ++ format

def errorLine (text : String) : LogLine := ⟨LogLevel.error.name, text⟩

def received (provider : Provider) : Completion → Logged (Except Error (Datum × Datum))
  | .content content responseId => (.ok (content, responseId), [])
  | .empty => failed "list index out of range"
  | .failure error => failed error.message
where
  /-- The error and the line for a request that failed. -/
  failed (cause : String) : Logged (Except Error (Datum × Datum)) :=
    (.error (.client (.generation cause)),
      [errorLine ("Generation failed | Provider: " ++ provider.service.name ++ " | Model: " ++
        provider.model.spoken ++ " | Error: " ++ cause)])

def misfits? : Error → Option (List FieldFault)
  | .misfit _ faults => some faults
  | _ => none

def isUnfit (error : Error) : Bool :=
  match error with
  | .misfit _ _ => true
  | .reply _ => true
  | .unsupported family _ => family = .value
  | _ => false

def objectOf (provider : Provider) (shape : Shape) (content : Datum) :
    Logged (Except Error Datum) :=
  let (data, lines) := parse true shape content
  match data with
  | .ok data => (data.document.mapError Error.ofNoDocument, lines)
  | .error error =>
      if isUnfit error then
        (.error (.client (.mismatch shape.name error.message (misfits? error))),
          lines ++ [errorLine ("Structured output invalid | Model: " ++ provider.model.spoken ++
            " | Schema: " ++ shape.name ++ " | Error: " ++ error.message)])
      else (.error error, lines)

def replyOf (provider : Provider) (call : ModelCall) (completion : Completion) :
    Logged (Except Error Reply) :=
  let (result, lines) := provider.received completion
  match result with
  | .error error => (.error error, lines)
  | .ok (content, responseId) =>
      match call.form with
      | .text =>
          ((replyText content).map fun text => ⟨text, responseId⟩, lines)
      | .object shape =>
          let (value, more) := provider.objectOf shape content
          (value.map fun value => ⟨value, responseId⟩, lines ++ more)

def addLines (lines : List LogLine) (shared : Shared) : Shared :=
  { shared with log := lines.foldl Array.push shared.log }

def client (provider : Provider) : Client Traffic :=
  ⟨provider.model, fun call =>
    .step (fun both => (both.1, both.2.send (provider.request call))) fun before =>
      let (reply, lines) := provider.replyOf call before.2.next
      .step (fun both => (addLines lines both.1, both.2)) fun _ => .done reply⟩

end Provider

end Colloquy.Model
