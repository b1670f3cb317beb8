import Colloquy.Datum.Shown
import Colloquy.Error.Skew
import Colloquy.Shape.Basic

/-!
# Errors

Everything that can go wrong, by cause. The wording of each cause is in one place, and so is the
family it belongs to; failures of rows are told apart by family only.
-/

set_option autoImplicit false

namespace Colloquy

/-- What is wrong with the weights of a choice. -/
inductive WeightFault where
  | noOptions
  | notNumber (weight : Datum)
  | outOfRange (weight : Datum)
  | excessiveTotal (total : Float)
  | tooLarge

/-- What is wrong with the identifiers of a choice without repetition. -/
inductive UniqueFault where
  | blankCollection
  | noStore
  | unresolved (rule typeName : String)
  | notObject (key : String)

inductive SchemaFault where
  | notNode (typeName shown : String)
  | notSchema (shown : String)
  | content (typeName : String)
  | toolName
  | range (minimum maximum : Datum)
  | options
  | negativeTimes (count : Int)
  | times (shown : String)
  | unknownNode (shown : String)
  | metadata (typeName : String)

/-- What is wrong with the configuration of a run. -/
inductive ConfigurationFault where
  | concurrencyType (shown : String)
  | concurrency (shown : String)
  | workers
  | setting (field shown : String) (valid : List String)
  | noSchemas
  | countWithEntries
  | count (shown : String)
  | noClient
  | unexpected (names : List String)
  | outputFormat (shown : String)

inductive ClientFault where
  | generation (cause : String)
  /-- The answer does not match the shape asked for; the faults are known if it had a value. -/
  | mismatch (shape cause : String) (faults : Option (List FieldFault))

/-- What is wrong with a reply that should hold an object. -/
inductive ReplyFault where
  | noObject
  | unreadable (cause : String)
  | unsupported (typeName : String)

inductive ErrorFamily where
  | general
  | validation
  | invalidWeight
  | invalidWeightTotal
  | uniqueSettings
  | schema
  | configuration
  | toolCallNotFound
  | exhausted
  | client
  | skew
  | mismatch
  | misfit
  | value
  | runtime
  | type
  | key
  | attribute
  | index
  | overflow
  | system
  | connection
  | missingFile
  | isDirectory
  | unserializable
  /-- Arithmetic on decimal numbers that has no result. -/
  | decimal
  | unsoundShape
  | noTable
  | recursion
  deriving Repr, DecidableEq

inductive Error where
  | weights (fault : WeightFault)
  | unique (fault : UniqueFault)
  | exhausted (collection : String)
  | schema (fault : SchemaFault)
  | emptyRange (minimum maximum : Datum)
  | configuration (fault : ConfigurationFault)
  | toolCallNotFound (callId normalizedId : String)
  | skew (report : SkewReport)
  | mismatch (report : SkewReport)
  | client (fault : ClientFault)
  | reply (fault : ReplyFault)
  | misfit (shape : String) (faults : List FieldFault)
  | noDocument (typeName : String)
  /-- A row may not move from the one state to the other. -/
  | transition (source target : String)
  | notOpened
  | logLevel (name : String)
  | noWorkers
  | missingKey (name : String)
  | notMember (shown enumeration : String)
  /-- An operation met a value that does not support it. -/
  | unsupported (family : ErrorFamily) (text : String)
  /-- An error raised by the code of a caller, who may give any value as the cause. -/
  | raised (family : ErrorFamily) (cause : Datum)
  /-- An error raised by the code of a caller with details, which may be any values. -/
  | reported (family : ErrorFamily) (text : String) (details : Fields)

namespace WeightFault

def message : WeightFault → String
  | noOptions => "one_of requires at least one option"
  | notNumber weight => "one_of weight must be a number, got " ++ weight.shown
  | outOfRange weight => "one_of weight values must be between 0 and 1, got " ++ weight.spoken
  | excessiveTotal total =>
      "one_of weight values must sum to 1 or less, got " ++ Number.fixedText 4 total
  | tooLarge => "int too large to convert to float"

def family : WeightFault → ErrorFamily
  | noOptions => .validation
  | notNumber _ => .invalidWeight
  | outOfRange _ => .invalidWeight
  | excessiveTotal _ => .invalidWeightTotal
  | tooLarge => .overflow

end WeightFault

def UniqueFault.message : UniqueFault → String
  | blankCollection => "unique_by collection must be a non-empty string"
  | noStore => "unique selection requires a UniqueSelectionStore"
  | unresolved rule typeName =>
      "unique_by item_id " ++ rule ++ " must resolve to a string, number, or boolean (got " ++
        typeName ++ ")"
  | notObject key =>
      "unique_by item_id " ++ key ++ " requires option values to be mappings or objects"

def emptyRangeText (minimum maximum : Datum) : String :=
  "between requires min <= max, got " ++ minimum.spoken ++ " > " ++ maximum.spoken

def SchemaFault.message : SchemaFault → String
  | notNode typeName shown => "Expected a schema node, got " ++ typeName ++ ": " ++ shown
  | notSchema shown => "Invalid schema: " ++ shown
  | content typeName => "Unsupported message content: " ++ typeName
  | toolName => "tool name must be a non-empty string"
  | range minimum maximum => emptyRangeText minimum maximum
  | options => "one_of options must be a sequence"
  | negativeTimes count => s!"times count must be 0 or greater, got {count}"
  | times shown => "times count must be a non-negative integer, got " ++ shown
  | unknownNode shown => "Unknown schema node: " ++ shown
  | metadata typeName => "metadata update must produce a mapping, got " ++ typeName

def ConfigurationFault.message : ConfigurationFault → String
  | concurrencyType shown => "concurrency must be an integer, got " ++ shown
  | concurrency shown => "concurrency must be at least 1, got " ++ shown
  | workers => "token_counter_workers must be 0 or greater"
  | setting field shown valid =>
      "Invalid " ++ field ++ ": " ++ shown ++ ". Valid values: " ++
        (Datum.list (valid.map .text)).shown
  | noSchemas => "At least one schema is required"
  | countWithEntries => "count must not be given together with SchemaEntry list"
  | count shown => "count must be a non-negative integer, got " ++ shown
  | noClient => "An AIClient is required to generate content"
  | unexpected names =>
      "Unexpected arguments with config: " ++ (Datum.list (names.map .text)).shown
  | outputFormat shown => "Unknown output format: " ++ shown

def missingCallText (callId normalizedId : String) : String :=
  "Tool call arguments with id \"" ++ callId ++ "\" not found (looked up as \"" ++
    normalizedId ++ "\")"

def exhaustedText (collection : String) : String :=
  "one_of unique collection \"" ++ collection ++ "\" is exhausted"

def ClientFault.message : ClientFault → String
  | generation cause => "Error generating response: " ++ cause
  | mismatch shape cause _ => "Model output does not match " ++ shape ++ ": " ++ cause

def ReplyFault.message : ReplyFault → String
  | noObject => "No JSON object found in LLM response"
  | unreadable cause => "Failed to parse JSON: " ++ cause
  | unsupported typeName => "Unsupported structured output type: " ++ typeName

namespace Error

def family : Error → ErrorFamily
  | weights fault => fault.family
  | unique _ => .uniqueSettings
  | exhausted _ => .exhausted
  | schema _ => .schema
  | emptyRange _ _ => .validation
  | configuration _ => .configuration
  | toolCallNotFound _ _ => .toolCallNotFound
  | skew _ => .skew
  | mismatch _ => .mismatch
  | client _ => .client
  | reply _ => .value
  | misfit _ _ => .misfit
  | noDocument _ => .unserializable
  | transition _ _ => .runtime
  | notOpened => .runtime
  | logLevel _ => .value
  | noWorkers => .value
  | missingKey _ => .value
  | notMember _ _ => .value
  | unsupported family _ => family
  | raised family _ => family
  | reported family _ _ => family

/-- The error of data that does not fit the shape of a name. Where a bound cannot be held against
a value, nothing else counts. -/
def ofFaults (shape : String) (faults : List FieldFault) : Error :=
  match faults.findSome? fun fault => fault.misfit.remark? with
  | some remark => unsupported .type remark
  | none => misfit shape faults

def message : Error → String
  | weights fault => fault.message
  | unique fault => fault.message
  | exhausted collection => exhaustedText collection
  | schema fault => fault.message
  | emptyRange minimum maximum => emptyRangeText minimum maximum
  | configuration fault => fault.message
  | toolCallNotFound callId normalizedId => missingCallText callId normalizedId
  | skew report => report.message
  | mismatch report => report.message
  | client fault => fault.message
  | reply fault => fault.message
  | misfit shape _ => "<validation error for " ++ shape ++ ">"
  | noDocument typeName => "Unable to serialize unknown type: <class '" ++ typeName ++ "'>"
  | transition source target => "Illegal row state transition: " ++ source ++ " -> " ++ target
  | notOpened => "ParquetWriter.init() must be awaited before append_row()"
  | logLevel name => "Level '" ++ name ++ "' does not exist"
  | noWorkers => "workers must be at least 1"
  | missingKey name =>
      name ++ " environment variable not set. Please set it or provide an API key when " ++
        "initializing the provider."
  | notMember shown enumeration => shown ++ " is not a valid " ++ enumeration
  | unsupported family text => if family = .key then Text.quoted text else text
  | raised family cause => if family = .key then cause.shown else cause.spoken
  | reported _ text _ => text

end Error

end Colloquy
