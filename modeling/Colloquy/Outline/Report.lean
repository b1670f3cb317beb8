import Colloquy.Datum.Sum
import Colloquy.Outline.Field

/-!
# Outlines of errors

The details of an error as named values, and reports of skew read from such values.
-/

set_option autoImplicit false

namespace Colloquy

def Misfit.code : Misfit → String
  | missing => "missing"
  | stringType => "string_type"
  | integerType => "int_type"
  | integerParsing => "int_parsing"
  | integerParsingSize => "int_parsing_size"
  | integerFromFloat => "int_from_float"
  | finiteNumber => "finite_number"
  | floatType => "float_type"
  | floatParsing => "float_parsing"
  | truthType => "bool_type"
  | truthParsing => "bool_parsing"
  | listType => "list_type"
  | dictionaryType => "dict_type"
  | literal => "literal_error"
  | choice => "enum"
  | shapeType => "model_type"
  | belowLeast => "greater_than_equal"
  | aboveGreatest => "less_than_equal"
  | tooShort => "string_too_short"
  | tooLong => "string_too_long"
  | tooFew => "too_short"
  | tooMany => "too_long"
  | boundless _ => "boundless"

def PathStep.toDatum : PathStep → Datum
  | key name => .text name
  | index position => .int position

def FieldFault.toDatum (fault : FieldFault) : Datum :=
  Fields.toDatum [("type", .text fault.misfit.code), ("loc", .list (fault.path.map PathStep.toDatum))]

def SkewReport.toFields (report : SkewReport) : Fields := [
  ("seed", .ofInt? report.seed), ("step_index", .int report.stepIndex),
  ("total_steps", .int report.totalSteps), ("expected_draws", .ofInt? report.expectedDraws),
  ("actual_draws", .ofInt? report.actualDraws), ("role", .ofText? report.role),
  ("content_preview", .ofText? report.contentPreview), ("step_type", .ofText? report.stepType),
  ("row_index", .ofInt? report.rowIndex)]

def Error.details : Error → Fields
  | skew report => report.toFields
  | mismatch report => report.toFields
  | toolCallNotFound callId normalizedId =>
      [("call_id", .text callId), ("normalized_id", .text normalizedId)]
  | exhausted collection => [("collection", .text collection)]
  | reported _ _ details => details
  | misfit _ faults => [("errors", .list (faults.map FieldFault.toDatum))]
  | client (.mismatch _ _ (some faults)) => [("errors", .list (faults.map FieldFault.toDatum))]
  | _ => []

namespace Outline

/-- Refuses an outline that lacks one of the names it needs, or has one that is not allowed. -/
def expectNames (needed allowed : List String) (outline : Datum) : Except Error Unit :=
  let names := (entriesOf outline).map (·.1)
  match needed.find? fun name => !names.contains name with
  | some name => .error (.unsupported .type ("missing argument: '" ++ name ++ "'"))
  | none =>
      match names.find? fun name => !(needed ++ allowed).contains name with
      | some name => .error (.unsupported .type ("unexpected argument: '" ++ name ++ "'"))
      | none => .ok ()

def fieldsNamed (outline : Datum) (names : List String) : Fields :=
  names.map fun name => (name, field outline name)

/-- The parts of a report of skew that an outline gives, each of which may be any value. -/
def skewWording (outline : Datum) : Except Error SkewWording := do
  let known (name : String) : Option Datum :=
    ((outline.get? name).filter (!·.isNull))
  let weighty (name : String) : Option String :=
    ((known name).filter Datum.isTruthy).map Datum.spoken
  let draws ← match known "expected_draws", known "actual_draws" with
    | some expected, some actual => do
        let difference ← actual.difference expected
        pure (some (expected.spoken, actual.spoken, difference.spoken))
    | _, _ => pure none
  return ⟨(known "row_index").map Datum.spoken, (known "seed").map Datum.spoken,
    (← (field outline "step_index").sum (.int 1)).spoken, (field outline "total_steps").spoken,
    weighty "step_type",
    (known "role").map fun role => (role.spoken, (weighty "content_preview").getD ""),
    weighty "detail", draws⟩

def skew (family : ErrorFamily) (outline : Datum) : Except Error Error := do
  let needed := ["seed", "step_index", "total_steps", "expected_draws", "actual_draws"]
  let allowed := ["role", "content_preview", "step_type", "row_index"]
  expectNames needed ("error" :: "detail" :: allowed) outline
  return .reported family (← skewWording outline).text (fieldsNamed outline (needed ++ allowed))

/-- The error of a call that was not found, as an outline gives it. -/
def missingCall (outline : Datum) : Except Error Error := do
  let needed := ["call_id", "normalized_id"]
  expectNames needed ["error"] outline
  return .reported .toolCallNotFound
    (missingCallText (field outline "call_id").spoken (field outline "normalized_id").spoken)
    (fieldsNamed outline needed)

/-- The error of a collection that is exhausted, as an outline gives it. -/
def exhaustion (outline : Datum) : Except Error Error := do
  expectNames ["collection"] ["error"] outline
  return .reported .exhausted (exhaustedText (field outline "collection").spoken)
    (fieldsNamed outline ["collection"])

/-- The error of a family that a caller raises, as an outline gives it. -/
def raisedError (family : ErrorFamily) (outline : Datum) : Except Error Error := do
  expectNames [] ["error", "message"] outline
  return .raised family ((outline.get? "message").getD (.text ""))

end Outline

end Colloquy
