/-!
# Reports of skew

What is known when the generated conversation departs from its plan: where, how many draws were
planned and made, and which entry was planned there.
-/

set_option autoImplicit false

namespace Colloquy

/-- Where and how a generated conversation departed from its plan. -/
structure SkewReport where
  seed : Option Int
  stepIndex : Int
  totalSteps : Int
  expectedDraws : Option Int
  actualDraws : Option Int
  role : Option String := none
  contentPreview : Option String := none
  stepType : Option String := none
  rowIndex : Option Int := none
  detail : Option String := none
  deriving Repr, DecidableEq

/-- The parts of a report of skew as they are written. -/
structure SkewWording where
  row : Option String
  seed : Option String
  step : String
  steps : String
  stepType : Option String
  /-- The role and the beginning of the planned entry. -/
  entry : Option (String × String)
  detail : Option String
  /-- The planned draws, those that were made, and the difference. -/
  draws : Option (String × String × String)

namespace SkewWording

def header (wording : SkewWording) : String :=
  let row := (wording.row.map (" #" ++ ·)).getD ""
  let seed := (wording.seed.map fun seed => " (seed: " ++ seed ++ ")").getD ""
  "Seed skew detected in generation" ++ row ++ seed ++ ":"

def location (wording : SkewWording) : String :=
  let stepType := (wording.stepType.map fun stepType => " (" ++ stepType ++ ")").getD ""
  "  Location: step " ++ wording.step ++ " of " ++ wording.steps ++ stepType

def quotation (wording : SkewWording) : List String :=
  (wording.entry.map fun (role, preview) =>
    "  Message: " ++ role ++ " - \"" ++ preview ++ "\"").toList

def remark (wording : SkewWording) : List String :=
  (wording.detail.map ("  " ++ ·)).toList

def comparison (wording : SkewWording) : List String :=
  match wording.draws with
  | some (planned, made, difference) => [
      "",
      "  Random draws in check phase: " ++ planned,
      "  Random draws in generate phase: " ++ made,
      "  Difference: " ++ difference]
  | none => []

def advice : String :=
  "The schema is not deterministic between phases. Make sure every branch draws the same number " ++
    "of random values in both phases."

def text (wording : SkewWording) : String :=
  "\n".intercalate ([wording.header, "", wording.location] ++ wording.quotation ++
    wording.remark ++ wording.comparison ++ ["", advice])

end SkewWording

/-- The parts of a report as they are written. Empty texts are left out, but for a role. -/
def SkewReport.wording (report : SkewReport) : SkewWording :=
  let number (value : Option Int) : Option String := value.map toString
  let words (value : Option String) : Option String := value.filter (!·.isEmpty)
  ⟨number report.rowIndex, number report.seed, toString (report.stepIndex + 1),
    toString report.totalSteps, words report.stepType,
    report.role.map fun role => (role, report.contentPreview.getD ""), words report.detail,
    match report.expectedDraws, report.actualDraws with
    | some expected, some actual =>
        some (toString expected, toString actual, toString (actual - expected))
    | _, _ => none⟩

def SkewReport.message (report : SkewReport) : String := report.wording.text

end Colloquy
