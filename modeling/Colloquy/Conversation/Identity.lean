import Colloquy.Hash.Sha256
import Colloquy.Number.Radix

/-!
# Stable ids

Rows with a seed get ids made from the seed, so that a run that is repeated gives the same ids.
-/

set_option autoImplicit false

namespace Colloquy

def generationIdDigits : Nat := 16

/-- The id of a generated entry: its kind, and digits that depend on seed, step and kind. Without a
seed all digits are zero. -/
def generationId (kind : String) (seed : Option Int) (step : Int) : String :=
  let digits := match seed with
    | some seed =>
        (Hash.sha256 (toString seed ++ ":" ++ toString step ++ ":" ++ kind)).toList
    | none => List.replicate generationIdDigits '0'
  kind ++ "_" ++ String.ofList (digits.take generationIdDigits)

def seedMultiplier : Int := 2654435761

def rowId (seed : Int) : String :=
  let spread := (seed * seedMultiplier).natAbs % 4294967296
  "row_" ++ toString seed ++ "_" ++ Number.base36 spread

def rowSeed (base : Option Int) (offset : Int) : Option Int :=
  base.map (· + offset)

end Colloquy
