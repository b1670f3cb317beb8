import Colloquy.Conversation.Basic
import Colloquy.Error.Basic

/-!
# Failures of rows

A row that fails is dropped. What is kept of it says which row it was, and why it was dropped.
-/

set_option autoImplicit false

namespace Colloquy

inductive FailureKind where
  | seedSkew
  | validation
  | toolCallNotFound
  | uniqueExhausted
  | client
  | other
  deriving Repr, DecidableEq

namespace FailureKind

def name : FailureKind → String
  | seedSkew => "seed_skew"
  | validation => "validation"
  | toolCallNotFound => "tool_call_not_found"
  | uniqueExhausted => "unique_exhausted"
  | client => "ai_client"
  | other => "other"

def classify (error : Error) : FailureKind :=
  match error.family with
  | .skew => seedSkew
  | .mismatch => seedSkew
  | .validation => validation
  | .invalidWeight => validation
  | .invalidWeightTotal => validation
  | .uniqueSettings => validation
  | .schema => validation
  | .toolCallNotFound => toolCallNotFound
  | .exhausted => uniqueExhausted
  | .client => client
  | _ => other

end FailureKind

structure RowFailure where
  index : Int
  seed : Option Int
  error : Error

def RowFailure.kind (failure : RowFailure) : FailureKind := .classify failure.error

inductive RowResult where
  | success (index : Int) (row : Row)
  | failure (failure : RowFailure)

def RowResult.ofExcept (index : Int) (seed : Option Int) : Except Error Row → RowResult
  | .ok row => .success index row
  | .error error => .failure ⟨index, seed, error⟩

end Colloquy
