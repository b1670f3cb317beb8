/-!
# The life of a row

The states a row goes through. A row starts once; it ends completed or failed.
-/

set_option autoImplicit false

namespace Colloquy

inductive RowState where
  | uninitialized
  | checking
  | checked
  | generating
  | completed
  | failed
  deriving Repr, DecidableEq

namespace RowState

def name : RowState → String
  | uninitialized => "uninitialized"
  | checking => "checking"
  | checked => "checked"
  | generating => "generating"
  | completed => "completed"
  | failed => "failed"

def successors : RowState → List RowState
  | uninitialized => [checking]
  | checking => [checked, failed]
  | checked => [generating, failed]
  | generating => [completed, failed]
  | completed => []
  | failed => []

def isActive (state : RowState) : Bool :=
  [checking, checked, generating].contains state

theorem failed_mem_successors {state : RowState} (active : state.isActive = true) :
    failed ∈ state.successors := by
  cases state <;> first | decide | exact absurd active (by decide)

end RowState

end Colloquy
