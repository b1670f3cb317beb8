import Colloquy.Log.Basic
import Colloquy.Model.Call
import Colloquy.Process.Basic
import Colloquy.Unique.Store

/-!
# What rows share

Rows that are generated at the same time share the pool of used identifiers and the log.
-/

set_option autoImplicit false

namespace Colloquy

structure Shared where
  pool : Unique.Store
  log : Log

def Shared.report (level : LogLevel) (text : String) (shared : Shared) : Shared :=
  { shared with log := shared.log.add level text }

abbrev RowProcess (α : Type) := Process Shared ModelCall (Except Error Reply) α

end Colloquy
