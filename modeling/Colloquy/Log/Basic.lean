import Colloquy.Error.Basic

/-!
# Log lines

What is reported while rows are generated. A line has the name of a level and a text.
-/

set_option autoImplicit false

namespace Colloquy

inductive LogLevel where
  | trace
  | debug
  | info
  | success
  | warning
  | error
  | critical
  deriving Repr, DecidableEq

def LogLevel.name : LogLevel → String
  | trace => "TRACE"
  | debug => "DEBUG"
  | info => "INFO"
  | success => "SUCCESS"
  | warning => "WARNING"
  | error => "ERROR"
  | critical => "CRITICAL"

def LogLevel.all : List LogLevel :=
  [.trace, .debug, .info, .success, .warning, .error, .critical]

/-- The name of the level that a value stands for: a named level, or a number as a level of its
own. -/
def LogLevel.nameOf (level : Datum) : Except Error String :=
  let numbered (number : Int) : Except Error String :=
    if number < 0 then
      .error (.unsupported .value
        s!"Invalid level value, it should be a positive integer, not: {number}")
    else .ok s!"Level {number}"
  match level with
  | .text name =>
      if LogLevel.all.any fun level => level.name = name then .ok name else .error (.logLevel name)
  | .int number => numbered number
  | .bool value => numbered (if value then 1 else 0)
  | other =>
      .error (.unsupported .type
        ("Invalid level, it should be an integer or a string, not: '" ++ other.typeName ++ "'"))

structure LogLine where
  level : String
  text : String
  deriving Repr, DecidableEq

abbrev Log := Array LogLine

def Log.add (log : Log) (level : LogLevel) (text : String) : Log :=
  log.push ⟨level.name, text⟩

end Colloquy
