import Colloquy.Outline.Field
import Colloquy.Schema.Node
import Colloquy.Text.Word

/-!
# What outlines refer to

An outline may name tools and functions, and inside code also variables. A variable stands in a text
between a dollar sign with an opening brace and a closing brace.
-/

set_option autoImplicit false

namespace Colloquy.Outline

abbrev Bindings := List (String × Item)

structure Scope where
  tools : Fields
  /-- The functions by which options can be identified. -/
  functions : List (String × (Datum → Except Error Datum))
  error : Datum → Error
  /-- The variables inside code; outside of it there are none, and nothing counts as one. -/
  bindings : Option Bindings

namespace Scope

def within (scope : Scope) (bindings : Bindings) : Scope := { scope with bindings := some bindings }

def bare (scope : Scope) : Scope := { scope with bindings := none }

def find (bindings : Bindings) (name : String) : Except Error Item :=
  match bindings.lookup name with
  | some item => .ok item
  | none => .error (.unsupported .key name)

def lookup (scope : Scope) (name : String) : Except Error Item :=
  find (scope.bindings.getD []) name

/-- The name at the start of characters, if a brace closes behind it. -/
def name? (characters : List Char) : Option (List Char) :=
  let name := characters.takeWhile Text.isWordCharacter
  if !name.isEmpty && (characters.drop name.length).head? = some '\x7d' then some name else none

/-- Replaces the names of variables in characters. The second argument bounds the number of
steps. -/
def fillCharacters (bindings : Bindings) : Nat → List Char → Except Error (List Char)
  | 0, characters => .ok characters
  | _ + 1, [] => .ok []
  | steps + 1, character :: rest =>
      let plain : Except Error (List Char) :=
        (fillCharacters bindings steps rest).map (character :: ·)
      match character, rest with
      | '$', '\x7b' :: inner =>
          match name? inner with
          | some name => do
              let item ← find bindings (String.ofList name)
              let behind ← fillCharacters bindings steps (inner.drop (name.length + 1))
              return item.describe.spoken.toList ++ behind
          | none => plain
      | _, _ => plain

def fill (scope : Scope) (text : String) : Except Error String :=
  match scope.bindings with
  | none => .ok text
  | some bindings => (fillCharacters bindings text.length text.toList).map String.ofList

def ofContext (context : Context) : Bindings :=
  let last : Datum := (context.messages.getLast?.map Message.content).getD .null
  [("seed", Datum.ofInt? context.seed), ("row_index", .ofInt? context.rowIndex),
    ("step", .int context.stepIndex), ("draws", .int context.draws),
    ("phase", .text context.phase.name), ("n_messages", .int context.messages.length),
    ("n_plan", .int context.plan.entries.length), ("n_tools", .int context.tools.length),
    ("last", last)].map fun entry => (entry.1, Item.datum entry.2)

end Scope

end Colloquy.Outline
