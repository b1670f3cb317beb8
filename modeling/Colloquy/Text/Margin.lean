import Colloquy.Text.Blank

/-!
# Margins

A remark of several lines is often indented as a whole. Without its margin, the least indented line
behind the first one starts at its first character.
-/

set_option autoImplicit false

namespace Colloquy.Text

def tabWidth : Nat := 8

/-- Characters with tabs filled up to the next tab stop, the first one being at a column. -/
def expandTabs (column : Nat) : List Char → List Char
  | [] => []
  | '\t' :: rest =>
      let width := tabWidth - column % tabWidth
      List.replicate width ' ' ++ expandTabs (column + width) rest
  | character :: rest =>
      character :: expandTabs (if character = '\n' || character = '\x0d' then 0 else column + 1) rest

/-- The number of blanks in front of a line; a line of blanks has no indentation. -/
def indentation? (line : List Char) : Option Nat :=
  let content := trimFront line
  if content.isEmpty then none else some (line.length - content.length)

def margin (lines : List (List Char)) : Nat :=
  ((lines.filterMap indentation?).min?).getD 0

def linesOf (characters : List Char) : List (List Char) :=
  characters.splitOn '\n'

/-- A text without tabs, without the margin of its lines behind the first, without blanks in front
of the first line, and without empty lines at either end. -/
def withoutMargin (text : String) : String :=
  match linesOf (expandTabs 0 text.toList) with
  | [] => ""
  | first :: rest =>
      let lines := trimFront first :: rest.map fun line => line.drop (margin rest)
      let lines := (lines.dropWhile List.isEmpty).reverse.dropWhile List.isEmpty
      "\n".intercalate (lines.reverse.map String.ofList)

example : withoutMargin "\n    A.\n\n      B.\n  " = "A.\n\n  B." := by decide +kernel

end Colloquy.Text
