import Colloquy.Text.Blank
import Colloquy.Text.LetterCase

/-!
# Title case

The spelling of an identifier as a title: underscores become blanks, and of each run of letters the
first has its title form and the others are small. Blanks at the ends are left out.
-/

set_option autoImplicit false

namespace Colloquy.Text

/-- Characters in title case, of which `before` stand in front, nearest first: a letter behind
another letter is small, and any other letter has its title form. -/
def titleCase (before : List Char) : List Char → List Char
  | [] => []
  | character :: rest =>
      (if before.head?.any isCased then lowerBetween before rest character
        else titleForm character) ++ titleCase (character :: before) rest

def title (identifier : String) : String :=
  String.ofList (trimBlanks (titleCase [] (identifier.toList.map fun character =>
    if character = '_' then ' ' else character)))

example : title "x_value" = "X Value" := by decide +kernel

example : title "camelCase" = "Camelcase" := by decide +kernel

end Colloquy.Text
