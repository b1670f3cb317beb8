/-!
# Blank characters

The Unicode blanks, and the removal of blanks from both ends of a text.
-/

set_option autoImplicit false

namespace Colloquy.Text

/-- The blank code points, in increasing order. The file, group, record and unit separators count;
the zero-width space and the byte order mark do not. -/
def blankCodes : List Nat := [
  0x09, 0x0a, 0x0b, 0x0c, 0x0d, 0x1c, 0x1d, 0x1e, 0x1f, 0x20, 0x85, 0xa0, 0x1680,
  0x2000, 0x2001, 0x2002, 0x2003, 0x2004, 0x2005, 0x2006, 0x2007, 0x2008, 0x2009, 0x200a,
  0x2028, 0x2029, 0x202f, 0x205f, 0x3000]

def isBlank (character : Char) : Bool :=
  blankCodes.contains character.toNat

def trimFront (characters : List Char) : List Char :=
  characters.dropWhile isBlank

def trimBack (characters : List Char) : List Char :=
  (characters.reverse.dropWhile isBlank).reverse

def trimBlanks (characters : List Char) : List Char :=
  trimBack (trimFront characters)

/-- Whether a character separates information: the file, group, record and unit separators. -/
def isSeparator (character : Char) : Bool :=
  0x1c ≤ character.toNat && character.toNat ≤ 0x1f

/-- Whether a character is white space, which the information separators are not. -/
def isWhite (character : Char) : Bool :=
  isBlank character && !isSeparator character

def trimWhite (characters : List Char) : List Char :=
  ((characters.dropWhile isWhite).reverse.dropWhile isWhite).reverse

def trim (text : String) : String :=
  String.ofList (trimBlanks text.toList)

/-- What is left without its front blanks starts with a character that is not blank. -/
theorem isBlank_head_trimFront {characters rest : List Char} {first : Char}
    (trimmed : trimFront characters = first :: rest) : isBlank first = false := by
  have stopped := List.head?_dropWhile_not isBlank characters
  rw [show characters.dropWhile isBlank = first :: rest from trimmed] at stopped
  simpa using stopped

theorem trimFront_append {blanks : List Char} (characters : List Char)
    (blank : ∀ character ∈ blanks, isBlank character = true) :
    trimFront (blanks ++ characters) = trimFront characters := by
  induction blanks with
  | nil => rfl
  | cons first rest ih =>
      have removed := blank first List.mem_cons_self
      have remaining := ih fun character member => blank character (List.mem_cons_of_mem _ member)
      simpa [trimFront, removed] using remaining

theorem isBlank_of_isWhitespace {character : Char} (blank : character.isWhitespace = true) :
    isBlank character = true := by
  simp only [Char.isWhitespace, Bool.or_eq_true, decide_eq_true_eq] at blank
  rcases blank with ((rfl | rfl) | rfl) | rfl <;> decide

end Colloquy.Text
