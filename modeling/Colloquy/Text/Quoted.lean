import Colloquy.Text.Printable

/-!
# Quoted text

How a text is shown inside a message: between single quotes, or between double quotes when it
holds a single quote and no double one, with what cannot be printed escaped by code point.
-/

set_option autoImplicit false

namespace Colloquy.Text

/-- A number in lower-case hexadecimal, filled up with zeros to a width. -/
def hexadecimal (width number : Nat) : String :=
  let digits := Nat.toDigits 16 number
  String.ofList (List.replicate (width - digits.length) '0' ++ digits)

def quoteMark (text : String) : Char :=
  if text.toList.contains '\'' && !text.toList.contains '"' then '"' else '\''

/-- An unprintable code point by number, in two, four or eight digits. -/
def escapeCode (code : Nat) : String :=
  if code < 0x100 then "\\x" ++ hexadecimal 2 code
  else if code < 0x10000 then "\\u" ++ hexadecimal 4 code
  else "\\U" ++ hexadecimal 8 code

def quoteCharacter (mark character : Char) : String :=
  if character = mark ∨ character = '\\' then "\\" ++ character.toString
  else if character = '\n' then "\\n"
  else if character = '\t' then "\\t"
  else if character = '\x0d' then "\\r"
  else if isPrintable character then character.toString
  else escapeCode character.toNat

def quoted (text : String) : String :=
  let mark := quoteMark text
  mark.toString ++ String.join (text.toList.map (quoteCharacter mark)) ++ mark.toString

/-- One byte of quoted bytes; only printable ASCII stands for itself. -/
def quoteByte (mark : Char) (byte : Nat) : String :=
  if byte < 0x80 ∧ 0x20 ≤ byte ∧ byte ≠ 0x7f ∨ byte = 9 ∨ byte = 10 ∨ byte = 13 then
    quoteCharacter mark (Char.ofNat byte)
  else "\\x" ++ hexadecimal 2 byte

/-- The bytes of a text's UTF-8 form as they are shown inside a message. -/
def quotedBytes (text : String) : String :=
  let mark := quoteMark text
  "b" ++ mark.toString ++
    String.join (text.toUTF8.toList.map fun byte => quoteByte mark byte.toNat) ++ mark.toString

end Colloquy.Text
