import Colloquy.Datum.Equality
import Colloquy.Datum.Shown

/-!
# JSON text

Data written as a JSON document. A `Style` fixes what documents differ in: the separators, the
indentation, whether all but printable ASCII is escaped, and how numbers are laid out.
-/

set_option autoImplicit false

namespace Colloquy.Json

structure Style where
  itemSeparator : String
  keySeparator : String
  /-- The width of one level of indentation; none writes everything on one line. -/
  indent : Option Nat
  /-- Whether every character that is not printable ASCII is escaped. -/
  ascii : Bool
  /-- Whether the members of an object are written in the order of their keys. -/
  sorted : Bool
  /-- Whether a value without a JSON form is written as its text. -/
  lenient : Bool
  numbers : Number.Layout

def Style.line : Style := ⟨", ", ": ", none, false, false, false, .json⟩

/-- One line without blanks, in the number layout of compact documents. -/
def Style.compact : Style := ⟨",", ":", none, false, false, false, .compact⟩

def Style.pretty : Style := ⟨", ", ": ", some 2, false, false, false, .json⟩

/-- The same style with everything that is not printable ASCII escaped. -/
def Style.escaped (style : Style) : Style :=
  ⟨style.itemSeparator, style.keySeparator, style.indent, true, style.sorted, style.lenient,
    style.numbers⟩

def Style.byKey (style : Style) : Style :=
  ⟨style.itemSeparator, style.keySeparator, style.indent, style.ascii, true, style.lenient,
    style.numbers⟩

/-- The same style in which every value has a form, if need be its text. -/
def Style.tolerant (style : Style) : Style :=
  ⟨style.itemSeparator, style.keySeparator, style.indent, style.ascii, style.sorted, true,
    style.numbers⟩

def escapeUnit (unit : Nat) : String :=
  "\\u" ++ Text.hexadecimal 4 unit

def writeCharacter (ascii : Bool) (character : Char) : String :=
  if character = '"' then "\\\""
  else if character = '\\' then "\\\\"
  else if character = '\n' then "\\n"
  else if character = '\x0d' then "\\r"
  else if character = '\t' then "\\t"
  else if character = '\x08' then "\\b"
  else if character = '\x0c' then "\\f"
  else if character.toNat < 0x20 then escapeUnit character.toNat
  else if ascii && 0x7f ≤ character.toNat then
    if character.toNat < 0x10000 then escapeUnit character.toNat
    else
      let offset := character.toNat - 0x10000
      escapeUnit (0xd800 + offset / 0x400) ++ escapeUnit (0xdc00 + offset % 0x400)
  else character.toString

def writeText (ascii : Bool) (text : String) : String :=
  "\"" ++ String.join (text.toList.map (writeCharacter ascii)) ++ "\""

/-- The text of an object key: texts, numbers, truth values and null can be keys. -/
def keyText? (numbers : Number.Layout) : Datum → Option String
  | .text value => some value
  | .int value => some (toString value)
  | .float value => some (Number.shortestText numbers value)
  | .bool value => some (if value then "true" else "false")
  | .null => some "null"
  | _ => none

/-- Parts between brackets, each on a line of its own if the style indents. -/
def enclose (style : Style) (depth : Nat) (opening closing : String) (parts : List String) :
    String :=
  match style.indent, parts with
  | _, [] => opening ++ closing
  | none, parts => opening ++ style.itemSeparator.intercalate parts ++ closing
  | some width, parts =>
      let inner := "\n" ++ String.ofList (List.replicate (width * (depth + 1)) ' ')
      let outer := "\n" ++ String.ofList (List.replicate (width * depth) ' ')
      opening ++ inner ++ ("," ++ inner).intercalate parts ++ outer ++ closing

/-- A member of an object: its key, the text of the key, and the text of the value. -/
structure Member where
  key : Datum
  name : String
  value : String

/-- Whether a key may stand before another one: texts by their characters, numbers by value. -/
def keyAtMost (left right : Datum) : Bool :=
  match left.text?, right.text? with
  | some left, some right => left ≤ right
  | _, _ =>
      match left.quantity?, right.quantity? with
      | some left, some right => !right.less left
      | _, _ => true

def arrange (style : Style) (members : List Member) : List String :=
  let members :=
    if style.sorted then members.mergeSort fun left right => keyAtMost left.key right.key
    else members
  members.map fun member => writeText style.ascii member.name ++ style.keySeparator ++ member.value

inductive Unwritable where
  | value (typeName : String)
  | key (typeName : String)
  | order (first second : String)
  deriving Repr, DecidableEq

/-- Two neighbouring keys that have no order, by their types. Only texts and numbers have one. -/
def unordered? : List (Datum × Datum) → Option (String × String)
  | (first, _) :: (second, value) :: rest =>
      if (first.text?.isSome && second.text?.isSome) ||
          (first.quantity?.isSome && second.quantity?.isSome) then
        unordered? ((second, value) :: rest)
      else some (second.typePath, first.typePath)
  | _ => none

mutual

def writeAt (style : Style) (depth : Nat) : Datum → Except Unwritable String
  | .null => .ok "null"
  | .bool value => .ok (if value then "true" else "false")
  | .int value => .ok (toString value)
  | .float value => .ok (Number.shortestText style.numbers value)
  | .text value => .ok (writeText style.ascii value)
  | .list items => do return enclose style depth "[" "]" (← writeItems style (depth + 1) items)
  | .tuple items => do return enclose style depth "[" "]" (← writeItems style (depth + 1) items)
  | .mapping entries =>
      match if style.sorted then unordered? entries else none with
      | some (first, second) => .error (.order first second)
      | none => do
          return enclose style depth "\x7b" "\x7d"
            (arrange style (← writeEntries style (depth + 1) entries))
  | .bytes value => writeForeign style (.bytes value)
  | .decimal value => writeForeign style (.decimal value)
  | .date value => writeForeign style (.date value)
  | .object kind fields => writeForeign style (.object kind fields)

def writeForeign (style : Style) (value : Datum) : Except Unwritable String :=
  if style.lenient then .ok (writeText style.ascii value.spoken)
  else .error (.value value.typeName)

def writeItems (style : Style) (depth : Nat) : List Datum → Except Unwritable (List String)
  | [] => .ok []
  | item :: items => do
      let first ← writeAt style depth item
      return first :: (← writeItems style depth items)

def writeEntries (style : Style) (depth : Nat) :
    List (Datum × Datum) → Except Unwritable (List Member)
  | [] => .ok []
  | (key, value) :: entries =>
      match keyText? style.numbers key with
      | none => .error (.key key.typeName)
      | some name => do
          let first ← writeAt style depth value
          return ⟨key, name, first⟩ :: (← writeEntries style depth entries)

end

def write? (style : Style) (value : Datum) : Except Unwritable String :=
  writeAt style 0 value

/-- A value as a JSON document, nothing being refused but keys that are no keys. -/
def write (style : Style) (value : Datum) : String :=
  match write? style.tolerant value with
  | .ok text => text
  | .error _ => ""

end Colloquy.Json
