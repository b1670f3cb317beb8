import Colloquy.Json.Reader
import Colloquy.Log.Basic
import Colloquy.Shape.Fit
import Colloquy.Text.Blank

/-!
# Reading replies

The text of a reply, and the object that a reply holds. An object may stand between the fences of a
code block, or inside other text, where it reaches from the first opening brace to the last closing
one.
-/

set_option autoImplicit false

namespace Colloquy.Model

/-- The characters without an opening fence and what stands behind it on its line. -/
def dropOpening (content : List Char) : List Char :=
  if "```".toList.isPrefixOf content then
    if content.contains '\n' then (content.dropWhile (· ≠ '\n')).drop 1 else content.drop 3
  else content

def dropClosing (content : List Char) : List Char :=
  if "```".toList.isSuffixOf content then content.take (content.length - 3) else content

/-- The characters inside the fences of a code block, if there are any, without blanks around. -/
def insideFences (content : List Char) : List Char :=
  if content.isEmpty then content
  else Text.trimBlanks (dropClosing (dropOpening (Text.trimBlanks content)))

def stripFences (content : String) : String :=
  String.ofList (insideFences content.toList)

/-- The error of using content as the text that it is not; an attribute of it may go by the name of
what a text would do. -/
def notText (content : Datum) : Error :=
  match content with
  | .bytes _ => .unsupported .type "startswith first arg must be bytes or a tuple of bytes, not str"
  | other =>
      match attribute? other with
      | some value => .unsupported .type ("'" ++ value.typePath ++ "' object is not callable")
      | none => .unsupported .attribute ("'" ++ other.typePath ++ "' object has no attribute 'strip'")
where
  attribute? : Datum → Option Datum
    | .object _ fields => Fields.get? fields "strip"
    | _ => none

/-- Content without the fences of a code block. Content that counts as absent stays as it is. -/
def withoutFences (content : Datum) : Except Error Datum :=
  match content with
  | .text text => .ok (.text (stripFences text))
  | other => if other.isTruthy then .error (notText other) else .ok other

def trimBytes (content : String) : String :=
  let isWhite (character : Char) : Bool := character.isWhitespace || "\x0b\x0c".contains character
  String.ofList (((content.toList.dropWhile isWhite).reverse.dropWhile isWhite).reverse)

/-- The text of a reply; a reply that counts as absent is empty. -/
def replyText (content : Datum) : Except Error Datum :=
  match content with
  | .text text => .ok (.text (Text.trim text))
  | .bytes text => .ok (if text = "" then .text "" else .bytes (trimBytes text))
  | other => if other.isTruthy then .error (notText other) else .ok (.text "")

/-- The characters from the first opening brace to the last closing one. -/
def betweenBraces? (content : List Char) : Option (List Char) :=
  let start := content.idxOf '\x7b'
  let behind := content.reverse.idxOf '\x7d'
  let stop := content.length - behind
  if start < content.length ∧ behind < content.length ∧ start + 1 < stop then
    some ((content.take stop).drop start)
  else none

def shownCharacters : Nat := 200

def warning (cause : String) (content : List Char) : LogLine :=
  ⟨LogLevel.warning.name,
    "JSON parse error" ++ cause ++ " | Content: " ++ String.ofList (content.take shownCharacters)⟩

abbrev Logged (α : Type) := α × List LogLine

def oversized (problem : Json.Problem) : Error :=
  match problem with
  | .depth _ => .unsupported .recursion problem.wording
  | other => .unsupported .value other.wording

/-- The value that a text holds as JSON, alone or inside other text. -/
def extract (fenced : Bool) (content : String) : Logged (Except Error Datum) :=
  let characters := if fenced then insideFences content.toList else content.toList
  match Json.read (String.ofList characters) with
  | .ok value => (.ok value, [])
  | .error fault =>
      if fault.problem.isOfSize then (.error (oversized fault.problem), [])
      else
        match betweenBraces? characters with
        | none => (.error (.reply .noObject), [warning "" characters])
        | some inner =>
            let document := String.ofList inner
            match Json.read document with
            | .ok value => (.ok value, [])
            | .error fault =>
                if fault.problem.isOfSize then (.error (oversized fault.problem), [])
                else
                  let cause := fault.message document
                  (.error (.reply (.unreadable cause)), [warning (": " ++ cause) characters])

def fitReply (shape : Shape) (value : Datum) : Except Error Datum :=
  (shape.refit value).mapError (Error.ofFaults shape.name)

/-- The data of a shape that a reply holds: a text is read, data is taken as it is. -/
def parse (fenced : Bool) (shape : Shape) (content : Datum) : Logged (Except Error Datum) :=
  match content with
  | .text text =>
      let (value, lines) := extract fenced text
      (value.bind (fitReply shape), lines)
  | .mapping _ => (fitReply shape content, [])
  | .object (.instance _) _ => (fitReply shape content, [])
  | other => (.error (.reply (.unsupported other.typeName)), [])

end Colloquy.Model
