import Colloquy.Error.Conversion

/-!
# Order of prompt messages

System messages are shown to the model before all others; otherwise the order is kept.
-/

set_option autoImplicit false

namespace Colloquy.Model

def isSystem (message : Datum) : Bool :=
  (message.get? "role").any fun role => role.equal (.text "system")

def isHoisted : List Datum → Bool
  | [] => true
  | message :: messages =>
      if isSystem message then isHoisted messages
      else messages.all fun later => !isSystem later

/-- The messages with every system message ahead of the others. A list that is in order is given
back as it is. -/
def hoistSystem (messages : List Datum) : List Datum :=
  if isHoisted messages then messages
  else messages.filter isSystem ++ messages.filter fun message => !isSystem message

def messageFault? : Datum → Option Error
  | .mapping _ => none
  | other =>
      some (.unsupported .attribute ("'" ++ other.typePath ++ "' object has no attribute 'get'"))

/-- The messages with every system message ahead of the others, if all of them are messages. -/
def hoist (messages : List Datum) : Except Error (List Datum) :=
  match messages.findSome? messageFault? with
  | some error => .error error
  | none => .ok (hoistSystem messages)

/-- What a value of messages becomes, and whether it is left as it is. -/
def hoistGiven (given : Datum) : Except Error (Datum × Bool) := do
  let messages ← given.elements
  let ordered ← hoist messages
  return if isHoisted messages then (given, true) else (.list ordered, false)

end Colloquy.Model
