import Colloquy.Export.Formatted
import Colloquy.Proofs.Resolution.Updates

/-!
# Reading chat forms

The messages of a generated conversation can be read back from their form for chat templates: all of
them, in order, and all that they have but their generation ids.
-/

set_option autoImplicit false

namespace Colloquy

namespace Message

/-- The message as far as its chat form tells it. -/
def anonymous (message : Message) : Message := { message with generationId := "" }

/-- The shapes of messages in a generated conversation: what is said, perhaps with calls, and the
results of tools. -/
inductive IsPlain : Message → Prop where
  | said {role : Role} {content : Datum} {calls : Option (List CallPart)} {generationId : String}
      (speaker : role ≠ .tool) (text : content = .null ∨ ∃ text, content = .text text)
      (made : calls ≠ some []) : IsPlain ⟨role, content, calls, none, none, generationId⟩
  | result {content : Datum} {callId name : Option String} {generationId : String} :
      IsPlain ⟨.tool, content, none, callId, name, generationId⟩

end Message

/-- The text of a part that holds one. -/
def spokenText? (part : Datum) : Option String := do
  let kind ← (← part.get? "type").text?
  if kind = "text" then (← part.get? "text").text? else none

def CallPart.ofChatPart? (part : Datum) : Option CallPart := do
  return ⟨← (← part.get? "tool_call_id").text?, ← (← part.get? "tool_name").text?,
    ← (← part.get? "input").fields?⟩

/-- A text, or the lack of one. -/
def nullableText? : Datum → Option (Option String)
  | .null => some none
  | .text text => some (some text)
  | _ => none

/-- The text at the head of parts, and the parts behind it; without a text there is no content. -/
def spokenContent : List Datum → Datum × List Datum
  | [] => (.null, [])
  | part :: parts =>
      match spokenText? part with
      | some text => (.text text, parts)
      | none => (.null, part :: parts)

def saidOfParts? (role : Role) (parts : List Datum) : Option Message := do
  let calls ← (spokenContent parts).2.mapM CallPart.ofChatPart?
  return ⟨role, (spokenContent parts).1, if calls.isEmpty then none else some calls, none, none, ""⟩

/-- The result of a tool, which is the only part of its message. -/
def resultOfParts? : List Datum → Option Message
  | [part] => do
      return ⟨.tool, ← part.get? "output", none, ← nullableText? (← part.get? "tool_call_id"),
        ← nullableText? (← part.get? "tool_name"), ""⟩
  | _ => none

/-- The message that a chat form tells of. -/
def Message.ofChatForm? (form : Datum) : Option Message := do
  let role ← Role.ofName? (← (← form.get? "role").text?)
  let parts ← (← form.get? "content").items?
  if role = .tool then resultOfParts? parts else saidOfParts? role parts

theorem Datum.get?_toDatum (fields : Fields) (name : String) :
    fields.toDatum.get? name = fields.get? name := Entries.get?_toEntries fields name

theorem Datum.fields?_toDatum (fields : Fields) : fields.toDatum.fields? = some fields := by
  unfold fields? Fields.toDatum Fields.toEntries
  dsimp only
  induction fields with
  | nil => rfl
  | cons field rest ih =>
      rw [List.map_cons, List.mapM_cons, ih]
      rfl

theorem nullableText?_ofText? (text : Option String) : nullableText? (.ofText? text) = some text := by
  cases text <;> rfl

theorem Role.ofName?_name (role : Role) : Role.ofName? role.name = some role := by
  cases role <;> decide

namespace CallPart

theorem ofChatPart?_chatPart (part : CallPart) : ofChatPart? part.chatPart = some part := by
  unfold ofChatPart? chatPart
  simp [Datum.get?_toDatum, Fields.get?_cons, Datum.text?, Datum.fields?_toDatum]

theorem spokenText?_chatPart (part : CallPart) : spokenText? part.chatPart = none := by
  unfold spokenText? chatPart
  simp [Datum.get?_toDatum, Fields.get?_cons, Datum.text?]

end CallPart

theorem spokenText?_textPart (text : String) : spokenText? (textPart text) = some text := by
  unfold spokenText? textPart
  simp [Datum.get?_toDatum, Fields.get?_cons, Datum.text?]

namespace Message

theorem callParts_chatPart (calls : List CallPart) :
    (calls.map CallPart.chatPart).mapM CallPart.ofChatPart? = some calls := by
  induction calls with
  | nil => rfl
  | cons call calls ih =>
      rw [List.map_cons, List.mapM_cons, CallPart.ofChatPart?_chatPart, ih]
      rfl

theorem spokenContent_calls (calls : List CallPart) :
    spokenContent (calls.map CallPart.chatPart) = (.null, calls.map CallPart.chatPart) := by
  cases calls with
  | nil => rfl
  | cons call calls => simp [spokenContent, CallPart.spokenText?_chatPart]

theorem spokenContent_text (text : String) (parts : List Datum) :
    spokenContent (textPart text :: parts) = (.text text, parts) := by
  simp [spokenContent, spokenText?_textPart]

theorem saidOfParts?_parts (role : Role) {content : Datum} {calls : Option (List CallPart)}
    {parts : List Datum} (made : calls ≠ some [])
    (said : spokenContent parts = (content, (calls.getD []).map CallPart.chatPart)) :
    saidOfParts? role parts = some ⟨role, content, calls, none, none, ""⟩ := by
  unfold saidOfParts?
  rw [said, callParts_chatPart]
  match calls with
  | none => rfl
  | some [] => exact absurd rfl made
  | some (call :: calls) => rfl

theorem ofChatForm?_form (role : Role) (parts : List Datum) :
    Message.ofChatForm? (Fields.toDatum [("role", .text role.name), ("content", .list parts)]) =
      if role = .tool then resultOfParts? parts else saidOfParts? role parts := by
  unfold Message.ofChatForm?
  simp [Datum.get?_toDatum, Fields.get?_cons, Datum.text?, Datum.items?, Role.ofName?_name]

/-- A plain message has a chat form, and can be read back from it. -/
theorem IsPlain.read_chatForm {message : Message} (plain : message.IsPlain) :
    ∃ form, message.chatForm = .ok form ∧ ofChatForm? form = some message.anonymous := by
  cases plain with
  | @said role content calls _ speaker text made =>
      have parts : ∃ parts, contentParts content = .ok parts ∧
          spokenContent (parts ++ (calls.getD []).map CallPart.chatPart) =
            (content, (calls.getD []).map CallPart.chatPart) := by
        rcases text with rfl | ⟨text, rfl⟩
        · exact ⟨[], rfl, spokenContent_calls _⟩
        · exact ⟨[textPart text], rfl, spokenContent_text text _⟩
      obtain ⟨parts, split, said⟩ := parts
      refine ⟨Fields.toDatum [("role", .text role.name),
        ("content", .list (parts ++ (calls.getD []).map CallPart.chatPart))], ?_, ?_⟩
      · unfold chatForm chatParts
        rw [if_neg speaker, split]
        rfl
      · rw [ofChatForm?_form, if_neg speaker]
        exact saidOfParts?_parts role made said
  | @result content callId name _ =>
      refine ⟨_, rfl, ?_⟩
      dsimp only [Message.chatForm, chatParts, anonymous]
      refine (ofChatForm?_form .tool _).trans ?_
      rw [if_pos rfl]
      simp [resultOfParts?, Datum.get?_toDatum, Fields.get?_cons, nullableText?_ofText?]

end Message

theorem chatMessages_eq_mapM (messages : List Message) :
    (chatMessages messages).1 = messages.mapM Message.chatForm := by
  induction messages with
  | nil => rfl
  | cons message messages ih =>
      rw [List.mapM_cons, ← ih, chatMessages]
      cases message.chatForm with
      | error error => rfl
      | ok form =>
          rcases chatMessages messages with ⟨forms, after⟩
          cases forms <;> rfl

/-- Plain messages have chat forms, and can be read back from them in order. -/
theorem read_chatMessages {messages : List Message} (plain : ∀ message ∈ messages, message.IsPlain) :
    ∃ forms, (chatMessages messages).1 = .ok forms ∧
      forms.mapM Message.ofChatForm? = some (messages.map Message.anonymous) := by
  rw [chatMessages_eq_mapM]
  induction messages with
  | nil => exact ⟨[], rfl, rfl⟩
  | cons message messages ih =>
      obtain ⟨form, formed, read⟩ := (plain message List.mem_cons_self).read_chatForm
      obtain ⟨forms, others, rest⟩ := ih fun other member => plain other (List.mem_cons_of_mem _ member)
      refine ⟨form :: forms, ?_, ?_⟩
      · rw [List.mapM_cons, formed, others]
        rfl
      · rw [List.mapM_cons, read, rest]
        rfl

theorem mapM_chatForm_anonymous (messages : List Message) :
    (messages.map Message.anonymous).mapM Message.chatForm = messages.mapM Message.chatForm := by
  rw [List.mapM_map]
  rfl

/-- The record of a row for chat templates, if its messages have these forms. -/
def Row.chatFields (row : Row) (forms : List Datum) : Fields :=
  [("tools", .list (row.tools.map ToolSpec.chatPart)), ("messages", .list forms)]

theorem ExportFormat.form_of_chatMessages {row : Row} {forms : List Datum}
    (formed : (chatMessages row.messages).1 = .ok forms) :
    (chatTemplate.form row).1 = .ok (row.chatFields forms) := by
  unfold form
  dsimp only
  rw [formed]
  rfl

theorem Row.get?_chatFields (row : Row) (forms : List Datum) :
    Fields.get? (row.chatFields forms) "messages" = some (.list forms) := rfl

/-- Nothing of a conversation is lost in its form for chat templates. Every row of plain messages has
the form, and its messages can be read back from what stands there under their name: roles, contents,
calls and results, in order. So two rows have the same messages there exactly if their messages differ
in nothing but generation ids. -/
theorem Row.messages_of_chatForm (row : Row) (plain : ∀ message ∈ row.messages, message.IsPlain) :
    ∃ fields forms, (ExportFormat.chatTemplate.form row).1 = .ok fields ∧
      fields.get? "messages" = some (.list forms) ∧
      forms.mapM Message.ofChatForm? = some (row.messages.map Message.anonymous) ∧
      ∀ other : Row, (∀ message ∈ other.messages, message.IsPlain) →
        ∃ others, (ExportFormat.chatTemplate.form other).1 = .ok others ∧
          (others.get? "messages" = fields.get? "messages" ↔
            other.messages.map Message.anonymous = row.messages.map Message.anonymous) := by
  obtain ⟨forms, formed, read⟩ := read_chatMessages plain
  refine ⟨row.chatFields forms, forms, ExportFormat.form_of_chatMessages formed,
    row.get?_chatFields forms, read, fun other plain' => ?_⟩
  obtain ⟨forms', formed', read'⟩ := read_chatMessages plain'
  refine ⟨other.chatFields forms', ExportFormat.form_of_chatMessages formed', ?_⟩
  rw [row.get?_chatFields, other.get?_chatFields, Option.some.injEq, Datum.list.injEq]
  constructor
  · rintro rfl
    exact Option.some.inj (read'.symm.trans read)
  · intro same
    rw [chatMessages_eq_mapM, ← mapM_chatForm_anonymous] at formed formed'
    rw [same] at formed'
    exact Except.ok.inj (formed'.symm.trans formed)

/-- A conversation that begins with an utterance: a call in silence, its result, and a text with two
more calls. -/
def consultation (utterance : Datum) : Row :=
  let look (id : String) : CallPart := ⟨id, "look", [("at", .text "sky")]⟩
  ⟨[⟨.user, utterance, none, none, none, "1"⟩, ⟨.assistant, .null, some [look "a"], none, none, "2"⟩,
      ⟨.tool, .list [.int 1, .null], none, some "a", some "look", "3"⟩,
      ⟨.assistant, .text "Again", some [look "b", look "c"], none, none, "4"⟩],
    [], .empty, ⟨none, "m", none, "now", none, []⟩⟩

theorem isPlain_consultation {utterance : Datum}
    (text : utterance = .null ∨ ∃ text, utterance = .text text) :
    ∀ message ∈ (consultation utterance).messages, message.IsPlain := by
  simp only [consultation, List.forall_mem_cons]
  refine ⟨.said (by decide) text nofun, .said (by decide) (.inl rfl) nofun, .result,
    .said (by decide) (.inr ⟨_, rfl⟩) nofun, nofun⟩

/-- A conversation that begins with an empty text is told from one that begins with none. -/
theorem messages_of_chatForm_consultation :
    (∀ message ∈ (consultation (.text "")).messages, message.IsPlain) ∧
    ∃ fields others, (ExportFormat.chatTemplate.form (consultation (.text ""))).1 = .ok fields ∧
      (ExportFormat.chatTemplate.form (consultation .null)).1 = .ok others ∧
      others.get? "messages" ≠ fields.get? "messages" := by
  have plain := isPlain_consultation (.inr ⟨"", rfl⟩)
  obtain ⟨fields, _, formed, _, _, told⟩ := Row.messages_of_chatForm (consultation (.text "")) plain
  obtain ⟨others, formed', shared⟩ := told (consultation .null) (isPlain_consultation (.inl rfl))
  refine ⟨plain, fields, others, formed, formed', fun same => ?_⟩
  have heads := congrArg (fun messages => messages.head?.map Message.content) (shared.1 same)
  cases Option.some.inj heads

end Colloquy
