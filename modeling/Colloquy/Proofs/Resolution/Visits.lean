import Colloquy.Proofs.Resolution.Requests
import Colloquy.Proofs.Schema.Vocabulary
import Mathlib.Data.List.Forall2

/-!
# Visited leaves

The leaves that a resolution visits, and how many values have been drawn at each of them, follow
from the stream and the used identifiers alone where decisions look at nothing else. The entry that
is planned for a visited leaf and the message that is made for it agree in all that can be planned.
-/

set_option autoImplicit false

namespace Colloquy

open Selection (Choice)

structure Visit where
  leaf : Leaf
  /-- The number of values drawn before. -/
  draws : Nat

/-- The leaves that a script visits, drawing from a stream and choosing against a store. A script
that looks at the context or asks the model is followed no further. -/
def Script.visits : Script → Random.Stream → Unique.Store → List Visit
  | done, _, _ => []
  | fail _, _, _ => []
  | draw next, stream, store => (next stream.next.1).visits stream.next.2 store
  | choose options uniqueBy next, stream, store =>
      match (Unique.choose options uniqueBy (some store)).run stream with
      | ((.ok chosen, after), last) => (next chosen.place).visits last (after.getD store)
      | ((.error _, _), _) => []
  | entry leaf next, stream, store => ⟨leaf, stream.draws⟩ :: next.visits stream store
  | list _ next, stream, store => next.visits stream store
  | update _ next, stream, store => next.visits stream store
  | observe _, _, _ => []
  | ask _ _, _, _ => []
  | pause next, stream, store => next.visits stream store

namespace Leaf

def kind : Leaf → EntryKind
  | fixed _ _ => .message
  | written _ _ => .message
  | call _ => .toolCall
  | result _ => .toolResult

def speaker : Leaf → Datum
  | fixed role _ => role
  | written role _ => role
  | call _ => .text Role.assistant.name
  | result _ => .text Role.tool.name

def tool : Leaf → Option String
  | fixed _ _ => none
  | written _ _ => none
  | call use => some use.tool.name
  | result answer => some answer.tool.name

/-- The id of the call that a leaf makes or answers. -/
def callId : Leaf → Datum
  | fixed _ _ => .null
  | written _ _ => .null
  | call use => use.callId
  | result answer => answer.callId

/-- What an author gives as content, or as the prompt for it. -/
def content : Leaf → Datum
  | fixed _ content => content
  | written _ prompt => prompt
  | call use => use.prompt
  | result answer => answer.result.getD .null

/-- A leaf as authors should write it: messages are those of the system, a user or an assistant, and
ids are texts. -/
def IsRegular : Leaf → Prop
  | fixed role _ => ∃ known : Role, known ≠ .tool ∧ role = .text known.name
  | written role _ => ∃ known : Role, known ≠ .tool ∧ role = .text known.name
  | call use => (∃ id, use.callId = .text id) ∧
      (use.reuseFrom = .null ∨ ∃ id, use.reuseFrom = .text id)
  | result answer => ∃ id, answer.callId = .text id

end Leaf

/-- Schemas of regular leaves in which decisions depend on nothing but what they draw. -/
def Vocabulary.foreseeable : Vocabulary := ⟨Leaf.IsRegular, fun _ => True, False⟩

namespace Message

/-- The name of the tool that a message calls or answers for. -/
def usedTool (message : Message) : Option String :=
  ((message.toolCalls.getD []).head?.map CallPart.name).or message.name

/-- The id of the call that a message makes or answers. -/
def usedCall (message : Message) : Option String :=
  ((message.toolCalls.getD []).head?.map CallPart.id).or message.toolCallId

end Message

/-- The entry is what is planned for the visited leaf. -/
structure Visit.Plans (visit : Visit) (entry : PlanEntry) : Prop where
  kind : entry.kind = visit.leaf.kind
  role : visit.leaf.speaker = .text entry.role.name
  tool : entry.toolName = visit.leaf.tool
  call : visit.leaf.callId = Datum.ofText? entry.toolCallId
  content : entry.content = visit.leaf.content
  draws : entry.drawCount = visit.draws

/-- The message is what is made for the visited leaf. Content that the author has fixed is kept. -/
structure Visit.Makes (visit : Visit) (message : Message) : Prop where
  kind : message.kind = visit.leaf.kind
  role : visit.leaf.speaker = .text message.role.name
  tool : message.usedTool = visit.leaf.tool
  call : visit.leaf.callId = Datum.ofText? message.usedCall
  content : ∀ role content, visit.leaf = .fixed role content → message.content = content

/-- The message is of the planned kind, by the planned speaker, and about the planned call. -/
structure PlanEntry.Foresees (entry : PlanEntry) (message : Message) : Prop where
  kind : message.kind = entry.kind
  role : message.role = entry.role
  tool : message.usedTool = entry.toolName
  call : message.usedCall = entry.toolCallId

theorem Role.name_injective {left right : Role} (same : left.name = right.name) : left = right := by
  cases left <;> cases right <;> first | rfl | exact absurd same (by decide)

theorem Datum.ofText?_injective {left right : Option String}
    (same : Datum.ofText? left = Datum.ofText? right) : left = right := by
  cases left <;> cases right <;> simp_all [Datum.ofText?]

theorem Visit.Plans.foresees {visit : Visit} {entry : PlanEntry} {message : Message}
    (plans : visit.Plans entry) (makes : visit.Makes message) : entry.Foresees message where
  kind := makes.kind.trans plans.kind.symm
  role := by
    have same : (Datum.text message.role.name) = .text entry.role.name := by
      rw [← makes.role, plans.role]
    exact Role.name_injective (Datum.text.inj same)
  tool := makes.tool.trans plans.tool.symm
  call := Datum.ofText?_injective (makes.call.symm.trans plans.call)

theorem Message.calls_of_usedCall {message : Message} {callId : String}
    (kind : message.kind = .toolCall) (used : message.usedCall = some callId) :
    ((message.toolCalls.getD []).find? fun part => part.id = callId).isSome := by
  unfold Message.kind at kind
  unfold Message.usedCall at used
  cases parts : message.toolCalls.getD [] with
  | nil =>
      simp only [parts, List.isEmpty_nil, if_true] at kind
      split at kind <;> cases kind
  | cons part rest =>
      simp only [parts, List.head?_cons, Option.map_some, Option.some_or, Option.some.injEq] at used
      simp [used]

theorem exists_foreseen {visited : List Visit} {entries : List PlanEntry} {messages : List Message}
    (planned : List.Forall₂ Visit.Plans visited entries)
    (made : List.Forall₂ Visit.Makes visited messages) {entry : PlanEntry}
    (member : entry ∈ entries) : ∃ message ∈ messages, entry.Foresees message := by
  induction planned generalizing messages with
  | nil => cases member
  | cons plans _ ih =>
      cases made with
      | cons makes made =>
          rcases List.mem_cons.1 member with rfl | member
          · exact ⟨_, List.mem_cons_self, plans.foresees makes⟩
          · obtain ⟨message, later, foresees⟩ := ih made member
            exact ⟨message, List.mem_cons_of_mem _ later, foresees⟩

theorem forall₂_foresees {visited : List Visit} {entries : List PlanEntry}
    {messages : List Message} (planned : List.Forall₂ Visit.Plans visited entries)
    (made : List.Forall₂ Visit.Makes visited messages) :
    List.Forall₂ PlanEntry.Foresees entries messages := by
  induction planned generalizing messages with
  | nil =>
      cases made
      exact .nil
  | cons plans _ ih =>
      cases made with
      | cons makes made => exact .cons (plans.foresees makes) (ih made)

theorem Context.findToolCall_of_planned {checking generating : Context} {visited : List Visit}
    (planned : List.Forall₂ Visit.Plans visited checking.plan.entries)
    (made : List.Forall₂ Visit.Makes visited generating.messages) {callId : String}
    (known : checking.hasPlannedToolCall callId = true) :
    ∃ part, generating.findToolCall callId = some part := by
  obtain ⟨id, listed, known⟩ := List.any_eq_true.1 known
  obtain ⟨entry, member, known⟩ := List.any_eq_true.1 known
  simp only [Bool.and_eq_true, decide_eq_true_eq] at known
  obtain ⟨message, made, foresees⟩ := exists_foreseen planned made member
  have kind : message.kind = .toolCall := foresees.kind.trans known.1
  have calls := Message.calls_of_usedCall kind (foresees.call.trans known.2)
  have exactly : (Context.findExactly generating.messages id).isSome :=
    List.findSome?_isSome_iff.2 ⟨message, made, by rwa [if_pos kind]⟩
  exact Option.isSome_iff_exists.1 (List.findSome?_isSome_iff.2 ⟨id, listed, exactly⟩)

end Colloquy
