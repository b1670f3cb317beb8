import Colloquy.Model.Call
import Colloquy.Model.Hoisting
import Mathlib.Data.List.Basic

/-!
# The order of prompt messages

Moving system messages to the front is a stable partition. A list that is found in order is its own
partition, so that nothing changes any more once it has been done.
-/

set_option autoImplicit false

namespace Colloquy

def Datum.IsMapping (datum : Datum) : Prop := ∃ entries, datum = .mapping entries

namespace Model

/-- No message of the system stands behind one that is not of the system. -/
def InOrder (messages : List Datum) : Prop :=
  messages.Pairwise fun earlier later => isSystem later = true → isSystem earlier = true

/-- The system messages in their order, and then all others in theirs. -/
def partitioned (messages : List Datum) : List Datum :=
  messages.filter isSystem ++ messages.filter fun message => !isSystem message

theorem isHoisted_iff (messages : List Datum) : isHoisted messages = true ↔ InOrder messages := by
  induction messages with
  | nil => exact ⟨fun _ => .nil, fun _ => rfl⟩
  | cons message messages ih =>
      unfold InOrder isHoisted
      rw [List.pairwise_cons]
      cases system : isSystem message with
      | true =>
          rw [if_pos rfl, ih]
          exact ⟨fun rest => ⟨fun _ _ _ => rfl, rest⟩, And.right⟩
      | false =>
          simp only [Bool.false_eq_true, if_false, List.all_eq_true, Bool.not_eq_true', imp_false,
            Bool.not_eq_true]
          constructor
          · intro others
            refine ⟨others, List.pairwise_of_forall_mem_list fun first _ second later system => ?_⟩
            rw [others second later] at system
            cases system
          · exact And.left

theorem inOrder_partitioned (messages : List Datum) : InOrder (partitioned messages) := by
  unfold InOrder partitioned
  rw [List.pairwise_append]
  refine ⟨?_, ?_, ?_⟩
  · refine List.pairwise_of_forall_mem_list fun first earlier _ _ _ => ?_
    exact (List.mem_filter.1 earlier).2
  · refine List.pairwise_of_forall_mem_list fun _ _ second later system => ?_
    have other := (List.mem_filter.1 later).2
    rw [system] at other
    cases other
  · intro first earlier _ _ _
    exact (List.mem_filter.1 earlier).2

theorem partitioned_of_inOrder {messages : List Datum} (ordered : InOrder messages) :
    partitioned messages = messages := by
  induction messages with
  | nil => rfl
  | cons message messages ih =>
      obtain ⟨first, rest⟩ := List.pairwise_cons.1 ordered
      have ih := ih rest
      unfold partitioned at ih ⊢
      cases system : isSystem message with
      | true =>
          rw [List.filter_cons_of_pos system, List.filter_cons_of_neg (by simp [system]),
            List.cons_append, ih]
      | false =>
          have others (later : Datum) (member : later ∈ messages) : isSystem later = false := by
            cases behind : isSystem later with
            | false => rfl
            | true => exact absurd (first later member behind) (by simp [system])
          rw [List.filter_eq_nil_iff.2 fun later member => ?_, List.nil_append,
            List.filter_eq_self.2 fun later member => ?_]
          · rcases List.mem_cons.1 member with rfl | member
            · simp [system]
            · simp [others later member]
          · rcases List.mem_cons.1 member with rfl | member
            · simp [system]
            · simp [others later member]

/-- Whether the list is given back as it is or sorted anew, it is the partition. -/
theorem hoistSystem_eq (messages : List Datum) : hoistSystem messages = partitioned messages := by
  unfold hoistSystem
  split
  next ordered => exact (partitioned_of_inOrder ((isHoisted_iff messages).1 ordered)).symm
  next => rfl

theorem hoistSystem_hoistSystem (messages : List Datum) :
    hoistSystem (hoistSystem messages) = hoistSystem messages := by
  rw [hoistSystem_eq (hoistSystem messages), hoistSystem_eq messages]
  exact partitioned_of_inOrder (inOrder_partitioned messages)

theorem hoist_eq_ok {messages : List Datum}
    (mappings : ∀ message ∈ messages, message.IsMapping) :
    hoist messages = .ok (partitioned messages) := by
  have none : messages.findSome? messageFault? = none := by
    rw [List.findSome?_eq_none_iff]
    intro message member
    obtain ⟨entries, rfl⟩ := mappings message member
    rfl
  unfold hoist
  rw [none, hoistSystem_eq]

theorem eq_of_hoist {messages delivered : List Datum} (hoisted : hoist messages = .ok delivered) :
    delivered = hoistSystem messages := by
  unfold hoist at hoisted
  split at hoisted
  · cases hoisted
  · cases hoisted
    rfl

theorem isSystem_promptMessage (role content : String) :
    isSystem (promptMessage role content) = (role == "system") := by
  simp [isSystem, promptMessage, Datum.get?, Datum.entry?, Datum.equal]

/-- Between a system message in front and one of another kind at the end, the messages of two lists
are sorted together: those of the first list go before those of the second, of either kind. -/
theorem partitioned_between {first last : Datum} (system : isSystem first = true)
    (other : isSystem last = false) (common specific : List Datum) :
    partitioned (first :: (common ++ specific) ++ [last]) =
      first :: (common.filter isSystem ++ specific.filter isSystem) ++
        ((common.filter fun message => !isSystem message) ++
          specific.filter fun message => !isSystem message) ++ [last] := by
  unfold partitioned
  simp [system, other]

end Model

end Colloquy
