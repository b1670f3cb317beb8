import Colloquy.Proofs.Resolution.Messages
import Mathlib.Data.List.Nodup

/-!
# References to tool calls

An id refers to the first call of that id, and if there is none, to the first call of the id that it
is deferred from. The arguments of a call are named values, each name being used once; so they are
the same when they are read again.
-/

set_option autoImplicit false

namespace Colloquy

theorem normalizeCallId_append (base : String) : normalizeCallId (base ++ finalSuffix) = base := by
  have deferred : (base ++ finalSuffix).endsWith finalSuffix = true := by
    rw [String.endsWith_eq_endsWith_toSlice, String.Slice.endsWith_string_iff]
    simp
  have length : (base ++ finalSuffix).length - finalSuffix.length = base.toList.length := by
    rw [String.length_append, Nat.add_sub_cancel, String.length_toList]
  rw [normalizeCallId, if_pos deferred, length, String.toList_append, List.take_left,
    String.ofList_toList]

/-- An id that is deferred from no other stays as it is. -/
theorem normalizeCallId_of_plain {callId : String} (plain : ∀ base, callId ≠ base ++ finalSuffix) :
    normalizeCallId callId = callId := by
  have ends : ¬callId.endsWith finalSuffix = true := by
    rw [String.endsWith_eq_endsWith_toSlice, String.Slice.endsWith_string_iff]
    rintro ⟨start, same⟩
    refine plain (String.ofList start) (String.toList_injective ?_)
    simpa using same.symm
  rw [normalizeCallId, if_neg ends]

namespace Message

/-- The message makes a call, and no other. -/
structure Calls (message : Message) (call : CallPart) : Prop where
  kind : message.kind = .toolCall
  only : message.toolCalls = some [call]

/-- The message makes one call if it makes any. -/
def IsSingle (message : Message) : Prop := message.kind = .toolCall → ∃ call, message.Calls call

theorem Calls.unique {message : Message} {call other : CallPart} (calls : message.Calls call)
    (calls' : message.Calls other) : call = other := by
  have same := calls.only.symm.trans calls'.only
  simpa using same

end Message

/-- The call is the first one that is made under an id. -/
def IsFirstCall (messages : List Message) (callId : String) (call : CallPart) : Prop :=
  call.id = callId ∧ ∃ before message after, messages = before ++ message :: after ∧
    message.Calls call ∧ ∀ earlier ∈ before, ∀ other, earlier.Calls other → other.id ≠ callId

/-- The call that an id refers to: the first one under the id, or if there is none, the first one under
the id that it is deferred from. -/
def RefersTo (messages : List Message) (callId : String) (call : CallPart) : Prop :=
  IsFirstCall messages callId call ∨
    (∀ other, ¬IsFirstCall messages callId other) ∧
      ∃ base, callId = base ++ finalSuffix ∧ IsFirstCall messages base call

theorem findExactly_eq_some_iff {messages : List Message}
    (single : ∀ message ∈ messages, message.IsSingle) {callId : String} {call : CallPart} :
    Context.findExactly messages callId = some call ↔ IsFirstCall messages callId call := by
  let read (message : Message) : Option CallPart :=
    if message.kind = .toolCall then
      (message.toolCalls.getD []).find? fun part => part.id = callId
    else none
  have reads {message : Message} (member : message ∈ messages) (found : CallPart) :
      read message = some found ↔ message.Calls found ∧ found.id = callId := by
    by_cases kind : message.kind = .toolCall
    · obtain ⟨only, calls⟩ := single message member kind
      simp only [read, if_pos kind, calls.only, Option.getD_some]
      by_cases named : only.id = callId
      · simp only [List.find?_cons, named, decide_true, Option.some.injEq]
        constructor
        · rintro rfl
          exact ⟨calls, named⟩
        · rintro ⟨calls', _⟩
          exact calls.unique calls'
      · simp only [List.find?_cons, named, decide_false, List.find?_nil]
        constructor
        · rintro ⟨⟩
        · rintro ⟨calls', named'⟩
          exact absurd (calls.unique calls' ▸ named') named
    · simp only [read, if_neg kind]
      constructor
      · rintro ⟨⟩
      · rintro ⟨calls, _⟩
        exact absurd calls.kind kind
  unfold Context.findExactly
  rw [List.findSome?_eq_some_iff]
  constructor
  · rintro ⟨before, message, after, rfl, found, none⟩
    obtain ⟨calls, named⟩ := (reads (by simp) call).1 found
    refine ⟨named, before, message, after, rfl, calls, fun earlier member other calls' named' => ?_⟩
    have here := (reads (List.mem_append_left _ member) other).2 ⟨calls', named'⟩
    rw [show read earlier = _ from none earlier member] at here
    cases here
  · rintro ⟨named, before, message, after, rfl, calls, first⟩
    refine ⟨before, message, after, rfl, (reads (by simp) call).2 ⟨calls, named⟩, ?_⟩
    intro earlier member
    refine Option.eq_none_iff_forall_ne_some.2 fun other found => ?_
    obtain ⟨calls', named'⟩ := (reads (List.mem_append_left _ member) other).1 found
    exact first earlier member other calls' named'

theorem findExactly_eq_none_iff {messages : List Message}
    (single : ∀ message ∈ messages, message.IsSingle) {callId : String} :
    Context.findExactly messages callId = none ↔ ∀ call, ¬IsFirstCall messages callId call := by
  rw [Option.eq_none_iff_forall_ne_some]
  exact forall_congr' fun call => not_congr (findExactly_eq_some_iff single)

/-- What is found for an id is what the id refers to. -/
theorem findCall_eq_some_iff {messages : List Message}
    (single : ∀ message ∈ messages, message.IsSingle) {callId : String} {call : CallPart} :
    Context.findCall messages callId = some call ↔ RefersTo messages callId call := by
  unfold Context.findCall Context.lookupIds RefersTo
  simp only [List.findSome?_cons, List.findSome?_nil]
  cases exact : Context.findExactly messages callId with
  | some found =>
      have first := (findExactly_eq_some_iff single).1 exact
      rw [Option.some.injEq]
      constructor
      · rintro rfl
        exact .inl first
      · rintro (first' | ⟨absent, _⟩)
        · exact Option.some.inj (exact.symm.trans ((findExactly_eq_some_iff single).2 first'))
        · exact absurd first (absent found)
  | none =>
      have absent := (findExactly_eq_none_iff single).1 exact
      simp only
      constructor
      · intro found
        refine .inr ⟨absent, ?_⟩
        by_cases deferred : ∃ base, callId = base ++ finalSuffix
        · obtain ⟨base, rfl⟩ := deferred
          rw [normalizeCallId_append] at found
          refine ⟨base, rfl, (findExactly_eq_some_iff single).1 ?_⟩
          split at found <;> simp_all
        · have plain : normalizeCallId callId = callId :=
            normalizeCallId_of_plain fun base same => deferred ⟨base, same⟩
          rw [plain, exact] at found
          cases found
      · rintro (first | ⟨_, base, rfl, first⟩)
        · exact absurd first (absent call)
        · rw [normalizeCallId_append, (findExactly_eq_some_iff single).2 first]

/-- What an id refers to is made by one of the messages, under the id or the id it is deferred from. -/
theorem RefersTo.made {messages : List Message} {callId : String} {call : CallPart}
    (refers : RefersTo messages callId call) :
    ∃ message ∈ messages, message.Calls call ∧
      (call.id = callId ∨ call.id ++ finalSuffix = callId) := by
  rcases refers with ⟨named, before, message, after, rfl, calls, _⟩ |
    ⟨_, base, rfl, named, before, message, after, rfl, calls, _⟩
  · exact ⟨message, by simp, calls, .inl named⟩
  · exact ⟨message, by simp, calls, .inr (by rw [named])⟩

namespace Fields

theorem names_set (fields : Fields) (name : String) (value : Datum) :
    (fields.set name value).map Prod.fst =
      if name ∈ fields.map Prod.fst then fields.map Prod.fst else fields.map Prod.fst ++ [name] := by
  induction fields with
  | nil => rfl
  | cons field rest ih =>
      obtain ⟨other, old⟩ := field
      by_cases same : other = name
      · simp [set, same]
      · have same' : ¬name = other := Ne.symm same
        by_cases later : name ∈ rest.map Prod.fst
        · rw [if_pos later] at ih
          simp only [set, if_neg same, List.map_cons, ih, List.mem_cons, later, or_true, if_true]
        · rw [if_neg later] at ih
          simp only [set, if_neg same, List.map_cons, ih, List.mem_cons, later, same', or_self,
            if_false, List.cons_append]

theorem set_of_notMem {fields : Fields} {name : String} (fresh : name ∉ fields.map Prod.fst)
    (value : Datum) : fields.set name value = fields ++ [(name, value)] := by
  induction fields with
  | nil => rfl
  | cons field rest ih =>
      obtain ⟨other, old⟩ := field
      simp only [List.map_cons, List.mem_cons, not_or] at fresh
      rw [set, if_neg (Ne.symm fresh.1), ih fresh.2, List.cons_append]

theorem nodup_merge {fields : Fields} (distinct : (fields.map Prod.fst).Nodup) (newer : Fields) :
    ((fields.merge newer).map Prod.fst).Nodup := by
  induction newer generalizing fields with
  | nil => exact distinct
  | cons field rest ih =>
      refine ih ?_
      rw [names_set]
      split
      · exact distinct
      next fresh =>
        refine List.nodup_append.2 ⟨distinct, List.nodup_singleton _, fun name member other same => ?_⟩
        rintro rfl
        exact fresh (List.mem_singleton.1 same ▸ member)

theorem merge_of_nodup {fields newer : Fields} (distinct : ((fields ++ newer).map Prod.fst).Nodup) :
    fields.merge newer = fields ++ newer := by
  induction newer generalizing fields with
  | nil => exact (List.append_nil fields).symm
  | cons field rest ih =>
      rw [List.append_cons] at distinct
      have start := distinct
      rw [List.map_append, List.map_append] at start
      have fresh : field.1 ∉ fields.map Prod.fst := fun member =>
        (List.nodup_append.1 (List.nodup_append.1 start).1).2.2 _ member _ List.mem_cons_self rfl
      calc
        fields.merge (field :: rest) = (fields.set field.1 field.2).merge rest := rfl
        _ = (fields ++ [field]).merge rest := by rw [set_of_notMem fresh]
        _ = fields ++ field :: rest := by rw [ih distinct, ← List.append_cons]

end Fields

namespace Fit

theorem namedEntries_toEntries (fields : Fields) : namedEntries fields.toEntries = .ok fields := by
  induction fields with
  | nil => rfl
  | cons field rest ih =>
      have later : namedEntries (Fields.toEntries rest) = .ok rest := ih
      exact Fitted.map_eq_ok.2 ⟨(field.1, rest), Fitted.both_eq_ok.2 ⟨rfl, later⟩, rfl⟩

theorem nodup_of_dictionary {value : Datum} {fields : Fields}
    (read : dictionary value = .ok fields) : (fields.map Prod.fst).Nodup := by
  cases value with
  | mapping entries =>
      obtain ⟨named, _, rfl⟩ := Fitted.map_eq_ok.1 read
      have none : (([] : Fields).map Prod.fst).Nodup := List.nodup_nil
      exact Fields.nodup_merge none named
  | _ => cases read

theorem dictionary_toDatum {fields : Fields} (distinct : (fields.map Prod.fst).Nodup) :
    dictionary fields.toDatum = .ok fields := by
  refine Fitted.map_eq_ok.2 ⟨fields, namedEntries_toEntries fields, ?_⟩
  have all : ((([] : Fields) ++ fields).map Prod.fst).Nodup := distinct
  exact Fields.merge_of_nodup all

end Fit

end Colloquy
