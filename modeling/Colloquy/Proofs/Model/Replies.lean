import Colloquy.Model.Provider
import Colloquy.Proofs.Model.Extraction
import Colloquy.Proofs.Results
import Colloquy.Row.Failure

/-!
# What becomes of replies

A provider turns a failed request into an error of the client, and an object that does not match its
shape as well. Four kinds of content it does not catch: a text is asked for and the content is
something else, an object nests too deep to be read, a bound of the shape cannot be held against a
value, or the object that was found has no document. Their errors leave the provider as they arose,
and a row that fails by one of them does not count as failed by the client.
-/

set_option autoImplicit false

namespace Colloquy

/-! ## Fitted shapes -/

/-- A bound that is not given holds of every value. -/
theorem FieldInfo.ordered_unbounded (name : String) (value : Datum) :
    (FieldInfo.unbounded name).ordered value = .ok value := rfl

theorem FieldInfo.sized_unbounded (name : String) (value : Datum) :
    (FieldInfo.unbounded name).sized value = .ok value := by
  unfold FieldInfo.sized
  cases value.size? <;> rfl

/-- What fits a shape is validated data of that shape. -/
theorem Shape.instance_of_fit {shape : Shape} {value fitted : Datum}
    (fits : shape.fit value = .ok fitted) :
    ∃ fields, fitted = .object (.instance shape.tag) fields := by
  unfold Shape.fit Shape.type at fits
  rw [FieldType.fit.eq_def] at fits
  obtain ⟨found, given, bounded⟩ := bind_eq_ok.1 fits
  obtain ⟨ordered, inOrder, sized⟩ := bind_eq_ok.1 bounded
  rw [FieldInfo.ordered_unbounded] at inOrder
  cases inOrder
  rw [FieldInfo.sized_unbounded] at sized
  cases sized
  split at given
  · obtain ⟨fields, _, rfl⟩ := map_eq_ok.1 given
    exact ⟨fields, rfl⟩
  next other known =>
    split at given
    next same =>
      cases given
      exact ⟨known, by rw [same]; rfl⟩
    · cases given
  · cases given

theorem Shape.instance_of_refit {shape : Shape} {value fitted : Datum}
    (fits : shape.refit value = .ok fitted) :
    ∃ fields, fitted = .object (.instance shape.tag) fields := by
  unfold Shape.refit at fits
  split at fits
  · exact instance_of_fit fits
  · exact instance_of_fit fits

namespace Model

/-! ## Objects in replies -/

/-- The data that content holds: a text holds what is read out of it, and data holds itself. -/
def dataOf (content : Datum) : Except Error Datum :=
  match content with
  | .text text => (extract true text).1
  | .mapping _ => .ok content
  | .object (.instance _) _ => .ok content
  | other => .error (.reply (.unsupported other.typeName))

theorem parse_value (shape : Shape) (content : Datum) :
    (parse true shape content).1 = (dataOf content).bind (fitReply shape) := by
  cases content with
  | object kind fields => cases kind <;> rfl
  | _ => rfl

theorem raises_dataOf (content : Datum) : Raises HoldsNone (dataOf content) := by
  unfold dataOf
  split
  next text =>
    rw [extract_value]
    exact raises_held _
  · exact .ok _
  · exact .ok _
  · exact .error (.reply _)

/-- A value that a reply of a form is answered with. -/
inductive Answers : ReplyForm → Datum → Datum → Prop
  | text (text : String) : Answers .text (.text text) (.text (Text.trim text))
  | bytes {text : String} (some : text ≠ "") : Answers .text (.bytes text) (.bytes (trimBytes text))
  | absent {content : Datum} (absent : content.isTruthy = false) : Answers .text content (.text "")
  /-- The document of validated data of the shape. -/
  | object {shape : Shape} {content data document : Datum} {fields : Fields}
      (holds : dataOf content = .ok data)
      (fits : shape.refit data = .ok (.object (.instance shape.tag) fields))
      (documented : (Datum.object (.instance shape.tag) fields).document = .ok document) :
      Answers (.object shape) content document

/-- An error that leaves a provider as it arose. -/
inductive Escapes : ReplyForm → Datum → Error → Prop
  | wordless {content : Datum} (present : content.isTruthy = true)
      (noText : ∀ text, content ≠ .text text) (noBytes : ∀ text, content ≠ .bytes text) :
      Escapes .text content (notText content)
  | tooDeep {shape : Shape} {content : Datum} {container : String}
      (deep : dataOf content = .error (oversized (.depth container))) :
      Escapes (.object shape) content (oversized (.depth container))
  | boundless {shape : Shape} {content data : Datum} {faults : List FieldFault} {remark : String}
      (holds : dataOf content = .ok data) (misfits : shape.refit data = .error faults)
      (remarked : faults.findSome? (fun fault => fault.misfit.remark?) = some remark) :
      Escapes (.object shape) content (.unsupported .type remark)
  | undocumented {shape : Shape} {content data fitted : Datum} {fault : Datum.NoDocument}
      (holds : dataOf content = .ok data) (fits : shape.refit data = .ok fitted)
      (undocumented : fitted.document = .error fault) :
      Escapes (.object shape) content (Error.ofNoDocument fault)

theorem classify_notText (content : Datum) : FailureKind.classify (notText content) = .other := by
  unfold notText
  split
  · rfl
  · split <;> rfl

theorem Escapes.classify {form : ReplyForm} {content : Datum} {error : Error}
    (escapes : Escapes form content error) : FailureKind.classify error = .other := by
  cases escapes with
  | wordless => exact classify_notText content
  | tooDeep => rfl
  | boundless => rfl
  | undocumented => rfl

/-! ## Replies of providers -/

namespace Provider

variable (provider : Provider)

theorem replyText_cases (content : Datum) :
    (∃ value, replyText content = .ok value ∧ Answers .text content value) ∨
      ∃ error, replyText content = .error error ∧ Escapes .text content error := by
  unfold replyText
  split
  next text => exact .inl ⟨_, rfl, .text text⟩
  next text =>
    by_cases empty : text = ""
    · subst empty
      exact .inl ⟨_, rfl, .absent rfl⟩
    · rw [if_neg empty]
      exact .inl ⟨_, rfl, .bytes empty⟩
  next noText noBytes =>
    split
    next present => exact .inr ⟨_, rfl, .wordless present noText noBytes⟩
    next absent => exact .inl ⟨_, rfl, .absent (Bool.eq_false_iff.2 absent)⟩

theorem objectOf_value (shape : Shape) (content : Datum) :
    (provider.objectOf shape content).1 =
      match (parse true shape content).1 with
      | .ok data => data.document.mapError Error.ofNoDocument
      | .error error =>
          .error (if isUnfit error then
            .client (.mismatch shape.name error.message (misfits? error)) else error) := by
  unfold objectOf
  obtain ⟨data, lines⟩ := parse true shape content
  cases data with
  | ok data => rfl
  | error error =>
      dsimp only
      split <;> rfl

/-- What is no object of the shape is an error of the client, but for what escapes. -/
theorem objectOf_cases (shape : Shape) (content : Datum) :
    (∃ value, (provider.objectOf shape content).1 = .ok value ∧
        Answers (.object shape) content value) ∨
      (∃ fault, (provider.objectOf shape content).1 = .error (.client fault)) ∨
      ∃ error, (provider.objectOf shape content).1 = .error error ∧
        Escapes (.object shape) content error := by
  rw [objectOf_value, parse_value]
  cases holds : dataOf content with
  | error error =>
      have none := raises_dataOf content error holds
      cases none with
      | reply fault => exact .inr (.inl ⟨_, rfl⟩)
      | size large =>
          rename_i problem
          cases problem with
          | digits count => exact .inr (.inl ⟨_, rfl⟩)
          | depth container => exact .inr (.inr ⟨_, rfl, .tooDeep holds⟩)
          | _ => cases large
  | ok data =>
      rw [show (Except.ok data).bind (fitReply shape) = fitReply shape data from rfl, fitReply]
      cases fits : shape.refit data with
      | error faults =>
          cases remarked : faults.findSome? fun fault => fault.misfit.remark? with
          | some remark =>
              refine .inr (.inr ⟨_, ?_, .boundless holds fits remarked⟩)
              simp [Except.mapError, Error.ofFaults, remarked, isUnfit]
          | none =>
              refine .inr (.inl ⟨.mismatch shape.name (Error.misfit shape.name faults).message
                (some faults), ?_⟩)
              simp [Except.mapError, Error.ofFaults, remarked, isUnfit, misfits?]
      | ok fitted =>
          obtain ⟨fields, rfl⟩ := Shape.instance_of_refit fits
          cases documented : (Datum.object (.instance shape.tag) fields).document with
          | error fault =>
              refine .inr (.inr ⟨_, ?_, .undocumented holds fits documented⟩)
              simp only [Except.mapError, documented]
          | ok document =>
              refine .inl ⟨document, ?_, .object holds fits documented⟩
              simp only [Except.mapError, documented]

theorem replyText_of_escapes {content : Datum} {error : Error}
    (escapes : Escapes .text content error) : replyText content = .error error := by
  cases escapes with
  | wordless present noText noBytes =>
      unfold replyText
      split
      next text => exact absurd rfl (noText text)
      next text => exact absurd rfl (noBytes text)
      · rw [if_pos present]

theorem objectOf_of_escapes {shape : Shape} {content : Datum} {error : Error}
    (escapes : Escapes (.object shape) content error) :
    (provider.objectOf shape content).1 = .error error := by
  rw [objectOf_value, parse_value]
  cases escapes with
  | tooDeep deep =>
      rw [deep]
      rfl
  | boundless holds misfits remarked =>
      rw [holds]
      simp [Except.bind, fitReply, misfits, Except.mapError, Error.ofFaults, remarked, isUnfit]
  | undocumented holds fits undocumented =>
      rw [holds]
      simp [Except.bind, fitReply, fits, Except.mapError, undocumented]

variable (call : ModelCall) (content responseId : Datum)

theorem replyOf_text (text : call.form = .text) :
    (provider.replyOf call (.content content responseId)).1 =
      (replyText content).map fun value => ⟨value, responseId⟩ := by
  unfold replyOf received
  rw [text]

theorem replyOf_object {shape : Shape} (object : call.form = .object shape) :
    (provider.replyOf call (.content content responseId)).1 =
      (provider.objectOf shape content).1.map fun value => ⟨value, responseId⟩ := by
  unfold replyOf received
  rw [object]

theorem replyOf_cases :
    (∃ value, (provider.replyOf call (.content content responseId)).1 = .ok ⟨value, responseId⟩ ∧
        Answers call.form content value) ∨
      (∃ fault, (provider.replyOf call (.content content responseId)).1 = .error (.client fault)) ∨
      ∃ error, (provider.replyOf call (.content content responseId)).1 = .error error ∧
        Escapes call.form content error := by
  cases form : call.form with
  | text =>
      rw [replyOf_text provider call content responseId form]
      rcases replyText_cases content with ⟨value, answered, answers⟩ | ⟨error, failed, escapes⟩
      · exact .inl ⟨value, by rw [answered]; rfl, answers⟩
      · exact .inr (.inr ⟨error, by rw [failed]; rfl, escapes⟩)
  | object shape =>
      rw [replyOf_object provider call content responseId form]
      rcases provider.objectOf_cases shape content with
        ⟨value, answered, answers⟩ | ⟨fault, failed⟩ | ⟨error, failed, escapes⟩
      · exact .inl ⟨value, by rw [answered]; rfl, answers⟩
      · exact .inr (.inl ⟨fault, by rw [failed]; rfl⟩)
      · exact .inr (.inr ⟨error, by rw [failed]; rfl, escapes⟩)

theorem replyOf_of_escapes {error : Error} (escapes : Escapes call.form content error) :
    (provider.replyOf call (.content content responseId)).1 = .error error := by
  cases form : call.form with
  | text =>
      rw [form] at escapes
      rw [replyOf_text provider call content responseId form, replyText_of_escapes escapes]
      rfl
  | object shape =>
      rw [form] at escapes
      rw [replyOf_object provider call content responseId form,
        provider.objectOf_of_escapes escapes]
      rfl

/-- What a call to a provider comes to, whatever the service completes: a value that the content
stands for, an error of the client, or, just for the contents that escape, an error of another
family. Only the last keeps a row from counting as failed by the client. -/
theorem answer_verdict (both : Shared × Traffic) :
    let outcome := ((provider.client.answer call).alone both).1
    (∀ reply, outcome = .ok reply → ∃ content,
      both.2.next = .content content reply.responseId ∧ Answers call.form content reply.value) ∧
    (∀ error index seed, outcome = .error error →
      error.family = .client ∧ (RowFailure.mk index seed error).kind = .client ∨
        (∃ content responseId, both.2.next = .content content responseId ∧
          Escapes call.form content error) ∧ (RowFailure.mk index seed error).kind = .other) ∧
    ∀ content responseId error, both.2.next = .content content responseId →
      Escapes call.form content error → outcome = .error error := by
  have answered : ((provider.client.answer call).alone both).1 =
      (provider.replyOf call both.2.next).1 := rfl
  rw [answered]
  refine ⟨fun reply returned => ?_, fun error index seed failed => ?_,
    fun content responseId error next escapes => ?_⟩
  · cases next : both.2.next with
    | content content responseId =>
        rw [next] at returned
        rcases provider.replyOf_cases call content responseId with
          ⟨value, given, answers⟩ | ⟨fault, failed⟩ | ⟨error, failed, _⟩
        · cases given.symm.trans returned
          exact ⟨content, rfl, answers⟩
        · cases failed.symm.trans returned
        · cases failed.symm.trans returned
    | empty =>
        rw [next] at returned
        cases returned
    | failure error =>
        rw [next] at returned
        cases returned
  · cases next : both.2.next with
    | content content responseId =>
        rw [next] at failed
        rcases provider.replyOf_cases call content responseId with
          ⟨value, given, _⟩ | ⟨fault, here⟩ | ⟨cause, here, escapes⟩
        · cases given.symm.trans failed
        · cases here.symm.trans failed
          exact .inl ⟨rfl, rfl⟩
        · cases here.symm.trans failed
          exact .inr ⟨⟨content, responseId, rfl, escapes⟩, escapes.classify⟩
    | empty =>
        rw [next] at failed
        cases failed
        exact .inl ⟨rfl, rfl⟩
    | failure cause =>
        rw [next] at failed
        cases failed
        exact .inl ⟨rfl, rfl⟩
  · rw [next]
    exact provider.replyOf_of_escapes call content responseId escapes

/-- A provider without settings. -/
def plainProvider : Provider := ⟨.openAi, .text "gpt-4o-mini", .text "key", []⟩

/-- The service completes with a number where a text is asked for. -/
def numberTraffic : Traffic := ⟨[.content (.int 5) .null], []⟩

theorem kind_of_numberReply :
    ∃ error, ((plainProvider.client.answer ⟨.text, []⟩).alone (⟨.fresh, #[]⟩, numberTraffic)).1 =
        .error error ∧
      error.message = "'int' object has no attribute 'strip'" ∧ error.family = .attribute ∧
      (RowFailure.mk 0 none error).kind = .other :=
  ⟨_, rfl, by decide, rfl, rfl⟩

end Provider

end Model

end Colloquy
