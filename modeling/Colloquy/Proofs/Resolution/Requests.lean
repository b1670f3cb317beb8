import Colloquy.Proofs.Resolution.Frame
import Colloquy.Row.Failure

/-!
# Requests to the model

A request may run code of a caller, which collects extra messages, and asks the model. If that code
draws nothing, a request leaves the walk and the pool as they were, and the only errors that come
out of it are those of the caller, those of the model, and errors of no particular kind.
-/

set_option autoImplicit false

namespace Colloquy

open Selection (Choice)

/-- Nobody else touches the pool, and what the model fails with is `raised`. -/
def Contract.undisturbed (raised : Error → Prop) : Contract Shared ModelCall (Except Error Reply) where
  relies before after := after.pool = before.pool
  guarantees _ _ := True
  answers _ answer := ∀ error, answer = .error error → raised error
  relies_refl _ := rfl
  relies_trans first second := second.trans first

def Error.Plain (error : Error) : Prop := FailureKind.classify error = .other

/-- A computation that fails with no particular kind of error, if it fails. -/
def Plainly {α : Type} (result : Except Error α) : Prop :=
  ∀ error, result = .error error → error.Plain

/-- An error that the resolution is not to blame for: it is `raised`, or of no particular kind. -/
def Error.Excused (raised : Error → Prop) (error : Error) : Prop := raised error ∨ error.Plain

/-- A decision of the generate phase that draws nothing if it returns, and else ends with an error
that is `raised`. -/
def Decision.Steady {α : Type} (raised : Error → Prop) (decision : Decision α) : Prop :=
  ∀ walk shared, walk.context.phase = .generate →
    (decision.follow walk).Abides (.undisturbed raised)
      (fun walked _ =>
        match walked with
        | .ok (_, after) => after.context.draws = walk.context.draws
        | .error halt => raised halt.error) shared

def PromptSource.Steady (raised : Error → Prop) : PromptSource → Prop
  | fixed _ => True
  | computed messages => messages.Steady raised

def PromptExtras.Steady (raised : Error → Prop) (extras : PromptExtras) : Prop :=
  ∀ source, some source ∈ [extras.common, extras.system, extras.user, extras.assistant,
    extras.toolCall, extras.toolResult] → source.Steady raised

namespace Walk

/-- The walk goes on from where it was. -/
structure Still (before after : Walk) : Prop where
  context : after.context = before.context
  reports : after.reports = before.reports

theorem Still.refl (walk : Walk) : walk.Still walk := ⟨rfl, rfl⟩

theorem Still.trans {before between after : Walk} (first : before.Still between)
    (second : between.Still after) : before.Still after :=
  ⟨second.context.trans first.context, second.reports.trans first.reports⟩

theorem Aside.still {before after : Walk} (aside : before.Aside after)
    (same : after.context.draws = before.context.draws) : before.Still after where
  context := by
    rw [aside.context, aside.stream.eq_of_draws same]
  reports := aside.reports

/-- How a part of the generate phase ends that makes no entry: with a good result, or with an
excused error. -/
def Stays {α : Type} (raised : Error → Prop) (good : α → Prop) (walk : Walk) (pool : Unique.Store) :
    Walked α → Shared → Prop
  | .ok (value, after), shared => good value ∧ walk.Still after ∧ shared.pool = pool
  | .error halt, _ => halt.error.Excused raised

end Walk

variable {raised : Error → Prop}

theorem Decision.aside_undisturbed {α : Type} (decision : Decision α) (walk : Walk)
    (shared : Shared) :
    (decision.follow walk).Abides (.undisturbed raised)
      (fun walked _ => walk.Aside (Walked.walk walked)) shared :=
  (decision.aside_follow walk).abides (fun _ _ => trivial) shared

theorem Decision.moved_follow {α : Type} (decision : Decision α) {before walk : Walk}
    (moved : before.context.draws < walk.context.draws) {ends : Shared → Prop} (shared : Shared) :
    (decision.follow walk).Abides (.undisturbed raised)
      (fun walked after => ∀ value last, walked = .ok (value, last) →
        last.context.draws = before.context.draws → ends after) shared := by
  refine (decision.aside_undisturbed walk shared).mono fun walked after aside value last returned same => ?_
  subst returned
  have more : walk.context.draws ≤ last.context.draws := aside.stream.draws_le
  omega

theorem Decision.pool_follow {α : Type} (decision : Decision α) (walk : Walk) (shared : Shared) :
    (decision.follow walk).Abides (.undisturbed raised)
      (fun walked after => ∀ value last, walked = .ok (value, last) →
        last.context.draws = walk.context.draws → after.pool = shared.pool) shared := by
  induction decision generalizing walk shared with
  | done result =>
      intro after same value last _ _
      exact same
  | fail error =>
      intro after same value last returned
      cases returned
  | draw next ih =>
      refine (next walk.context.stream.next.1).moved_follow ?_ shared
      simp [Walk.within, Context.draws]
  | choose options uniqueBy next ih =>
      simp only [Decision.follow, Walk.choose, Process.bind]
      intro after same
      refine ⟨trivial, ?_⟩
      dsimp only
      rcases result : (walk.chosen options uniqueBy after).1 with halt | ⟨place, chosen⟩
      · intro later _ value last returned
        cases returned
      · refine Decision.moved_follow _ ?_ _
        simp [Context.draws, Walk.stream_chosen result]
  | observe next ih => exact ih _ walk shared
  | ask call next ih =>
      intro reply _
      exact ih reply walk shared
  | pause next ih => exact ih walk shared

theorem Decision.follow_bind {α β : Type} (decision : Decision α) (next : α → Decision β)
    (walk : Walk) :
    (decision.bind next).follow walk = (decision.follow walk).bind fun
      | .ok (value, after) => (next value).follow after
      | .error halt => .done (.error halt) := by
  induction decision generalizing walk with
  | done result => rfl
  | fail error => rfl
  | draw rest ih => exact ih _ _
  | choose options uniqueBy rest ih =>
      simp only [Decision.bind, Decision.follow, Process.bind_assoc]
      congr 1
      funext walked
      rcases walked with halt | ⟨place, after⟩
      · rfl
      · exact ih place after
  | observe rest ih => exact ih _ walk
  | ask call rest ih =>
      simp only [Decision.bind, Decision.follow, Process.bind, ih]
  | pause rest ih =>
      simp only [Decision.bind, Decision.follow, Process.bind, ih]

theorem Decision.Steady.stays {α : Type} {decision : Decision α} (steady : decision.Steady raised)
    {walk : Walk} (phase : walk.context.phase = .generate) (shared : Shared) :
    (decision.follow walk).Abides (.undisturbed raised)
      (walk.Stays raised (fun _ => True) shared.pool) shared := by
  refine (((steady walk shared phase).and (decision.aside_undisturbed walk shared)).and
    (decision.pool_follow walk shared)).mono ?_
  intro walked after known
  rcases walked with halt | ⟨value, last⟩
  · exact .inl known.1.1
  · exact ⟨trivial, known.1.2.still known.1.1, known.2 value last rfl known.1.1⟩

/-- Decisions of the generate phase that leave everything as it was follow one another. -/
theorem Decision.stays_bind {α β : Type} {decision : Decision α} {next : α → Decision β}
    {walk : Walk} {shared : Shared} (phase : walk.context.phase = .generate)
    (first : (decision.follow walk).Abides (.undisturbed raised)
      (walk.Stays raised (fun _ => True) shared.pool) shared)
    (second : ∀ value (after : Walk) (later : Shared), after.context.phase = .generate →
      ((next value).follow after).Abides (.undisturbed raised)
        (after.Stays raised (fun _ => True) later.pool) later) :
    ((decision.bind next).follow walk).Abides (.undisturbed raised)
      (walk.Stays raised (fun _ => True) shared.pool) shared := by
  rw [Decision.follow_bind]
  refine .bind (first.mono fun walked later stays => ?_)
  rcases walked with halt | ⟨value, after⟩
  · exact fun _ _ => stays
  · obtain ⟨_, still, pool⟩ := stays
    have phase : after.context.phase = .generate := by rw [still.context, phase]
    refine (second value after later phase).mono fun walked last known => ?_
    rcases walked with halt | ⟨value, last⟩
    · exact known
    · exact ⟨trivial, still.trans known.2.1, known.2.2.trans pool⟩

theorem Decision.stays_ofExcept {α : Type} {result : Except Error α}
    (plain : Plainly result) (walk : Walk) (shared : Shared) :
    ((Decision.ofExcept result).follow walk).Abides (.undisturbed raised)
      (walk.Stays raised (fun _ => True) shared.pool) shared := by
  cases result with
  | ok value => exact fun _ same => ⟨trivial, .refl walk, same⟩
  | error error => exact fun _ _ => .inr (plain error rfl)

namespace Plainly

variable {α β ε : Type}

theorem ok (value : α) : Plainly (.ok value) := Raises.ok value

theorem error {error : Error} (plain : error.Plain) : Plainly (.error error : Except Error α) :=
  Raises.error plain

theorem bind {first : Except Error α} {next : α → Except Error β} (plain : Plainly first)
    (rest : ∀ value, first = .ok value → Plainly (next value)) : Plainly (first >>= next) :=
  Raises.bind plain rest

theorem mapError {change : ε → Error} (plain : ∀ cause, (change cause).Plain)
    (outcome : Except ε α) : Plainly (outcome.mapError change) :=
  Raises.mapError plain outcome

theorem mapM {read : α → Except Error β} (plain : ∀ item, Plainly (read item)) (items : List α) :
    Plainly (items.mapM read) :=
  Raises.mapM plain items

end Plainly

theorem Error.plain_ofFaults (shape : String) (faults : List FieldFault) :
    (Error.ofFaults shape faults).Plain := by
  unfold Error.ofFaults
  split <;> rfl

theorem Error.plain_ofUnwritable (fault : Json.Unwritable) : (Error.ofUnwritable fault).Plain := by
  cases fault <;> rfl

theorem plainly_jsonText (style : Json.Style) (value : Datum) : Plainly (jsonText style value) :=
  .mapError Error.plain_ofUnwritable _

namespace Datum

theorem plainly_elements (value : Datum) : Plainly value.elements := by
  unfold elements
  split <;> first | exact .ok _ | exact .error rfl

theorem plainly_pairOf (position : Nat) (element : Datum) : Plainly (pairOf position element) := by
  unfold pairOf
  split
  · exact .ok _
  · exact .error rfl
  · exact .error rfl

theorem plainly_pairsFrom (position : Nat) (elements : List Datum) :
    Plainly (pairsFrom position elements) := by
  induction elements generalizing position with
  | nil => exact .ok []
  | cons element rest ih =>
      exact (plainly_pairOf position element).bind fun _ _ => (ih _).bind fun _ _ => .ok _

theorem plainly_asEntries (value : Datum) : Plainly value.asEntries := by
  unfold asEntries
  split
  · exact .ok _
  · exact (plainly_elements _).bind fun _ _ => (plainly_pairsFrom 0 _).bind fun _ _ => .ok _

theorem plainly_asKey (value : Datum) : Plainly value.asKey := by
  unfold asKey
  split
  · exact .error rfl
  · exact .ok _

end Datum

theorem plainly_promptMessages (given : Datum) : Plainly (promptMessages given) := by
  unfold promptMessages
  split
  · exact (Datum.plainly_elements given).bind fun _ _ =>
      .mapM (fun message => (Datum.plainly_asEntries message).bind fun _ _ => .ok _) _
  · exact .ok []

theorem PromptSource.stays_messages {source : Option PromptSource}
    (steady : ∀ given, source = some given → given.Steady raised) {walk : Walk}
    (phase : walk.context.phase = .generate) (shared : Shared) :
    ((PromptSource.messages source).follow walk).Abides (.undisturbed raised)
      (walk.Stays raised (fun _ => True) shared.pool) shared := by
  rcases source with _ | ⟨messages | messages⟩
  · exact fun _ same => ⟨trivial, .refl walk, same⟩
  · exact Decision.stays_ofExcept (plainly_promptMessages messages) walk shared
  · refine Decision.stays_bind phase ((steady _ rfl).stays phase shared) ?_
    intro given after later _
    exact Decision.stays_ofExcept (plainly_promptMessages given) after later

theorem PromptExtras.mem_of_sourceFor {extras : PromptExtras} {target : Datum}
    {source : Option PromptSource} (found : extras.sourceFor target = .ok source) :
    source = none ∨ source ∈ [extras.common, extras.system, extras.user, extras.assistant,
      extras.toolCall, extras.toolResult] := by
  unfold sourceFor at found
  split at found <;> cases found <;> simp

theorem PromptExtras.plainly_sourceFor (extras : PromptExtras) (target : Datum) :
    Plainly (extras.sourceFor target) := by
  unfold sourceFor
  split <;> first | exact .ok _ | exact .error rfl

theorem stays_extraMessages {extras : Option PromptExtras}
    (steady : ∀ given, extras = some given → given.Steady raised) (target : Datum) {walk : Walk}
    (phase : walk.context.phase = .generate) (shared : Shared) :
    ((extraMessages extras target).follow walk).Abides (.undisturbed raised)
      (walk.Stays raised (fun _ => True) shared.pool) shared := by
  cases extras with
  | none => exact fun _ same => ⟨trivial, .refl walk, same⟩
  | some extras =>
      have steady := steady extras rfl
      show ((Decision.bind (Decision.ofExcept (extras.sourceFor target)) fun source =>
        Decision.bind (PromptSource.messages extras.common) fun common =>
          Decision.bind (PromptSource.messages source) fun more =>
            .done (common ++ more)).follow walk).Abides _ _ _
      cases found : extras.sourceFor target with
      | error error => exact fun _ _ => .inr (extras.plainly_sourceFor target error found)
      | ok source =>
          have known : ∀ given, source = some given → given.Steady raised := by
            intro given same
            rcases PromptExtras.mem_of_sourceFor found with absent | member
            · simp [same] at absent
            · exact steady given (same ▸ member)
          have common : ∀ given, extras.common = some given → given.Steady raised :=
            fun given same => steady given (by simp [same])
          change ((Decision.bind (PromptSource.messages extras.common) fun common =>
            Decision.bind (PromptSource.messages source) fun more =>
              .done (common ++ more)).follow walk).Abides _ _ _
          refine Decision.stays_bind phase (PromptSource.stays_messages common phase shared) ?_
          intro first after later phase
          refine Decision.stays_bind phase (PromptSource.stays_messages known phase later) ?_
          intro second last final _
          exact fun _ same => ⟨trivial, .refl last, same⟩

theorem ModelRequest.stays_send {making : Making}
    (steady : ∀ given, making.extras = some given → given.Steady raised) (request : ModelRequest)
    {walk : Walk} (phase : walk.context.phase = .generate) (shared : Shared) :
    (request.send making walk).Abides (.undisturbed raised)
      (walk.Stays raised (fun _ => True) shared.pool) shared := by
  refine .bind ((stays_extraMessages steady request.target phase shared).mono ?_)
  intro walked later stays
  rcases walked with halt | ⟨extra, after⟩
  · exact fun _ _ => stays
  · obtain ⟨_, still, pool⟩ := stays
    intro now same
    refine ⟨trivial, fun reply failed last lastSame => ?_⟩
    have pool : last.pool = shared.pool := (lastSame.trans same).trans pool
    rcases reply with error | reply
    · exact .inl (failed error rfl)
    · exact ⟨trivial, still, pool⟩

theorem Walk.stays_request {making : Making}
    (steady : ∀ given, making.extras = some given → given.Steady raised)
    {make : Context → Except Error ModelRequest} (plain : ∀ context, Plainly (make context))
    {walk : Walk} (phase : walk.context.phase = .generate) (shared : Shared) :
    (walk.request making make).Abides (.undisturbed raised)
      (walk.Stays raised (fun _ => True) shared.pool) shared := by
  unfold Walk.request
  split
  · cases made : make walk.context with
    | ok request => exact request.stays_send steady phase shared
    | error error => exact fun _ _ => .inr (plain walk.context error made)
  · exact fun _ _ => .inr rfl

theorem Walk.stays_withReply {making : Making}
    (steady : ∀ given, making.extras = some given → given.Steady raised)
    (make : Context → Except Error ModelRequest) (read : Reply → Context → Except Error Message)
    {good : Message → Prop} (plain : ∀ context, Plainly (make context))
    (plainRead : ∀ reply context, Plainly (read reply context))
    (fits : ∀ reply context message, read reply context = .ok message → good message)
    {walk : Walk} (phase : walk.context.phase = .generate) (shared : Shared) :
    (walk.withReply making make fun reply walk => walk.lift (read reply walk.context)).Abides
      (.undisturbed raised) (walk.Stays raised good shared.pool) shared := by
  refine .bind ((walk.stays_request steady plain phase shared).mono ?_)
  intro walked later stays
  rcases walked with halt | ⟨reply, after⟩
  · exact fun _ _ => stays
  · obtain ⟨_, still, pool⟩ := stays
    intro last same
    dsimp only
    cases result : read reply after.context with
    | ok message => exact ⟨fits _ _ _ result, still, same.trans pool⟩
    | error error => exact .inr (plainRead _ _ error result)

end Colloquy
