import Colloquy.Proofs.Model.Hoisting
import Colloquy.Proofs.Resolution.Requests

/-!
# The extra messages of a request

A source of extra messages is absent, a list, or code that runs on the walk. What is collected for a
kind of entry is what the source for every call gives, and behind it what the source for that kind
gives: nothing is left out, and nothing comes twice.
-/

set_option autoImplicit false

namespace Colloquy

variable {μ : Type}
variable {environment : Environment Shared μ ModelCall (Except Error Reply)}

theorem isMapping_of_mapM {given messages : List Datum}
    (read : (given.mapM fun message => do return Datum.mapping (← message.asEntries)) =
      .ok messages) : ∀ message ∈ messages, message.IsMapping := by
  induction given generalizing messages with
  | nil =>
      cases read
      exact fun _ member => nomatch member
  | cons first rest ih =>
      rw [List.mapM_cons] at read
      obtain ⟨message, shown, read⟩ := bind_eq_ok.1 read
      obtain ⟨entries, _, same⟩ := bind_eq_ok.1 shown
      cases same
      obtain ⟨later, others, same⟩ := bind_eq_ok.1 read
      cases same
      intro message member
      rcases List.mem_cons.1 member with rfl | member
      · exact ⟨entries, rfl⟩
      · exact ih others message member

theorem isMapping_of_promptMessages {given : Datum} {messages : List Datum}
    (read : promptMessages given = .ok messages) : ∀ message ∈ messages, message.IsMapping := by
  unfold promptMessages at read
  split at read
  · obtain ⟨elements, _, read⟩ := bind_eq_ok.1 read
    exact isMapping_of_mapM read
  · cases read
    exact fun _ member => nomatch member

theorem mapM_of_isMapping {messages : List Datum}
    (mappings : ∀ message ∈ messages, message.IsMapping) :
    (messages.mapM fun message => do return Datum.mapping (← message.asEntries)) =
      (.ok messages : Except Error (List Datum)) := by
  induction messages with
  | nil => rfl
  | cons message messages ih =>
      obtain ⟨entries, rfl⟩ := mappings message List.mem_cons_self
      rw [List.mapM_cons, ih fun later member => mappings later (List.mem_cons_of_mem _ member)]
      rfl

theorem promptMessages_list {messages : List Datum}
    (mappings : ∀ message ∈ messages, message.IsMapping) :
    promptMessages (.list messages) = .ok messages := by
  unfold promptMessages
  split
  next => exact mapM_of_isMapping mappings
  next empty =>
    cases messages with
    | nil => rfl
    | cons => exact absurd rfl empty

namespace PromptSource

variable (environment) in
/-- What a source of extra messages gives on a walk, and where its code leaves the walk. -/
inductive Gives :
    Option PromptSource → Walk → Shared × μ → List Datum → Walk → Shared × μ → Prop where
  | absent (walk : Walk) (both : Shared × μ) : Gives none walk both [] walk both
  | fixed {given : Datum} {messages : List Datum} (read : promptMessages given = .ok messages)
      (walk : Walk) (both : Shared × μ) : Gives (some (.fixed given)) walk both messages walk both
  | computed {decision : Decision Datum} {given : Datum} {messages : List Datum} {walk after : Walk}
      {both later : Shared × μ}
      (ran : (decision.follow walk).run environment both = (.ok (given, after), later))
      (read : promptMessages given = .ok messages) :
      Gives (some (.computed decision)) walk both messages after later

theorem Gives.isMapping {source : Option PromptSource} {walk after : Walk}
    {both later : Shared × μ} {messages : List Datum}
    (gives : Gives environment source walk both messages after later) :
    ∀ message ∈ messages, message.IsMapping := by
  cases gives with
  | absent => exact fun _ member => nomatch member
  | fixed read => exact isMapping_of_promptMessages read
  | computed ran read => exact isMapping_of_promptMessages read

end PromptSource

theorem Decision.run_ofExcept_eq_ok {α : Type} {result : Except Error α} {walk after : Walk}
    {both later : Shared × μ} {value : α}
    (ran : ((Decision.ofExcept result).follow walk).run environment both =
      (.ok (value, after), later)) : result = .ok value ∧ after = walk ∧ later = both := by
  cases result with
  | error error => cases ran
  | ok result =>
      cases ran
      exact ⟨rfl, rfl, rfl⟩

/-- Decisions that follow one another: the second begins where the first has left the walk. -/
theorem Decision.run_bind_eq_ok {α β : Type} {decision : Decision α} {next : α → Decision β}
    {walk after : Walk} {both later : Shared × μ} {result : β}
    (ran : ((decision.bind next).follow walk).run environment both =
      (.ok (result, after), later)) :
    ∃ value between middle, (decision.follow walk).run environment both =
        (.ok (value, between), middle) ∧
      ((next value).follow between).run environment middle = (.ok (result, after), later) := by
  rw [Decision.follow_bind, Process.run_bind] at ran
  rcases first : (decision.follow walk).run environment both with ⟨halt | ⟨value, between⟩, middle⟩
  · rw [first] at ran
    cases ran
  · rw [first] at ran
    exact ⟨value, between, middle, rfl, ran⟩

theorem PromptSource.gives_of_run {source : Option PromptSource} {walk after : Walk}
    {both later : Shared × μ} {messages : List Datum}
    (ran : ((PromptSource.messages source).follow walk).run environment both =
      (.ok (messages, after), later)) : Gives environment source walk both messages after later := by
  rcases source with _ | ⟨given | decision⟩
  · cases ran
    exact .absent walk both
  · obtain ⟨read, rfl, rfl⟩ := Decision.run_ofExcept_eq_ok ran
    exact .fixed read after later
  · obtain ⟨given, between, middle, ran, last⟩ := Decision.run_bind_eq_ok ran
    obtain ⟨read, rfl, rfl⟩ := Decision.run_ofExcept_eq_ok last
    exact .computed ran read

namespace PromptExtras

variable (environment) in
/-- The messages collected for a kind of entry: those for every call, and those for that kind, whose
source begins where the first has left the walk. -/
inductive Collects :
    Option PromptExtras → Datum → Walk → Shared × μ → List Datum → List Datum → Prop where
  | absent (target : Datum) (walk : Walk) (both : Shared × μ) : Collects none target walk both [] []
  | given {extras : PromptExtras} {target : Datum} {source : Option PromptSource}
      {common specific : List Datum} {walk between last : Walk} {both middle later : Shared × μ}
      (found : extras.sourceFor target = .ok source)
      (first : PromptSource.Gives environment extras.common walk both common between middle)
      (second : PromptSource.Gives environment source between middle specific last later) :
      Collects (some extras) target walk both common specific

theorem Collects.isMapping {extras : Option PromptExtras} {target : Datum} {walk : Walk}
    {both : Shared × μ} {common specific : List Datum}
    (collects : Collects environment extras target walk both common specific) :
    ∀ message ∈ common ++ specific, message.IsMapping := by
  cases collects with
  | absent => exact fun _ member => nomatch member
  | given found first second =>
      intro message member
      rcases List.mem_append.1 member with early | late
      · exact first.isMapping message early
      · exact second.isMapping message late

end PromptExtras

theorem collects_of_run {extras : Option PromptExtras} {target : Datum} {walk after : Walk}
    {both later : Shared × μ} {extra : List Datum}
    (ran : ((extraMessages extras target).follow walk).run environment both =
      (.ok (extra, after), later)) :
    ∃ common specific, extra = common ++ specific ∧
      PromptExtras.Collects environment extras target walk both common specific := by
  cases extras with
  | none =>
      cases ran
      exact ⟨[], [], rfl, .absent target walk both⟩
  | some extras =>
      obtain ⟨source, between, middle, ran, rest⟩ := Decision.run_bind_eq_ok ran
      obtain ⟨found, rfl, rfl⟩ := Decision.run_ofExcept_eq_ok ran
      obtain ⟨common, between, middle, first, rest⟩ := Decision.run_bind_eq_ok rest
      obtain ⟨specific, last, end', second, rest⟩ := Decision.run_bind_eq_ok rest
      cases rest
      exact ⟨common, specific, rfl,
        .given found (PromptSource.gives_of_run first) (PromptSource.gives_of_run second)⟩

end Colloquy
