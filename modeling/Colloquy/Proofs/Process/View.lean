import Colloquy.Proofs.Process.Contract

/-!
# What can be seen of processes

Two processes are alike if nobody can tell them apart who sees a part of the state only. A process
that nobody disturbs in what it sees, and whose queries are always answered in the same way, ends as
a process that is like it ends alone.
-/

set_option autoImplicit false

namespace Colloquy

/-- Queries are answered by a function, and nothing changes meanwhile. -/
def Environment.answering {σ Q R : Type} (reply : Q → R) : Environment σ Unit Q R :=
  ⟨fun query both => (reply query, both), id⟩

def Contract.sheltered {σ ν Q R : Type} (view : σ → ν) (guarantees : σ → σ → Prop)
    (answers : Q → R → Prop) : Contract σ Q R where
  relies before after := view after = view before
  guarantees := guarantees
  answers := answers
  relies_refl _ := rfl
  relies_trans first second := second.trans first

/-- Nobody changes what a process sees, not even the process. -/
abbrev Contract.preserving {σ ν Q R : Type} (view : σ → ν) (answers : Q → R → Prop) :
    Contract σ Q R :=
  .sheltered view (fun before after => view after = view before) answers

namespace Process

variable {σ τ ν Q R α β : Type}

/-- Two processes do the same as far as can be seen. From states that look the same they go on to
states that look the same; they ask the same, and their results are related. -/
inductive Alike (view : σ → ν) (related : α → β → Prop) :
    Process σ Q R α → Process σ Q R β → Prop where
  | done {result : α} {result' : β} (same : related result result') :
      Alike view related (done result) (done result')
  | step {update update' : σ → σ} {next : σ → Process σ Q R α} {next' : σ → Process σ Q R β}
      (seen : ∀ state state', view state = view state' →
        view (update state) = view (update' state'))
      (rest : ∀ state state', view state = view state' →
        Alike view related (next state) (next' state')) :
      Alike view related (step update next) (step update' next')
  | ask {query : Q} {next : R → Process σ Q R α} {next' : R → Process σ Q R β}
      (rest : ∀ answer, Alike view related (next answer) (next' answer)) :
      Alike view related (ask query next) (ask query next')
  | pause {next : Process σ Q R α} {next' : Process σ Q R β}
      (rest : Alike view related next next') : Alike view related (pause next) (pause next')

namespace Alike

variable {view : σ → ν} {related : α → β → Prop}
variable {process : Process σ Q R α} {process' : Process σ Q R β}

theorem bind {γ δ : Type} {further : γ → δ → Prop} {next : α → Process σ Q R γ}
    {next' : β → Process σ Q R δ} (alike : process.Alike view related process')
    (rest : ∀ result result', related result result' →
      (next result).Alike view further (next' result')) :
    (process.bind next).Alike view further (process'.bind next') := by
  induction alike with
  | done same => exact rest _ _ same
  | step seen _ ih => exact .step seen ih
  | ask _ ih => exact .ask ih
  | pause _ ih => exact .pause ih

/-- The rule for processes on a part of a larger state. -/
theorem zoom {ξ : Type} {whole : τ → ξ} {part : τ → σ} {replace : σ → τ → τ}
    (inside : ∀ state state', whole state = whole state' → view (part state) = view (part state'))
    (back : ∀ state state' inner inner', whole state = whole state' → view inner = view inner' →
      whole (replace inner state) = whole (replace inner' state'))
    (alike : process.Alike view related process') :
    (process.zoom part replace).Alike whole related (process'.zoom part replace) := by
  induction alike with
  | done same => exact .done same
  | step seen _ ih =>
      refine .step ?_ ?_
      · intro state state' same
        exact back _ _ _ _ same (seen _ _ (inside _ _ same))
      · intro state state' same
        exact ih _ _ (inside _ _ same)
  | ask _ ih => exact .ask ih
  | pause _ ih => exact .pause ih

/-- The rule for processes that keep a part of their state to themselves, and see all of it. -/
theorem own (related : α → β → Prop) {process : Process (σ × τ) Q R α}
    {process' : Process (σ × τ) Q R β}
    (alike : process.Alike (fun both => (view both.1, both.2)) related process') (part : τ) :
    (process.own part).Alike view (fun result result' => related result.1 result'.1)
      (process'.own part) := by
  induction alike generalizing part with
  | done same => exact .done same
  | step seen _ ih =>
      refine .step ?_ ?_
      · intro state state' same
        exact (Prod.mk.inj (seen (state, part) (state', part) (by rw [same]))).1
      · intro state state' same
        have kept := (Prod.mk.inj (seen (state, part) (state', part) (by rw [same]))).2
        rw [← kept]
        exact ih _ _ (by rw [same]) _
  | ask _ ih => exact .ask fun answer => ih answer part
  | pause _ ih => exact .pause (ih part)

/-- A process that nobody disturbs ends as a process that is like it ends alone. -/
theorem abides {guarantees : σ → σ → Prop} {reply : Q → R} {ends : α → σ → Prop} {state : σ}
    (alike : process.Alike view related process') (state' : σ)
    (abides : process.Abides
      (.sheltered view guarantees fun query answer => answer = reply query) ends state)
    (same : view state = view state') :
    process.Abides (.sheltered view guarantees fun query answer => answer = reply query)
      (fun result _ => related result (process'.run (.answering reply) (state', ())).1) state := by
  induction alike generalizing state state' with
  | done related =>
      intro after _
      exact related
  | step seen _ ih =>
      intro after relied
      have same := relied.trans same
      have here := abides after relied
      exact ⟨here.1, ih after state' same _ here.2 (seen after state' same)⟩
  | ask _ ih =>
      intro answer admitted
      have rest := abides answer admitted
      rw [show answer = reply _ from admitted] at rest ⊢
      exact ih _ state' rest same
  | pause _ ih => exact ih state' abides same

end Alike

end Process

end Colloquy
