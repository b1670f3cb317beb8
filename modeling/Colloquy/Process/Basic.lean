/-!
# Processes

A process works on a state that it shares with other processes, asks for answers, and pauses. It is
given as a tree, so that it can be run to its end, answered from outside, or interleaved with others
at its pauses.
-/

set_option autoImplicit false

namespace Colloquy

/-- A computation on a shared state `σ` that asks queries `Q` and is answered by `R`. -/
inductive Process (σ Q R α : Type) where
  | done (result : α)
  /-- Changes the state and goes on with the state as it was before. -/
  | step (update : σ → σ) (next : σ → Process σ Q R α)
  | ask (query : Q) (next : R → Process σ Q R α)
  | pause (next : Process σ Q R α)

/-- What is around a process that waits: who answers its queries, and what becomes of the state at
its pauses. Both may depend on a memory `μ` of their own. -/
structure Environment (σ μ Q R : Type) where
  answer : Q → σ × μ → R × σ × μ
  meanwhile : σ × μ → σ × μ

def Environment.empty {σ R : Type} : Environment σ Unit Empty R :=
  ⟨fun query _ => query.elim, id⟩

namespace Process

variable {σ τ Q R Q' R' α β : Type}

def bind (process : Process σ Q R α) (next : α → Process σ Q R β) : Process σ Q R β :=
  match process with
  | done result => next result
  | step update rest => step update fun state => (rest state).bind next
  | ask query rest => ask query fun answer => (rest answer).bind next
  | pause rest => pause (rest.bind next)

instance : Monad (Process σ Q R) where
  pure := done
  bind := bind

def state : Process σ Q R σ := step id done

def change (update : σ → σ) : Process σ Q R Unit := step update fun _ => done ()

def query (query : Q) : Process σ Q R R := ask query done

def rest : Process σ Q R Unit := pause (done ())

def zoom (part : τ → σ) (replace : σ → τ → τ) : Process σ Q R α → Process τ Q R α
  | done result => done result
  | step update next =>
      step (fun whole => replace (update (part whole)) whole) fun whole =>
        (next (part whole)).zoom part replace
  | ask query next => ask query fun answer => (next answer).zoom part replace
  | pause next => pause (next.zoom part replace)

/-- The process with a part of the state kept to itself, and the last value of that part. -/
def own (part : τ) : Process (σ × τ) Q R α → Process σ Q R (α × τ)
  | done result => done (result, part)
  | step update next =>
      step (fun shared => (update (shared, part)).1) fun shared =>
        (next (shared, part)).own (update (shared, part)).2
  | ask query next => ask query fun answer => (next answer).own part
  | pause next => pause (next.own part)

def handle (answer : Q → Process σ Q' R' R) : Process σ Q R α → Process σ Q' R' α
  | done result => done result
  | step update next => step update fun state => (next state).handle answer
  | ask query next => (answer query).bind fun value => (next value).handle answer
  | pause next => pause (next.handle answer)

/-- The result of a process in an environment, and the state and the memory behind it. -/
def run {μ : Type} (environment : Environment σ μ Q R) : Process σ Q R α → σ × μ → α × σ × μ
  | done result, both => (result, both)
  | step update next, both => (next both.1).run environment (update both.1, both.2)
  | ask query next, both =>
      (next (environment.answer query both).1).run environment (environment.answer query both).2
  | pause next, both => next.run environment (environment.meanwhile both)

/-- The result and the last state of a process that asks nothing and runs alone. -/
def alone (process : Process σ Empty R α) (state : σ) : α × σ :=
  let (result, last, _) := process.run .empty (state, ())
  (result, last)

@[simp]
theorem done_bind (result : α) (next : α → Process σ Q R β) : (done result).bind next = next result :=
  rfl

theorem bind_done (process : Process σ Q R α) : process.bind done = process := by
  induction process with
  | done => rfl
  | step update rest ih => simp [bind, ih]
  | ask query rest ih => simp [bind, ih]
  | pause rest ih => simp [bind, ih]

theorem bind_assoc {γ : Type} (process : Process σ Q R α) (next : α → Process σ Q R β)
    (last : β → Process σ Q R γ) :
    (process.bind next).bind last = process.bind fun value => (next value).bind last := by
  induction process with
  | done => rfl
  | step update rest ih => simp [bind, ih]
  | ask query rest ih => simp [bind, ih]
  | pause rest ih => simp [bind, ih]

end Process

end Colloquy
