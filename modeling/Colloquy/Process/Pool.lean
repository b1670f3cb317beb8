import Colloquy.Process.Basic

/-!
# Pools of processes

Processes that ask nothing share one state and take turns. A turn lasts until the process pauses or
ends; a process that pauses goes to the end of the queue.
-/

set_option autoImplicit false

namespace Colloquy.Process

variable {σ R α : Type}

/-- `Child next process` says that `next` is what may remain of `process` after its first node. -/
inductive Child : Process σ Empty R α → Process σ Empty R α → Prop where
  | step (update : σ → σ) (next : σ → Process σ Empty R α) (state : σ) :
      Child (next state) (step update next)
  | pause (next : Process σ Empty R α) : Child next (pause next)

theorem Child.acc (process : Process σ Empty R α) : Acc Child process := by
  induction process with
  | done result => exact ⟨_, fun _ child => nomatch child⟩
  | step update next ih => exact ⟨_, fun _ child => by cases child; exact ih _⟩
  | ask query next ih => exact nomatch query
  | pause next ih => exact ⟨_, fun _ child => by cases child; exact ih⟩

/-- One process of a list has made progress and the others are as they were. -/
inductive Progress : List (Process σ Empty R α) → List (Process σ Empty R α) → Prop where
  | head {next process : Process σ Empty R α} (rest : List (Process σ Empty R α))
      (child : Child next process) : Progress (next :: rest) (process :: rest)
  | tail (process : Process σ Empty R α) {after before : List (Process σ Empty R α)}
      (progress : Progress after before) : Progress (process :: after) (process :: before)

theorem Progress.acc_cons {process : Process σ Empty R α} (ends : Acc Child process) :
    ∀ {rest : List (Process σ Empty R α)}, Acc Progress rest → Acc Progress (process :: rest) := by
  induction ends with
  | intro process _ ihHead =>
      intro rest restEnds
      induction restEnds with
      | intro rest below ihTail =>
          refine ⟨_, fun _ progress => ?_⟩
          cases progress with
          | head _ child => exact ihHead _ child ⟨_, below⟩
          | tail _ progress => exact ihTail _ progress

theorem Progress.acc (processes : List (Process σ Empty R α)) : Acc Progress processes := by
  induction processes with
  | nil => exact ⟨_, fun _ progress => nomatch progress⟩
  | cons process rest ih => exact Progress.acc_cons (Child.acc process) ih

instance : WellFoundedRelation (List (Process σ Empty R α)) where
  rel := Progress
  wf := ⟨Progress.acc⟩

theorem Progress.set {processes : List (Process σ Empty R α)} {place : Nat}
    {process next : Process σ Empty R α} (here : processes[place]? = some process)
    (child : Child next process) : Progress (processes.set place next) processes := by
  induction processes generalizing place with
  | nil => simp at here
  | cons first rest ih =>
      cases place with
      | zero =>
          simp only [List.getElem?_cons_zero, Option.some.injEq] at here
          subst here
          exact .head _ child
      | succ place => exact .tail _ (ih (by simpa using here))

set_option linter.unusedVariables false in
/-- Runs the processes of a pool until all have ended. The queue holds the places of those that are
still running, the first of which has its turn. -/
def takeTurns (processes : List (Process σ Empty R α)) (queue : List Nat) (state : σ) :
    List (Process σ Empty R α) × σ :=
  match queue with
  | [] => (processes, state)
  | place :: queue =>
      match here : processes[place]? with
      | none => takeTurns processes queue state
      | some (done _) => takeTurns processes queue state
      | some (step update next) =>
          takeTurns (processes.set place (next state)) (place :: queue) (update state)
      | some (pause next) => takeTurns (processes.set place next) (queue ++ [place]) state
      | some (ask query _) => nomatch query
termination_by (processes, queue.length)
decreasing_by
  · exact Prod.Lex.right _ (by simp)
  · exact Prod.Lex.right _ (by simp)
  · exact Prod.Lex.left _ _ (Progress.set here (.step update next state))
  · exact Prod.Lex.left _ _ (Progress.set here (.pause next))

def result? : Process σ Empty R α → Option α
  | done result => some result
  | _ => none

/-- The results of processes that start in order and take turns, and the last state. -/
def together (processes : List (Process σ Empty R α)) (state : σ) : List α × σ :=
  let (ended, last) := takeTurns processes (List.range processes.length) state
  (ended.filterMap result?, last)

end Colloquy.Process
