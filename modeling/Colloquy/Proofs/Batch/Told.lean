import Colloquy.Batch.Basic
import Mathlib.Data.List.Chain

/-!
# What an observer is told of a batch

A batch tells its observer each time that a task is taken or settled, and before that of the failure of
a settled task. What has been told up to some moment then depends on little: which tasks are settled
and in which order, which of them failed, and how many others are in progress.
-/

set_option autoImplicit false

namespace Colloquy

namespace Notice

/-- What a notice says of the progress: how many tasks are completed, and how many in progress. -/
def counts? : Notice → Option (Int × Int)
  | progress completed inProgress _ => some (completed, inProgress)
  | _ => none

/-- The failure that a notice is about. -/
def failure? : Notice → Option (Int × Error)
  | failure index error => some (index, error)
  | _ => none

end Notice

/-- What is told of a failed task. -/
def RowFailure.told (failure : RowFailure) : Int × Error := (failure.index, failure.error)

/-- One more task is in progress, or one less and one more is completed. -/
def Advances (before after : Int × Int) : Prop :=
  after = (before.1, before.2 + 1) ∨ after = (before.1 + 1, before.2 - 1)

/-- What an observer has heard when some tasks are settled and a number of others is in progress,
`failed` telling what became of the settled ones. -/
inductive Told (total concurrency : Nat) (failed : Nat → Option RowFailure) :
    List Notice → List Nat → Nat → Prop where
  | start : Told total concurrency failed [.start total concurrency] [] 0
  | enter {heard : List Notice} {settled : List Nat} {running : Nat}
      (told : Told total concurrency failed heard settled running) :
      Told total concurrency failed
        (heard ++ [.progress settled.length (running + 1 : Nat) total]) settled (running + 1)
  | settle {heard : List Notice} {settled : List Nat} {running : Nat}
      (told : Told total concurrency failed heard settled (running + 1)) (position : Nat) :
      Told total concurrency failed
        (heard ++ (failed position).toList.map (fun failure => .failure failure.index failure.error)
          ++ [.progress (settled.length + 1 : Nat) running total])
        (settled ++ [position]) running

/-- At every progress notice those failures have been told, and no others, that are among the tasks
that it counts as completed. -/
def InTime (failed : Nat → Option RowFailure) (settled : List Nat) (heard : List Notice) : Prop :=
  ∀ (place : Nat) (completed inProgress total : Int),
    heard[place]? = some (.progress completed inProgress total) →
      ∃ count : Nat, completed = count ∧ count ≤ settled.length ∧
        (heard.take place).filterMap Notice.failure? =
          (settled.take count).filterMap fun position => (failed position).map RowFailure.told

namespace InTime

variable {failed : Nat → Option RowFailure} {settled : List Nat} {heard : List Notice}

theorem append (inTime : InTime failed settled heard) {more : List Notice}
    (silent : ∀ notice ∈ more, notice.counts? = none) : InTime failed settled (heard ++ more) := by
  intro place completed inProgress total here
  by_cases early : place < heard.length
  · rw [List.getElem?_append_left early] at here
    rw [List.take_append_of_le_length (Nat.le_of_lt early)]
    exact inTime place completed inProgress total here
  · rw [List.getElem?_append_right (Nat.not_lt.1 early)] at here
    have counts := silent _ (List.mem_of_getElem? here)
    cases counts

theorem progress (inTime : InTime failed settled heard)
    (all : heard.filterMap Notice.failure? =
      settled.filterMap fun position => (failed position).map RowFailure.told)
    (inProgress total : Int) :
    InTime failed settled (heard ++ [.progress settled.length inProgress total]) := by
  intro place completed inProgress' total' here
  by_cases early : place < heard.length
  · rw [List.getElem?_append_left early] at here
    rw [List.take_append_of_le_length (Nat.le_of_lt early)]
    exact inTime place completed inProgress' total' here
  · rw [List.getElem?_append_right (Nat.not_lt.1 early)] at here
    have last := (List.getElem?_eq_some_iff.1 here).1
    have same : place = heard.length := by
      rw [List.length_singleton] at last
      omega
    subst same
    rw [Nat.sub_self, List.getElem?_cons_zero, Option.some.injEq] at here
    cases here
    refine ⟨settled.length, rfl, Nat.le_refl _, ?_⟩
    rw [List.take_left, List.take_length, all]

theorem settle (inTime : InTime failed settled heard) (position : Nat) :
    InTime failed (settled ++ [position]) heard := by
  intro place completed inProgress total here
  obtain ⟨count, same, inside, told⟩ := inTime place completed inProgress total here
  refine ⟨count, same, ?_, ?_⟩
  · rw [List.length_append]
    omega
  · rw [List.take_append_of_le_length inside]
    exact told

end InTime

namespace Told

variable {total concurrency : Nat} {failed : Nat → Option RowFailure}
variable {heard : List Notice} {settled : List Nat} {running : Nat}

theorem counts_failures (failures : List RowFailure) :
    (failures.map fun failure => Notice.failure failure.index failure.error).filterMap
      Notice.counts? = [] := by
  induction failures with
  | nil => rfl
  | cons failure rest ih => exact ih

theorem failures_failures (failures : List RowFailure) :
    (failures.map fun failure => Notice.failure failure.index failure.error).filterMap
      Notice.failure? = failures.map RowFailure.told := by
  induction failures with
  | nil => rfl
  | cons failure rest ih => exact congrArg (failure.told :: ·) ih

/-- All failures of settled tasks have been told, in the order in which the tasks were settled. -/
theorem failures (told : Told total concurrency failed heard settled running) :
    heard.filterMap Notice.failure? =
      settled.filterMap fun position => (failed position).map RowFailure.told := by
  induction told with
  | start => rfl
  | enter _ ih => rw [List.filterMap_append, ih]; exact List.append_nil _
  | @settle heard settled running _ position ih =>
      rw [List.filterMap_append, List.filterMap_append, ih, failures_failures,
        List.filterMap_append]
      cases found : failed position <;> simp [found, Notice.failure?]

theorem inTime (told : Told total concurrency failed heard settled running) :
    InTime failed settled heard := by
  induction told with
  | start =>
      intro place completed inProgress total here
      cases place <;> cases here
  | enter told ih => exact ih.progress told.failures _ _
  | @settle heard settled running told position ih =>
      let fails := (failed position).toList.map fun failure =>
        Notice.failure failure.index failure.error
      have silent : ∀ notice ∈ fails, notice.counts? = none := by
        intro notice member
        obtain ⟨failure, _, rfl⟩ := List.mem_map.1 member
        rfl
      have all : (heard ++ fails).filterMap Notice.failure? =
          (settled ++ [position]).filterMap fun position =>
            (failed position).map RowFailure.told := by
        rw [List.filterMap_append, told.failures, failures_failures, List.filterMap_append]
        cases found : failed position <;> simp [found]
      have later := ((ih.settle position).append silent).progress all running total
      rw [List.length_append, List.length_singleton] at later
      exact later

/-- The first notice is that of the start. The others are about progress and failures. -/
theorem frame (told : Told total concurrency failed heard settled running) :
    ∃ body, heard = .start total concurrency :: body ∧
      ∀ notice ∈ body, notice.counts?.isSome ∨ notice.failure?.isSome := by
  induction told with
  | start => exact ⟨[], rfl, fun _ member => nomatch member⟩
  | enter _ ih =>
      obtain ⟨body, rfl, each⟩ := ih
      refine ⟨body ++ [_], rfl, fun notice member => ?_⟩
      rcases List.mem_append.1 member with earlier | last
      · exact each notice earlier
      · rw [List.mem_singleton.1 last]
        exact .inl rfl
  | @settle _ settled running _ position ih =>
      obtain ⟨body, rfl, each⟩ := ih
      refine ⟨body ++ _ ++ [_], by simp only [List.cons_append, List.append_assoc]; rfl,
        fun notice member => ?_⟩
      rcases List.mem_append.1 member with earlier | last
      · rcases List.mem_append.1 earlier with earliest | fails
        · exact each notice earliest
        · obtain ⟨failure, _, rfl⟩ := List.mem_map.1 fails
          exact .inr rfl
      · rw [List.mem_singleton.1 last]
        exact .inl rfl

/-- The numbers that have been told since the batch started with none, each time as one more task had
been taken or settled. -/
def tally (heard : List Notice) : List (Int × Int) := (0, 0) :: heard.filterMap Notice.counts?

theorem tally_concat (heard : List Notice) (failures : List RowFailure)
    (completed inProgress total : Int) :
    tally (heard ++ failures.map (fun failure => .failure failure.index failure.error) ++
      [.progress completed inProgress total]) = tally heard ++ [(completed, inProgress)] := by
  simp only [tally, List.filterMap_append, counts_failures, List.append_nil, List.cons_append]
  rfl

/-- The numbers change by one task at a time, and those told last are those of the moment. -/
theorem steps (told : Told total concurrency failed heard settled running) :
    (tally heard).IsChain Advances ∧ (tally heard).length = 2 * settled.length + running + 1 ∧
      (tally heard).getLast? = some ((settled.length : Int), (running : Int)) := by
  have extend {pairs : List (Int × Int)} {before after : Int × Int}
      (chain : pairs.IsChain Advances) (last : pairs.getLast? = some before)
      (advances : Advances before after) : (pairs ++ [after]).IsChain Advances := by
    refine chain.append (List.isChain_singleton after) fun earlier here later there => ?_
    rw [last] at here
    cases here
    cases there
    exact advances
  induction told with
  | start => exact ⟨List.isChain_singleton _, rfl, rfl⟩
  | @enter heard settled running _ ih =>
      obtain ⟨chain, length, last⟩ := ih
      have same := tally_concat heard [] settled.length (running + 1 : Nat) total
      rw [List.map_nil, List.append_nil] at same
      rw [same]
      refine ⟨extend chain last (.inl (by simp)), ?_, List.getLast?_concat⟩
      rw [List.length_append, length, List.length_singleton]
      omega
  | @settle heard settled running _ position ih =>
      obtain ⟨chain, length, last⟩ := ih
      simp only [tally_concat, List.length_append, List.length_singleton, length]
      exact ⟨extend chain last (.inr (by simp)), by omega, List.getLast?_concat⟩

/-- Every progress notice is about all tasks, and counts none that had not been taken. -/
theorem within (told : Told total concurrency failed heard settled running)
    {completed inProgress all : Int} (member : .progress completed inProgress all ∈ heard) :
    all = total ∧ completed + inProgress ≤ settled.length + running := by
  induction told with
  | start => simp at member
  | enter _ ih =>
      rcases List.mem_append.1 member with earlier | last
      · obtain ⟨same, bound⟩ := ih earlier
        exact ⟨same, by omega⟩
      · cases List.mem_singleton.1 last
        exact ⟨rfl, Int.le_refl _⟩
  | settle _ position ih =>
      rw [List.length_append, List.length_singleton]
      rcases List.mem_append.1 member with earlier | last
      · rcases List.mem_append.1 earlier with earliest | fails
        · obtain ⟨same, bound⟩ := ih earliest
          exact ⟨same, by omega⟩
        · obtain ⟨failure, _, same⟩ := List.mem_map.1 fails
          cases same
      · cases List.mem_singleton.1 last
        exact ⟨rfl, Int.le_refl _⟩

/-- What is told depends on the settled tasks only. -/
theorem congr {failed' : Nat → Option RowFailure}
    (told : Told total concurrency failed heard settled running)
    (same : ∀ position ∈ settled, failed position = failed' position) :
    Told total concurrency failed' heard settled running := by
  induction told with
  | start => exact .start
  | enter _ ih => exact .enter (ih same)
  | settle _ position ih =>
      rw [same position (by simp)]
      exact .settle (ih fun other member => same other (List.mem_append_left _ member)) position

end Told

/-- What an observer has been told of a batch when it has ended, `settled` being its tasks in the order
in which they were settled. -/
structure Recital (total concurrency : Nat) (failed : Nat → Option RowFailure) (settled : List Nat)
    (heard : List Notice) : Prop where
  /-- Between the start and the end there are notices of progress and of failures. -/
  framed : ∃ body : List Notice,
    heard = .start total concurrency :: body ++
      [.finish total (settled.filterMap failed).length total] ∧
    ∀ notice ∈ body, notice.counts?.isSome ∨ notice.failure?.isSome
  steps : ((0, 0) :: heard.filterMap Notice.counts?).IsChain Advances
  length : (heard.filterMap Notice.counts?).length = 2 * total
  last : total ≠ 0 → (heard.filterMap Notice.counts?).getLast? = some ((total : Int), 0)
  within : ∀ {completed inProgress all : Int}, .progress completed inProgress all ∈ heard →
    all = total ∧ completed + inProgress ≤ total
  failures : heard.filterMap Notice.failure? =
    settled.filterMap fun position => (failed position).map RowFailure.told
  inTime : InTime failed settled heard

theorem Told.recital {total concurrency : Nat} {failed : Nat → Option RowFailure}
    {heard : List Notice} {settled : List Nat}
    (told : Told total concurrency failed heard settled 0) (all : settled.length = total) :
    Recital total concurrency failed settled
      (heard ++ [.finish total (settled.filterMap failed).length total]) := by
  let finish : Notice := .finish total (settled.filterMap failed).length total
  have counts : (heard ++ [finish]).filterMap Notice.counts? = heard.filterMap Notice.counts? := by
    rw [List.filterMap_append]
    exact List.append_nil _
  obtain ⟨chain, length, last⟩ := told.steps
  have twice : (heard.filterMap Notice.counts?).length = 2 * total := by
    rw [← all]
    exact Nat.succ.inj length
  constructor
  case framed =>
    obtain ⟨body, rfl, each⟩ := told.frame
    exact ⟨body, rfl, each⟩
  case steps => rw [counts]; exact chain
  case length => rw [counts, twice]
  case last =>
    intro nonempty
    rw [tally, List.getLast?_cons, all] at last
    rw [counts]
    cases found : (heard.filterMap Notice.counts?).getLast? with
    | none =>
        rw [List.getLast?_eq_none_iff.1 found, List.length_nil] at twice
        omega
    | some pair =>
        rw [found, Option.getD_some] at last
        exact last
  case within =>
    intro completed inProgress all' member
    rcases List.mem_append.1 member with earlier | finished
    · have bound := told.within earlier
      rw [all] at bound
      exact bound
    · simp at finished
  case failures =>
    rw [List.filterMap_append, told.failures]
    exact List.append_nil _
  case inTime =>
    refine told.inTime.append fun notice member => ?_
    rw [List.mem_singleton.1 member]
    rfl

end Colloquy
