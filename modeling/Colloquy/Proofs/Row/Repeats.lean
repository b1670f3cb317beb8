import Colloquy.Proofs.Process.Annotation
import Colloquy.Proofs.Row.Calls
import Colloquy.Proofs.Row.Catalogue

/-!
# Repeated calls of a row

A row runs once. Of any number of calls, whenever they begin, the first to begin runs; each of the
others is barred and fails at once, because the row may not begin again. As long as none is refused
while the row is under way, the row is as if it had been called once.
-/

set_option autoImplicit false

namespace Colloquy

namespace RowCall

variable {recipe : RowRecipe} {call : RowCall} {both after : Shared × RowState}
variable {next : RowCalling}

/-- A call that has not begun the row: it waits, or it has been refused, or it has failed as it was
refused. Such a call asks nothing and chooses nothing. -/
inductive Barred (recipe : RowRecipe) (call : RowCall) (now : RowState) : RowCalling → Prop where
  | waiting : Barred recipe call now (call.process recipe)
  | refused {state : RowState} (begun : state ≠ .uninitialized) (leads : state.Leads now) :
      Barred recipe call now (call.refused recipe state)
  | ended {state : RowState} (begun : state ≠ .uninitialized) (leads : state.Leads now) :
      Barred recipe call now (.done (call.verdict recipe (refusal state)))

variable {calls : List RowCall} {first : Nat} {lives : List RowCalling}

/-- A barred call that moves stays barred. It changes nothing, or it has failed after it was refused
while the row was under way. -/
theorem Barred.move {process : RowCalling} (barred : call.Barred recipe both.2 process)
    (begun : both.2 ≠ .uninitialized) (moves : process.Move both next after) :
    call.Barred recipe after.2 next ∧ both.2.Meanwhile after.2 ∧
      (after = both ∨ ∃ state, state.isActive = true ∧
        next = .done (call.verdict recipe (refusal state))) := by
  cases barred with
  | waiting =>
      obtain ⟨rfl, rfl⟩ := move_process moves begun
      exact ⟨.refused begun .refl, .refl _, .inl rfl⟩
  | @refused state earlier leads =>
      obtain ⟨rfl, kept, failed⟩ := move_refused moves
      by_cases active : both.2.isActive = true
      · -- The row has been under way since it began, and so when it refused the call.
        have meanwhile : both.2.Meanwhile after.2 := .inr ⟨active, failed active⟩
        have since := RowState.active_of_leads leads earlier active
        exact ⟨.ended earlier (leads.trans meanwhile.leads), meanwhile, .inr ⟨state, since, rfl⟩⟩
      · have same := kept active
        subst same
        exact ⟨.ended earlier leads, .refl _, .inl rfl⟩
  | ended earlier leads => cases moves

theorem Barred.later {process : RowCalling} {now later : RowState}
    (barred : call.Barred recipe now process) (onward : now.Leads later) :
    call.Barred recipe later process := by
  cases barred with
  | waiting => exact .waiting
  | refused begun leads => exact .refused begun (leads.trans onward)
  | ended begun leads => exact .ended begun (leads.trans onward)

/-- No other call than the first has been refused while the row was under way. -/
def Undisturbed (recipe : RowRecipe) (calls : List RowCall) (first : Nat)
    (lives : List RowCalling) : Prop :=
  ∀ place call state, place ≠ first → calls[place]? = some call → state.isActive = true →
    lives[place]? ≠ some (.done (call.verdict recipe (refusal state)))

theorem Undisturbed.of_move {place : Nat} {process : RowCalling}
    (here : lives[place]? = some process) (moves : process.Move both next after)
    (undisturbed : Undisturbed recipe calls first (lives.set place next)) :
    Undisturbed recipe calls first lives := by
  intro other call state differ asked active there
  refine undisturbed other call state differ asked active ?_
  by_cases same : place = other
  · subst same
    rw [here] at there
    cases there
    cases moves
  · rwa [List.getElem?_set_ne same]

variable {around : Shared × RowState → Shared × RowState → Prop} {shared : Shared}
variable {life : RowCalling}

/-- No call has begun the row yet. -/
structure Idle (around : Shared × RowState → Shared × RowState → Prop) (recipe : RowRecipe)
    (calls : List RowCall) (shared : Shared) (lives : List RowCalling) (both : Shared × RowState) :
    Prop where
  lives : lives = calls.map fun call => call.process recipe
  fresh : both.2 = .uninitialized
  alone : ∀ call : RowCall, Process.Interleaves around
    ([call.process recipe], (shared, .uninitialized)) ([call.process recipe], both)

/-- The call at a place has begun the row, and all others are barred from it. -/
structure Begun (around : Shared × RowState → Shared × RowState → Prop) (recipe : RowRecipe)
    (calls : List RowCall) (shared : Shared) (first : Nat) (call : RowCall) (life : RowCalling)
    (lives : List RowCalling) (both : Shared × RowState) : Prop where
  asked : calls[first]? = some call
  here : lives[first]? = some life
  begun : both.2 ≠ .uninitialized
  abides : life.Abides overlapped (call.Closes recipe) both
  others : ∀ place process, place ≠ first → lives[place]? = some process →
    ∃ other, calls[place]? = some other ∧ other.Barred recipe both.2 process
  alone : Undisturbed recipe calls first lives → Process.Interleaves around
    ([call.process recipe], (shared, .uninitialized)) ([life], both)

theorem Idle.begins (idle : Idle around recipe calls shared lives both) {place : Nat}
    {process : RowCalling} (here : lives[place]? = some process)
    (moves : process.Move both next after) :
    ∃ call, Begun around recipe calls shared place call next (lives.set place next) after := by
  have inside : place < lives.length := (List.getElem?_eq_some_iff.1 here).1
  have asked := here
  rw [idle.lives, List.getElem?_map, Option.map_eq_some_iff] at asked
  obtain ⟨call, asked, rfl⟩ := asked
  have began := begins_of_move moves idle.fresh
  have abides := ((overlapped_process idle.fresh).move moves fun _ _ => trivial).2
  refine ⟨call, asked, List.getElem?_set_self inside, by rw [began]; decide, abides, ?_, ?_⟩
  · intro other process differ there
    rw [List.getElem?_set_ne (Ne.symm differ), idle.lives, List.getElem?_map,
      Option.map_eq_some_iff] at there
    obtain ⟨waiting, asked, rfl⟩ := there
    exact ⟨waiting, asked, .waiting⟩
  · exact fun _ => (idle.alone call).tail (.head moves [])

namespace Begun

variable (stands : Begun around recipe calls shared first call life lives both)

include stands

theorem move (moves : life.Move both next after) :
    Begun around recipe calls shared first call next (lives.set first next) after := by
  have inside : first < lives.length := (List.getElem?_eq_some_iff.1 stands.here).1
  obtain ⟨owed, abides⟩ := stands.abides.move moves fun _ _ => trivial
  have leads : both.2.Leads after.2 := by
    rcases owed with same | leads
    · rw [same]
    · exact leads
  refine ⟨stands.asked, List.getElem?_set_self inside,
    RowState.begun_of_leads leads stands.begun, abides, ?_, ?_⟩
  · intro place process differ there
    rw [List.getElem?_set_ne (Ne.symm differ)] at there
    obtain ⟨other, asked, barred⟩ := stands.others place process differ there
    exact ⟨other, asked, barred.later leads⟩
  · exact fun undisturbed =>
      (stands.alone (undisturbed.of_move stands.here moves)).tail (.head moves [])

theorem move_barred {place : Nat} {process : RowCalling} (differ : place ≠ first)
    (here : lives[place]? = some process) (moves : process.Move both next after) :
    Begun around recipe calls shared first call life (lives.set place next) after := by
  have inside : place < lives.length := (List.getElem?_eq_some_iff.1 here).1
  obtain ⟨called, asked, barred⟩ := stands.others place process differ here
  obtain ⟨barred, meanwhile, harm⟩ := barred.move stands.begun moves
  refine ⟨stands.asked, by rw [List.getElem?_set_ne differ, stands.here],
    RowState.begun_of_leads meanwhile.leads stands.begun, stands.abides.stable meanwhile, ?_, ?_⟩
  · intro other found apart there
    by_cases same : place = other
    · subst same
      rw [List.getElem?_set_self inside] at there
      cases there
      exact ⟨called, asked, barred⟩
    · rw [List.getElem?_set_ne same] at there
      obtain ⟨waiting, asked, barred⟩ := stands.others other found apart there
      exact ⟨waiting, asked, barred.later meanwhile.leads⟩
  · -- A call that has changed anything was refused while the row was under way.
    intro undisturbed
    rcases harm with rfl | ⟨state, active, rfl⟩
    · exact stands.alone (undisturbed.of_move here moves)
    · have apart := undisturbed place called state differ asked active
      exact absurd (List.getElem?_set_self inside) apart

theorem surrounded (changed : around both after) (quiet : after.2 = both.2) :
    Begun around recipe calls shared first call life lives after := by
  refine ⟨stands.asked, stands.here, quiet ▸ stands.begun, ?_, quiet ▸ stands.others, ?_⟩
  · exact stands.abides.stable (.inl quiet)
  · exact fun undisturbed => (stands.alone undisturbed).tail (.around changed)

end Begun

/-- However calls of a row are interleaved, either none of them has begun it, or one of them has. -/
theorem idle_or_begun (quiet : ∀ before after, around before after → after.2 = before.2)
    {pool : List RowCalling × (Shared × RowState)}
    (interleaves : Process.Interleaves around
      (calls.map fun call => call.process recipe, (shared, .uninitialized)) pool) :
    Idle around recipe calls shared pool.1 pool.2 ∨
      ∃ first call life, Begun around recipe calls shared first call life pool.1 pool.2 := by
  induction interleaves with
  | refl => exact .inl ⟨rfl, rfl, fun _ => .refl⟩
  | tail _ turn ih =>
      cases turn with
      | @move _ place _ next _ _ here moves =>
          rcases ih with idle | ⟨first, call, life, stands⟩
          · obtain ⟨call, begun⟩ := idle.begins here moves
            exact .inr ⟨place, call, next, begun⟩
          · refine .inr ⟨first, call, ?_⟩
            by_cases same : place = first
            · subst same
              rw [stands.here] at here
              cases here
              exact ⟨next, stands.move moves⟩
            · exact ⟨life, stands.move_barred same here moves⟩
      | around changed =>
          have same := quiet _ _ changed
          rcases ih with idle | ⟨first, call, life, stands⟩
          · exact .inl ⟨idle.lives, same.trans idle.fresh,
              fun call => (idle.alone call).tail (.around changed)⟩
          · exact .inr ⟨first, call, life, stands.surrounded changed same⟩

/-- The call at a place is the one that runs. As long as no other is refused while it is under way,
the row and the pool and what the call comes to are as without the others. -/
structure Runs (around : Shared × RowState → Shared × RowState → Prop) (recipe : RowRecipe)
    (calls : List RowCall) (shared : Shared) (first : Nat) (call : RowCall) (life : RowCalling)
    (lives : List RowCalling) (both : Shared × RowState) : Prop where
  asked : calls[first]? = some call
  here : lives[first]? = some life
  begun : both.2 ≠ .uninitialized
  others : ∀ place process, place ≠ first → lives[place]? = some process →
    ∃ other, calls[place]? = some other ∧ other.Barred recipe both.2 process
  closes : ∀ verdict, life = .done verdict → call.Closes recipe verdict both
  alone : Undisturbed recipe calls first lives → Process.Interleaves around
    ([call.process recipe], (shared, .uninitialized)) ([life], both)
  releases : Undisturbed recipe calls first lives → shared.pool.IsOwn →
    (∀ before after, around before after → after.1.pool = before.1.pool) →
      ∀ verdict, life = .done verdict → Released shared.pool both

/-- Whenever calls of a row begin, one of them runs and the others are barred. Behind the one the
row is completed if and only if it returns a row, and has failed if and only if it fails. -/
theorem runs_once (quiet : ∀ before after, around before after → after.2 = before.2)
    (interleaves : Process.Interleaves around
      (calls.map fun call => call.process recipe, (shared, .uninitialized)) (lives, both)) :
    Idle around recipe calls shared lives both ∨
      ∃ first call life, Runs around recipe calls shared first call life lives both := by
  rcases idle_or_begun quiet interleaves with idle | ⟨first, call, life, stands⟩
  · exact .inl idle
  refine .inr ⟨first, call, life, stands.asked, stands.here, stands.begun, stands.others, ?_,
    stands.alone, ?_⟩
  · rintro verdict rfl
    exact stands.abides both (.refl _)
  · rintro undisturbed isOwn kept verdict rfl
    let start : Shared × RowState := (shared, .uninitialized)
    have owns : start.1.pool.IsOwn := isOwn
    have fresh : start.2 = .uninitialized := rfl
    have outside {before after : Shared × RowState} (changed : around before after) :
        RowCall.undisturbed.relies before after :=
      ⟨quiet before after changed, kept before after changed⟩
    obtain ⟨last, only, abides⟩ := (stands.alone undisturbed).abides (fun _ _ => trivial) outside
      (releases_process owns fresh)
    cases only
    exact abides both (RowCall.undisturbed.relies_refl both)

/-- A row whose only message the model writes. -/
def greetBack : RowRecipe :=
  plainRecipe (.node (.leaf (.written (.text "assistant") (.text "Greet back"))))

def greeted : ModelCall → Except Error Reply := fun _ => .ok ⟨.text "Hello", .null⟩

def opening : Shared × RowState := (⟨.fresh, #[]⟩, .uninitialized)

theorem run_greetBack : ∃ row last,
    ((generate 0 "now").process greetBack).run (.answering greeted) (opening, ()) =
      (.ended (.ok row), (last, .completed), ()) :=
  ⟨_, _, rfl⟩

/-- A row is generated, and when it is complete it is run once more. -/
theorem runs_once_greetBack :
    ∃ lives both, Process.Interleaves Process.Nothing
      ([generate 0 "now", run 0 "later"].map fun call => call.process greetBack, opening)
        (lives, both) ∧
      both.2 = .completed ∧
      lives[1]? = some (.done ((run 0 "later").verdict greetBack (refusal .completed))) ∧
      ∃ first call life, Runs Process.Nothing greetBack [generate 0 "now", run 0 "later"]
        ⟨.fresh, #[]⟩ first call life lives both := by
  obtain ⟨row, shared, made⟩ := run_greetBack
  have refused : ((run 0 "later").process greetBack).run (.answering greeted)
      ((shared, .completed), ()) =
        ((run 0 "later").verdict greetBack (refusal .completed), (shared, .completed), ()) := rfl
  have first := Process.interleaves_run Process.Nothing made [(run 0 "later").process greetBack]
  have second := Process.interleaves_run Process.Nothing refused []
  have both : Process.Interleaves Process.Nothing
      ([generate 0 "now", run 0 "later"].map fun call => call.process greetBack, opening) _ :=
    first.trans (second.cons (.done (.ended (.ok row))))
  have quiet (before after : Shared × RowState) (changed : Process.Nothing before after) :
      after.2 = before.2 := changed.elim
  refine ⟨_, _, both, rfl, rfl, ?_⟩
  rcases runs_once quiet both with idle | runs
  · exact nomatch idle.fresh
  · exact runs

/-- A row is generated once more while the model is writing for it. The second call is refused and
fails the row, which the first call would have completed. -/
theorem overlap_greetBack :
    ∃ lives both row alone, Process.Interleaves Process.Nothing
      ([generate 0 "now", generate 0 "later"].map fun call => call.process greetBack, opening)
        (lives, both) ∧
      lives = [.done (.ended (.error (.transition "failed" "completed"))),
        .done (.ended (refusal .generating))] ∧ both.2 = .failed ∧
      Process.Interleaves Process.Nothing ([(generate 0 "now").process greetBack], opening)
        ([.done (.ended (.ok row))], alone) ∧
      alone.2 = .completed := by
  have asks : ∃ rest shared, ((generate 0 "now").process greetBack).untilAsk opening =
      (rest, (shared, .generating)) ∧
      ∀ shared, ∃ last, rest.run (.answering greeted) ((shared, .failed), ()) =
        (.ended (.error (.transition "failed" "completed")), (last, .failed), ()) :=
    ⟨_, _, rfl, fun _ => ⟨_, rfl⟩⟩
  have refuses (shared : Shared) : ∃ last,
      ((generate 0 "later").process greetBack).run (.answering greeted)
        ((shared, .generating), ()) = (.ended (refusal .generating), (last, .failed), ()) :=
    ⟨_, rfl⟩
  obtain ⟨rest, shared, asks, stops⟩ := asks
  obtain ⟨failed, refused⟩ := refuses shared
  obtain ⟨last, stopped⟩ := stops failed
  obtain ⟨row, completed, made⟩ := run_greetBack
  have first := Process.interleaves_untilAsk Process.Nothing asks
    [(generate 0 "later").process greetBack]
  have second := (Process.interleaves_run Process.Nothing refused []).cons rest
  have third := Process.interleaves_run Process.Nothing stopped
    [.done (.ended (refusal .generating))]
  have alone := Process.interleaves_run Process.Nothing made []
  exact ⟨_, _, row, (completed, .completed), (first.trans second).trans third, rfl, rfl, alone, rfl⟩

end RowCall

end Colloquy
