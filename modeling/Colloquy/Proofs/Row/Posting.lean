import Colloquy.Model.Client
import Colloquy.Proofs.Process.Annotation
import Colloquy.Proofs.Row.Floor

/-!
# Rows that post their marks

A row keeps its state and its marks to itself, so that nothing that is shared tells who has marked
what. Beside what it does it can post both at a desk of its own, after every step. What rows do that
keep their marks to themselves is then done by the rows of a floor.
-/

set_option autoImplicit false

namespace Colloquy

variable {μ α : Type}

/-- The desk of a row that has not begun. -/
def Desk.fresh : Desk := ⟨.uninitialized, []⟩

namespace Floor

/-- What remains of the life of a row that keeps its state and its marks, and posts them at its
desk. -/
def posted (place : Nat) (desk : Desk) (life : RowLife α) :
    Process Floor ModelCall (Except Error Reply) (α × RowState) :=
  (((life.zoom (fun whole : (Floor × RowState) × List (String × String) =>
      RowWorld.mk whole.1.1.shared whole.1.2 whole.2)
    fun world whole => ((seat place world whole.1.1, world.state), world.marked)).own
      desk.marked).bind fun result => .done result.1).own desk.state

/-- A row that posts its marks does what a row does that keeps them to itself. -/
theorem annotatedBy_posted (place : Nat) (life : RowLife α) :
    (RowRecipe.once life).AnnotatedBy shared (posted place .fresh life) := by
  refine .own (.bind (.own (.zoom ?_ ?_ ?_ (.refl life)) []) fun _ => .done _) RowState.uninitialized
  · exact fun _ => rfl
  · exact fun _ _ => rfl
  · exact fun _ => rfl

/-- Contracts of a row at a place: nobody else is at its desk, and whoever leaves pool and desks alone
does nothing that it does not bear, or might not do itself. -/
structure Seats (place : Nat) (contract : Contract Floor ModelCall (Except Error Reply)) : Prop where
  desk : ∀ {before after}, contract.relies before after → after.desks place = before.desks place
  borne : ∀ {before after}, Elsewhere before after → contract.relies before after
  owed : ∀ {before after}, Elsewhere before after → contract.guarantees before after

theorem seats_contract (place : Nat) : Seats place (contract place) where
  desk := id
  borne changed := congrFun changed.2 place
  owed := guarantees_elsewhere place

/-- As long as nobody else is at its desk, what a row has posted is what it keeps. -/
theorem abides_posted {place : Nat} {contract : Contract Floor ModelCall (Except Error Reply)}
    (seats : Seats place contract) {ends : α → Floor → Prop} {life : RowLife α} {floor : Floor}
    {desk : Desk} (abides : (life.zoom (world place) (seat place)).Abides contract ends floor)
    (kept : floor.desks place = desk) :
    (posted place desk life).Abides contract (fun result after => ends result.1 after) floor := by
  induction life generalizing floor desk with
  | done result => exact abides
  | step update next ih =>
      intro after relied
      have same : after.desks place = desk := (seats.desk relied).trans kept
      have here := abides after relied
      simp only [world, same] at here
      exact ⟨here.1, ih _ here.2 (Function.update_self ..)⟩
  | ask call next ih => exact fun reply admitted => ih reply (abides reply admitted) kept
  | pause next ih => exact ih abides kept

end Floor

namespace Client

/-- No step of the client changes the pool that rows share, whatever others do to it meanwhile. -/
def Aloof (client : Client μ) : Prop :=
  ∀ call both, (client.answer call).Abides
    { Contract.any with guarantees := fun before after => after.1.pool = before.1.pool }
    (fun _ _ => True) both

/-- The client answers as it may, and no step of it changes the pool that rows share, whatever others do
to it meanwhile. -/
def RepliesBy (answers : ModelCall → Except Error Reply → Prop) (client : Client μ) : Prop :=
  ∀ call both, (client.answer call).Abides
    { Contract.any with guarantees := fun before after => after.1.pool = before.1.pool }
    (fun reply _ => answers call reply) both

/-- How calls may be answered whose system messages are moved to the front. -/
def hoistedAnswers (answers : ModelCall → Except Error Reply → Prop) (call : ModelCall)
    (reply : Except Error Reply) : Prop :=
  match Model.hoist call.messages with
  | .ok messages => answers ⟨call.form, messages⟩ reply
  | .error error => reply = .error error

variable {client : Client μ} {answers : ModelCall → Except Error Reply → Prop}

theorem RepliesBy.hoisted (replies : client.RepliesBy answers) :
    client.hoisted.RepliesBy (hoistedAnswers answers) := by
  intro call both
  simp only [Client.hoisted, hoistedAnswers]
  cases Model.hoist call.messages with
  | ok messages => exact replies ⟨call.form, messages⟩ both
  | error error => exact fun _ _ => rfl

theorem Aloof.repliesBy (aloof : client.Aloof) : client.hoisted.RepliesBy fun _ _ => True := by
  intro call both
  simp only [Client.hoisted]
  cases Model.hoist call.messages with
  | ok messages => exact aloof ⟨call.form, messages⟩ both
  | error error => exact fun _ _ => trivial

/-- A computation of a row on a floor, its calls being answered by the client. -/
def serveFloor (client : Client μ) (process : Process Floor ModelCall (Except Error Reply) α) :
    Process (Floor × μ) Empty Empty α :=
  (process.zoom Prod.fst fun floor both => (floor, both.2)).handle fun call =>
    (client.answer call).zoom (fun both => (both.1.shared, both.2)) fun inner both =>
      (⟨inner.1, both.1.desks⟩, inner.2)

theorem annotatedBy_serveFloor (client : Client μ) {process : RowProcess α}
    {annotated : Process Floor ModelCall (Except Error Reply) α}
    (annotates : process.AnnotatedBy Floor.shared annotated) :
    (client.serve process).AnnotatedBy (fun both => (both.1.shared, both.2))
      (client.serveFloor annotated) := by
  refine .handle (fun call => ?_) (.zoom ?_ ?_ ?_ annotates)
  · exact .zoomed (fun _ _ => rfl) (client.answer call)
  · exact fun _ => rfl
  · exact fun _ _ => rfl
  · exact fun _ => rfl

theorem RepliesBy.abides_serveFloor {place : Nat}
    {contract : Contract Floor ModelCall (Except Error Reply)}
    (replies : client.RepliesBy contract.answers) (seats : Floor.Seats place contract)
    {process : Process Floor ModelCall (Except Error Reply) α} {ends : α → Floor → Prop}
    {both : Floor × μ} (abides : process.Abides contract ends both.1) :
    (client.serveFloor process).Abides (contract.along Prod.fst)
      (fun result both => ends result both.1) both := by
  let seen : Contract (Floor × μ) ModelCall (Except Error Reply) := contract.along Prod.fst
  let asked : Contract (Floor × μ) ModelCall (Except Error Reply) :=
    { seen with answers := contract.answers }
  have zoomed : (process.zoom Prod.fst fun floor (both : Floor × μ) => (floor, both.2)).Abides
      asked (fun result both => ends result both.1) both := by
    refine Process.Abides.zoom ?_ ?_ ?_ abides
    · exact fun _ _ relied => relied
    · exact fun _ _ owed => ⟨rfl, owed⟩
    · exact fun _ _ admitted => admitted
  refine Process.Abides.handle ?_ ?_ ?_ zoomed
  · exact fun _ _ relied => relied
  · exact fun _ _ owed => owed
  · intro call both
    -- The client writes to the log at most, so that desks and pool stay as they are.
    let quiet : Contract (Floor × μ) Empty Empty :=
      { contract.along Prod.fst with
        guarantees := fun before after => Floor.Elsewhere before.1 after.1 }
    have answered : ((client.answer call).zoom
        (fun both : Floor × μ => (both.1.shared, both.2)) fun inner both =>
          (⟨inner.1, both.1.desks⟩, inner.2)).Abides quiet
        (fun reply _ => contract.answers call reply) both := by
      refine Process.Abides.zoom ?_ ?_ ?_ (replies call _)
      · exact fun _ _ _ => trivial
      · exact fun _ _ kept => ⟨rfl, kept, rfl⟩
      · exact fun _ _ _ => trivial
    have still := answered.within fun before after => contract.relies before.1 after.1
    refine (still ?_ ?_ ?_ ?_).weaken ?_ ?_ ?_
    · exact fun _ => contract.relies_refl _
    · exact fun first second => contract.relies_trans first second
    · exact fun relied => relied
    · exact fun kept => seats.borne kept
    · exact fun _ _ relied => relied
    · exact fun _ _ kept => seats.owed kept
    · exact fun _ _ _ => trivial

end Client

end Colloquy
