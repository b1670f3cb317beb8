import Colloquy.Proofs.Resolution.Emissions

/-!
# What is asked on account of a leaf

A leaf whose content is known asks the model nothing. Any other leaf makes one request: the extra
messages are collected first, for which code of the caller may ask the model, and then the request is
sent as one call. Nothing is asked twice.
-/

set_option autoImplicit false

namespace Colloquy

variable {μ : Type}

/-- The request that is made for a leaf, if its content is not known. -/
def Leaf.request? (context : Context) : Leaf → Option (Except Error ModelRequest)
  | fixed _ _ => none
  | written role prompt => some (messageRequest context role prompt)
  | call use =>
      match use.source context with
      | .ok (.model shape) => some (argumentsRequest context use.tool shape use.prompt)
      | _ => none
  | result answer =>
      match answer.source context with
      | .ok (_, .model shape arguments) =>
          some (resultRequest context answer.tool shape arguments answer.prompt)
      | _ => none

variable (making : Making) (environment : Environment Shared μ ModelCall (Except Error Reply))

/-- What code of the caller asks while it collects extra messages. -/
def Walk.collecting (target : Datum) (walk : Walk) (both : Shared × μ) :
    List (ModelCall × Except Error Reply) :=
  ((extraMessages making.extras target).follow walk).exchanges environment both

/-- What is asked for a request, which may fail to be made, and whether there may be a reply. -/
inductive Walk.Asks (walk : Walk) (both : Shared × μ) (made : Except Error ModelRequest) :
    List (ModelCall × Except Error Reply) → Bool → Prop where
  | nothing : Asks walk both made [] false
  | collecting {request : ModelRequest} (known : made = .ok request) :
      Asks walk both made (walk.collecting making environment request.target both) false
  | sending {request : ModelRequest} (known : made = .ok request) {extra : List Datum}
      {after : Walk} {later : Shared × μ}
      (collected : ((extraMessages making.extras request.target).follow walk).run environment both =
        (.ok (extra, after), later))
      (answer : Except Error Reply) (replied : Bool) :
      Asks walk both made (walk.collecting making environment request.target both ++
        [(⟨request.form, request.messages extra⟩, answer)]) replied

variable {making environment}

theorem ModelRequest.asks_send {request : ModelRequest} {made : Except Error ModelRequest}
    (known : made = .ok request) (walk : Walk) (both : Shared × μ) :
    walk.Asks making environment both made ((request.send making walk).exchanges environment both)
      ((request.send making walk).run environment both).1.isOk := by
  unfold send
  rw [Process.exchanges_bind, Process.run_bind]
  rcases collected : ((extraMessages making.extras request.target).follow walk).run environment
    both with ⟨halt | ⟨extra, after⟩, later⟩
  · rw [show Process.exchanges environment (.done (.error halt) : RowProcess (Walked Reply)) later =
      [] from rfl, List.append_nil]
    exact .collecting known
  · exact .sending known collected _ _

theorem Walk.asks_request (make : Context → Except Error ModelRequest) (walk : Walk)
    (both : Shared × μ) :
    walk.Asks making environment both (make walk.context)
      ((walk.request making make).exchanges environment both)
      ((walk.request making make).run environment both).1.isOk := by
  unfold request
  split
  · cases known : make walk.context with
    | error error => exact .nothing
    | ok request => exact ModelRequest.asks_send rfl walk both
  · exact .nothing

/-- If there may be a reply then the request has been sent, whatever is made of the reply. -/
theorem Walk.Asks.of_reply {walk : Walk} {both : Shared × μ} {made : Except Error ModelRequest}
    {exchanges : List (ModelCall × Except Error Reply)} {answered : Bool}
    (asks : walk.Asks making environment both made exchanges answered) (answers : answered = true)
    (replied : Bool) : walk.Asks making environment both made exchanges replied := by
  cases asks with
  | nothing => cases answers
  | collecting known => cases answers
  | sending known collected answer => exact .sending known collected answer replied

theorem Walk.asks_withReply {make : Context → Except Error ModelRequest}
    {next : Reply → Walk → Walked Message} (walk : Walk) (both : Shared × μ)
    {made : Except Error ModelRequest} (known : make walk.context = made) :
    walk.Asks making environment both made
      ((walk.withReply making make next).exchanges environment both)
      ((walk.withReply making make next).run environment both).1.isOk := by
  have asked : walk.Asks making environment both made
      ((walk.request making make).exchanges environment both)
      ((walk.request making make).run environment both).1.isOk := known ▸ walk.asks_request make both
  unfold withReply
  rw [Process.exchanges_bind, Process.run_bind]
  rcases ran : (walk.request making make).run environment both with
    ⟨halt | ⟨reply, after⟩, later⟩
  · rw [ran] at asked
    rw [show Process.exchanges environment (.done (.error halt) : RowProcess (Walked Message)) later =
      [] from rfl, List.append_nil]
    exact asked
  · rw [ran] at asked
    rw [show Process.exchanges environment (.done (next reply after)) later = [] from rfl,
      List.append_nil]
    exact asked.of_reply rfl _

/-- A leaf asks what its request asks, and nothing if it makes no request. -/
theorem Walk.asks_makeMessage (leaf : Leaf) (walk : Walk) (both : Shared × μ) :
    (leaf.request? walk.context = none ∧
      (walk.makeMessage making leaf).exchanges environment both = []) ∨
    ∃ made, leaf.request? walk.context = some made ∧
      walk.Asks making environment both made
        ((walk.makeMessage making leaf).exchanges environment both)
        ((walk.makeMessage making leaf).run environment both).1.isOk := by
  cases leaf with
  | fixed role content => exact .inl ⟨rfl, rfl⟩
  | written role prompt => exact .inr ⟨_, rfl, walk.asks_withReply both rfl⟩
  | call use =>
      simp only [Leaf.request?, makeMessage]
      rcases use.source walk.context with error | ⟨arguments⟩ | ⟨shape⟩
      · exact .inl ⟨rfl, rfl⟩
      · exact .inl ⟨rfl, rfl⟩
      · exact .inr ⟨_, rfl, walk.asks_withReply both rfl⟩
  | result answer =>
      simp only [Leaf.request?, makeMessage]
      rcases answer.source walk.context with error | ⟨callId, ⟨result⟩ | ⟨shape, arguments⟩⟩
      · exact .inl ⟨rfl, rfl⟩
      · exact .inl ⟨rfl, rfl⟩
      · exact .inr ⟨_, rfl, walk.asks_withReply both rfl⟩

end Colloquy
