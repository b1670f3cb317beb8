import Colloquy.Resolution.Generate

/-!
# Sessions

A session resolves schemas again and again on one stream. A check that succeeds leaves a plan, which
later generations follow; a check that fails leaves none.
-/

set_option autoImplicit false

namespace Colloquy

/-- What a session keeps between checks and generations. -/
structure Session where
  making : Making
  seed : Option Int
  rowIndex : Option Int
  metadata : Entries
  stream : Random.Stream
  plan : Option Plan

namespace Session

def check (session : Session) (root : Item) : RowProcess (Except Error Plan × Session) :=
  (Colloquy.check root session.seed session.rowIndex session.stream session.metadata).bind fun
    | .ok (plan, walk) =>
        .done (.ok plan, { session with stream := walk.context.stream, plan := some plan })
    | .error halt =>
        .done (.error halt.error,
          { session with stream := halt.walk.context.stream, plan := none })

/-- Generates a tree by a plan, and reports the steps that were made. -/
def follow (session : Session) (root : Item) (plan : Plan) :
    RowProcess (Except Error Generated × List StepReport × Session) :=
  (generate session.making root session.seed session.rowIndex session.stream plan).bind fun
    | .ok (conversation, walk) =>
        .done (.ok conversation, walk.reports, { session with stream := walk.context.stream })
    | .error halt =>
        .done (.error halt.error, halt.walk.reports,
          { session with stream := halt.walk.context.stream })

/-- Generates a tree by the plan that was kept; nothing happens if there is none. -/
def generate (session : Session) (root : Item) :
    RowProcess (Option (Except Error Generated) × List StepReport × Session) :=
  match session.plan with
  | none => .done (none, [], session)
  | some plan => (session.follow root plan).bind fun (result, reports, session) =>
      .done (some result, reports, session)

end Session

/-- The document of a generated conversation, its metadata being as it is. -/
def Generated.document (conversation : Generated) : Except Datum.NoDocument Fields := do
  let messages ← documentList Message.document conversation.messages
  let tools ← documentList ToolSpec.document conversation.tools
  return [("messages", messages), ("tools", tools), ("metadata", .mapping conversation.metadata)]

end Colloquy
