import Colloquy.Outline.Listing
import Colloquy.Outline.Storage
import Colloquy.Outline.Tree
import Colloquy.Unique.Choice

/-!
# Outlines of draws

A stream is outlined by a seed or by the values that it gives. A step on a stream says under `do`
what is drawn from it; choices may go by a store of used identifiers.
-/

set_option autoImplicit false

namespace Colloquy.Outline

open Colloquy.Random (Stream)
open Selection (Choice)
open Colloquy.Unique (Store)

/-- The stream that an outline gives; without a seed, that of another one. -/
def stream (outline : Datum) (otherwise : Int) : Stream :=
  match outline.get? "script", outline.get? "seed" with
  | some script, _ => .ofSource (.scripted ((itemsOf script).map numberOf))
  | none, some (.int seed) => .ofSource (.seeded seed)
  | _, _ => .ofSource (.seeded otherwise)

structure Supply where
  stream : Stream
  store : Option Store

def drawMany (last : Datum) : Nat → Stream → Datum × Stream
  | 0, stream => (last, stream)
  | count + 1, stream => drawMany (.float stream.next.1) count stream.next.2

namespace Supply

def draw {α : Type} (supply : Supply) (encode : α → Datum)
    (drawing : Except Error (Selection.Drawing Float (Except Error α))) :
    Except Error Datum × Supply :=
  match drawing with
  | .error error => (.error error, supply)
  | .ok drawing =>
      let (result, stream) := drawing.run supply.stream
      (result.map encode, { supply with stream := stream })

/-- The option chosen among options, perhaps by a uniqueness rule. -/
def choose (supply : Supply) (prepared : Except Error (List (Choice Item) × Option Unique.UniqueBy)) :
    Except Error Datum × Supply :=
  match prepared with
  | .error error => (.error error, supply)
  | .ok (options, rule) =>
      let ((chosen, store), stream) := (Unique.choose (options.map (Choice.map Item.describe)) rule
        supply.store).run supply.stream
      (chosen.map fun chosen =>
        ((options[chosen.place]?).map fun option => option.item.listing).getD .null,
        ⟨stream, store⟩)

/-- What is seen of the supply: how many values were drawn, and the store if anything was marked. -/
def listing (supply : Supply) : Fields :=
  let marked : Fields :=
    match supply.store with
    | some store => if store.names.isEmpty then [] else [("store", store.listing)]
    | none => []
  ("draws", .int supply.stream.draws) :: marked

end Supply

def weightsDatum (options : List (Choice Item)) : Except Error Datum := do
  let pairs : List (Item × Float) ← (Selection.normalizeWeights options).mapError Error.weights
  return .list (pairs.map fun pair => .list [pair.1.listing, .float pair.2])

def drawStep (scope : Scope) (step : Datum) (supply : Supply) : Except Error Datum × Supply :=
  let given (name : String) : Except Error Datum := value scope (field step name)
  let choices := options scope (field step "options")
  match fieldText step "do" with
  | "next" =>
      let count := ((Datum.integer? (field step "n")).getD 1).toNat
      let (last, stream) := drawMany .null count supply.stream
      (.ok last, { supply with stream := stream })
  | "reset" => (.ok .null, { supply with stream := supply.stream.reset })
  | "repr" => (.ok (.text supply.stream.shown), supply)
  | "normalize_weights" => (choices.bind weightsDatum, supply)
  | "weighted_choice" =>
      supply.choose do return (← choices, ← unique scope (field step "unique_by"))
  | "between" =>
      supply.draw id (do return Selection.betweenBounds (← given "min") (← given "max"))
  | "chance" =>
      supply.draw Datum.bool ((value scope ((step.get? "p").getD (.float 0.5))).map Selection.chance)
  | "sample" =>
      supply.draw (fun items => Datum.list (items.map Item.listing))
        (do return Selection.sampleOf (← given "n") (← sample scope (field step "items")))
  | _ => (senseless "step", supply)

end Colloquy.Outline
