import Colloquy.Random.Twister

/-!
# Random streams

A stream gives one double after another and counts them. What it gives is fixed by its source and
by how many values were drawn before, so a stream that is reset replays the same values.
-/

set_option autoImplicit false

namespace Colloquy.Random

inductive Source where
  | seeded (seed : Int)
  /-- Given values, of which the last repeats for ever. -/
  | scripted (values : List Float)

/-- The generator in its first state. A script needs none. -/
def Source.start : Source → Twister
  | .seeded seed => Twister.ofSeed seed
  | .scripted _ => ⟨#[], 0⟩

/-- A source, the number of values drawn from it, and the generator that gives the next. -/
structure Stream where
  source : Source
  draws : Nat
  twister : Twister

def Stream.ofSource (source : Source) : Stream :=
  ⟨source, 0, source.start⟩

def Stream.next (stream : Stream) : Float × Stream :=
  match stream.source with
  | .seeded _ =>
      let (value, twister) := stream.twister.nextDouble
      (value, ⟨stream.source, stream.draws + 1, twister⟩)
  | .scripted values =>
      (values.getD (min stream.draws (values.length - 1)) 0.0,
        ⟨stream.source, stream.draws + 1, stream.twister⟩)

def Stream.reset (stream : Stream) : Stream :=
  Stream.ofSource stream.source

def Stream.shown (stream : Stream) : String :=
  match stream.source with
  | .seeded seed => s!"RngStream(seed={seed}, draws={stream.draws})"
  | .scripted _ => s!"ScriptedStream(seed=0, draws={stream.draws})"

@[simp]
theorem Stream.source_next (stream : Stream) : stream.next.2.source = stream.source := by
  unfold Stream.next
  cases stream.source <;> rfl

@[simp]
theorem Stream.draws_next (stream : Stream) : stream.next.2.draws = stream.draws + 1 := by
  unfold Stream.next
  cases stream.source <;> rfl

@[simp]
theorem Stream.reset_next (stream : Stream) : stream.next.2.reset = stream.reset := by
  simp [Stream.reset]

end Colloquy.Random
