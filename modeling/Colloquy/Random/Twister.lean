/-!
# The Mersenne Twister

The 32-bit generator of period 2^19937 - 1, seeded from a list of words, and the doubles made of
two consecutive outputs.
-/

set_option autoImplicit false

namespace Colloquy.Random

/-- A block of state words, and how many of them have been given out. -/
structure Twister where
  words : Array UInt32
  used : Nat

def Twister.size : Nat := 624

def Twister.grow (seed : UInt32) : Array UInt32 :=
  Nat.repeat (fun words : Array UInt32 =>
    let last := words.getD (words.size - 1) 0
    words.push ((1812433253 : UInt32) * (last ^^^ (last >>> 30)) + UInt32.ofNat words.size))
    (Twister.size - 1) (Array.singleton seed)

/-- The state words while a key is mixed in: the words and the position of the next one. -/
structure Mixing where
  words : Array UInt32
  position : Nat

def Mixing.blend (mixing : Mixing) (multiplier : UInt32) : UInt32 :=
  let before := mixing.words.getD (mixing.position - 1) 0
  mixing.words.getD mixing.position 0 ^^^ ((before ^^^ (before >>> 30)) * multiplier)

/-- Writes the current word and moves on; after the last word the first repeats it. -/
def Mixing.advance (mixing : Mixing) (word : UInt32) : Mixing :=
  let words := mixing.words.setIfInBounds mixing.position word
  if mixing.position + 1 < Twister.size then ⟨words, mixing.position + 1⟩
  else ⟨words.setIfInBounds 0 (words.getD (Twister.size - 1) 0), 1⟩

def Twister.ofKey (key : List UInt32) : Twister :=
  let rounds := max Twister.size key.length
  let keyed := (List.range rounds).foldl (fun (mixing : Mixing) step =>
    let place := step % key.length
    mixing.advance (mixing.blend 1664525 + key.getD place 0 + UInt32.ofNat place))
    ⟨Twister.grow 19650218, 1⟩
  let settled := Nat.repeat (fun mixing : Mixing =>
    mixing.advance (mixing.blend 1566083941 - UInt32.ofNat mixing.position))
    (Twister.size - 1) keyed
  ⟨settled.words.setIfInBounds 0 0x80000000, Twister.size⟩

def wordCount : Nat := 4294967296

/-- The 32-bit words of a number, least significant first; zero has one. -/
def keyWords (number : Nat) : List UInt32 :=
  if number < wordCount then [UInt32.ofNat number]
  else UInt32.ofNat (number % wordCount) :: keyWords (number / wordCount)
termination_by number
decreasing_by
  have positive : 0 < wordCount := by decide
  exact Nat.div_lt_self (by omega) (by decide)

/-- The generator of an integer seed; only the size of the seed counts, not its sign. -/
def Twister.ofSeed (seed : Int) : Twister :=
  Twister.ofKey (keyWords seed.natAbs)

def Twister.twist (words : Array UInt32) : Array UInt32 :=
  (List.range Twister.size).foldl (fun words index =>
    let joined := (words.getD index 0 &&& 0x80000000) |||
      (words.getD ((index + 1) % Twister.size) 0 &&& 0x7fffffff)
    let far := words.getD ((index + 397) % Twister.size) 0
    words.setIfInBounds index
      (far ^^^ (joined >>> 1) ^^^ (if joined &&& 1 = 1 then 0x9908b0df else 0))) words

def Twister.temper (word : UInt32) : UInt32 :=
  let word := word ^^^ (word >>> 11)
  let word := word ^^^ ((word <<< 7) &&& 0x9d2c5680)
  let word := word ^^^ ((word <<< 15) &&& 0xefc60000)
  word ^^^ (word >>> 18)

def Twister.nextWord (twister : Twister) : UInt32 × Twister :=
  let ready := if twister.used < Twister.size then twister
    else ⟨Twister.twist twister.words, 0⟩
  (Twister.temper (ready.words.getD ready.used 0), ⟨ready.words, ready.used + 1⟩)

/-- A double in `[0, 1)` from the high 27 and 26 bits of two consecutive outputs. -/
def Twister.nextDouble (twister : Twister) : Float × Twister :=
  let (first, twister) := twister.nextWord
  let (second, twister) := twister.nextWord
  let numerator : UInt64 := (first >>> 5).toUInt64 * (67108864 : UInt64) + (second >>> 6).toUInt64
  (numerator.toFloat * (1.0 / 9007199254740992.0), twister)

end Colloquy.Random
