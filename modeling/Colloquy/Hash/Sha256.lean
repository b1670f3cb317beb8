import Colloquy.Number.Power
import Colloquy.Text.Quoted

/-!
# The SHA-256 digest

The digest of FIPS 180-4: the message is padded to whole blocks of sixteen words and each block is
folded into eight chaining words.
-/

set_option autoImplicit false

namespace Colloquy.Hash

/-- The first 32 bits of the fractional parts of the cube roots of the first 64 primes. -/
def roundConstants : List UInt32 := [
  0x428a2f98, 0x71374491, 0xb5c0fbcf, 0xe9b5dba5, 0x3956c25b, 0x59f111f1, 0x923f82a4, 0xab1c5ed5,
  0xd807aa98, 0x12835b01, 0x243185be, 0x550c7dc3, 0x72be5d74, 0x80deb1fe, 0x9bdc06a7, 0xc19bf174,
  0xe49b69c1, 0xefbe4786, 0x0fc19dc6, 0x240ca1cc, 0x2de92c6f, 0x4a7484aa, 0x5cb0a9dc, 0x76f988da,
  0x983e5152, 0xa831c66d, 0xb00327c8, 0xbf597fc7, 0xc6e00bf3, 0xd5a79147, 0x06ca6351, 0x14292967,
  0x27b70a85, 0x2e1b2138, 0x4d2c6dfc, 0x53380d13, 0x650a7354, 0x766a0abb, 0x81c2c92e, 0x92722c85,
  0xa2bfe8a1, 0xa81a664b, 0xc24b8b70, 0xc76c51a3, 0xd192e819, 0xd6990624, 0xf40e3585, 0x106aa070,
  0x19a4c116, 0x1e376c08, 0x2748774c, 0x34b0bcb5, 0x391c0cb3, 0x4ed8aa4a, 0x5b9cca4f, 0x682e6ff3,
  0x748f82ee, 0x78a5636f, 0x84c87814, 0x8cc70208, 0x90befffa, 0xa4506ceb, 0xbef9a3f7, 0xc67178f2]

structure Chain where
  a : UInt32
  b : UInt32
  c : UInt32
  d : UInt32
  e : UInt32
  f : UInt32
  g : UInt32
  h : UInt32

def Chain.start : Chain :=
  ⟨0x6a09e667, 0xbb67ae85, 0x3c6ef372, 0xa54ff53a, 0x510e527f, 0x9b05688c, 0x1f83d9ab, 0x5be0cd19⟩

def rotateRight (word amount : UInt32) : UInt32 :=
  (word >>> amount) ||| (word <<< (32 - amount))

/-- One round on the chaining words with a schedule word and its constant. -/
def Chain.round (chain : Chain) (scheduled constant : UInt32) : Chain :=
  let spread := rotateRight chain.e 6 ^^^ rotateRight chain.e 11 ^^^ rotateRight chain.e 25
  let choice := (chain.e &&& chain.f) ^^^ (~~~chain.e &&& chain.g)
  let first := chain.h + spread + choice + constant + scheduled
  let mixed := rotateRight chain.a 2 ^^^ rotateRight chain.a 13 ^^^ rotateRight chain.a 22
  let majority := (chain.a &&& chain.b) ^^^ (chain.a &&& chain.c) ^^^ (chain.b &&& chain.c)
  ⟨first + (mixed + majority), chain.a, chain.b, chain.c, chain.d + first,
    chain.e, chain.f, chain.g⟩

def Chain.add (left right : Chain) : Chain :=
  ⟨left.a + right.a, left.b + right.b, left.c + right.c, left.d + right.d,
    left.e + right.e, left.f + right.f, left.g + right.g, left.h + right.h⟩

/-- The next word of a message schedule whose words so far are `words`. -/
def scheduleNext (words : Array UInt32) : UInt32 :=
  let back (offset : Nat) : UInt32 := words.getD (words.size - offset) 0
  let low := rotateRight (back 15) 7 ^^^ rotateRight (back 15) 18 ^^^ (back 15 >>> 3)
  let high := rotateRight (back 2) 17 ^^^ rotateRight (back 2) 19 ^^^ (back 2 >>> 10)
  back 16 + low + back 7 + high

def schedule (block : List UInt32) : List UInt32 :=
  (Nat.repeat (fun words : Array UInt32 => words.push (scheduleNext words)) 48 block.toArray).toList

def Chain.absorb (chain : Chain) (block : List UInt32) : Chain :=
  chain.add (((schedule block).zip roundConstants).foldl
    (fun state pair => state.round pair.1 pair.2) chain)

def bigEndian (count number : Nat) : List UInt8 :=
  (List.range count).reverse.map fun position =>
    UInt8.ofNat (number / Number.twoTo (8 * position))

/-- A message followed by a one bit, zeros up to the last eight bytes of a block, and its length. -/
def padded (message : List UInt8) : List UInt8 :=
  let zeros := (119 - message.length % 64) % 64
  message ++ 0x80 :: List.replicate zeros 0 ++ bigEndian 8 (8 * message.length)

def wordsOf : List UInt8 → List UInt32
  | a :: b :: c :: d :: rest =>
      ((a.toUInt32 <<< 24) ||| (b.toUInt32 <<< 16) ||| (c.toUInt32 <<< 8) ||| d.toUInt32) ::
        wordsOf rest
  | _ => []

def Chain.absorbAll (chain : Chain) (words : List UInt32) : Chain :=
  if _short : words.length < 16 then chain
  else (chain.absorb (words.take 16)).absorbAll (words.drop 16)
termination_by words.length
decreasing_by simp only [List.length_drop]; omega

def sha256 (text : String) : String :=
  let chain := Chain.start.absorbAll (wordsOf (padded text.toUTF8.toList))
  String.join ([chain.a, chain.b, chain.c, chain.d, chain.e, chain.f, chain.g, chain.h].map
    fun word => Text.hexadecimal 8 word.toNat)

end Colloquy.Hash
