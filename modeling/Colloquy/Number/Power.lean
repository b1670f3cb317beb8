/-!
# Powers of two and ten

The powers that doubles and decimal numerals are made of.
-/

set_option autoImplicit false

namespace Colloquy.Number

def twoTo (exponent : Nat) : Nat := Nat.pow 2 exponent

def tenTo (exponent : Nat) : Nat := Nat.pow 10 exponent

theorem twoTo_succ (exponent : Nat) : twoTo (exponent + 1) = twoTo exponent * 2 := rfl

theorem tenTo_succ (exponent : Nat) : tenTo (exponent + 1) = tenTo exponent * 10 := rfl

theorem twoTo_pos (exponent : Nat) : 0 < twoTo exponent := by
  induction exponent with
  | zero => exact Nat.zero_lt_one
  | succ exponent ih => exact Nat.mul_pos ih Nat.zero_lt_two

theorem tenTo_pos (exponent : Nat) : 0 < tenTo exponent := by
  induction exponent with
  | zero => exact Nat.zero_lt_one
  | succ exponent ih => exact Nat.mul_pos ih (by decide)

end Colloquy.Number
