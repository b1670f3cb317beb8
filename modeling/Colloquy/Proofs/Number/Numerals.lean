import Colloquy.Number.Radix
import Mathlib.Data.Nat.Digits.Lemmas

/-!
# Reading numerals in base thirty-six

The numeral of a number reads back as the number. No other text does that has no needless zero in
front, so that numbers and their numerals correspond one to one.
-/

set_option autoImplicit false

namespace Colloquy.Number

/-- The digits in the order of what they stand for. -/
def alphabet36 : List Char := "0123456789abcdefghijklmnopqrstuvwxyz".toList

def digitValue? (digit : Char) : Option Nat := alphabet36.idxOf? digit

/-- The number that digits stand for, the most significant digit first. -/
def valueOf? (digits : List Char) : Option Nat :=
  (digits.mapM digitValue?).map fun values => Nat.ofDigits 36 values.reverse

/-- The text is how a number is written: its digits stand for the number, and it begins with a zero
only if it is nothing but that zero. -/
structure IsNumeral36 (text : String) (value : Nat) : Prop where
  reads : valueOf? text.toList = some value
  inhabited : text ≠ ""
  plain : text.toList.head? = some '0' → text = "0"

theorem digits36_eq (value : Nat) : digits36 value = Nat.digits 36 value := by
  induction value using Nat.strongRecOn with
  | ind value ih =>
      rw [digits36]
      split
      next zero => simp [zero]
      next positive =>
        have smaller : value / 36 < value :=
          Nat.div_lt_self (Nat.pos_of_ne_zero positive) (by decide)
        rw [ih _ smaller, Nat.digits_def' (by decide) (Nat.pos_of_ne_zero positive)]

theorem digitValue?_digit36 {value : Nat} (small : value < 36) :
    digitValue? (digit36 value) = some value := by
  have all : ∀ small : Fin 36, digitValue? (digit36 small) = some small.val := by decide
  exact all ⟨value, small⟩

theorem digitValue?_eq_some {digit : Char} {value : Nat} (known : digitValue? digit = some value) :
    value < 36 ∧ digit36 value = digit := by
  have all : ∀ small : Fin 36, alphabet36[small.val]? = some (digit36 small) := by decide
  obtain ⟨small, here, _⟩ := List.findIdx?_eq_some_iff_getElem.1 known
  refine ⟨small, ?_⟩
  have there := all ⟨value, small⟩
  rw [List.getElem?_eq_getElem small] at there
  rw [← Option.some.inj there]
  simpa using here

theorem mapM_digitValue?_digits {values : List Nat} (small : ∀ value ∈ values, value < 36) :
    (values.map digit36).mapM digitValue? = some values := by
  induction values with
  | nil => rfl
  | cons value values ih =>
      have rest := ih fun other member => small other (List.mem_cons_of_mem _ member)
      rw [List.map_cons, List.mapM_cons, digitValue?_digit36 (small value List.mem_cons_self), rest]
      rfl

theorem mapM_digitValue?_eq_some {digits : List Char} {values : List Nat}
    (read : digits.mapM digitValue? = some values) :
    (∀ value ∈ values, value < 36) ∧ values.map digit36 = digits := by
  induction digits generalizing values with
  | nil =>
      cases read
      simp
  | cons digit digits ih =>
      rw [List.mapM_cons] at read
      obtain ⟨value, first, read⟩ := Option.bind_eq_some_iff.1 read
      obtain ⟨others, rest, same⟩ := Option.bind_eq_some_iff.1 read
      cases same
      obtain ⟨small, written⟩ := digitValue?_eq_some first
      obtain ⟨allSmall, allWritten⟩ := ih rest
      exact ⟨List.forall_mem_cons.2 ⟨small, allSmall⟩, by rw [List.map_cons, written, allWritten]⟩

theorem toList_base36 {value : Nat} (positive : value ≠ 0) :
    (base36 value).toList = (Nat.digits 36 value).reverse.map digit36 := by
  rw [base36, if_neg positive, String.toList_ofList, digits36_eq]

theorem isNumeral36_base36 (value : Nat) : IsNumeral36 (base36 value) value := by
  by_cases zero : value = 0
  · subst zero
    exact ⟨by decide, by decide, fun _ => rfl⟩
  have written := toList_base36 zero
  have small : ∀ digit ∈ (Nat.digits 36 value).reverse, digit < 36 := fun digit member =>
    Nat.digits_lt_base (by decide) (List.mem_reverse.1 member)
  have some_digit : Nat.digits 36 value ≠ [] := Nat.digits_ne_nil_iff_ne_zero.2 zero
  refine ⟨?_, fun empty => ?_, fun leading => ?_⟩
  · rw [valueOf?, written, mapM_digitValue?_digits small, Option.map_some, List.reverse_reverse,
      Nat.ofDigits_digits]
  · rw [empty] at written
    exact some_digit (List.reverse_eq_nil_iff.1 (List.map_eq_nil_iff.1 written.symm))
  · -- The first digit is the most significant one, which is not zero.
    rw [written, List.head?_map, List.head?_reverse, List.getLast?_eq_some_getLast some_digit,
      Option.map_some, Option.some.injEq] at leading
    have last := Nat.getLast_digit_ne_zero 36 zero
    have low := Nat.digits_lt_base (by decide) (List.getLast_mem some_digit)
    have read := digitValue?_digit36 low
    rw [leading, show digitValue? '0' = some 0 by decide] at read
    exact absurd (Option.some.inj read).symm last

/-- The texts that a number is written as are its numeral, and nothing else. -/
theorem isNumeral36_iff {text : String} {value : Nat} :
    IsNumeral36 text value ↔ text = base36 value := by
  constructor
  · rintro ⟨reads, inhabited, plain⟩
    obtain ⟨values, read, rfl⟩ := Option.map_eq_some_iff.1 reads
    obtain ⟨small, written⟩ := mapM_digitValue?_eq_some read
    rw [← String.toList_inj]
    cases values with
    | nil => exact absurd (String.toList_eq_nil_iff.1 written.symm) inhabited
    | cons first rest =>
        by_cases leading : first = 0
        · have head : text.toList.head? = some '0' := by rw [← written, leading]; rfl
          have only : rest = [] := by
            have long := congrArg List.length written
            rw [plain head] at long
            simpa using long
          rw [plain head, leading, only]
          rfl
        · have digits : Nat.digits 36 (Nat.ofDigits 36 (first :: rest).reverse) =
              (first :: rest).reverse := by
            refine Nat.digits_ofDigits 36 (by decide) _ (fun digit member => ?_) fun _ => ?_
            · exact small digit (List.mem_reverse.1 member)
            · rwa [List.getLast_reverse]
          have positive : Nat.ofDigits 36 (first :: rest).reverse ≠ 0 := by
            rw [← Nat.digits_ne_nil_iff_ne_zero, digits]
            simp
          rw [toList_base36 positive, digits, List.reverse_reverse, written]
  · rintro rfl
    exact isNumeral36_base36 value

end Colloquy.Number
