import Mathlib.Data.List.TakeWhile

/-!
# Data.Numeral — decimal numerals

A decimal numeral is a non-empty text of digits. What is printed for a number is one
(`decimal_toDigits`), and its value is the number.
-/

namespace Numeral

def Decimal (text : List Char) : Prop := text ≠ [] ∧ text.all Char.isDigit = true

instance (text : List Char) : Decidable (Decimal text) := inferInstanceAs (Decidable (_ ∧ _))

def value (text : List Char) : Nat := Nat.ofDigitChars 10 text 0

variable {text : List Char} {c : Char}

theorem Decimal.isDigit (h : Decimal text) (hc : c ∈ text) : c.isDigit = true :=
  List.all_eq_true.mp h.2 c hc

theorem decimal_toDigits (n : Nat) : Decimal (Nat.toDigits 10 n) := by
  constructor
  · exact Nat.toDigits_ne_nil
  · rw [List.all_eq_true]
    intro c hc
    exact Nat.isDigit_of_mem_toDigits (by decide) (by decide) hc

theorem value_toDigits (n : Nat) : value (Nat.toDigits 10 n) = n :=
  Nat.ofDigitChars_toDigits (by decide) (by decide)

theorem toDigits_injective : Function.Injective (Nat.toDigits 10) := by
  intro m n h
  rw [← value_toDigits m, h, value_toDigits]

theorem Decimal.takeWhile_isDigit (h : Decimal text) : text.takeWhile Char.isDigit = text :=
  List.takeWhile_eq_self_iff.mpr fun _ => h.isDigit

theorem Decimal.dropWhile_isDigit (h : Decimal text) : text.dropWhile Char.isDigit = [] :=
  List.dropWhile_eq_nil_iff.mpr fun _ => h.isDigit

theorem Decimal.ne (h : Decimal text) (hc : c.isDigit = false) : ∀ a ∈ text, (a != c) = true := by
  intro a ha
  rw [bne_iff_ne]
  rintro rfl
  rw [h.isDigit ha] at hc
  cases hc

end Numeral
