import RelationAuth.Text.Unsigned

/-!
# Numerals of 64 bits

A numeral consists of decimal digits, one at least, and perhaps a plus sign in front of them.
Exactly the numerals of numbers below the bound of 64 bits are read, and each as its number.
-/

namespace RelationAuth.Text

/-- Whether a text is a numeral of a number. -/
def Denotes (text : List Char) (value : Nat) : Prop :=
  ∃ digits : List Char, (text = digits ∨ text = '+' :: digits) ∧ digits ≠ [] ∧
    (∀ digit ∈ digits, digit.isDigit) ∧ value = Nat.ofDigitChars 10 digits 0

theorem natOfDigits_eq (digits : List Char) :
    natOfDigits digits = Nat.ofDigitChars 10 digits 0 := by
  simp [natOfDigits, Nat.ofDigitChars, Nat.mul_comm]

theorem natOfDigits_digitsOfNat (value : Nat) : natOfDigits (digitsOfNat value) = value := by
  rw [natOfDigits_eq, digitsOfNat, Nat.ofDigitChars_ten_toDigits]

theorem withoutPlus_of_digits {digits : List Char} (all : ∀ digit ∈ digits, digit.isDigit) :
    withoutPlus digits = digits := by
  unfold withoutPlus
  split
  · next rest =>
    have plus := all '+' (by simp)
    simp at plus
  · rfl

theorem eq_withoutPlus_or (text : List Char) :
    text = withoutPlus text ∨ text = '+' :: withoutPlus text := by
  unfold withoutPlus
  split
  · exact .inr rfl
  · exact .inl rfl

/-- The reader accepts exactly the decimal numerals, with or without a plus sign, of numbers below
the bound. -/
theorem parseWord64?_eq_some_iff {text : List Char} {value : Nat} :
    parseWord64? text = some value ↔ Denotes text value ∧ value < word64Bound := by
  constructor
  · intro read
    rw [parseWord64?, Option.ite_none_right_eq_some] at read
    rcases read with ⟨⟨filled, allDigits, small⟩, spelt⟩
    cases spelt
    refine ⟨⟨withoutPlus text, eq_withoutPlus_or text, filled, ?_, natOfDigits_eq _⟩, small⟩
    exact List.all_eq_true.mp allDigits
  · rintro ⟨⟨digits, form, filled, all, rfl⟩, small⟩
    have unsigned : withoutPlus text = digits := by
      rcases form with rfl | rfl
      · exact withoutPlus_of_digits all
      · rfl
    rw [← natOfDigits_eq] at small ⊢
    have allDigits : digits.all Char.isDigit := List.all_eq_true.mpr all
    simp only [parseWord64?, unsigned]
    exact if_pos ⟨filled, allDigits, small⟩

/-- A number's own numeral is read back, if the number fits a word. -/
theorem parseWord64?_digitsOfNat (value : Nat) :
    parseWord64? (digitsOfNat value) = if value < word64Bound then some value else none := by
  have digits : ∀ digit ∈ digitsOfNat value, digit.isDigit := by
    intro digit mem
    exact Nat.isDigit_of_mem_toDigits (by decide) (by decide) mem
  have spelled : digitsOfNat value ≠ [] := Nat.toDigits_ne_nil
  have allDigits : (digitsOfNat value).all Char.isDigit := List.all_eq_true.mpr digits
  simp only [parseWord64?, withoutPlus_of_digits digits, natOfDigits_digitsOfNat, spelled,
    allDigits, ne_eq, not_false_eq_true, true_and]

end RelationAuth.Text
