import FormRules.Text.Decimal

/-!
Contract: numbers written in digits and read back.

Owns: the digits of the decimal form, and the 32-bit number read from them.

Does not own: numerals that no number is written as, such as those with
leading zeros.
-/

namespace FormRules.Text

theorem toList_decimal (value : Nat) : (decimal value).toList = Nat.toDigits 10 value := by
  rw [decimal, String.toList_ofList]

theorem isDigit_of_mem_decimal {value : Nat} {digit : Char}
    (member : digit ∈ (decimal value).toList) :
    digit.isDigit = true := by
  rw [toList_decimal] at member
  exact Nat.isDigit_of_mem_toDigits (by decide) (by decide) member

theorem toList_decimal_ne_nil (value : Nat) : (decimal value).toList ≠ [] := by
  rw [toList_decimal]
  exact Nat.toDigits_ne_nil

/-- No number but zero starts with a zero. -/
theorem toDigits_head_ne_zero {value : Nat} (positive : 0 < value) :
    ∃ first more, Nat.toDigits 10 value = first :: more ∧ first ≠ '0' := by
  induction value using Nat.strongRecOn with
  | ind value inductionHypothesis =>
      by_cases single : value < 10
      · refine ⟨Nat.digitChar value, [], Nat.toDigits_of_lt_base single, ?_⟩
        have each : ∀ digit < 10, 0 < digit → Nat.digitChar digit ≠ '0' := by decide
        exact each value single positive
      · have atLeast : 10 ≤ value := Nat.le_of_not_lt single
        obtain ⟨first, more, digits, proper⟩ :=
          inductionHypothesis (value / 10) (by omega) (by omega)
        refine ⟨first, more ++ [Nat.digitChar (value % 10)], ?_, proper⟩
        rw [Nat.toDigits_of_base_le (by decide) atLeast, digits, List.cons_append]

theorem digitsValue_decimal (value : Nat) : digitsValue (decimal value).toList = value := by
  have read := Nat.ofDigitChars_ten_toDigits (n := value)
  rw [Nat.ofDigitChars_eq_foldl] at read
  simp only [Nat.mul_comm 10] at read
  rw [toList_decimal, digitsValue, read]

theorem naturalOf?_decimal (value : Nat) : naturalOf? (decimal value).toList = some value := by
  have digits : (decimal value).toList.all Char.isDigit = true :=
    List.all_eq_true.2 fun _ member => isDigit_of_mem_decimal member
  have nonempty : (decimal value).toList.isEmpty = false :=
    List.isEmpty_eq_false_iff.2 (toList_decimal_ne_nil value)
  rw [naturalOf?, digits, nonempty, digitsValue_decimal]
  rfl

/-- A 32-bit number is read back from its decimal form. -/
theorem readWord32?_decimal (value : UInt32) :
    readWord32? (decimal value.toNat).toList = some value := by
  have noSign : ∀ rest, (decimal value.toNat).toList ≠ '+' :: rest := by
    intro rest signed
    have sign : '+' ∈ (decimal value.toNat).toList := by
      rw [signed]
      exact List.mem_cons_self
    exact absurd (isDigit_of_mem_decimal sign) (by decide)
  unfold readWord32?
  split
  next digits signed => exact absurd signed (noSign digits)
  next =>
    rw [naturalOf?_decimal, Option.bind_some, word32?, if_pos value.toNat_lt_size,
      UInt32.ofNat_toNat]

end FormRules.Text
