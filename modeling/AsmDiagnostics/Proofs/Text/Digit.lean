import AsmDiagnostics.Text.Digit

/-!
# Reading numbers

A text of ASCII digits is read as its decimal value, unless that value passes the limit.
-/

namespace AsmDiagnostics.Text

theorem digitValue?_eq_some_iff {c : Char} {digit : Nat} :
    digitValue? c = some digit ↔ c.isDigit = true ∧ digit = c.toNat - '0'.toNat := by
  have same : ('0' ≤ c ∧ c ≤ '9') ↔ c.isDigit = true := by
    rw [Char.isDigit_iff_toNat]
    exact Iff.rfl
  unfold digitValue?
  split
  · rename_i ascii
    simp [same.mp ascii, eq_comm]
  · rename_i other
    exact iff_of_false nofun fun h => other (same.mpr h.1)

theorem digitValue?_eq_none_iff {c : Char} : digitValue? c = none ↔ ¬ c.isDigit = true := by
  constructor
  · intro none ascii
    rw [digitValue?_eq_some_iff.mpr ⟨ascii, rfl⟩] at none
    simp at none
  · intro other
    cases value : digitValue? c with
    | none => rfl
    | some digit => exact absurd (digitValue?_eq_some_iff.mp value).1 other

theorem le_ofDigitChars (digits : List Char) (value : Nat) :
    value ≤ Nat.ofDigitChars 10 digits value := by
  induction digits generalizing value with
  | nil => simp
  | cons c rest ih =>
      rw [Nat.ofDigitChars_cons]
      have next := ih (10 * value + (c.toNat - '0'.toNat))
      omega

theorem readDigits_eq_ok_iff {limit value number : Nat} {digits : List Char}
    (h : value ≤ limit) :
    readDigits limit value digits = .ok number ↔
      (∀ c ∈ digits, c.isDigit = true) ∧ Nat.ofDigitChars 10 digits value = number ∧
        number ≤ limit := by
  induction digits generalizing value with
  | nil =>
      simp only [readDigits, Except.ok.injEq, List.not_mem_nil, false_imp_iff, implies_true,
        Nat.ofDigitChars_nil, true_and]
      constructor
      · rintro rfl
        exact ⟨rfl, h⟩
      · exact And.left
  | cons c rest ih =>
      rw [readDigits, List.forall_mem_cons]
      cases own : digitValue? c with
      | none => simp [digitValue?_eq_none_iff.mp own]
      | some digit =>
          obtain ⟨ascii, rfl⟩ := digitValue?_eq_some_iff.mp own
          have next := le_ofDigitChars rest (10 * value + (c.toNat - '0'.toNat))
          dsimp only
          rw [Nat.ofDigitChars_cons, Nat.mul_comm 10 value]
          rw [Nat.mul_comm 10 value] at next
          split
          · rename_i large
            refine iff_of_false nofun ?_
            rintro ⟨-, rfl, small⟩
            omega
          · rename_i small
            rw [ih (Nat.le_of_not_lt small)]
            simp [ascii]

/-- Every ASCII digit is a decimal digit. -/
theorem isDecimalDigit_of_isDigit {c : Char} (h : c.isDigit = true) : isDecimalDigit c = true := by
  obtain ⟨low, high⟩ := Char.isDigit_iff_toNat.mp h
  have above : (0x30 : Nat) ≤ c.toNat := low
  have below : c.toNat < 0x30 + 10 := Nat.lt_succ_of_le high
  simp [isDecimalDigit, zeroDigits, above, below]

theorem readDigits_decimal {limit number : Nat} (h : number ≤ limit) :
    readDigits limit 0 (decimal number) = .ok number := by
  refine (readDigits_eq_ok_iff (Nat.zero_le limit)).mpr ⟨?_, Nat.ofDigitChars_ten_toDigits, h⟩
  intro c member
  exact Nat.isDigit_of_mem_toDigits (by decide) (by decide) member

theorem decimal_digits (number : Nat) : ∀ c ∈ decimal number, isDecimalDigit c = true :=
  fun _ member =>
    isDecimalDigit_of_isDigit (Nat.isDigit_of_mem_toDigits (by decide) (by decide) member)

theorem decimal_ne_nil (number : Nat) : decimal number ≠ [] := Nat.toDigits_ne_nil

end AsmDiagnostics.Text
