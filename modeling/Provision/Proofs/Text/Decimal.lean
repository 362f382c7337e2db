import Provision.Text.Decimal

namespace Provision.Text

/-!
# Decimal digits

Only digits are read as a number.  Digits without a leading zero are the written form of the number
that they are read as, so a number that has to be written without leading zeros has one written form.
-/

/-- A text of digits that stands for a 64-bit number.  Zeros may lead it. -/
structure IsNumeral (digits : List Char) (value : UInt64) : Prop where
  notEmpty : digits ≠ []
  areDigits : ∀ c ∈ digits, c.isDigit = true
  stands : Nat.ofDigitChars 10 digits 0 = value.toNat

/-! ## Reading digits -/

/-- Digits are read onto the value before them as decimal digits. -/
theorem decimalFrom_of_digits
    {digits : List Char}
    (value : Nat)
    (areDigits : ∀ c ∈ digits, c.isDigit = true) :
    decimalFrom value digits =
      some (Nat.ofDigitChars 10 digits value) := by
  induction digits generalizing value with
  | nil =>
      simp [decimalFrom]
  | cons c rest inductionHypothesis =>
      have firstDigit : c.isDigit = true :=
        areDigits c (by simp)
      have restDigits : ∀ d ∈ rest, d.isDigit = true :=
        fun d member => areDigits d (by simp [member])
      rw [decimalFrom, digit?, if_pos firstDigit,
        Nat.ofDigitChars_cons]
      exact inductionHypothesis _ restDigits

/-- Nothing but digits is read onto a value. -/
theorem isDigit_of_decimalFrom
    {value number : Nat}
    {digits : List Char}
    (read : decimalFrom value digits = some number) :
    ∀ c ∈ digits, c.isDigit = true := by
  induction digits generalizing value with
  | nil =>
      simp
  | cons c rest inductionHypothesis =>
      by_cases digit : c.isDigit = true
      · simp only [decimalFrom, digit?, if_pos digit] at read
        have restDigits := inductionHypothesis read
        intro d member
        rcases List.mem_cons.mp member with isFirst | inRest
        · rw [isFirst]
          exact digit
        · exact restDigits d inRest
      · simp [decimalFrom, digit?, digit] at read

/-- A text is read as a number exactly if it consists of digits, of one at least. -/
theorem decimal?_eq_some_iff
    {digits : List Char}
    {number : Nat} :
    decimal? digits = some number ↔
      digits ≠ [] ∧
        (∀ c ∈ digits, c.isDigit = true) ∧
          Nat.ofDigitChars 10 digits 0 = number := by
  cases digits with
  | nil =>
      simp [decimal?]
  | cons c rest =>
      rw [decimal?.eq_2 _ (by simp)]
      constructor
      · intro read
        have areDigits := isDigit_of_decimalFrom read
        rw [decimalFrom_of_digits 0 areDigits, Option.some.injEq] at read
        exact ⟨by simp, areDigits, read⟩
      · rintro ⟨-, areDigits, stands⟩
        rw [decimalFrom_of_digits 0 areDigits, stands]

/-- A text is read as a 64-bit number exactly if it is a numeral of that number. -/
theorem word64?_eq_some_iff
    {digits : List Char}
    {value : UInt64} :
    word64? digits = some value ↔ IsNumeral digits value := by
  rw [word64?]
  constructor
  · intro read
    cases isNumber : decimal? digits with
    | none =>
        simp [isNumber] at read
    | some number =>
        obtain ⟨notEmpty, areDigits, stands⟩ :=
          decimal?_eq_some_iff.mp isNumber
        simp only [isNumber] at read
        split at read
        · rename_i fits
          rw [Option.some.injEq] at read
          refine ⟨notEmpty, areDigits, ?_⟩
          rw [stands, ← read, UInt64.toNat_ofNat_of_lt' fits]
        · simp at read
  · intro numeral
    have isNumber : decimal? digits = some value.toNat :=
      decimal?_eq_some_iff.mpr
        ⟨numeral.notEmpty, numeral.areDigits, numeral.stands⟩
    simp [isNumber, UInt64.toNat_lt_size]

/-! ## Writing digits -/

/-- The written form of a number is a numeral of it. -/
theorem isNumeral_toDigits (value : UInt64) :
    IsNumeral (Nat.toDigits 10 value.toNat) value where
  notEmpty := Nat.toDigits_ne_nil
  areDigits _ member :=
    Nat.isDigit_of_mem_toDigits (by decide) (by decide) member
  stands := Nat.ofDigitChars_ten_toDigits

/-- The codes of the digits. -/
private theorem bounds_of_isDigit
    {c : Char}
    (digit : c.isDigit = true) :
    '0'.toNat ≤ c.toNat ∧ c.toNat < '0'.toNat + 10 := by
  simp only [Char.isDigit, Bool.and_eq_true, decide_eq_true_eq,
    UInt32.le_iff_toNat_le] at digit
  exact ⟨digit.1, Nat.lt_succ_of_le digit.2⟩

/-- A digit is the written form of its value. -/
private theorem toDigits_digit
    {c : Char}
    (digit : c.isDigit = true) :
    Nat.toDigits 10 (c.toNat - '0'.toNat) = [c] := by
  have bounds := bounds_of_isDigit digit
  have small : c.toNat - '0'.toNat < 10 := by
    omega
  have same : Nat.digitChar (c.toNat - '0'.toNat) = c := by
    apply Char.toNat_inj.mp
    rw [Nat.toNat_digitChar_of_lt_ten small]
    change '0'.toNat + _ = _
    omega
  rw [Nat.toDigits_of_lt_base small, same]

/-- Digits behind the written form of a positive number make the written form of a larger one. -/
private theorem toDigits_append_digits
    {value : Nat}
    {digits : List Char}
    (positive : 0 < value)
    (areDigits : ∀ c ∈ digits, c.isDigit = true) :
    Nat.toDigits 10 value ++ digits =
      Nat.toDigits 10 (Nat.ofDigitChars 10 digits value) := by
  induction digits generalizing value with
  | nil =>
      simp
  | cons c rest inductionHypothesis =>
      have firstDigit : c.isDigit = true :=
        areDigits c (by simp)
      have restDigits : ∀ d ∈ rest, d.isDigit = true :=
        fun d member => areDigits d (by simp [member])
      have bounds := bounds_of_isDigit firstDigit
      have extended :
          Nat.toDigits 10 value ++ [c] =
            Nat.toDigits 10 (10 * value + (c.toNat - '0'.toNat)) := by
        rw [← toDigits_digit firstDigit]
        exact Nat.toDigits_append_toDigits (by decide) positive (by omega)
      calc
        Nat.toDigits 10 value ++ c :: rest =
            (Nat.toDigits 10 value ++ [c]) ++ rest := by simp
        _ = Nat.toDigits 10 (10 * value + (c.toNat - '0'.toNat)) ++ rest := by
            rw [extended]
        _ = Nat.toDigits 10 (Nat.ofDigitChars 10 (c :: rest) value) := by
            rw [inductionHypothesis (by omega) restDigits,
              Nat.ofDigitChars_cons]

/-- Digits that no zero leads are the written form of their number, and so is the zero alone. -/
theorem toDigits_ofDigitChars
    {digits : List Char}
    (notEmpty : digits ≠ [])
    (areDigits : ∀ c ∈ digits, c.isDigit = true)
    (noLeadingZero :
      ∀ second others, digits ≠ '0' :: second :: others) :
    Nat.toDigits 10 (Nat.ofDigitChars 10 digits 0) = digits := by
  cases digits with
  | nil =>
      exact absurd rfl notEmpty
  | cons c rest =>
      by_cases isZero : c = '0'
      · cases rest with
        | nil =>
            rw [isZero]
            rfl
        | cons second others =>
            rw [isZero] at noLeadingZero
            exact absurd rfl (noLeadingZero second others)
      · have firstDigit : c.isDigit = true :=
          areDigits c (by simp)
        have restDigits : ∀ d ∈ rest, d.isDigit = true :=
          fun d member => areDigits d (by simp [member])
        have bounds := bounds_of_isDigit firstDigit
        have positive : 0 < c.toNat - '0'.toNat := by
          have notZero : c.toNat ≠ '0'.toNat :=
            fun same => isZero (Char.toNat_inj.mp same)
          omega
        rw [Nat.ofDigitChars_cons, Nat.mul_zero, Nat.zero_add,
          ← toDigits_append_digits positive restDigits,
          toDigits_digit firstDigit]
        rfl

/-- A zero leads the written form of no number but zero, and there it stands alone. -/
theorem toDigits_ne_zero_cons_cons
    (value : Nat)
    (second : Char)
    (others : List Char) :
    Nat.toDigits 10 value ≠ '0' :: second :: others := by
  -- The digits of a number of ten or more open with those of its tenth.
  induction value using Nat.strongRecOn generalizing second others with
  | ind value inductionHypothesis =>
      by_cases small : value < 10
      · simp [Nat.toDigits_of_lt_base small]
      · rw [Nat.toDigits_of_base_le (by decide) (by omega)]
        intro leads
        cases higher : Nat.toDigits 10 (value / 10) with
        | nil =>
            exact absurd higher Nat.toDigits_ne_nil
        | cons first more =>
            rw [higher, List.cons_append, List.cons.injEq] at leads
            rw [leads.1] at higher
            cases more with
            | nil =>
                have back :=
                  Nat.ofDigitChars_ten_toDigits (n := value / 10)
                rw [higher] at back
                have quotient : value / 10 = 0 := by
                  simpa [Nat.ofDigitChars_cons] using back.symm
                omega
            | cons third later =>
                exact inductionHypothesis (value / 10) (by omega)
                  third later higher

end Provision.Text
