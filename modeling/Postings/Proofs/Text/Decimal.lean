import Postings.Outcome
import Postings.Text.Decimal

/-!
# What the readers of numerals accept

A numeral is an optional sign and one or more digits, with any number of
leading zeros.  The readers accept exactly the numerals of numbers in their
range: going past the limit on the way would leave the number past it too.
-/

namespace Postings

namespace Decimal

/-- The digits of a number. -/
structure IsDigits (digits : List Char) (value : Nat) : Prop where
  present : digits ≠ []
  isDigit : ∀ character ∈ digits, character.isDigit = true
  value_eq : Nat.ofDigitChars 10 digits 0 = value

/-- A numeral without a minus sign. -/
inductive WritesNat : List Char → Nat → Prop where
  | unsigned {digits : List Char} {value : Nat} :
      IsDigits digits value → WritesNat digits value
  | plus {digits : List Char} {value : Nat} :
      IsDigits digits value → WritesNat ('+' :: digits) value

/-- A numeral with any sign. -/
inductive WritesInt : List Char → Int → Prop where
  | nonNegative {numeral : List Char} {value : Nat} :
      WritesNat numeral value → WritesInt numeral value
  | minus {digits : List Char} {value : Nat} :
      IsDigits digits value → WritesInt ('-' :: digits) (-value)

theorem digit?_eq (character : Char) :
    digit? character =
      if character.isDigit then some (character.toNat - '0'.toNat)
      else none := by
  by_cases decimal : '0' ≤ character ∧ character ≤ '9'
  · have isDigit : character.isDigit = true := by
      simpa [Char.isDigit, Char.le_def] using decimal
    rw [digit?, if_pos decimal, if_pos isDigit]
  · have isDigit : ¬ character.isDigit = true := by
      simpa [Char.isDigit, Char.le_def] using decimal
    rw [digit?, if_neg decimal, if_neg isDigit]

theorem le_ofDigitChars (digits : List Char) (value : Nat) :
    value ≤ Nat.ofDigitChars 10 digits value := by
  induction digits generalizing value with
  | nil => exact Nat.le_refl value
  | cons character digits ih =>
      rw [Nat.ofDigitChars_cons]
      have later := ih (10 * value + (character.toNat - '0'.toNat))
      omega

theorem accumulate_eq_ok {limit value result : Nat}
    {overflow : NumeralError} {digits : List Char}
    (inside : value ≤ limit) :
    accumulate limit overflow value digits = .ok result ↔
      (∀ character ∈ digits, character.isDigit = true) ∧
        Nat.ofDigitChars 10 digits value = result ∧ result ≤ limit := by
  induction digits generalizing value with
  | nil =>
      simp only [accumulate, Except.ok.injEq, List.not_mem_nil,
        Nat.ofDigitChars_nil]
      constructor
      · rintro rfl
        exact ⟨fun _ absent => absent.elim, rfl, inside⟩
      · rintro ⟨-, same, -⟩
        exact same
  | cons character digits ih =>
      rw [accumulate, digit?_eq, Nat.ofDigitChars_cons, Nat.mul_comm 10]
      by_cases isDigit : character.isDigit = true
      · simp only [isDigit, if_true, List.forall_mem_cons, true_and]
        by_cases fits :
            value * 10 + (character.toNat - '0'.toNat) ≤ limit
        · rw [if_pos fits]
          exact ih fits
        · rw [if_neg fits]
          constructor
          · intro succeeded
            cases succeeded
          · -- The value only grows, so a digit too many cannot be made up.
            rintro ⟨-, read, bounded⟩
            have reached := le_ofDigitChars digits
              (value * 10 + (character.toNat - '0'.toNat))
            omega
      · simp [isDigit]

theorem readDigits_eq_ok {limit result : Nat} {overflow : NumeralError}
    {digits : List Char} :
    readDigits limit overflow digits = .ok result ↔
      IsDigits digits result ∧ result ≤ limit := by
  cases digits with
  | nil =>
      constructor
      · intro succeeded
        cases succeeded
      · rintro ⟨isDigits, -⟩
        exact absurd rfl isDigits.present
  | cons character digits =>
      rw [readDigits, accumulate_eq_ok (Nat.zero_le limit)]
      · constructor
        · rintro ⟨isDigit, value, bounded⟩
          exact ⟨⟨by simp, isDigit, value⟩, bounded⟩
        · rintro ⟨isDigits, bounded⟩
          exact ⟨isDigits.isDigit, isDigits.value_eq, bounded⟩
      · simp

theorem not_isDigits_cons {sign : Char} {digits : List Char} {value : Nat}
    (noDigit : sign.isDigit = false) : ¬ IsDigits (sign :: digits) value := by
  intro isDigits
  have isDigit := isDigits.isDigit sign List.mem_cons_self
  rw [noDigit] at isDigit
  cases isDigit

theorem writesNat_plus_iff {digits : List Char} {value : Nat} :
    WritesNat ('+' :: digits) value ↔ IsDigits digits value := by
  constructor
  · intro writes
    cases writes with
    | unsigned isDigits => exact absurd isDigits (not_isDigits_cons rfl)
    | plus isDigits => exact isDigits
  · exact .plus

theorem writesNat_unsigned_iff {numeral : List Char} {value : Nat}
    (unsigned : ∀ digits, numeral ≠ '+' :: digits) :
    WritesNat numeral value ↔ IsDigits numeral value := by
  constructor
  · intro writes
    cases writes with
    | unsigned isDigits => exact isDigits
    | plus isDigits => exact absurd rfl (unsigned _)
  · exact .unsigned

theorem readNat_eq_ok {limit result : Nat} {numeral : List Char} :
    readNat limit numeral = .ok result ↔
      WritesNat numeral result ∧ result ≤ limit := by
  unfold readNat
  split
  · constructor
    · intro succeeded
      cases succeeded
    · rintro ⟨writes, -⟩
      cases writes with
      | unsigned isDigits => exact absurd rfl isDigits.present
  · rw [readDigits_eq_ok, writesNat_plus_iff]
  · rename_i unsigned
    rw [readDigits_eq_ok, writesNat_unsigned_iff unsigned]

theorem writesInt_minus_iff {digits : List Char} {value : Int} :
    WritesInt ('-' :: digits) value ↔
      ∃ magnitude : Nat, IsDigits digits magnitude ∧ value = -magnitude := by
  constructor
  · intro writes
    cases writes with
    | nonNegative writesNat =>
        cases writesNat with
        | unsigned isDigits =>
            exact absurd isDigits (not_isDigits_cons rfl)
    | minus isDigits => exact ⟨_, isDigits, rfl⟩
  · rintro ⟨magnitude, isDigits, rfl⟩
    exact .minus isDigits

theorem writesInt_nonNegative_iff {numeral : List Char} {value : Int}
    (nonNegative : ∀ digits, numeral ≠ '-' :: digits) :
    WritesInt numeral value ↔
      ∃ magnitude : Nat, WritesNat numeral magnitude ∧
        value = magnitude := by
  constructor
  · intro writes
    cases writes with
    | nonNegative writesNat => exact ⟨_, writesNat, rfl⟩
    | minus isDigits => exact absurd rfl (nonNegative _)
  · rintro ⟨magnitude, writesNat, rfl⟩
    exact .nonNegative writesNat

/-- The magnitude of a number that is not negative fits if the number does. -/
theorem exists_ofNat_iff {accepts : Nat → Prop} {value : Int64} :
    (∃ magnitude, (accepts magnitude ∧ magnitude ≤ signedLimit) ∧
      Int64.ofNat magnitude = value) ↔
      ∃ magnitude : Nat, accepts magnitude ∧ value.toInt = magnitude := by
  unfold signedLimit
  constructor
  · rintro ⟨magnitude, ⟨accepted, bounded⟩, rfl⟩
    exact ⟨magnitude, accepted, Int64.toInt_ofNat_of_lt (by omega)⟩
  · rintro ⟨magnitude, accepted, denoted⟩
    have bounded := value.toInt_lt
    refine ⟨magnitude, ⟨accepted, by omega⟩, ?_⟩
    rw [← Int64.toInt_inj, Int64.toInt_ofNat_of_lt (by omega), denoted]

/-- The magnitude of a negative number may be one larger. -/
theorem exists_ofInt_neg_iff {accepts : Nat → Prop} {value : Int64} :
    (∃ magnitude : Nat, (accepts magnitude ∧ magnitude ≤ signedLimit + 1) ∧
      Int64.ofInt (-magnitude) = value) ↔
      ∃ magnitude : Nat, accepts magnitude ∧ value.toInt = -magnitude := by
  unfold signedLimit
  constructor
  · rintro ⟨magnitude, ⟨accepted, bounded⟩, rfl⟩
    exact ⟨magnitude, accepted,
      Int64.toInt_ofInt_of_le (by omega) (by omega)⟩
  · rintro ⟨magnitude, accepted, denoted⟩
    have bounded := value.le_toInt
    refine ⟨magnitude, ⟨accepted, by omega⟩, ?_⟩
    rw [← denoted, Int64.ofInt_toInt]

theorem readInt64_eq_ok {numeral : List Char} {value : Int64} :
    readInt64 numeral = .ok value ↔ WritesInt numeral value.toInt := by
  unfold readInt64
  split
  · rw [writesInt_nonNegative_iff (by simp)]
    constructor
    · intro succeeded
      cases succeeded
    · rintro ⟨magnitude, writes, -⟩
      cases writes with
      | unsigned isDigits => exact absurd rfl isDigits.present
  · rw [Outcome.map_eq_ok, writesInt_nonNegative_iff (by simp)]
    simp only [readDigits_eq_ok, writesNat_plus_iff, exists_ofNat_iff]
  · rw [Outcome.map_eq_ok, writesInt_minus_iff]
    simp only [readDigits_eq_ok, exists_ofInt_neg_iff]
  · rename_i noPlus noMinus
    rw [Outcome.map_eq_ok, writesInt_nonNegative_iff noMinus]
    simp only [readDigits_eq_ok, writesNat_unsigned_iff noPlus,
      exists_ofNat_iff]

/-! ## What is written can be read -/

theorem isDigits_toDigits (value : Nat) :
    IsDigits (Nat.toDigits 10 value) value where
  present := Nat.toDigits_ne_nil
  isDigit := fun _ member =>
    Nat.isDigit_of_mem_toDigits (by omega) (Nat.le_refl 10) member
  value_eq := Nat.ofDigitChars_ten_toDigits

theorem writesInt_writeInt (value : Int) :
    WritesInt (writeInt value) value := by
  have magnitude := isDigits_toDigits value.natAbs
  unfold writeInt
  by_cases negative : value < 0
  · rw [if_pos negative]
    have minus := WritesInt.minus magnitude
    rwa [Int.ofNat_natAbs_of_nonpos (Int.le_of_lt negative),
      Int.neg_neg] at minus
  · rw [if_neg negative]
    have nonNegative := WritesInt.nonNegative (.unsigned magnitude)
    rwa [Int.natAbs_of_nonneg (Int.not_lt.mp negative)] at nonNegative

end Decimal

end Postings
