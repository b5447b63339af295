import Mathlib

/-! # Reading an unsigned decimal numeral

How Rust's `from_str_radix` reads an unsigned integer of `width` bits in base
ten (`parseUnsigned`): an empty text is `Empty`, a sign alone is
`InvalidDigit`, a leading `+` is skipped, and then, character by character, a
character that is no digit is `InvalidDigit` and otherwise the value is
multiplied by ten and the digit added, a value past the width being
`PosOverflow`. Its fast path for texts too short to overflow computes the same.

A text is read exactly when it is an optional `+` and one or more digits whose
value fits, and it is read as the value of its digits
(`parseUnsigned_eq_ok_iff`); so the numeral `Nat.toDigits` prints is read back
as the number (`parseUnsigned_toDigits`).
-/

namespace Decimal

/-- The kinds of `ParseIntError` an unsigned parse gives. -/
inductive IntErrorKind where
  | empty
  | invalidDigit
  | posOverflow
  deriving DecidableEq, Repr

/-- The derived `Debug` text of a kind. -/
def IntErrorKind.debug : IntErrorKind → String
  | .empty => "Empty"
  | .invalidDigit => "InvalidDigit"
  | .posOverflow => "PosOverflow"

/-- The loop over the digits: the value read so far times ten plus the next
digit, which must stay below `bound`. -/
def accumulate (bound : Nat) : Nat → List Char → Except IntErrorKind Nat
  | value, [] => .ok value
  | value, c :: rest =>
    if c.isDigit then
      if value * 10 + (c.toNat - '0'.toNat) < bound then
        accumulate bound (value * 10 + (c.toNat - '0'.toNat)) rest
      else .error .posOverflow
    else .error .invalidDigit

/-- `from_str_radix` of an unsigned type of `width` bits, in base ten. -/
def parseUnsigned (width : Nat) : List Char → Except IntErrorKind Nat
  | [] => .error .empty
  | ['+'] | ['-'] => .error .invalidDigit
  | '+' :: digits => accumulate (2 ^ width) 0 digits
  | digits => accumulate (2 ^ width) 0 digits

theorem le_ofDigitChars (chars : List Char) (value : Nat) : value ≤ Nat.ofDigitChars 10 chars value := by
  rw [Nat.ofDigitChars_eq_ofDigitChars_zero]
  have : 1 ≤ 10 ^ chars.length := Nat.one_le_pow _ _ (by decide)
  calc value ≤ 10 ^ chars.length * value := Nat.le_mul_of_pos_left value this
    _ ≤ _ := Nat.le_add_right _ _

/-- The loop reads its characters exactly when they are digits whose value,
once one is read, stays below the bound; it reads them as their value. -/
theorem accumulate_eq_ok_iff {bound : Nat} :
    ∀ {chars : List Char} {value result : Nat},
      accumulate bound value chars = .ok result ↔
        (∀ c ∈ chars, c.isDigit) ∧ Nat.ofDigitChars 10 chars value = result ∧ (chars = [] ∨ result < bound)
  | [], value, result => by
    rw [accumulate]
    simp
  | c :: rest, value, result => by
    have ofDigits : Nat.ofDigitChars 10 (c :: rest) value =
        Nat.ofDigitChars 10 rest (value * 10 + (c.toNat - '0'.toNat)) := by
      rw [Nat.ofDigitChars_cons, Nat.mul_comm]
    rw [accumulate, ofDigits]
    by_cases digit : c.isDigit
    · by_cases fits : value * 10 + (c.toNat - '0'.toNat) < bound
      · rw [if_pos digit, if_pos fits, accumulate_eq_ok_iff]
        simp only [List.forall_mem_cons, digit, true_and, reduceCtorEq, false_or]
        constructor
        · rintro ⟨digits, read, readAll | below⟩
          · -- the digit just read was the last: the value read is the result
            subst readAll
            exact ⟨digits, read, read ▸ fits⟩
          · exact ⟨digits, read, below⟩
        · rintro ⟨digits, read, below⟩
          exact ⟨digits, read, .inr below⟩
      · rw [if_pos digit, if_neg fits]
        have past := le_ofDigitChars rest (value * 10 + (c.toNat - '0'.toNat))
        simp only [reduceCtorEq, false_iff, not_and, List.cons_ne_nil, false_or]
        intro _ read
        omega
    · rw [if_neg digit]
      simp [digit]

@[simp] theorem parseUnsigned_nil (width : Nat) : parseUnsigned width [] = .error .empty := rfl

theorem parseUnsigned_plus (width : Nat) (digits : List Char) :
    parseUnsigned width ('+' :: digits) =
      if digits = [] then .error .invalidDigit else accumulate (2 ^ width) 0 digits := by
  cases digits with
  | nil => rfl
  | cons _ _ => rfl

/-- Without a leading `+` the loop reads the whole text: a `-` alone is no
digit either. -/
theorem parseUnsigned_of_ne_plus (width : Nat) {c : Char} (notPlus : c ≠ '+') (rest : List Char) :
    parseUnsigned width (c :: rest) = accumulate (2 ^ width) 0 (c :: rest) := by
  unfold parseUnsigned
  split
  · contradiction
  · -- a `+` alone
    injection ‹c :: rest = ['+']› with same
    exact absurd same notPlus
  · -- a `-` alone: no digit for the loop either
    injection ‹c :: rest = ['-']› with same rest_nil
    subst same rest_nil
    rfl
  · injection ‹c :: rest = '+' :: _› with same
    exact absurd same notPlus
  · rfl

/-- **What is read.** A text is read exactly when it is an optional `+` and
one or more digits whose value fits the width; it is read as their value. -/
theorem parseUnsigned_eq_ok_iff {width : Nat} {chars : List Char} {result : Nat} :
    parseUnsigned width chars = .ok result ↔
      ∃ digits, (chars = '+' :: digits ∨ chars = digits) ∧ digits ≠ [] ∧ (∀ c ∈ digits, c.isDigit) ∧
        Nat.ofDigitChars 10 digits 0 = result ∧ result < 2 ^ width := by
  cases chars with
  | nil =>
    rw [parseUnsigned_nil]
    constructor
    · intro failed
      cases failed
    · rintro ⟨digits, same | same, nonempty, -⟩
      · cases same
      · exact absurd same.symm nonempty
  | cons c rest =>
    by_cases plus : c = '+'
    · subst plus
      rw [parseUnsigned_plus]
      by_cases empty : rest = []
      · -- a `+` alone
        subst empty
        rw [if_pos rfl]
        constructor
        · intro failed
          cases failed
        · rintro ⟨digits, same | same, nonempty, allDigits, -⟩
          · injection same with _ same
            exact absurd same.symm nonempty
          · exact absurd (allDigits '+' (same ▸ List.mem_cons_self)) (by decide)
      · rw [if_neg empty, accumulate_eq_ok_iff]
        constructor
        · rintro ⟨allDigits, read, readAll | below⟩
          · exact absurd readAll empty
          · exact ⟨rest, .inl rfl, empty, allDigits, read, below⟩
        · rintro ⟨digits, same | same, _, allDigits, read, below⟩
          · injection same with _ same
            subst same
            exact ⟨allDigits, read, .inr below⟩
          · exact absurd (allDigits '+' (same ▸ List.mem_cons_self)) (by decide)
    · rw [parseUnsigned_of_ne_plus width plus, accumulate_eq_ok_iff]
      constructor
      · rintro ⟨allDigits, read, readAll | below⟩
        · cases readAll
        · exact ⟨c :: rest, .inr rfl, List.cons_ne_nil c rest, allDigits, read, below⟩
      · rintro ⟨digits, same | same, _, allDigits, read, below⟩
        · injection same with same
          exact absurd same plus
        · subst same
          exact ⟨allDigits, read, .inr below⟩

/-- **The round trip.** The numeral `Nat.toDigits` prints for a number that
fits the width is read back as the number. -/
theorem parseUnsigned_toDigits {width n : Nat} (fits : n < 2 ^ width) :
    parseUnsigned width (Nat.toDigits 10 n) = .ok n :=
  parseUnsigned_eq_ok_iff.mpr ⟨Nat.toDigits 10 n, .inr rfl, Nat.toDigits_ne_nil,
    fun _ mem => Nat.isDigit_of_mem_toDigits (by decide) (by decide) mem, Nat.ofDigitChars_ten_toDigits, fits⟩

end Decimal
