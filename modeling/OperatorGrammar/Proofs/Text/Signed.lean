import OperatorGrammar.Text.Signed

/-!
# Reading decimal numbers

A text of digits only is read as the number that it denotes, if this number is in range. Reading
stops at the first digit that leads out of range; further digits do not lead back.
-/

namespace OperatorGrammar.Signed

theorem inRange_natCast_iff {n : Nat} : InRange n ↔ n ≤ greatest := by
  unfold InRange least greatest
  omega

theorem le_ofDigitChars (digits : List Char) (value : Nat) :
    value ≤ Nat.ofDigitChars 10 digits value := by
  have hone : 1 ≤ 10 ^ digits.length := Nat.one_le_pow _ _ (by omega)
  calc
    value = 1 * value := (Nat.one_mul value).symm
    _ ≤ 10 ^ digits.length * value := Nat.mul_le_mul_right value hone
    _ ≤ 10 ^ digits.length * value + Nat.ofDigitChars 10 digits 0 := Nat.le_add_right _ _
    _ = Nat.ofDigitChars 10 digits value := Nat.ofDigitChars_eq_ofDigitChars_zero.symm

theorem digit_eq {c : Char} (h : c.isDigit = true) :
    (c.toNat : Int) - 0x30 = (c.toNat - '0'.toNat : Nat) := by
  have hle : 48 ≤ c.toNat := by
    simp only [Char.isDigit, Bool.and_eq_true, decide_eq_true_eq] at h
    exact h.1
  have hzero : '0'.toNat = 48 := rfl
  omega

theorem readDigits_of_isDigit {digits : List Char} (hdigits : ∀ c ∈ digits, c.isDigit = true)
    {value : Nat} (hvalue : InRange value) :
    readDigits false value digits =
      if InRange (Nat.ofDigitChars 10 digits value) then
        .ok (Nat.ofDigitChars 10 digits value : Int)
      else .error .tooLarge := by
  induction digits generalizing value with
  | nil => rw [readDigits, Nat.ofDigitChars_nil, if_pos hvalue]
  | cons c digits ih =>
    have hc := hdigits c List.mem_cons_self
    have hnext : 10 * (value : Int) + ((c.toNat : Int) - 0x30) =
        (10 * value + (c.toNat - '0'.toNat) : Nat) := by
      calc
        10 * (value : Int) + ((c.toNat : Int) - 0x30) =
            10 * (value : Int) + (c.toNat - '0'.toNat : Nat) := by rw [digit_eq hc]
        _ = (10 * value + (c.toNat - '0'.toNat) : Nat) := by norm_cast
    rw [readDigits, if_pos hc, Nat.ofDigitChars_cons]
    simp only [Bool.false_eq_true, if_false, hnext]
    by_cases hrange : InRange (10 * value + (c.toNat - '0'.toNat) : Nat)
    · rw [if_pos hrange]
      exact ih (fun d hd ↦ hdigits d (List.mem_cons_of_mem c hd)) hrange
    · have hle := le_ofDigitChars digits (10 * value + (c.toNat - '0'.toNat))
      have hout :
          ¬InRange (Nat.ofDigitChars 10 digits (10 * value + (c.toNat - '0'.toNat)) : Nat) := by
        rw [inRange_natCast_iff] at hrange ⊢
        omega
      rw [if_neg hrange, if_neg hout]

theorem read_of_isDigit {digits : List Char} (hne : digits ≠ [])
    (hdigits : ∀ c ∈ digits, c.isDigit = true) :
    read digits =
      if InRange (Nat.ofDigitChars 10 digits 0) then .ok (Nat.ofDigitChars 10 digits 0 : Int)
      else .error .tooLarge := by
  have hzero : InRange (0 : Nat) := by decide
  rw [← readDigits_of_isDigit hdigits hzero]
  cases digits with
  | nil => exact absurd rfl hne
  | cons c rest =>
    have hc := hdigits c List.mem_cons_self
    unfold read
    split
    case h_1 h => cases h
    case h_2 h => cases h; cases hc
    case h_3 h => cases h; cases hc
    case h_4 h => cases h; cases hc
    case h_5 h => cases h; cases hc
    case h_6 => rfl

end OperatorGrammar.Signed
