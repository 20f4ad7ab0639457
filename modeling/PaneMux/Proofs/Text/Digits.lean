import Mathlib.Algebra.Group.Nat.Defs
import Mathlib.Data.Nat.Basic
import PaneMux.Text.Blank
import PaneMux.Text.Decimal

/-!
# Digits

What the writers of numbers promise to their readers: a number is written in digits and nothing else,
padding changes its length and not its value, and the digits of a number in base ten do not begin
with a zero unless the number is zero. A number that is written as a text is read off it again.
-/

namespace PaneMux.Text

variable {c : Char} {n width : Nat}

theorem digitValue?_of_isDigit (h : c.isDigit = true) :
    digitValue? c = some (c.toNat - '0'.toNat) := by
  simp only [Char.isDigit, Bool.and_eq_true, decide_eq_true_eq] at h
  exact if_pos h

theorem digitValue?_of_not_isDigit (h : c.isDigit = false) : digitValue? c = none := by
  simp only [Char.isDigit, Bool.and_eq_false_iff, decide_eq_false_iff_not] at h
  exact if_neg fun hdigit => h.elim (fun hlow => hlow hdigit.1) fun hhigh => hhigh hdigit.2

theorem sub_zero_ne_zero (h : c.isDigit = true) (hne : c ≠ '0') : c.toNat - '0'.toNat ≠ 0 := by
  simp only [Char.isDigit, Bool.and_eq_true, decide_eq_true_eq] at h
  have hlow : '0'.toNat ≤ c.toNat := h.1
  have hother : c.toNat ≠ '0'.toNat := fun heq => hne (Char.toNat_inj.mp heq)
  omega

theorem isDigit_of_mem_toDigits (h : c ∈ Nat.toDigits 10 n) : c.isDigit = true :=
  Nat.isDigit_of_mem_toDigits (by decide) (by decide) h

/-- The digits of a number other than zero do not begin with a zero. -/
theorem head?_toDigits_ne_zero (h : 0 < n) : (Nat.toDigits 10 n).head? ≠ some '0' := by
  induction n using Nat.strongRecOn with
  | ind n ih =>
    by_cases hsmall : n < 10
    · rw [Nat.toDigits_of_lt_base hsmall]
      simpa using Nat.ne_of_gt h
    · rw [Nat.toDigits_of_base_le (by decide) (by omega), List.head?_append]
      have hhead := ih (n / 10) (by omega) (by omega)
      cases hdigits : Nat.toDigits 10 (n / 10) with
      | nil => exact absurd hdigits Nat.toDigits_ne_nil
      | cons c cs => simpa [hdigits] using hhead

/-! ## Padded numbers -/

theorem isDigit_of_mem_padded (h : c ∈ padded width n) : c.isDigit = true := by
  rcases List.mem_append.mp h with hzero | hdigit
  · rw [List.eq_of_mem_replicate hzero]
    rfl
  · exact isDigit_of_mem_toDigits hdigit

theorem length_padded (hpos : 0 < width) (h : n < 10 ^ width) : (padded width n).length = width := by
  have hlength := (Nat.length_toDigits_le_iff (by decide : 1 < 10) hpos).mpr h
  rw [padded, List.length_append, List.length_replicate]
  omega

private theorem ofDigitChars_zeros (k : Nat) : Nat.ofDigitChars 10 (List.replicate k '0') 0 = 0 := by
  induction k with
  | zero => rfl
  | succ k ih => rw [List.replicate_succ, Nat.ofDigitChars_cons]; exact ih

/-- **Padding does not change the value.** -/
@[simp]
theorem ofDigitChars_padded (width n : Nat) : Nat.ofDigitChars 10 (padded width n) 0 = n := by
  rw [padded, Nat.ofDigitChars_append, ofDigitChars_zeros, Nat.ofDigitChars_ten_toDigits]

/-! ## Numbers as texts -/

theorem digitsValue?_of_digits {cs : List Char} (h : ∀ c ∈ cs, c.isDigit = true) (acc : Nat) :
    digitsValue? acc cs = some (Nat.ofDigitChars 10 cs acc) := by
  induction cs generalizing acc with
  | nil => rfl
  | cons c cs ih =>
    obtain ⟨hc, hcs⟩ := List.forall_mem_cons.mp h
    rw [digitsValue?, digitValue?_of_isDigit hc, Option.bind_some, ih hcs, Nat.ofDigitChars_cons,
      Nat.mul_comm]

theorem numeral?_decimal (n : Nat) : numeral? (decimal n).toList = some n := by
  have hvalue : digitsValue? 0 (Nat.toDigits 10 n) = some n := by
    rw [digitsValue?_of_digits fun c hc => isDigit_of_mem_toDigits hc,
      Nat.ofDigitChars_ten_toDigits]
  rw [decimal, String.toList_ofList]
  cases hdigits : Nat.toDigits 10 n with
  | nil => exact absurd hdigits Nat.toDigits_ne_nil
  | cons c cs => rw [← hvalue, hdigits]; rfl

/-- **A number is read off its text.** -/
theorem natural?_decimal {bound : Nat} (h : n < bound) : natural? bound (decimal n) = some n := by
  unfold natural?
  split
  case h_1 cs hplus =>
    -- a number is written without a sign
    have hdigit : '+'.isDigit = true := isDigit_of_mem_toDigits (n := n) <| by
      rw [← String.toList_ofList (l := Nat.toDigits 10 n)]
      exact hplus ▸ List.mem_cons_self
    cases hdigit
  case h_2 => simp [numeral?_decimal, h]

theorem decimal_injective : Function.Injective decimal := fun m n h => by
  have hm := numeral?_decimal m
  rw [h, numeral?_decimal] at hm
  exact (Option.some.inj hm).symm

/-- A text that is no numeral is not the text of a number. -/
theorem decimal_ne_of_numeral? {s : String} (h : numeral? s.toList = none) : decimal n ≠ s := by
  rintro rfl
  rw [numeral?_decimal] at h
  cases h

theorem isBlank_of_isDigit (h : c.isDigit = true) : isBlank c = false := by
  simp only [Char.isDigit, Bool.and_eq_true, decide_eq_true_eq] at h
  have hlow : 48 ≤ c.toNat := h.1
  have hhigh : c.toNat ≤ 57 := h.2
  simp [isBlank]
  omega

/-- Nothing is trimmed off a text without blanks. -/
theorem trim_of_not_isBlank {cs : List Char} (h : ∀ c ∈ cs, isBlank c = false) :
    trim (String.ofList cs) = String.ofList cs := by
  have hdrop (cs : List Char) (h : ∀ c ∈ cs, isBlank c = false) : cs.dropWhile isBlank = cs := by
    cases cs with
    | nil => rfl
    | cons c cs => rw [List.dropWhile_cons_of_neg (by simp [h])]
  rw [trim, trimChars, String.toList_ofList, hdrop cs h, hdrop cs.reverse (by simpa using h),
    List.reverse_reverse]

@[simp] theorem trim_decimal (n : Nat) : trim (decimal n) = decimal n :=
  trim_of_not_isBlank fun _ hc => isBlank_of_isDigit (isDigit_of_mem_toDigits hc)

end PaneMux.Text
