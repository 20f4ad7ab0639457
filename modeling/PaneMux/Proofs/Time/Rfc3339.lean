import PaneMux.Proofs.Text.Digits
import PaneMux.Proofs.Time.Calendar
import PaneMux.Time.Rfc3339

/-!
# Reading what was written

An instant with a year of four digits, written as messages show it, is read back exactly: the
fraction of a second in its zero, three, six or nine digits, a leap second with its second sixty.

The reader takes the text apart from the front. Each of its parts is shown to take exactly what the
writer put there and to leave the rest of the text alone, whatever the rest is; the text as a whole
is read by taking these steps one after the other.

## Architecture

- **§1** runs of digits
- **§2** the parts of a date and a time of day
- **§3** the fraction of a second
- **§4** whole instants
-/

namespace PaneMux.Time

open PaneMux.Text

variable {cs rest : List Char} {n width : Nat}

/-! ## §1 Digits -/

/-- A text that cannot go on with a digit. -/
def EndsNumber (rest : List Char) : Prop := ∀ c ∈ rest.head?, c.isDigit = false

theorem moreDigits_append (hdigits : ∀ c ∈ cs, c.isDigit = true) (hlength : cs.length ≤ width)
    (hend : cs.length = width ∨ EndsNumber rest) (n : Nat) :
    moreDigits width n (cs ++ rest) = (Nat.ofDigitChars 10 cs n, rest) := by
  induction cs generalizing width n with
  | nil =>
    cases width with
    | zero => rfl
    | succ width =>
      cases rest with
      | nil => rfl
      | cons c rest =>
        have hstop : c.isDigit = false := (hend.resolve_left (by simp)) c rfl
        simp [moreDigits, digitValue?_of_not_isDigit hstop]
  | cons c cs ih =>
    cases width with
    | zero => simp at hlength
    | succ width =>
      have hdigit := digitValue?_of_isDigit (hdigits c (List.mem_cons_self ..))
      rw [List.cons_append, moreDigits, hdigit]
      simp only []
      rw [ih (fun c hc => hdigits c (List.mem_cons_of_mem _ hc)) (by simpa using hlength)
        (by simpa using hend), Nat.ofDigitChars_cons, Nat.mul_comm]

/-- **A padded number is read**, up to what does not belong to it. -/
theorem scanDigits_padded {k : Nat} (hpos : 0 < k) (hn : n < 10 ^ k) (hle : k ≤ width)
    (hend : k = width ∨ EndsNumber rest) :
    scanDigits width (padded k n ++ rest) = .ok (n, rest) := by
  have hlength := length_padded hpos hn
  -- all that matters of the padded number is its length, its digits and its value
  have hdigits : ∀ c ∈ padded k n, c.isDigit = true := fun c hc => isDigit_of_mem_padded hc
  have hvalue := ofDigitChars_padded k n
  generalize padded k n = cs at hlength hdigits hvalue ⊢
  cases cs with
  | nil => exact absurd hlength hpos.ne
  | cons c cs =>
    have hdigit := digitValue?_of_isDigit (hdigits c (List.mem_cons_self ..))
    rw [List.length_cons] at hlength
    rw [Nat.ofDigitChars_cons, Nat.mul_zero, Nat.zero_add] at hvalue
    rw [List.cons_append, scanDigits, hdigit]
    simp only []
    rw [moreDigits_append (fun c hc => hdigits c (List.mem_cons_of_mem _ hc)) (by omega)
      (hend.imp_left (by omega)), hvalue]

/-! ## §2 Dates and times of day -/

theorem exists_padded_eq_cons {k : Nat} (hpos : 0 < k) (hn : n < 10 ^ k) :
    ∃ c cs, padded k n = c :: cs ∧ c.isDigit = true := by
  have hlength := length_padded hpos hn
  cases h : padded k n with
  | nil => rw [h] at hlength; exact absurd hlength hpos.ne
  | cons c cs => exact ⟨c, cs, rfl, isDigit_of_mem_padded (h ▸ List.mem_cons_self ..)⟩

theorem dropWhile_isBlank_padded {k : Nat} (hpos : 0 < k) (hn : n < 10 ^ k) :
    (padded k n ++ rest).dropWhile isBlank = padded k n ++ rest := by
  obtain ⟨c, cs, h, hdigit⟩ := exists_padded_eq_cons hpos hn
  rw [h, List.cons_append, List.dropWhile_cons_of_neg (by simp [isBlank_of_isDigit hdigit])]

theorem scanMark_cons {mark : Char} (h : isBlank mark = false) :
    scanMark mark (mark :: rest) = .ok ((), rest) := by
  rw [scanMark, List.dropWhile_cons_of_neg (by simp [h])]
  exact if_pos rfl

theorem scanField_padded {low high : Nat} (hlow : low ≤ n) (hhigh : n ≤ high) (hn : n < 100) :
    scanField low high (padded 2 n ++ rest) = .ok (n, rest) := by
  rw [scanField, dropWhile_isBlank_padded (by decide) hn,
    scanDigits_padded (by decide) hn le_rfl (.inl rfl)]
  exact if_pos ⟨hlow, hhigh⟩

theorem scanYear_padded (hn : n < 10000) : scanYear (padded 4 n ++ rest) = .ok ((n : Int), rest) := by
  have hscan : scanDigits 4 (padded 4 n ++ rest) = .ok (n, rest) :=
    scanDigits_padded (by decide) hn le_rfl (.inl rfl)
  have hyear : -(Nat.pow 2 31 : Nat) ≤ (n : Int) ∧ (n : Int) < (Nat.pow 2 31 : Nat) := by
    norm_num
    omega
  rw [scanYear, dropWhile_isBlank_padded (by decide) hn]
  obtain ⟨c, cs, h, hdigit⟩ := exists_padded_eq_cons (k := 4) (by decide) hn
  rw [h] at hscan ⊢
  -- a digit is no sign
  split
  case h_1 heq => cases heq; exact absurd hdigit (by decide)
  case h_2 heq => cases heq; exact absurd hdigit (by decide)
  case h_3 =>
    simp only [hscan, Except.map, bind, Except.bind]
    rw [if_pos hyear]

/-! ## §3 Fractions -/

private theorem dropWhile_isDigit_zone : ['Z'].dropWhile Char.isDigit = ['Z'] := rfl

private theorem endsNumber_zone : EndsNumber ['Z'] := by
  rintro c ⟨⟩
  rfl

theorem scanFraction_padded {k : Nat} (hpos : 0 < k) (hle : k ≤ 9) (hn : n < 10 ^ k) :
    scanFraction ('.' :: padded k n ++ ['Z']) = .ok (n * 10 ^ (9 - k), ['Z']) := by
  have hlength := length_padded hpos hn
  rw [List.cons_append, scanFraction]
  simp only [scanDigits_padded hpos hn hle (.inr endsNumber_zone), bind, Except.bind,
    List.length_append, hlength, Nat.add_sub_cancel, dropWhile_isDigit_zone]
  rfl

/-- **The fraction is read**, in whichever of its lengths it was written. -/
theorem scanFraction_fractionText (t : Instant) :
    scanFraction (t.fractionText ++ ['Z']) = .ok (t.subsecond, ['Z']) := by
  have hlt : t.subsecond < 1000000000 := Nat.mod_lt _ (by decide)
  unfold Instant.fractionText
  generalize t.subsecond = n at hlt ⊢
  simp only []
  -- no fraction, or three, six or nine digits of one
  split
  case isTrue hzero => rw [hzero]; rfl
  case isFalse =>
    split
    case isTrue hmillis =>
      rw [scanFraction_padded (by decide) (by decide) (by omega)]
      congr 2
      omega
    case isFalse =>
      split
      case isTrue hmicros =>
        rw [scanFraction_padded (by decide) (by decide) (by omega)]
        congr 2
        omega
      case isFalse =>
        rw [scanFraction_padded (by decide) (by decide) (by omega)]
        congr 2
        omega

/-! ## §4 Instants -/

/-- An instant that can be written: its year has four digits, and where its nanoseconds reach past a
    full second it is a leap second, the last of its minute. -/
structure Instant.IsWritten (t : Instant) : Prop where
  year : 0 ≤ t.date.year ∧ t.date.year ≤ 9999
  nano : t.nano < 1000000000 ∨ (t.nano < 2000000000 ∧ t.second % 60 = 59)

namespace Instant

variable {t : Instant}

/-- One more for a leap second, which is written on top of the second that it runs on from. -/
def leap (t : Instant) : Nat := if 1000000000 ≤ t.nano then 1 else 0

theorem secondsText_append (t : Instant) (hyear : 0 ≤ t.date.year ∧ t.date.year ≤ 9999)
    (rest : List Char) :
    t.secondsText ++ rest = padded 4 t.date.year.toNat ++ '-' :: (padded 2 t.date.month ++
      '-' :: (padded 2 t.date.day ++ 'T' :: (padded 2 (t.secondOfDay / 3600) ++
      ':' :: (padded 2 (t.secondOfDay / 60 % 60) ++
      ':' :: (padded 2 (t.secondOfDay % 60 + t.leap) ++ rest))))) := by
  simp only [secondsText, yearText, if_pos hyear, leap, List.append_assoc, List.cons_append]

theorem assemble_parts (h : t.IsWritten) :
    assemble t.date (t.secondOfDay / 3600) (t.secondOfDay / 60 % 60) (t.secondOfDay % 60 + t.leap)
      t.subsecond 0 = .ok t := by
  obtain ⟨hyear, hnano⟩ := h
  have hrange : yearInRange t.date.year = true := by
    simp only [yearInRange, Bool.and_eq_true, decide_eq_true_eq]
    omega
  have hvalid : t.date.IsValid := Date.isValid_ofDays _
  have hdays : t.date.toDays = t.days := Date.toDays_ofDays _
  have hsecond : t.second = t.days * 86400 + t.secondOfDay := by
    unfold days secondOfDay
    omega
  -- second sixty goes back onto the second before it
  have hparts : (if t.secondOfDay % 60 + t.leap = 60 then (59, t.subsecond + 1000000000)
      else (t.secondOfDay % 60 + t.leap, t.subsecond)) = (t.secondOfDay % 60, t.nano) := by
    unfold leap subsecond
    rcases hnano with hnano | ⟨hnano, hlast⟩ <;> split <;> split <;>
      refine Prod.ext ?_ ?_ <;> simp only [] <;> omega
  unfold assemble
  rw [hparts]
  have hwall : t.date.toDays * 86400 + (t.secondOfDay / 3600 : Nat) * 3600
      + (t.secondOfDay / 60 % 60 : Nat) * 60 + (t.secondOfDay % 60 : Nat) - 0 = t.second := by
    omega
  simp only [hwall]
  simp [hrange, hvalid, pure, Except.pure]

/-- **What is written is read.** An instant with a year of four digits is read back from its text,
    whichever of the four lengths its fraction has, and also inside a leap second. -/
theorem parse_text (h : t.IsWritten) : Instant.parse t.text = .ok t := by
  have hvalid : t.date.IsValid := Date.isValid_ofDays _
  obtain ⟨hmonth, hmonths, hday, hdays⟩ := hvalid
  have hdays : t.date.day ≤ 31 := hdays.trans (by unfold Date.daysInMonth; split_ifs <;> omega)
  have hyears : t.date.year.toNat < 10000 := by have := h.year; omega
  have hyear : ((t.date.year.toNat : Nat) : Int) = t.date.year := Int.toNat_of_nonneg h.year.1
  have hhours : t.secondOfDay / 3600 ≤ 23 := by unfold secondOfDay; omega
  have hminutes : t.secondOfDay / 60 % 60 ≤ 59 := by omega
  have hseconds : t.secondOfDay % 60 + t.leap ≤ 60 := by unfold leap; split <;> omega
  have hdash : isBlank '-' = false := by decide
  have hcolon : isBlank ':' = false := by decide
  have htext : t.text.toList = t.secondsText ++ (t.fractionText ++ ['Z']) := by
    rw [text, String.toList_ofList, List.append_assoc]
  rw [Instant.parse, htext, secondsText_append t h.year]
  simp only [bind, Except.bind, scanYear_padded hyears, scanMark_cons hdash, scanMark_cons hcolon,
    scanField_padded hmonth hmonths (by omega), scanField_padded hday hdays (by omega),
    scanField_padded (Nat.zero_le _) hhours (by omega),
    scanField_padded (Nat.zero_le _) hminutes (by omega),
    scanField_padded (Nat.zero_le _) hseconds (by omega), scanFraction_fractionText, hyear]
  exact assemble_parts h

end Instant

end PaneMux.Time
