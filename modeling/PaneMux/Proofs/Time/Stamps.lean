import Mathlib.Data.String.Basic
import PaneMux.Proofs.Time.Rfc3339

/-!
# Stamps sort as text

The history keeps times as texts of one length, and compares them as texts. For years of four digits
that is the order in time, to the microsecond: a later day has a later date, a date is written with
its largest part first, and every part in as many digits as it can take.

## Architecture

- **§1** padded numbers, compared as texts, and rows of them (`fieldsText_lt`)
- **§2** dates in the order of their days
- **§3** instants cut to microseconds, and the order of their stamps (`Instant.stamp_lt_iff`)
-/

namespace PaneMux

/-! ## §1 Padded numbers -/

namespace Text

/-- What comes first decides, where it has the same length. -/
theorem append_lt_append {cs ds : List Char} (h : cs < ds) (hlength : cs.length = ds.length)
    (rest rest' : List Char) : cs ++ rest < ds ++ rest' := by
  induction cs generalizing ds with
  | nil =>
    rw [List.length_nil] at hlength
    rw [List.eq_nil_of_length_eq_zero hlength.symm] at h
    exact absurd h (List.not_lt_nil _)
  | cons c cs ih =>
    cases ds with
    | nil => cases hlength
    | cons d ds =>
      rw [List.cons_append, List.cons_append, List.cons_lt_cons_iff]
      rcases List.cons_lt_cons_iff.mp h with hfirst | ⟨hsame, hrest⟩
      · exact .inl hfirst
      · exact .inr ⟨hsame, ih hrest (Nat.succ.inj hlength)⟩

theorem padded_succ {width : Nat} (hpos : 0 < width) (n : Nat) :
    padded (width + 1) n = padded width (n / 10) ++ [(n % 10).digitChar] := by
  by_cases hsmall : n < 10
  · -- one digit, and nothing but zeros before it
    obtain ⟨k, rfl⟩ : ∃ k, width = k + 1 := ⟨width - 1, by omega⟩
    have hzero : n / 10 = 0 := by omega
    have hdigit : n % 10 = n := by omega
    rw [hzero, hdigit, padded, padded, Nat.toDigits_of_lt_base hsmall,
      Nat.toDigits_of_lt_base (by decide : 0 < 10)]
    simp [List.replicate_succ']
  · rw [padded, padded, Nat.toDigits_of_base_le (by decide) (by omega), List.length_append,
      List.length_singleton, Nat.add_sub_add_right, List.append_assoc]

theorem digitChar_lt : ∀ n < 10, ∀ m < n, m.digitChar < n.digitChar := by
  decide

/-- **Padded numbers sort as texts.** -/
theorem padded_lt {width m n : Nat} (hpos : 0 < width) (hlt : m < n) (hn : n < 10 ^ width) :
    padded width m < padded width n := by
  induction width, hpos using Nat.le_induction generalizing m n with
  | base =>
    have hm : Nat.toDigits 10 m = [m.digitChar] := Nat.toDigits_of_lt_base (by omega)
    have hn : Nat.toDigits 10 n = [n.digitChar] := Nat.toDigits_of_lt_base (by omega)
    simp only [padded, hm, hn]
    exact List.append_left_lt (List.cons_lt_cons_iff.mpr (.inl (digitChar_lt n (by omega) m hlt)))
  | succ width hpos ih =>
    have htens : n / 10 < 10 ^ width := by
      rw [Nat.pow_succ] at hn
      omega
    rw [padded_succ hpos, padded_succ hpos]
    -- the last digit decides only where all before it are the same
    rcases Nat.lt_or_ge (m / 10) (n / 10) with hless | hsame
    · refine append_lt_append (ih hless htens) ?_ _ _
      rw [length_padded hpos (hless.trans htens), length_padded hpos htens]
    · have htens : m / 10 = n / 10 := by omega
      rw [htens]
      refine List.append_left_lt (List.cons_lt_cons_iff.mpr (.inl ?_))
      exact digitChar_lt _ (by omega) _ (by omega)

/-- A part of a text that is a number: it decides, or what comes after it does. -/
theorem padded_append_lt {width m n : Nat} {rest rest' : List Char} (hpos : 0 < width)
    (hm : m < 10 ^ width) (hn : n < 10 ^ width) (h : m < n ∨ m = n ∧ rest < rest') :
    padded width m ++ rest < padded width n ++ rest' := by
  rcases h with hlt | ⟨rfl, hrest⟩
  · refine append_lt_append (padded_lt hpos hlt hn) ?_ _ _
    rw [length_padded hpos hm, length_padded hpos hn]
  · exact List.append_left_lt hrest

/-- Numbers in a row, each with its width and the character after it. -/
def fieldsText : List (Nat × Char) → List Nat → List Char
  | (width, mark) :: layout, n :: ns => padded width n ++ mark :: fieldsText layout ns
  | _, _ => []

def FieldsFit (layout : List (Nat × Char)) (ns : List Nat) : Prop :=
  List.Forall₂ (fun field n => 0 < field.1 ∧ n < 10 ^ field.1) layout ns

/-- **Rows of numbers sort as texts**, number by number. -/
theorem fieldsText_lt {layout : List (Nat × Char)} {ms ns : List Nat} (hm : FieldsFit layout ms)
    (hn : FieldsFit layout ns) (h : ms < ns) : fieldsText layout ms < fieldsText layout ns := by
  induction hm generalizing ns with
  | nil =>
    cases hn
    exact absurd h (List.not_lt_nil _)
  | cons hfield _ ih =>
    cases hn with
    | cons hfield' hrest =>
      refine padded_append_lt hfield.1 hfield.2 hfield'.2 ?_
      rcases List.cons_lt_cons_iff.mp h with hfirst | ⟨hsame, hless⟩
      · exact .inl hfirst
      · exact .inr ⟨hsame, List.cons_lt_cons_iff.mpr (.inr ⟨rfl, ih hrest hless⟩)⟩

end Text

/-! ## §2 Dates -/

namespace Time

/-- The order of dates, year by year, month by month and day by day. -/
def Date.before (a b : Date) : Prop :=
  a.year < b.year ∨ (a.year = b.year ∧ (a.month < b.month ∨ (a.month = b.month ∧ a.day < b.day)))

private theorem day_of_month {n m : Nat} (h : (5 * n + 2) / 153 = m) : (153 * m + 2) / 5 ≤ n := by
  omega

/-- Of two days of the same year, counted from March. -/
theorem Date.ofParts_before (era : Int) (y : Nat) {m n : Nat} (hlt : m < n) (hn : n ≤ 365) :
    (ofParts era y m).before (ofParts era y n) := by
  unfold ofParts before
  simp only []
  generalize hi : (5 * m + 2) / 153 = i
  generalize hj : (5 * n + 2) / 153 = j
  have hstart := day_of_month hi
  have hstart' := day_of_month hj
  have hle : i ≤ j := by omega
  -- the year changes between the tenth and the eleventh of these months
  rcases Nat.eq_or_lt_of_le hle with rfl | hless
  · split <;> split <;> omega
  · split <;> split <;> split <;> split <;> omega

/-- Of two days of different years, counted from March. January and February end the earlier one, and
    have the number of the later one if that is the next. -/
theorem Date.ofParts_before_of_year {era era' : Int} {y y' : Nat}
    (hyear : era * 400 + y < era' * 400 + y') (m n : Nat) :
    (ofParts era y m).before (ofParts era' y' n) := by
  unfold ofParts before
  simp only []
  generalize (5 * m + 2) / 153 = i
  generalize (5 * n + 2) / 153 = j
  split <;> split <;> split <;> split <;> omega

theorem Date.yearStart_mono {y z : Nat} (h : y ≤ z) : yearStart y ≤ yearStart z := by
  refine monotone_nat_of_le_succ (fun n => ?_) h
  unfold yearStart
  omega

/-- **A later day has a later date.** -/
theorem Date.ofDays_before {m n : Int} (h : m < n) : (ofDays m).before (ofDays n) := by
  obtain ⟨era, y, k, hy, hk, hm⟩ := exists_parts m
  obtain ⟨era', y', k', hy', hk', hn⟩ := exists_parts n
  rw [ofDays_eq_ofParts hy hk hm, ofDays_eq_ofParts hy' hk' hn]
  have hera : yearStart 400 = 146097 := rfl
  have hend := yearStart_mono (show y + 1 ≤ 400 by omega)
  have hend' := yearStart_mono (show y' + 1 ≤ 400 by omega)
  -- a year of an era that is less need not be an earlier one, as the eras may differ
  rcases Nat.lt_trichotomy y y' with hless | rfl | hgreater
  · have hnext := yearStart_mono (show y + 1 ≤ y' by omega)
    exact ofParts_before_of_year (by omega) k k'
  · rcases Int.lt_or_le era era' with hless | hsame
    · exact ofParts_before_of_year (by omega) k k'
    · obtain rfl : era = era' := by omega
      exact ofParts_before era y (by omega) (day_le hy' hk')
  · have hnext := yearStart_mono (show y' + 1 ≤ y by omega)
    exact ofParts_before_of_year (by omega) k k'

/-! ## §3 Instants -/

namespace Instant

open PaneMux.Text

variable {a b t : Instant}

instance (t : Instant) : Decidable t.IsWritten :=
  decidable_of_iff ((0 ≤ t.date.year ∧ t.date.year ≤ 9999) ∧
      (t.nano < 1000000000 ∨ (t.nano < 2000000000 ∧ t.second % 60 = 59)))
    ⟨fun h => ⟨h.1, h.2⟩, fun h => ⟨h.year, h.nano⟩⟩

/-- The instant cut to microseconds, which is what a stamp shows of it. -/
def cut (t : Instant) : Instant := ⟨t.second, t.nano / 1000 * 1000⟩

def stampLayout : List (Nat × Char) :=
  [(4, '-'), (2, '-'), (2, 'T'), (2, ':'), (2, ':'), (2, '.'), (6, 'Z')]

def stampFields (t : Instant) : List Nat :=
  [t.date.year.toNat, t.date.month, t.date.day, t.secondOfDay / 3600, t.secondOfDay / 60 % 60,
    t.secondOfDay % 60 + t.leap, t.subsecond / 1000]

theorem toList_stamp (h : t.IsWritten) :
    t.stamp.toList = fieldsText stampLayout t.stampFields := by
  rw [stamp, String.toList_ofList, List.append_assoc, secondsText_append t h.year]
  rfl

theorem stampFields_fit (h : t.IsWritten) : FieldsFit stampLayout t.stampFields := by
  obtain ⟨hmonth, hmonths, hday, hdays⟩ : t.date.IsValid := Date.isValid_ofDays _
  have hdays : t.date.day ≤ 31 := hdays.trans (by unfold Date.daysInMonth; split_ifs <;> omega)
  have hyear := h.year
  have hleap : t.leap ≤ 1 := by unfold leap; split <;> omega
  have hsecond : t.secondOfDay < 86400 := by unfold secondOfDay; omega
  have hsubsecond : t.subsecond < 1000000000 := Nat.mod_lt _ (by decide)
  simp only [FieldsFit, stampLayout, stampFields, List.forall₂_cons]
  refine ⟨?_, ?_, ?_, ?_, ?_, ?_, ?_, .nil⟩ <;> omega

/-- Within a day, the hour comes first, then the minute and the second, sixty for a leap second. -/
theorem stampFields_lt_of_days (ha : a.IsWritten) (hb : b.IsWritten) (hdays : a.days = b.days)
    (h : a.cut.before b.cut) : a.stampFields < b.stampFields := by
  have hleap := ha.nano
  have hleap' := hb.nano
  have hdate : a.date = b.date := congrArg Date.ofDays hdays
  simp only [stampFields, hdate, List.cons_lt_cons_iff, Nat.lt_irrefl, false_or, true_and,
    List.not_lt_nil, and_false, or_false]
  unfold days at hdays
  unfold before cut at h
  simp only [] at h
  unfold secondOfDay leap subsecond
  generalize hi : (a.second % 86400).toNat = i
  generalize hj : (b.second % 86400).toNat = j
  rcases h with hless | ⟨hsame, hless⟩
  · have hij : i < j := by omega
    split <;> split <;> omega
  · have hij : i = j := by omega
    subst hij
    split <;> split <;> omega

theorem stampFields_lt (ha : a.IsWritten) (hb : b.IsWritten) (h : a.cut.before b.cut) :
    a.stampFields < b.stampFields := by
  have hle : a.days ≤ b.days := by
    have : a.second ≤ b.second := h.elim Int.le_of_lt fun hsame => Int.le_of_eq hsame.1
    unfold days
    omega
  -- the date decides, or else the time of day
  rcases Int.lt_or_eq_of_le hle with hless | hsame
  · have hdate : a.date.before b.date := Date.ofDays_before hless
    have hyear := ha.year
    have hyear' := hb.year
    unfold Date.before at hdate
    simp only [stampFields, List.cons_lt_cons_iff]
    omega
  · exact stampFields_lt_of_days ha hb hsame h

theorem stamp_lt (ha : a.IsWritten) (hb : b.IsWritten) (h : a.cut.before b.cut) :
    a.stamp < b.stamp := by
  rw [String.lt_iff_toList_lt, toList_stamp ha, toList_stamp hb]
  exact fieldsText_lt (stampFields_fit ha) (stampFields_fit hb) (stampFields_lt ha hb h)

/-- A stamp shows no more than microseconds. -/
theorem stamp_eq (h : a.cut = b.cut) (ha : a.IsWritten) (hb : b.IsWritten) : a.stamp = b.stamp := by
  obtain ⟨hsecond, hmicros⟩ := Instant.mk.inj h
  have hleap : a.leap = b.leap := by unfold leap; split <;> split <;> omega
  have hsubsecond : a.subsecond / 1000 = b.subsecond / 1000 := by unfold subsecond; omega
  rw [← String.toList_inj, toList_stamp ha, toList_stamp hb]
  simp only [stampFields, date, days, secondOfDay, hsecond, hleap, hsubsecond]

/-- Of two instants one is before the other, or they are the same. -/
theorem eq_of_not_before (h : ¬ a.before b) (h' : ¬ b.before a) : a = b := by
  cases a
  cases b
  unfold before at h h'
  simp only [Instant.mk.injEq] at h h' ⊢
  omega

/-- **Stamps sort as text**: in years of four digits a stamp comes before another one just when its
    instant does, to the microsecond. -/
theorem stamp_lt_iff (ha : a.IsWritten) (hb : b.IsWritten) :
    a.stamp < b.stamp ↔ a.cut.before b.cut := by
  refine ⟨fun h => ?_, stamp_lt ha hb⟩
  by_contra hnot
  -- otherwise it is the same microsecond, or a later one
  by_cases hback : b.cut.before a.cut
  · exact lt_asymm h (stamp_lt hb ha hback)
  · exact lt_irrefl _ (stamp_eq (eq_of_not_before hnot hback) ha hb ▸ h)

theorem stamp_le_iff (ha : a.IsWritten) (hb : b.IsWritten) :
    a.stamp ≤ b.stamp ↔ ¬ b.cut.before a.cut := by
  rw [← not_lt, stamp_lt_iff hb ha]

/-- **Stored times are in the order of time**: of two instants in years of four digits, the stamp of one
    comes first as a text just when it is the earlier one to the microsecond, and stamps are the same text
    just when the instants are in the same microsecond. -/
theorem stamps_in_order (ha : a.IsWritten) (hb : b.IsWritten) :
    (a.stamp < b.stamp ↔ a.cut.before b.cut) ∧ (a.stamp = b.stamp ↔ a.cut = b.cut) := by
  refine ⟨stamp_lt_iff ha hb, fun hsame => ?_, fun h => stamp_eq h ha hb⟩
  apply eq_of_not_before
  · exact fun hbefore => lt_irrefl _ (hsame ▸ stamp_lt ha hb hbefore)
  · exact fun hbefore => lt_irrefl _ (hsame ▸ stamp_lt hb ha hbefore)

/-- The last nanosecond of February in a leap year and the first one of March, and one a little earlier that
    is in the same microsecond as the first of them. -/
theorem stamps_in_order_leap_day :
    let a : Instant := ⟨951868799, 999999999⟩
    let b : Instant := ⟨951868800, 0⟩
    let c : Instant := ⟨951868799, 999999001⟩
    a.IsWritten ∧ b.IsWritten ∧ c.IsWritten ∧ a.date = ⟨2000, 2, 29⟩ ∧ b.date = ⟨2000, 3, 1⟩ ∧
      a.stamp < b.stamp ∧ c.stamp = a.stamp := by
  intro a b c
  have ha : a.IsWritten := by decide
  have hb : b.IsWritten := by decide
  have hc : c.IsWritten := by decide
  exact ⟨ha, hb, hc, by decide, by decide, (stamps_in_order ha hb).1.mpr (by decide),
    (stamps_in_order hc ha).2.mpr (by decide)⟩

/-- What is not earlier is not earlier by microseconds. -/
theorem not_before_cut (h : ¬ b.before a) : ¬ b.cut.before a.cut := by
  unfold before cut at *
  simp only [] at *
  omega

theorem before_of_not_before {c : Instant} (h : ¬ b.before a) (h' : b.before c) : a.before c := by
  unfold before at *
  omega

theorem not_before_of_before (h : a.before b) : ¬ b.before a := by
  unfold before at *
  omega

end Instant

end Time

end PaneMux
