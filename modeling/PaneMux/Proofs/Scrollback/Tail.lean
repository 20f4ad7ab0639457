import PaneMux.Proofs.Scrollback.Retention

/-!
# The Last Lines

A caller who asks for the last lines of a pane gets whole lines, as many as were asked for or all that
are held. What was let go before makes no difference unless it is asked for: the lines are the last ones
of everything that was ever pushed.

## Architecture

- **§1** lines: their number (`lineCount`), where they begin (`BeginsLine`), and the last of them
  (`IsTail`)
- **§2** the scan, from the newest byte to the oldest
- **§3** output of which the beginning is gone
- **§4** the law
-/

namespace PaneMux

/-! ## §1 Lines -/

/-- The number of lines of some output. A line end closes a line and does not begin another, and what
    comes after the last one is a line that is not finished. -/
def lineCount (x : Bytes) : Nat := newlines x + if x.getLast?.all (· = newline) then 0 else 1

/-- An end of some output that begins with a line: where the output begins, or right after a line end.
    An empty end begins anywhere. -/
def BeginsLine (x tail : Bytes) : Prop :=
  ∃ head, head ++ tail = x ∧ (head = [] ∨ head.getLast? = some newline ∨ tail = [])

/-- **The last `n` lines** of some output, or all of it if there are no more. -/
def IsTail (n : Nat) (x tail : Bytes) : Prop :=
  LongestSuffix (fun t => BeginsLine x t ∧ lineCount t ≤ n) x tail

@[simp] theorem lineCount_nil : lineCount [] = 0 := rfl

/-- Only the last line of all may be unfinished. -/
theorem lineCount_append (x : Bytes) {y : Bytes} (hy : y ≠ []) :
    lineCount (x ++ y) = newlines x + lineCount y := by
  rw [lineCount, lineCount, List.getLast?_append_of_ne_nil x hy, newlines_append, Nat.add_assoc]

/-- The last byte ends the last line or belongs to it. -/
theorem lineCount_append_singleton (x : Bytes) (c : UInt8) :
    lineCount (x ++ [c]) = newlines x + 1 := by
  rw [lineCount_append x (List.cons_ne_nil _ _), lineCount, newlines_cons]
  by_cases hc : c = newline <;> simp [hc]

theorem eq_nil_of_lineCount_eq_zero {x : Bytes} (h : lineCount x = 0) : x = [] := by
  rcases List.eq_nil_or_concat x with hx | ⟨front, c, rfl⟩
  · exact hx
  · rw [List.concat_eq_append, lineCount_append_singleton] at h
    cases h

/-- An end has no more lines than the whole. -/
theorem lineCount_le_of_suffix {x y : Bytes} (h : x <:+ y) : lineCount x ≤ lineCount y := by
  obtain ⟨front, rfl⟩ := h
  by_cases hx : x = []
  · simp [hx]
  · rw [lineCount_append front hx]
    omega

theorem BeginsLine.nil (x : Bytes) : BeginsLine x [] := ⟨x, List.append_nil x, .inr (.inr rfl)⟩

theorem BeginsLine.self (x : Bytes) : BeginsLine x x := ⟨[], rfl, .inl rfl⟩

namespace Scrollback

/-! ## §2 The scan -/

/-- **The scan stops at the line end before the last `n` lines**, counted from where it begins, or at
    the oldest byte. -/
theorem lastLines_eq {n : Nat} (hn : 0 < n) (tail older : Bytes) :
    ∃ head kept, head ++ kept = older.reverse ∧ lastLines n tail older = kept ++ tail ∧
      (head = [] ∧ newlines kept < n ∨ head.getLast? = some newline ∧ newlines kept + 1 = n) := by
  induction older generalizing n tail with
  | nil => exact ⟨[], [], rfl, rfl, .inl ⟨rfl, hn⟩⟩
  | cons c older ih =>
    by_cases hc : c = newline
    · obtain rfl | ⟨m, rfl⟩ : n = 1 ∨ ∃ m, n = m + 2 :=
        (Nat.eq_or_lt_of_le hn).imp Eq.symm fun h => ⟨n - 2, by omega⟩
      · -- this is the line end looked for
        exact ⟨(c :: older).reverse, [], List.append_nil _, by simp [lastLines, hc],
          .inr ⟨by simp [hc], rfl⟩⟩
      · obtain ⟨head, kept, holder, hlast, hstop⟩ := ih (Nat.succ_pos m) (c :: tail)
        have hon : lastLines (m + 2) tail (c :: older) = lastLines (m + 1) (c :: tail) older := by
          simp [lastLines, hc]
        have hone : newlines (kept ++ [c]) = newlines kept + 1 := by simp [newlines_cons, hc]
        refine ⟨head, kept ++ [c], by simp [← holder], by simp [hon, hlast], ?_⟩
        rw [hone]
        exact hstop.imp (And.imp_right fun _ => by omega) (And.imp_right fun _ => by omega)
    · obtain ⟨head, kept, holder, hlast, hstop⟩ := ih hn (c :: tail)
      have hnone : newlines (kept ++ [c]) = newlines kept := by simp [newlines_cons, hc]
      refine ⟨head, kept ++ [c], by simp [← holder], by simp [lastLines, hc, hlast], ?_⟩
      rwa [hnone]

/-- Whole lines that make up the number asked for are the last lines, and so are all there are. -/
theorem isTail_of_append {n : Nat} {head tail : Bytes} (htail : tail ≠ [])
    (hstop : head = [] ∧ lineCount tail ≤ n ∨
      head.getLast? = some newline ∧ lineCount tail = n) :
    IsTail n (head ++ tail) tail := by
  refine ⟨List.suffix_append _ _, ⟨⟨head, rfl, ?_⟩, ?_⟩, fun ys hys ⟨_, hcount⟩ => ?_⟩
  · exact hstop.imp And.left fun h => .inl h.1
  · exact hstop.elim And.right fun h => h.2.le
  · rcases hstop with ⟨rfl, -⟩ | ⟨hhead, hfull⟩
    · exact hys.length_le
    · by_contra hlonger
      -- what is longer takes in the line end before the tail
      obtain ⟨front, rfl⟩ := List.suffix_of_suffix_length_le (List.suffix_append head tail) hys
        (by omega)
      have hfront : front ≠ [] := by
        rintro rfl
        exact hlonger (Nat.le_refl _)
      obtain ⟨rest, hrest⟩ := hys
      rw [← List.append_assoc, List.append_left_inj] at hrest
      rw [← hrest, List.getLast?_append_of_ne_nil rest hfront] at hhead
      have hpos : 0 < newlines front := List.count_pos_iff.mpr (List.mem_of_getLast? hhead)
      rw [lineCount_append front htail] at hcount
      omega

/-- **The scan finds the last lines.** -/
theorem isTail_tailOf (n : Nat) (x : Bytes) : IsTail n x (tailOf n x) := by
  by_cases hn : n = 0
  · -- no line is asked for
    rw [tailOf, if_pos hn]
    refine ⟨List.nil_suffix, ⟨BeginsLine.nil x, Nat.zero_le n⟩, fun ys _ ⟨_, hcount⟩ => ?_⟩
    have hys : ys = [] := eq_nil_of_lineCount_eq_zero (Nat.le_zero.mp (hn ▸ hcount))
    exact (congrArg List.length hys).le
  · rcases List.eq_nil_or_concat x with rfl | ⟨front, c, rfl⟩
    · rw [tailOf, if_neg hn]
      exact ⟨List.nil_suffix, ⟨BeginsLine.nil [], Nat.zero_le n⟩, fun ys hys _ => hys.length_le⟩
    · -- the last byte belongs to the last line, whether it ends it or not
      obtain ⟨head, kept, hcut, hscan, hstop⟩ : ∃ head kept, head ++ (kept ++ [c]) = front ++ [c] ∧
          tailOf n (front ++ [c]) = kept ++ [c] ∧
          (head = [] ∧ newlines kept < n ∨
            head.getLast? = some newline ∧ newlines kept + 1 = n) := by
        obtain ⟨head, kept, hcut, hscan, hstop⟩ :=
          lastLines_eq (Nat.pos_of_ne_zero hn) [c] front.reverse
        refine ⟨head, kept, ?_, ?_, hstop⟩
        · rw [← List.append_assoc, hcut, List.reverse_reverse]
        · rw [← hscan, tailOf, if_neg hn, List.reverse_append, List.reverse_singleton]
          by_cases hc : c = newline <;> simp [hc, lastLines]
      rw [List.concat_eq_append, hscan, ← hcut]
      refine isTail_of_append (by simp) ?_
      rwa [lineCount_append_singleton]

end Scrollback

/-! ## §3 What is gone -/

/-- Whether an end begins with a line does not depend on what is gone, if what is held goes further
    back. -/
theorem BeginsLine.of_suffix {gone held tail : Bytes} (h : BeginsLine (gone ++ held) tail)
    (htail : tail <:+ held) : BeginsLine held tail := by
  obtain ⟨head, hhead, hbegin⟩ := h
  obtain ⟨front, rfl⟩ := htail
  obtain rfl : head = gone ++ front := by
    rwa [← List.append_assoc, List.append_left_inj] at hhead
  refine ⟨front, rfl, ?_⟩
  by_cases hfront : front = []
  · exact .inl hfront
  · rw [List.getLast?_append_of_ne_nil gone hfront] at hbegin
    exact hbegin.imp_left fun hnil => (List.append_eq_nil_iff.mp hnil).2

/-- What is gone does not take a line apart that is held as a whole. -/
theorem BeginsLine.append {held tail : Bytes} (h : BeginsLine held tail) (hne : tail ≠ held)
    (gone : Bytes) : BeginsLine (gone ++ held) tail := by
  obtain ⟨head, rfl, hbegin⟩ := h
  have hhead : head ≠ [] := by
    rintro rfl
    exact hne rfl
  refine ⟨gone ++ head, List.append_assoc _ _ _, .inr ?_⟩
  rw [List.getLast?_append_of_ne_nil gone hhead]
  exact hbegin.resolve_left hhead

/-- **What is gone makes no difference** to the last lines, if they are not all that is held. -/
theorem IsTail.append {n : Nat} {held tail : Bytes} (h : IsTail n held tail) (hne : tail ≠ held)
    (gone : Bytes) : IsTail n (gone ++ held) tail := by
  obtain ⟨hbegin, hcount⟩ := h.holds
  refine ⟨h.suffix.trans (List.suffix_append _ _), ⟨hbegin.append hne gone, hcount⟩,
    fun ys hys ⟨hysBegin, hysCount⟩ => ?_⟩
  rcases Nat.le_total ys.length held.length with hshort | hlong
  · -- among the ends of what is held the tail is the longest
    have hysHeld : ys <:+ held :=
      List.suffix_of_suffix_length_le hys (List.suffix_append gone held) hshort
    exact h.longest ys hysHeld ⟨hysBegin.of_suffix hysHeld, hysCount⟩
  · -- if more would do, so would all that is held
    have hheldYs : held <:+ ys :=
      List.suffix_of_suffix_length_le (List.suffix_append gone held) hys hlong
    have hheld : held.length ≤ tail.length := h.longest held (List.suffix_refl held)
      ⟨BeginsLine.self held, (lineCount_le_of_suffix hheldYs).trans hysCount⟩
    exact absurd (h.suffix.eq_of_length (Nat.le_antisymm h.suffix.length_le hheld)) hne

namespace Scrollback

/-! ## §4 The law -/

/-- **The tail is exact**: after any pushes onto a new scrollback, with any limits, the `n` lines that
    are asked for are the last `n` lines of what is held, or all of it. If there is more than was asked
    for, they are the last `n` lines of everything that was pushed, whatever was let go since. -/
theorem tailLines_exact (limits : Limits) (cs : List Chunk) (n : Nat) :
    let b := cs.foldl push (empty limits)
    let tail := b.tailLines n
    IsTail n b.toBytes tail ∧
      (tail ≠ b.toBytes →
        IsTail n (cs.flatMap Chunk.data) tail ∧ tail = tailOf n (cs.flatMap Chunk.data)) := by
  intro b tail
  have htail : IsTail n b.toBytes tail := isTail_tailOf n b.toBytes
  refine ⟨htail, fun hne => ?_⟩
  obtain ⟨gone, htotal, -, -⟩ := (accounts_foldl_push_empty limits cs).1.lost
  rw [flatMap_data_solid] at htotal
  have hall : IsTail n (cs.flatMap Chunk.data) tail := htotal ▸ htail.append hne gone
  exact ⟨hall, hall.unique (isTail_tailOf n _)⟩

/-- With five bytes allowed the first of three chunks has to go. The last two lines, of which one is
    empty and the other is not finished, begin in the middle of the second chunk and go on in the third,
    and they are the last two of everything. -/
theorem tailLines_exact_evicted :
    let cs : List Chunk :=
      [⟨1, 1, [65, 66, newline, 67]⟩, ⟨1, 2, [newline, newline, 68]⟩, ⟨1, 3, [69, 70]⟩]
    let b := cs.foldl push (empty ⟨9, 5⟩)
    b.toBytes = [newline, newline, 68, 69, 70] ∧ b.tailLines 2 = [newline, 68, 69, 70] ∧
      b.tailLines 2 ≠ b.toBytes ∧
      IsTail 2 [65, 66, newline, 67, newline, newline, 68, 69, 70] (b.tailLines 2) := by
  refine ⟨by decide, by decide, by decide, ?_⟩
  exact ((tailLines_exact ⟨9, 5⟩
    [⟨1, 1, [65, 66, newline, 67]⟩, ⟨1, 2, [newline, newline, 68]⟩, ⟨1, 3, [69, 70]⟩] 2).2
      (by decide)).1

end Scrollback

end PaneMux
