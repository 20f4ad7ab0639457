import Mathlib.Data.List.Infix
import PaneMux.Proofs.Scrollback.Account

/-!
# Retention

A scrollback within its limits could as well be empty. This file proves that it lets go of no more than
it has to: what a push leaves is the longest end of what there was that the limits allow, counted in
whole chunks, and in bytes when the new chunk is too large by itself.

## Architecture

- **§1** `LongestSuffix`: the longest end of a list that has a property
- **§2** `Limits.Admits`: what the limits allow, and how a scrollback tells
- **§3** eviction stops as soon as it may
- **§4** the cut that makes a single chunk fit, to the byte
- **§5** the law
-/

namespace PaneMux

/-! ## §1 The longest end -/

/-- `tail` is the longest end of `xs` that has the property `P`. -/
structure LongestSuffix {α : Type} (P : List α → Prop) (xs tail : List α) : Prop where
  suffix : tail <:+ xs
  holds : P tail
  longest : ∀ ys, ys <:+ xs → P ys → ys.length ≤ tail.length

namespace LongestSuffix

variable {α : Type} {P Q : List α → Prop} {xs tail : List α}

/-- There is one longest end. -/
theorem unique {tail' : List α} (h : LongestSuffix P xs tail) (h' : LongestSuffix P xs tail') :
    tail = tail' :=
  (List.suffix_of_suffix_length_le h.suffix h'.suffix (h'.longest _ h.suffix h.holds)).eq_of_length
    (Nat.le_antisymm (h'.longest _ h.suffix h.holds) (h.longest _ h'.suffix h'.holds))

/-- A longest end is also the longest of fewer ends, if it is one of them. -/
theorem of_imp (h : LongestSuffix P xs tail) (htail : Q tail) (himp : ∀ ys, Q ys → P ys) :
    LongestSuffix Q xs tail :=
  ⟨h.suffix, htail, fun ys hys hQ => h.longest ys hys (himp ys hQ)⟩

end LongestSuffix

/-! ## §2 Limits -/

/-- Output that is within limits. -/
def Limits.Admits (l : Limits) (data : Bytes) : Prop :=
  newlines data ≤ l.maxLines ∧ data.length ≤ l.maxBytes

instance (l : Limits) : DecidablePred l.Admits := fun _ => inferInstanceAs (Decidable (_ ∧ _))

/-- An end of what is within limits is within them. -/
theorem Limits.Admits.of_suffix {l : Limits} {x y : Bytes} (h : l.Admits y) (hxy : x <:+ y) :
    l.Admits x := by
  obtain ⟨front, rfl⟩ := hxy
  obtain ⟨hlines, hbytes⟩ := h
  rw [newlines_append] at hlines
  rw [List.length_append] at hbytes
  exact ⟨by omega, by omega⟩

namespace Scrollback

/-- The counters tell whether what is held is within the limits. -/
theorem Accounts.overLimit_iff {b : Scrollback} {pushed : List Chunk} (h : b.Accounts pushed) :
    b.overLimit = true ↔ ¬b.limits.Admits b.toBytes := by
  rw [← Bool.not_eq_false, overLimit_eq_false_iff, h.lines_eq, h.bytes_eq]
  rfl

/-! ## §3 Eviction -/

/-- **Eviction stops as soon as it may**: it leaves the longest end of the chunks that is within the
    limits, or the last chunk alone. -/
theorem Accounts.longestSuffix_evictFrom {pushed : List Chunk} :
    ∀ {cs : List Chunk} {b : Scrollback}, b.Accounts pushed → b.chunks = cs →
      LongestSuffix (fun ds => b.limits.Admits (ds.flatMap Chunk.data) ∨ ds.length ≤ 1) cs
        (b.evictFrom cs).chunks
  | [], b, _, hb => by
    rw [Scrollback.evictFrom, hb]
    · exact ⟨List.suffix_refl _, .inr (Nat.zero_le 1), fun ys hys _ => hys.length_le⟩
    · simp
  | [c], b, _, hb => by
    rw [Scrollback.evictFrom, hb]
    · exact ⟨List.suffix_refl _, .inr (Nat.le_refl 1), fun ys hys _ => hys.length_le⟩
    · simp
  | old :: next :: rest, b, h, hb => by
    have hheld : b.toBytes = (old :: next :: rest).flatMap Chunk.data := by rw [toBytes, hb]
    by_cases hover : b.overLimit = true
    · have hrest := Accounts.longestSuffix_evictFrom (h.dropOldest hb) rfl
      rw [Scrollback.evictFrom, if_pos hover]
      refine ⟨hrest.suffix.trans (List.suffix_cons _ _), hrest.holds, fun ys hys hkept => ?_⟩
      rcases List.suffix_cons_iff.mp hys with rfl | hys
      · -- all of it together is too much, so that the oldest chunk has to go
        have hmany := h.overLimit_iff.mp hover
        rw [hheld] at hmany
        rcases hkept with hfits | hone
        · exact absurd hfits hmany
        · simp at hone
      · exact hrest.longest ys hys hkept
    · have hfits : b.limits.Admits b.toBytes := by
        by_contra hmany
        exact hover (h.overLimit_iff.mpr hmany)
      rw [Scrollback.evictFrom, if_neg hover, hb]
      exact ⟨List.suffix_refl _, .inl (hheld ▸ hfits), fun ys hys _ => hys.length_le⟩

/-! ## §4 The cut -/

private theorem afterNewline_go_le (data : Bytes) :
    ∀ n passed k, n + 1 ≤ newlines (data.take k) →
      afterNewline.go (n + 1) passed data ≤ passed + k := by
  induction data with
  | nil => intro n passed k h; simp at h
  | cons c rest ih =>
    intro n passed k h
    cases k with
    | zero => simp at h
    | succ k =>
      rw [List.take_succ_cons, newlines_cons] at h
      by_cases hc : c = newline
      · cases n with
        | zero => simp [afterNewline.go, hc]
        | succ n =>
          have hrest := ih n (passed + 1) k (by simp [hc] at h; omega)
          simp only [afterNewline.go, hc, if_true, Nat.succ_ne_zero, if_false]
          omega
      · have hrest := ih n (passed + 1) k (by simp [hc] at h; omega)
        simp only [afterNewline.go, hc, if_false]
        omega

/-- `afterNewline n` cuts off no more than it takes to be rid of `n` line ends. -/
theorem afterNewline_le {n k : Nat} {data : Bytes} (h : n ≤ newlines (data.take k)) :
    afterNewline n data ≤ k := by
  cases n with
  | zero => simp [afterNewline, afterNewline.go]
  | succ n => simpa [afterNewline] using afterNewline_go_le data n 0 k h

/-- **The cut spares every byte that it can**: what it leaves of a chunk is the longest end that is
    within the limits. -/
theorem longestSuffix_drop_excess {b : Scrollback} {data : Bytes} (hlines : b.lines = newlines data)
    (hdata : data ≠ []) (hmaxLines : 0 < b.limits.maxLines) (hmaxBytes : 0 < b.limits.maxBytes) :
    LongestSuffix b.limits.Admits data (data.drop (b.excess data)) := by
  obtain ⟨hfitLines, hfitBytes, -⟩ := excess_spec hlines hdata hmaxLines hmaxBytes
  refine ⟨List.drop_suffix _ _, ⟨hfitLines, hfitBytes⟩, fun ys hys ⟨hysLines, hysBytes⟩ => ?_⟩
  -- `k` bytes are missing from the other end, and with them all lines over the limit
  obtain ⟨front, rfl⟩ := hys
  have hcut : b.excess (front ++ ys) ≤ front.length := by
    refine max_le (afterNewline_le ?_) ?_
    · rw [List.take_left, hlines, newlines_append]
      omega
    · rw [List.length_append]
      omega
  rw [List.length_drop, List.length_append]
  omega

/-! ## §5 The law -/

section Grown

variable {b : Scrollback} {pushed : List Chunk} {c : Chunk}

/-- What eviction leaves for a new chunk, which is there itself in any case. -/
theorem Accounts.longestSuffix_grown (h : b.Accounts pushed) (hc : c.data ≠ []) :
    LongestSuffix (fun ds => b.limits.Admits (ds.flatMap Chunk.data) ∨ ds.length ≤ 1)
      (b.chunks ++ [c]) (b.grown c).chunks ∧ [c] <:+ (b.grown c).chunks := by
  have hlongest : LongestSuffix
      (fun ds => b.limits.Admits (ds.flatMap Chunk.data) ∨ ds.length ≤ 1) (b.chunks ++ [c])
      (b.grown c).chunks := (h.append hc).longestSuffix_evictFrom rfl
  have hlast : [c] <:+ b.chunks ++ [c] := List.suffix_append _ _
  exact ⟨hlongest, List.suffix_of_suffix_length_le hlast hlongest.suffix
    (hlongest.longest _ hlast (.inr (Nat.le_refl 1)))⟩

/-- A chunk that is within the limits need not be cut. -/
theorem Accounts.longestSuffix_push (h : b.Accounts pushed) (hc : c.data ≠ [])
    (hfits : b.limits.Admits c.data) :
    LongestSuffix (fun ds => b.limits.Admits (ds.flatMap Chunk.data)) (b.chunks ++ [c])
      (b.push c).chunks := by
  obtain ⟨hlongest, hlast⟩ := h.longestSuffix_grown hc
  have hheld : b.limits.Admits (b.grown c).toBytes := by
    rcases hlongest.holds with hheld | hone
    · exact hheld
    · -- only the new chunk is left
      have hchunks : (b.grown c).chunks = [c] :=
        (hlast.eq_of_length (Nat.le_antisymm hlast.length_le hone)).symm
      simpa [toBytes, hchunks] using hfits
  have hroom : ¬(b.grown c).overLimit = true := by
    rw [(h.grown hc).overLimit_iff, limits_grown, not_not]
    exact hheld
  rw [push_of_data_ne_nil b hc, if_neg hroom]
  exact hlongest.of_imp hheld fun _ => .inl

/-- A chunk that is too much by itself is the only one left, and is cut. -/
theorem Accounts.push_of_not_admits (h : b.Accounts pushed) (hc : c.data ≠ [])
    (hmany : ¬b.limits.Admits c.data) (hmaxLines : 0 < b.limits.maxLines)
    (hmaxBytes : 0 < b.limits.maxBytes) :
    ∃ data, (b.push c).chunks = [{ c with data }] ∧ LongestSuffix b.limits.Admits c.data data := by
  obtain ⟨hlongest, hlast⟩ := h.longestSuffix_grown hc
  have hacc := h.grown hc
  -- with other chunks beside it there would be even more
  have hone : (b.grown c).chunks.length ≤ 1 := by
    refine hlongest.holds.resolve_left fun hheld => hmany (hheld.of_suffix ?_)
    obtain ⟨front, hfront⟩ := hlast
    rw [← hfront, List.flatMap_append, List.flatMap_singleton]
    exact List.suffix_append _ _
  have hchunks : (b.grown c).chunks = [c] :=
    (hlast.eq_of_length (Nat.le_antisymm hlast.length_le hone)).symm
  have hheld : (b.grown c).toBytes = c.data := by simp [toBytes, hchunks]
  have hover : (b.grown c).overLimit = true := by
    rw [hacc.overLimit_iff, limits_grown, hheld]
    exact hmany
  refine ⟨c.data.drop ((b.grown c).excess c.data), ?_, ?_⟩
  · rw [push_of_data_ne_nil b hc, if_pos hover, Scrollback.trim, hchunks]
  · have hlines : (b.grown c).lines = newlines c.data := by rw [hacc.lines_eq, hheld]
    have hcut := longestSuffix_drop_excess hlines hc (by rwa [limits_grown]) (by rwa [limits_grown])
    rwa [limits_grown] at hcut

end Grown

/-- **A push keeps as much as the limits allow**: after any pushes `cs` onto a new scrollback, with any
    limits, let one more chunk be pushed that is not empty. If it is within the limits by itself, the
    chunks that are left are the longest end of those that were held and the new one which is within the
    limits as a whole. If it is not, it alone is left, under its pane and its number, with the longest
    end of its output that is within the limits. -/
theorem push_retains_longest (limits : Limits) (cs : List Chunk) (c : Chunk) (hc : c.data ≠ []) :
    let b := cs.foldl push (empty limits)
    let allowed := limits.atLeastOne
    if allowed.Admits c.data then
      LongestSuffix (fun ds => allowed.Admits (ds.flatMap Chunk.data)) (b.chunks ++ [c])
        (b.push c).chunks
    else
      ∃ data, (b.push c).chunks = [{ c with data }] ∧ LongestSuffix allowed.Admits c.data data := by
  intro b allowed
  have hacc : b.Accounts (solid cs) := (accounts_foldl_push_empty limits cs).1
  have hlimits : b.limits = allowed := limits_foldl_push cs _
  obtain ⟨hmaxLines, hmaxBytes⟩ := limits_empty_pos limits
  rw [← hlimits]
  split
  case isTrue hfits => exact hacc.longestSuffix_push hc hfits
  case isFalse hmany =>
    exact hacc.push_of_not_admits hc hmany (hlimits ▸ hmaxLines) (hlimits ▸ hmaxBytes)

/-- With two lines and four bytes allowed, a chunk that fills the limits up takes the place of the oldest
    one alone. Of a chunk that is too large the last line is kept, which is as long as is allowed, without
    the line end just before it. -/
theorem push_retains_longest_full :
    let cs : List Chunk := [⟨1, 1, [65, newline]⟩, ⟨1, 2, [66, newline]⟩]
    let b := cs.foldl push (empty ⟨2, 4⟩)
    let c : Chunk := ⟨1, 3, [67, newline]⟩
    let large : Chunk := ⟨1, 3, [67, newline, 68, newline, 69, 70, 71, 72]⟩
    c.data ≠ [] ∧ large.data ≠ [] ∧
      LongestSuffix (fun ds => Limits.Admits ⟨2, 4⟩ (ds.flatMap Chunk.data)) (b.chunks ++ [c])
        [⟨1, 2, [66, newline]⟩, c] ∧
      (b.push large).chunks = [⟨1, 3, [69, 70, 71, 72]⟩] ∧
      ∃ data, (b.push large).chunks = [{ large with data }] ∧
        LongestSuffix (Limits.Admits ⟨2, 4⟩) large.data data :=
  ⟨by decide, by decide, push_retains_longest ⟨2, 4⟩ _ ⟨1, 3, [67, newline]⟩ (by decide), by decide,
    push_retains_longest ⟨2, 4⟩ _ ⟨1, 3, [67, newline, 68, newline, 69, 70, 71, 72]⟩ (by decide)⟩

end Scrollback

end PaneMux
