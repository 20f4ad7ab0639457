import PaneMux.Proofs.Scrollback.Account

/-!
# Conservation of Output

Nothing is lost from a scrollback without being counted, and nothing is counted twice: after any
pushes, what is held is everything pushed less the bytes counted as gone, and every counter is the
count it stands for.

## Architecture

- **§1** counting with care: a push that refuses to count below zero
- **§2** the law, for any limits and any pushes

The counters are natural numbers, whose difference stops at zero, while a machine word would wrap
around. `push?` is `push` with every correction of a counter guarded, so that `push?` giving `some`
means that no correction ever took away more than there was.
-/

namespace PaneMux

namespace Scrollback

/-! ## §1 Counting with care -/

/-- A difference that must not fall below zero. -/
def deduct (total part : Nat) : Option Nat := if part ≤ total then some (total - part) else none

theorem deduct_of_le {total part : Nat} (h : part ≤ total) :
    deduct total part = some (total - part) := if_pos h

/-- `dropOldest`, with its counters guarded. -/
def dropOldest? (b : Scrollback) (old : Chunk) (rest : List Chunk) : Option Scrollback := do
  let lines ← deduct b.lines (newlines old.data)
  let bytes ← deduct b.bytes old.data.length
  return { b.dropOldest old rest with lines, bytes }

/-- `evictFrom`, with its counters guarded. -/
def evictFrom? (b : Scrollback) : List Chunk → Option Scrollback
  | old :: next :: rest =>
    if b.overLimit then
      (b.dropOldest? old (next :: rest)).bind fun b => b.evictFrom? (next :: rest)
    else some b
  | _ => some b

/-- `trim`, with its counters guarded. -/
def trim? (b : Scrollback) : Option Scrollback :=
  match b.chunks with
  | [] => some b
  | c :: _ => do
    let cut := b.excess c.data
    let lines ← deduct b.lines (newlines (c.data.take cut))
    let bytes ← deduct b.bytes cut
    return { b.trim with lines, bytes }

/-- `push`, with its counters guarded. -/
def push? (b : Scrollback) (c : Chunk) : Option Scrollback :=
  if c.data.isEmpty then some b
  else do
    let b ← (b.append c).evictFrom? (b.append c).chunks
    if b.overLimit then b.trim? else some b

/-- The oldest chunk is a part of what the counters count. -/
theorem dropOldest?_eq {b : Scrollback} {pushed : List Chunk} (h : b.Accounts pushed)
    {old : Chunk} {rest : List Chunk} (hb : b.chunks = old :: rest) :
    b.dropOldest? old rest = some (b.dropOldest old rest) := by
  have hheld := toBytes_of_chunks_cons hb
  have hlines : newlines old.data ≤ b.lines := by
    rw [h.lines_eq, hheld, newlines_append]
    omega
  have hbytes : old.data.length ≤ b.bytes := by
    rw [h.bytes_eq, hheld, List.length_append]
    omega
  simp [dropOldest?, deduct_of_le hlines, deduct_of_le hbytes, dropOldest]

theorem evictFrom?_eq {pushed : List Chunk} :
    ∀ {cs : List Chunk} {b : Scrollback}, b.Accounts pushed → b.chunks = cs →
      b.evictFrom? cs = some (b.evictFrom cs)
  | [], _, _, _ => rfl
  | [_], _, _, _ => rfl
  | old :: next :: rest, b, h, hb => by
    have hrest : (b.dropOldest old (next :: rest)).evictFrom? (next :: rest) =
        some ((b.dropOldest old (next :: rest)).evictFrom (next :: rest)) :=
      evictFrom?_eq (h.dropOldest hb) rfl
    rw [evictFrom?, evictFrom, dropOldest?_eq h hb, Option.bind_some, hrest]
    split <;> rfl

/-- The head that is cut off is a part of what the counters count. -/
theorem trim?_eq {b : Scrollback} {pushed : List Chunk} (h : b.Accounts pushed)
    (hcut : ∀ c rest, b.chunks = c :: rest → b.excess c.data ≤ c.data.length) :
    b.trim? = some b.trim := by
  unfold trim?
  split
  · next hb => simp [trim, hb]
  · next c rest hb =>
    have hheld := toBytes_of_chunks_cons hb
    have hlines : newlines (c.data.take (b.excess c.data)) ≤ b.lines := by
      have hsplit := newlines_take_add_drop (b.excess c.data) c.data
      rw [h.lines_eq, hheld, newlines_append]
      omega
    have hbytes : b.excess c.data ≤ b.bytes := by
      have := hcut c rest hb
      rw [h.bytes_eq, hheld, List.length_append]
      omega
    simp [deduct_of_le hlines, deduct_of_le hbytes, trim, hb]

/-- No counter of a scrollback in order falls below zero in a push. -/
theorem push?_eq {b : Scrollback} {pushed : List Chunk} (h : b.Accounts pushed) (c : Chunk)
    (hmaxLines : 0 < b.limits.maxLines) (hmaxBytes : 0 < b.limits.maxBytes) :
    b.push? c = some (b.push c) := by
  by_cases hc : c.data = []
  · simp [push?, push, hc]
  · have hacc := h.grown hc
    have hgrown : (b.append c).evictFrom? (b.append c).chunks = some (b.grown c) :=
      evictFrom?_eq (h.append hc) rfl
    have hpush? : b.push? c =
        if (b.grown c).overLimit then (b.grown c).trim? else some (b.grown c) := by
      simp [push?, hc, hgrown]
    rw [hpush?, push_of_data_ne_nil b hc]
    by_cases hover : (b.grown c).overLimit = true
    · rw [if_pos hover, if_pos hover]
      refine trim?_eq hacc fun d rest hd => ?_
      -- over a limit only the newest chunk is left, and the cut spares a part of it
      have hone := length_le_one_of_overLimit_grown hover
      rw [hd, List.length_cons] at hone
      have hrest : rest = [] := List.eq_nil_of_length_eq_zero (by omega)
      have hlines : (b.grown c).lines = newlines d.data := by
        simp [hacc.lines_eq, toBytes, hd, hrest]
      have hspec := excess_spec hlines (hacc.nonempty d (by simp [hd])) (by rwa [limits_grown])
        (by rwa [limits_grown])
      exact Nat.le_of_lt hspec.2.2
    · rw [if_neg hover, if_neg hover]

/-- No counter falls below zero in any number of pushes. -/
theorem foldlM_push?_eq (cs : List Chunk) :
    ∀ {b : Scrollback} {pushed : List Chunk}, b.Accounts pushed → b.overLimit = false →
      0 < b.limits.maxLines → 0 < b.limits.maxBytes →
      cs.foldlM push? b = some (cs.foldl push b) := by
  induction cs with
  | nil => intro b pushed _ _ _ _; rfl
  | cons c cs ih =>
    intro b pushed h hfit hmaxLines hmaxBytes
    -- after the first push the scrollback is in order again, with the limits it had
    have hnext := Accounts.foldl_push [c] h hfit hmaxLines hmaxBytes
    rw [List.foldlM_cons, push?_eq h c hmaxLines hmaxBytes]
    exact ih hnext.1 hnext.2 (by simpa using hmaxLines) (by simpa using hmaxBytes)

/-! ## §2 The law -/

/-- **Conservation of output**: after any pushes `cs` onto a new scrollback, with any limits,

- what is held is everything pushed without as many bytes as are counted as gone,
- the counters of bytes and lines count what is held, and both are within the limits,
- the lines counted as gone are the line ends among the bytes that are gone,
- the chunks counted as gone and the chunks held are all the pushes that were not empty,
- the chunks held are the last of those, in order and under their numbers; only the oldest may lack
  its head, and none is empty,
- and no counter was ever asked to fall below zero. -/
theorem output_conserved (limits : Limits) (cs : List Chunk) :
    let b := cs.foldl push (empty limits)
    let output := cs.flatMap Chunk.data
    b.toBytes = output.drop b.truncation.bytes ∧ b.truncation.bytes + b.bytes = output.length ∧
      b.bytes = b.toBytes.length ∧ b.bytes ≤ max 1 limits.maxBytes ∧
      b.lines = newlines b.toBytes ∧ b.lines ≤ max 1 limits.maxLines ∧
      b.truncation.lines = newlines (output.take b.truncation.bytes) ∧
      b.truncation.chunks + b.length = (solid cs).length ∧
      (∃ cut, b.chunks = cutHead cut ((solid cs).drop ((solid cs).length - b.length))) ∧
      (∀ c ∈ b.chunks, c.data ≠ []) ∧
      cs.foldlM push? (empty limits) = some b := by
  intro b output
  obtain ⟨hacc, hfit⟩ := accounts_foldl_push_empty limits cs
  obtain ⟨hfitLines, hfitBytes⟩ := overLimit_eq_false_iff.mp hfit
  obtain ⟨gone, htotal, hgoneBytes, hgoneLines⟩ := hacc.lost
  obtain ⟨cut, hkept⟩ := hacc.kept
  rw [flatMap_data_solid] at htotal
  have hlimits : b.limits = limits.atLeastOne := limits_foldl_push cs _
  have hcounted : b.truncation.chunks + b.length = (solid cs).length := hacc.counted
  have hpos := limits_empty_pos limits
  refine ⟨?_, ?_, hacc.bytes_eq, ?_, hacc.lines_eq, ?_, ?_, hcounted, ⟨cut, ?_⟩, hacc.nonempty, ?_⟩
  -- the bytes that are gone are the first ones pushed, and the others are held
  · show b.toBytes = (cs.flatMap Chunk.data).drop b.truncation.bytes
    rw [← htotal, hgoneBytes, List.drop_left]
  · show b.truncation.bytes + b.bytes = (cs.flatMap Chunk.data).length
    rw [← htotal, hgoneBytes, hacc.bytes_eq, List.length_append]
  · calc b.bytes ≤ b.limits.maxBytes := hfitBytes
      _ = max 1 limits.maxBytes := by rw [hlimits]; exact Nat.max_comm _ _
  · calc b.lines ≤ b.limits.maxLines := hfitLines
      _ = max 1 limits.maxLines := by rw [hlimits]; exact Nat.max_comm _ _
  · show b.truncation.lines = newlines ((cs.flatMap Chunk.data).take b.truncation.bytes)
    rw [← htotal, hgoneBytes, hgoneLines, List.take_left]
  · rw [← hcounted, Nat.add_sub_cancel]
    exact hkept
  · exact foldlM_push?_eq cs (accounts_empty limits) (by simp [overLimit, empty]) hpos.1 hpos.2

/-- Three lines are gone with two chunks, and the head of the third chunk with them. -/
example :
    let b := [⟨1, 1, [65, newline]⟩, ⟨1, 2, []⟩, ⟨1, 3, [66, newline]⟩,
      ⟨1, 4, [67, newline, 68, newline]⟩].foldl push (empty ⟨1, 100⟩)
    b.chunks = [⟨1, 4, [68, newline]⟩] ∧ b.truncation = ⟨2, 6, 3⟩ := by
  decide

end Scrollback

end PaneMux
