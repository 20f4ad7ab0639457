import PaneMux.Terminal.Scrollback
import Mathlib.Data.List.Basic

/-!
# The Account of a Scrollback

A scrollback keeps five counters beside its chunks, and every change of the chunks corrects them by
hand. This file says what the counters count: `Accounts b pushed` relates a scrollback to *all* the
chunks that were ever pushed onto it, and each of the steps of `Scrollback.push` keeps it.

## Architecture

- **§1** line ends: counting them, and cutting a byte string after the `n`-th
- **§2** the account: what is held and what is gone make up everything pushed
- **§3** eviction: one chunk, and then as many as it takes
- **§4** cutting the head off the only chunk
- **§5** a whole push, and any number of them

The head of a chunk may be cut off when it is the only one, and the chunk may be evicted later as a
whole. The account survives this because it speaks of the bytes that are gone (`lost`) and of the
chunks that are left (`kept`) separately.
-/

namespace PaneMux

/-! ## §1 Line ends -/

@[simp] theorem newlines_nil : newlines [] = 0 := rfl

@[simp] theorem newlines_append (x y : Bytes) : newlines (x ++ y) = newlines x + newlines y :=
  List.count_append

theorem newlines_cons (c : UInt8) (x : Bytes) :
    newlines (c :: x) = newlines x + if c = newline then 1 else 0 := by
  simp [newlines, List.count_cons]

/-- A cut leaves some line ends before it and the others behind it. -/
theorem newlines_take_add_drop (n : Nat) (x : Bytes) :
    newlines (x.take n) + newlines (x.drop n) = newlines x := by
  rw [← newlines_append, List.take_append_drop]

/-- A later cut leaves no more line ends behind it. -/
theorem newlines_drop_anti {m n : Nat} (h : m ≤ n) (x : Bytes) :
    newlines (x.drop n) ≤ newlines (x.drop m) := by
  have hdrop : x.drop n = (x.drop m).drop (n - m) := by
    rw [List.drop_drop, Nat.add_sub_cancel' h]
  have hcut := newlines_take_add_drop (n - m) (x.drop m)
  rw [hdrop]
  omega

namespace Scrollback

/-- The `n + 1`-st line end is found `k` bytes on, whatever has been passed before. -/
private theorem afterNewline_go_eq (data : Bytes) :
    ∀ n passed, n + 1 ≤ newlines data →
      ∃ k, afterNewline.go (n + 1) passed data = passed + k ∧ k ≤ data.length ∧
        newlines (data.take k) = n + 1 := by
  -- byte by byte: this one is the line end looked for, an earlier one, or none at all
  induction data with
  | nil => intro n passed h; simp at h
  | cons c rest ih =>
    intro n passed h
    rw [newlines_cons] at h
    by_cases hc : c = newline
    · cases n with
      | zero =>
        refine ⟨1, ?_, by simp, ?_⟩
        · simp [afterNewline.go, hc]
        · simp [newlines_cons, hc]
      | succ n =>
        obtain ⟨k, hk, hle, hcount⟩ := ih n (passed + 1) (by simp [hc] at h; omega)
        refine ⟨k + 1, ?_, by simp; omega, ?_⟩
        · simp only [afterNewline.go, hc, if_true, Nat.succ_ne_zero, if_false, hk]
          omega
        · simp [newlines_cons, hc, hcount]
    · obtain ⟨k, hk, hle, hcount⟩ := ih n (passed + 1) (by simp [hc] at h; omega)
      refine ⟨k + 1, ?_, by simp; omega, ?_⟩
      · simp only [afterNewline.go, hc, if_false, hk]
        omega
      · simp [newlines_cons, hc, hcount]

/-- `afterNewline n` cuts off exactly `n` line ends where there are that many. -/
theorem newlines_take_afterNewline {n : Nat} {data : Bytes} (h : n ≤ newlines data) :
    newlines (data.take (afterNewline n data)) = n := by
  cases n with
  | zero => simp [afterNewline, afterNewline.go]
  | succ n =>
    obtain ⟨k, hk, -, hcount⟩ := afterNewline_go_eq data n 0 h
    rw [afterNewline, hk, Nat.zero_add, hcount]

/-- Where a line end is left over, `afterNewline n` does not reach the end. -/
theorem afterNewline_lt_length {n : Nat} {data : Bytes} (h : n < newlines data) :
    afterNewline n data < data.length := by
  by_contra hle
  have hcount := newlines_take_afterNewline (Nat.le_of_lt h)
  rw [List.take_of_length_le (Nat.le_of_not_lt hle)] at hcount
  omega

/-! ## §2 The account -/

/-- Chunks without the first `n` bytes of the oldest one. -/
def cutHead (n : Nat) : List Chunk → List Chunk
  | [] => []
  | c :: rest => { c with data := c.data.drop n } :: rest

@[simp] theorem cutHead_nil (n : Nat) : cutHead n [] = [] := rfl

@[simp] theorem cutHead_zero (cs : List Chunk) : cutHead 0 cs = cs := by
  cases cs <;> simp [cutHead]

/-- Cutting the head keeps every chunk in its place in the sequence. -/
@[simp] theorem map_seq_cutHead (n : Nat) (cs : List Chunk) :
    (cutHead n cs).map Chunk.seq = cs.map Chunk.seq := by
  cases cs <;> simp [cutHead]

/-- **The account of a scrollback** onto which the chunks `pushed`, none of them empty, have been
    pushed so far. -/
structure Accounts (b : Scrollback) (pushed : List Chunk) : Prop where
  bytes_eq : b.bytes = b.toBytes.length
  lines_eq : b.lines = newlines b.toBytes
  /-- what is gone and what is held make up everything, and what is gone has been counted -/
  lost : ∃ gone, gone ++ b.toBytes = pushed.flatMap Chunk.data ∧
    b.truncation.bytes = gone.length ∧ b.truncation.lines = newlines gone
  /-- the chunks held are the newest ones, the oldest of them perhaps without its head -/
  kept : ∃ cut, b.chunks = cutHead cut (pushed.drop b.truncation.chunks)
  counted : b.truncation.chunks + b.chunks.length = pushed.length
  nonempty : ∀ c ∈ b.chunks, c.data ≠ []
  /-- a chunk that is gone took a byte with it at least -/
  chunks_le_bytes : b.truncation.chunks ≤ b.truncation.bytes

/-- Nothing has been pushed onto an empty scrollback. -/
theorem accounts_empty (limits : Limits) : (empty limits).Accounts [] where
  bytes_eq := rfl
  lines_eq := rfl
  lost := ⟨[], rfl, rfl, rfl⟩
  kept := ⟨0, rfl⟩
  counted := rfl
  nonempty c hc := by cases hc
  chunks_le_bytes := Nat.le_refl 0

@[simp] theorem toBytes_append (b : Scrollback) (c : Chunk) :
    (b.append c).toBytes = b.toBytes ++ c.data := by
  simp [toBytes, append]

/-- A chunk put at the new end is held and counted. -/
theorem Accounts.append {b : Scrollback} {pushed : List Chunk} (h : b.Accounts pushed) {c : Chunk}
    (hc : c.data ≠ []) : (b.append c).Accounts (pushed ++ [c]) where
  bytes_eq := by rw [toBytes_append, List.length_append, ← h.bytes_eq]; rfl
  lines_eq := by rw [toBytes_append, newlines_append, ← h.lines_eq]; rfl
  lost := by
    obtain ⟨gone, htotal, hbytes, hlines⟩ := h.lost
    refine ⟨gone, ?_, hbytes, hlines⟩
    rw [toBytes_append, ← List.append_assoc, htotal]
    simp
  kept := by
    obtain ⟨cut, hkept⟩ := h.kept
    have hle : b.truncation.chunks ≤ pushed.length := by have := h.counted; omega
    show ∃ cut', b.chunks ++ [c] = cutHead cut' ((pushed ++ [c]).drop b.truncation.chunks)
    rw [List.drop_append_of_le_length hle, hkept]
    -- with nothing held so far the new chunk is the oldest one, and it is whole
    cases pushed.drop b.truncation.chunks with
    | nil => exact ⟨0, by simp⟩
    | cons d rest => exact ⟨cut, rfl⟩
  counted := by
    have := h.counted
    simp only [Scrollback.append, List.length_append, List.length_singleton]
    omega
  nonempty := by
    intro d hd
    rcases List.mem_append.mp hd with hd | hd
    · exact h.nonempty d hd
    · rw [List.mem_singleton.mp hd]
      exact hc
  chunks_le_bytes := h.chunks_le_bytes

/-! ## §3 Eviction -/

/-- What the oldest chunk holds comes first. -/
theorem toBytes_of_chunks_cons {b : Scrollback} {old : Chunk} {rest : List Chunk}
    (hb : b.chunks = old :: rest) : b.toBytes = old.data ++ rest.flatMap Chunk.data := by
  simp [toBytes, hb]

/-- Letting the oldest chunk go moves it, and its bytes, from one side of the account to the
    other. -/
theorem Accounts.dropOldest {b : Scrollback} {pushed : List Chunk} (h : b.Accounts pushed)
    {old : Chunk} {rest : List Chunk} (hb : b.chunks = old :: rest) :
    (b.dropOldest old rest).Accounts pushed where
  bytes_eq := by
    have hbytes := h.bytes_eq
    rw [toBytes_of_chunks_cons hb, List.length_append] at hbytes
    show b.bytes - old.data.length = (rest.flatMap Chunk.data).length
    omega
  lines_eq := by
    have hlines := h.lines_eq
    rw [toBytes_of_chunks_cons hb, newlines_append] at hlines
    show b.lines - newlines old.data = newlines (rest.flatMap Chunk.data)
    omega
  lost := by
    obtain ⟨gone, htotal, hbytes, hlines⟩ := h.lost
    refine ⟨gone ++ old.data, ?_, ?_, ?_⟩
    · rw [← htotal, toBytes_of_chunks_cons hb, List.append_assoc]
      rfl
    · rw [List.length_append, ← hbytes]
      rfl
    · rw [newlines_append, ← hlines]
      rfl
  kept := by
    obtain ⟨cut, hkept⟩ := h.kept
    refine ⟨0, ?_⟩
    show rest = cutHead 0 (pushed.drop (b.truncation.chunks + 1))
    -- the chunk that may lack its head is the one that goes
    rw [cutHead_zero, ← List.drop_drop]
    cases hdrop : pushed.drop b.truncation.chunks with
    | nil => rw [hb, hdrop] at hkept; simp at hkept
    | cons d tail =>
      rw [hb, hdrop, cutHead, List.cons.injEq] at hkept
      exact hkept.2
  counted := by
    have hcounted := h.counted
    rw [hb, List.length_cons] at hcounted
    show b.truncation.chunks + 1 + rest.length = pushed.length
    omega
  nonempty c hc := h.nonempty c (hb ▸ List.mem_cons_of_mem old hc)
  chunks_le_bytes := by
    have hle := h.chunks_le_bytes
    have hpos := List.length_pos_iff.mpr (h.nonempty old (hb ▸ List.mem_cons_self))
    show b.truncation.chunks + 1 ≤ b.truncation.bytes + old.data.length
    omega

@[simp] theorem limits_dropOldest (b : Scrollback) (old : Chunk) (rest : List Chunk) :
    (b.dropOldest old rest).limits = b.limits := rfl

/-- Eviction keeps the account, however many chunks it takes. -/
theorem Accounts.evictFrom {pushed : List Chunk} :
    ∀ {cs : List Chunk} {b : Scrollback}, b.Accounts pushed → b.chunks = cs →
      (b.evictFrom cs).Accounts pushed
  | [], b, h, _ => h
  | [_], b, h, _ => h
  | old :: next :: rest, b, h, hb => by
    rw [Scrollback.evictFrom]
    split
    · exact (h.dropOldest hb).evictFrom rfl
    · exact h

/-- Eviction stops within the limits or at the newest chunk. -/
theorem length_le_one_of_overLimit_evictFrom :
    ∀ {cs : List Chunk} {b : Scrollback}, b.chunks = cs → (b.evictFrom cs).overLimit = true →
      (b.evictFrom cs).chunks.length ≤ 1
  | [], b, hb, _ => by simp [Scrollback.evictFrom, hb]
  | [_], b, hb, _ => by simp [Scrollback.evictFrom, hb]
  | old :: next :: rest, b, hb, hover => by
    by_cases hb' : b.overLimit = true
    · simp only [Scrollback.evictFrom, hb', if_true] at hover ⊢
      exact length_le_one_of_overLimit_evictFrom rfl hover
    · simp only [Scrollback.evictFrom, hb'] at hover
      contradiction

@[simp] theorem limits_evictFrom :
    ∀ (cs : List Chunk) (b : Scrollback), (b.evictFrom cs).limits = b.limits
  | [], _ => rfl
  | [_], _ => rfl
  | old :: next :: rest, b => by
    rw [Scrollback.evictFrom]
    split
    · rw [limits_evictFrom, limits_dropOldest]
    · rfl

/-! ## §4 Cutting the head -/

theorem overLimit_eq_false_iff {b : Scrollback} :
    b.overLimit = false ↔ b.lines ≤ b.limits.maxLines ∧ b.bytes ≤ b.limits.maxBytes := by
  simp [overLimit]

/-- The cut leaves no more lines than allowed, no more bytes than allowed, and something at all. -/
theorem excess_spec {b : Scrollback} {data : Bytes} (hlines : b.lines = newlines data)
    (hdata : data ≠ []) (hmaxLines : 0 < b.limits.maxLines) (hmaxBytes : 0 < b.limits.maxBytes) :
    newlines (data.drop (b.excess data)) ≤ b.limits.maxLines ∧
      (data.drop (b.excess data)).length ≤ b.limits.maxBytes ∧ b.excess data < data.length := by
  have hpos := List.length_pos_iff.mpr hdata
  -- `n` lines are too many, and the cut behind the last of them leaves the others
  set n := b.lines - b.limits.maxLines with hn
  have htake : newlines (data.take (afterNewline n data)) = n :=
    newlines_take_afterNewline (by omega)
  have hsum := newlines_take_add_drop (afterNewline n data) data
  -- the limit on bytes may move the cut on, which leaves no more lines
  have hanti : newlines (data.drop (b.excess data)) ≤ newlines (data.drop (afterNewline n data)) :=
    newlines_drop_anti (Nat.le_max_left _ _) data
  have hlt : afterNewline n data < data.length := by
    by_cases hzero : n = 0
    · rw [hzero]
      simpa [afterNewline, afterNewline.go] using hpos
    · exact afterNewline_lt_length (by omega)
  refine ⟨by omega, ?_, ?_⟩
  · rw [List.length_drop, excess]
    omega
  · rw [excess, ← hn]
    omega

/-- Cutting the head of the only chunk moves its first bytes from one side of the account to the
    other. -/
theorem Accounts.trim {b : Scrollback} {pushed : List Chunk} (h : b.Accounts pushed) {c : Chunk}
    (hb : b.chunks = [c]) (hcut : b.excess c.data < c.data.length) : b.trim.Accounts pushed := by
  have hbytes := h.bytes_eq
  have hlines := h.lines_eq
  have hsplit := newlines_take_add_drop (b.excess c.data) c.data
  -- the chunk is all that is held, so that its counts are those of the scrollback
  have hheld : b.toBytes = c.data := by simp [toBytes, hb]
  rw [hheld] at hbytes hlines
  have htrim : b.trim.toBytes = c.data.drop (b.excess c.data) := by
    simp [toBytes, Scrollback.trim, hb]
  constructor
  case bytes_eq =>
    rw [htrim, List.length_drop]
    simp only [Scrollback.trim, hb]
    omega
  case lines_eq =>
    rw [htrim]
    simp only [Scrollback.trim, hb]
    omega
  case lost =>
    obtain ⟨gone, htotal, hgoneBytes, hgoneLines⟩ := h.lost
    refine ⟨gone ++ c.data.take (b.excess c.data), ?_, ?_, ?_⟩
    · rw [htrim, List.append_assoc, List.take_append_drop, ← htotal, hheld]
    · simp only [Scrollback.trim, hb, List.length_append, List.length_take]
      omega
    · simp only [Scrollback.trim, hb, newlines_append]
      omega
  case kept =>
    -- the chunk may lack a head from an earlier cut, and the two cuts add up
    obtain ⟨cut, hkept⟩ := h.kept
    refine ⟨cut + b.excess c.data, ?_⟩
    simp only [Scrollback.trim, hb]
    cases hdrop : pushed.drop b.truncation.chunks with
    | nil => rw [hb, hdrop] at hkept; simp at hkept
    | cons d tail =>
      rw [hb, hdrop, cutHead, List.cons.injEq] at hkept
      obtain ⟨hc, htail⟩ := hkept
      simp [cutHead, hc, ← htail, List.drop_drop]
  case counted =>
    have := h.counted
    rw [hb] at this
    simpa [Scrollback.trim, hb] using this
  case nonempty =>
    intro d hd
    simp only [Scrollback.trim, hb, List.mem_singleton] at hd
    rw [hd]
    exact List.ne_nil_of_length_pos (by rw [List.length_drop]; omega)
  case chunks_le_bytes =>
    have := h.chunks_le_bytes
    simp only [Scrollback.trim, hb]
    omega

@[simp] theorem limits_trim (b : Scrollback) : b.trim.limits = b.limits := by
  unfold Scrollback.trim
  split <;> rfl

/-- A scrollback that eviction has left over a limit is brought within both by the cut. -/
theorem Accounts.trim_of_overLimit {b : Scrollback} {pushed : List Chunk} (h : b.Accounts pushed)
    (hover : b.overLimit = true) (hone : b.chunks.length ≤ 1) (hmaxLines : 0 < b.limits.maxLines)
    (hmaxBytes : 0 < b.limits.maxBytes) :
    b.trim.Accounts pushed ∧ b.trim.overLimit = false := by
  match hchunks : b.chunks with
  | [] =>
    -- nothing held is nothing over a limit
    have hheld : b.toBytes = [] := by simp [toBytes, hchunks]
    have hlines := h.lines_eq
    have hbytes := h.bytes_eq
    rw [hheld] at hlines hbytes
    simp [overLimit, hlines, hbytes] at hover
  | [c] =>
    have hlines : b.lines = newlines c.data := by simp [h.lines_eq, toBytes, hchunks]
    obtain ⟨hfitLines, hfitBytes, hcut⟩ :=
      excess_spec hlines (h.nonempty c (by simp [hchunks])) hmaxLines hmaxBytes
    have htrim := h.trim hchunks hcut
    have hheld : b.trim.toBytes = c.data.drop (b.excess c.data) := by
      simp [toBytes, Scrollback.trim, hchunks]
    refine ⟨htrim, overLimit_eq_false_iff.mpr ⟨?_, ?_⟩⟩
    · rw [limits_trim, htrim.lines_eq, hheld]
      exact hfitLines
    · rw [limits_trim, htrim.bytes_eq, hheld]
      exact hfitBytes
  | _ :: _ :: _ => simp [hchunks] at hone

/-! ## §5 Pushing -/

/-- A scrollback with one more chunk and without those that had to go for it, not cut yet. -/
def grown (b : Scrollback) (c : Chunk) : Scrollback :=
  (b.append c).evictFrom (b.append c).chunks

@[simp] theorem limits_grown (b : Scrollback) (c : Chunk) : (b.grown c).limits = b.limits :=
  limits_evictFrom _ _

theorem Accounts.grown {b : Scrollback} {pushed : List Chunk} (h : b.Accounts pushed) {c : Chunk}
    (hc : c.data ≠ []) : (b.grown c).Accounts (pushed ++ [c]) :=
  (h.append hc).evictFrom rfl

theorem length_le_one_of_overLimit_grown {b : Scrollback} {c : Chunk}
    (hover : (b.grown c).overLimit = true) : (b.grown c).chunks.length ≤ 1 :=
  length_le_one_of_overLimit_evictFrom rfl hover

/-- An empty chunk leaves no trace. -/
theorem push_of_data_eq_nil (b : Scrollback) {c : Chunk} (hc : c.data = []) : b.push c = b := by
  simp [push, hc]

theorem push_of_data_ne_nil (b : Scrollback) {c : Chunk} (hc : c.data ≠ []) :
    b.push c = if (b.grown c).overLimit then (b.grown c).trim else b.grown c := by
  have hempty : c.data.isEmpty = false := by simpa using hc
  rw [push, hempty]
  rfl

@[simp] theorem limits_push (b : Scrollback) (c : Chunk) : (b.push c).limits = b.limits := by
  by_cases hc : c.data = []
  · rw [push_of_data_eq_nil b hc]
  · rw [push_of_data_ne_nil b hc]
    split <;> simp

@[simp] theorem limits_foldl_push (cs : List Chunk) :
    ∀ b : Scrollback, (cs.foldl push b).limits = b.limits := by
  induction cs with
  | nil => intro b; rfl
  | cons c cs ih => intro b; rw [List.foldl_cons, ih, limits_push]

/-- A limit of zero counts as one, so both are positive. -/
theorem limits_empty_pos (limits : Limits) :
    0 < (empty limits).limits.maxLines ∧ 0 < (empty limits).limits.maxBytes := by
  simp only [empty, Limits.atLeastOne]
  omega

/-- **One push** that is not empty keeps the account and ends within the limits. -/
theorem Accounts.push {b : Scrollback} {pushed : List Chunk} (h : b.Accounts pushed) {c : Chunk}
    (hc : c.data ≠ []) (hmaxLines : 0 < b.limits.maxLines) (hmaxBytes : 0 < b.limits.maxBytes) :
    (b.push c).Accounts (pushed ++ [c]) ∧ (b.push c).overLimit = false := by
  rw [push_of_data_ne_nil b hc]
  by_cases hover : (b.grown c).overLimit = true
  · rw [if_pos hover]
    exact (h.grown hc).trim_of_overLimit hover (length_le_one_of_overLimit_grown hover)
      (by rwa [limits_grown]) (by rwa [limits_grown])
  · rw [if_neg hover]
    exact ⟨h.grown hc, by simpa using hover⟩

/-- The pushes that leave a trace. -/
def solid (cs : List Chunk) : List Chunk := cs.filter fun c => !c.data.isEmpty

/-- Empty chunks add nothing to the whole output. -/
theorem flatMap_data_solid (cs : List Chunk) :
    (solid cs).flatMap Chunk.data = cs.flatMap Chunk.data := by
  induction cs with
  | nil => rfl
  | cons c cs ih =>
    by_cases hc : c.data = []
    · simpa [solid, hc] using ih
    · have hkeep : solid (c :: cs) = c :: solid cs := by simp [solid, hc]
      rw [hkeep, List.flatMap_cons, List.flatMap_cons, ih]

/-- **Any number of pushes**, from a scrollback that is within its limits. -/
theorem Accounts.foldl_push (cs : List Chunk) :
    ∀ {b : Scrollback} {pushed : List Chunk}, b.Accounts pushed → b.overLimit = false →
      0 < b.limits.maxLines → 0 < b.limits.maxBytes →
      (cs.foldl Scrollback.push b).Accounts (pushed ++ solid cs) ∧
        (cs.foldl Scrollback.push b).overLimit = false := by
  -- the scrollback and the chunks pushed before change together from push to push
  induction cs with
  | nil => intro b pushed h hfit _ _; simpa [solid] using ⟨h, hfit⟩
  | cons c cs ih =>
    intro b pushed h hfit hmaxLines hmaxBytes
    rw [List.foldl_cons]
    by_cases hc : c.data = []
    · have hsolid : solid (c :: cs) = solid cs := by simp [solid, hc]
      rw [push_of_data_eq_nil b hc, hsolid]
      exact ih h hfit hmaxLines hmaxBytes
    · have hsolid : solid (c :: cs) = c :: solid cs := by simp [solid, hc]
      obtain ⟨hacc, hfit'⟩ := h.push hc hmaxLines hmaxBytes
      rw [hsolid, List.append_cons]
      exact ih hacc hfit' (by rwa [limits_push]) (by rwa [limits_push])

/-- The account of a scrollback that began empty. -/
theorem accounts_foldl_push_empty (limits : Limits) (cs : List Chunk) :
    (cs.foldl push (empty limits)).Accounts (solid cs) ∧
      (cs.foldl push (empty limits)).overLimit = false := by
  obtain ⟨hmaxLines, hmaxBytes⟩ := limits_empty_pos limits
  simpa using
    (accounts_empty limits).foldl_push cs (by simp [overLimit, empty]) hmaxLines hmaxBytes

end Scrollback

end PaneMux
