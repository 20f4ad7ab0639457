import Mathlib.Tactic.SplitIfs
import PaneMux.Text.Utf8

/-!
# Lossy Decoding Line by Line

Whatever bytes a process writes, decoding them leaves the lines as they are: a line feed ends whatever
character has begun before it and comes out as itself, and no other bytes come out as a line feed. So
it makes no difference whether an output is decoded and then split at the line feeds, or split first and
decoded line by line.

## Architecture

- **§1** a character that has begun (`Pending.Sound`): what may follow, and what it may become
- **§2** the decoder is driven by what is pending, and not by the text so far
- **§3** line feeds, and whole outputs
-/

namespace PaneMux.Utf8

/-! ## §1 Characters that have begun -/

/-- **A character that has begun** goes on with bytes that are no character by themselves, and the bits
    gathered are too many for a line feed already. -/
structure Pending.Sound (p : Pending) : Prop where
  low : 0x80 ≤ p.low.toNat
  high : p.high.toNat ≤ 0xBF
  bits : 16 ≤ p.bits * 64 + p.low.toNat % 64

theorem sound_of_lead_eq_opens {b : UInt8} {p : Pending} (h : lead b = .opens p) : p.Sound := by
  unfold lead at h
  simp only [UInt8.le_iff_toNat_le, UInt8.lt_iff_toNat_lt, ← UInt8.toNat_inj] at h
  -- one case for each kind of first byte
  split_ifs at h <;> cases h <;> constructor <;> simp_all <;> omega

/-- Only the number of the line feed is that of the line feed. -/
theorem scalar_ne_newline {n : Nat} (h : n ≠ 10) : scalar n ≠ '\n' := by
  unfold scalar
  split
  case isTrue hvalid =>
    have hn : (Char.ofNat n).toNat = n := by
      rw [Char.ofNat, dif_pos hvalid]
      rfl
    exact fun heq => h (hn.symm.trans (congrArg Char.toNat heq))
  case isFalse => decide

/-- A byte that goes on with a character brings enough bits. -/
theorem Pending.Sound.bits_le {p : Pending} (h : p.Sound) {b : UInt8}
    (hb : p.low ≤ b ∧ b ≤ p.high) : 16 ≤ p.bits * 64 + b.toNat % 64 := by
  have hlow : p.low.toNat ≤ b.toNat := UInt8.le_iff_toNat_le.mp hb.1
  have hhigh : b.toNat ≤ p.high.toNat := UInt8.le_iff_toNat_le.mp hb.2
  have hsound := h.low
  have hend := h.high
  have hbits := h.bits
  -- both bytes are among those from 80 to BF, where the lower six bits have the order of the bytes
  omega

/-! ## §2 The decoder -/

namespace Decoder

variable {d : Decoder} {b : UInt8}

/-- The decoder is between two characters, or a character has begun as it should. -/
def Sound (d : Decoder) : Prop := ∀ p, d.pending = some p → p.Sound

theorem sound_begin (text : List Char) (b : UInt8) : (begin text b).Sound := by
  unfold begin
  split
  case h_1 => exact nofun
  case h_2 p hlead =>
    rintro _ ⟨⟩
    exact sound_of_lead_eq_opens hlead
  case h_3 => exact nofun

/-- **Every byte leaves the decoder in order.** -/
theorem Sound.feed (h : d.Sound) (b : UInt8) : (d.feed b).Sound := by
  unfold Decoder.feed
  split
  case h_1 => exact sound_begin _ b
  case h_2 p hpending =>
    split
    case isTrue hb =>
      have hbits := (h p hpending).bits_le hb
      dsimp only
      split
      -- the character is complete, or more of it is owed
      case h_1 | h_2 => exact nofun
      case h_3 =>
        rintro _ ⟨⟩
        exact ⟨Nat.le_refl _, Nat.le_refl _, by simp; omega⟩
    case isFalse => exact sound_begin _ b

theorem Sound.foldl_feed (h : d.Sound) (x : Bytes) : (x.foldl Decoder.feed d).Sound := by
  induction x generalizing d with
  | nil => exact h
  | cons b x ih => exact ih (h.feed b)

theorem sound_empty : Sound {} := nofun

/-- The same decoder, behind a text read before. -/
def behind (d : Decoder) (before : List Char) : Decoder := { d with text := d.text ++ before }

theorem begin_append (text before : List Char) (b : UInt8) :
    begin (text ++ before) b = (begin text b).behind before := by
  unfold begin behind
  split <;> rfl

theorem feed_behind (d : Decoder) (before : List Char) (b : UInt8) :
    (d.behind before).feed b = (d.feed b).behind before := by
  obtain ⟨pending, text⟩ := d
  cases pending with
  | none => exact begin_append text before b
  | some p =>
    simp only [Decoder.feed, behind]
    split
    · split <;> rfl
    · exact begin_append ('\uFFFD' :: text) before b

/-- **What has been read before makes no difference** to what is read afterwards. -/
theorem foldl_feed_behind (d : Decoder) (before : List Char) (x : Bytes) :
    x.foldl Decoder.feed (d.behind before) = (x.foldl Decoder.feed d).behind before := by
  induction x generalizing d with
  | nil => rfl
  | cons b x ih => rw [List.foldl_cons, feed_behind, ih, List.foldl_cons]

theorem finish_behind (d : Decoder) (before : List Char) :
    (d.behind before).finish = before.reverse ++ d.finish := by
  unfold finish behind
  cases d.pending <;> simp

/-! ## §3 Line feeds -/

/-- A line feed ends what has begun, and comes out as itself. -/
theorem Sound.feed_newline (h : d.Sound) :
    d.feed newline = ({} : Decoder).behind ('\n' :: d.finish.reverse) := by
  obtain ⟨pending, text⟩ := d
  cases pending with
  | none => simp [Decoder.feed, begin, finish, behind, show lead newline = .single '\n' from rfl]
  | some p =>
    have hlow := (h p rfl).low
    have hbelow : ¬(p.low ≤ newline ∧ newline ≤ p.high) := by
      rintro ⟨hle, -⟩
      have hle := UInt8.le_iff_toNat_le.mp hle
      have hnewline : newline.toNat = 10 := rfl
      omega
    simp [Decoder.feed, begin, finish, behind, hbelow, show lead newline = .single '\n' from rfl]

theorem newline_not_mem_begin {text : List Char} (ht : '\n' ∉ text) (hb : b ≠ newline) :
    '\n' ∉ (begin text b).text := by
  have hother : ∀ {c : Char}, c ≠ '\n' → '\n' ∉ c :: text := fun hc hmem =>
    (List.mem_cons.mp hmem).elim (fun heq => hc heq.symm) ht
  unfold begin
  split
  case h_1 c hlead =>
    -- a byte that is a character by itself is the one of that number
    have hc : c = scalar b.toNat := by
      unfold lead at hlead
      split_ifs at hlead
      exact (Lead.single.inj hlead).symm
    rw [hc]
    exact hother (scalar_ne_newline fun heq => hb (UInt8.toNat_inj.mp heq))
  case h_2 => exact ht
  case h_3 => exact hother (by decide)

/-- **No byte but the line feed comes out as one.** -/
theorem Sound.newline_not_mem_feed (h : d.Sound) (ht : '\n' ∉ d.text) (hb : b ≠ newline) :
    '\n' ∉ (d.feed b).text := by
  unfold Decoder.feed
  split
  case h_1 => exact newline_not_mem_begin ht hb
  case h_2 p hpending =>
    split
    case isTrue hwithin =>
      have hbits := (h p hpending).bits_le hwithin
      dsimp only
      split
      case h_1 | h_2 =>
        intro hmem
        rcases List.mem_cons.mp hmem with heq | hmem
        · exact scalar_ne_newline (by omega) heq.symm
        · exact ht hmem
      case h_3 => exact ht
    case isFalse =>
      refine newline_not_mem_begin (fun hmem => ?_) hb
      rcases List.mem_cons.mp hmem with heq | hmem
      · exact absurd heq (by decide)
      · exact ht hmem

theorem Sound.newline_not_mem_foldl_feed (h : d.Sound) (ht : '\n' ∉ d.text) {x : Bytes}
    (hx : newline ∉ x) : '\n' ∉ (x.foldl Decoder.feed d).text := by
  induction x generalizing d with
  | nil => exact ht
  | cons b x ih =>
    obtain ⟨hb, hx⟩ := not_or.mp (mt List.mem_cons.mpr hx)
    exact ih (h.feed b) (h.newline_not_mem_feed ht (Ne.symm hb)) hx

end Decoder

/-- **A line feed separates.** What stands before it is decoded as if nothing came after it, and what
    comes after it as if nothing stood before. -/
theorem decodeChars_append_newline (x y : Bytes) :
    decodeChars (x ++ newline :: y) = decodeChars x ++ '\n' :: decodeChars y := by
  have hsound : (x.foldl Decoder.feed {}).Sound := Decoder.sound_empty.foldl_feed x
  rw [decodeChars, List.foldl_append, List.foldl_cons, hsound.feed_newline,
    Decoder.foldl_feed_behind, Decoder.finish_behind]
  simp [decodeChars]

/-- Bytes without line feeds are decoded without line feeds. -/
theorem newline_not_mem_decodeChars {x : Bytes} (hx : newline ∉ x) : '\n' ∉ decodeChars x := by
  have htext := Decoder.sound_empty.newline_not_mem_foldl_feed (by simp) hx
  unfold decodeChars Decoder.finish
  split
  · simpa using htext
  · simpa using htext

/-- **Decoding goes line by line**: the lines of a decoded output are its lines, decoded. -/
theorem splitOn_decodeChars (x : Bytes) :
    (decodeChars x).splitOn '\n' = (x.splitOn newline).map decodeChars := by
  by_cases hx : newline ∈ x
  · obtain ⟨line, rest, rfl, hline⟩ := List.eq_append_cons_of_mem hx
    have hlength : rest.length < (line ++ newline :: rest).length := by simp; omega
    rw [decodeChars_append_newline,
      List.splitOn_append_cons_self_of_not_mem (newline_not_mem_decodeChars hline),
      List.splitOn_append_cons_self_of_not_mem hline, List.map_cons, splitOn_decodeChars rest]
  · rw [List.splitOn_eq_singleton hx, List.splitOn_eq_singleton (newline_not_mem_decodeChars hx),
      List.map_singleton]
termination_by x.length

end PaneMux.Utf8
