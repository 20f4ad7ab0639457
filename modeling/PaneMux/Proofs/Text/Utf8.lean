import Mathlib.Tactic.IntervalCases
import PaneMux.Text.Utf8

/-!
# UTF-8 is decoded as it was encoded

Whatever characters a text has, its bytes are decoded as that text, and the line feed stands in them
only where it stands in the text.

## Architecture

- **§1** the byte that opens a character, and those that go on with it
- **§2** one character, by the number of its bytes
- **§3** whole texts
-/

namespace PaneMux.Utf8

/-! ## §1 Bytes -/

/-- A code point that is one. -/
theorem scalar_toNat (c : Char) : scalar c.toNat = c := by
  have hvalid : c.toNat.isValidChar := c.valid
  rw [scalar, if_pos hvalid, Char.ofNat_toNat]

theorem lead_one {n : Nat} (h : n ≤ 0x7f) : lead (.ofNat n) = .single (scalar n) := by
  have hn : (UInt8.ofNat n).toNat = n := Nat.mod_eq_of_lt (by omega)
  have hle : UInt8.ofNat n ≤ 0x7F := UInt8.le_iff_toNat_le.mpr (by simpa [hn] using h)
  rw [lead, if_pos hle, hn]

/-- Of two bytes the first one tells the upper bits. It tells at least two, as anything less would
    fit into one byte. -/
theorem lead_two {n : Nat} (hlow : 2 ≤ n) (hhigh : n < 32) :
    lead (.ofNat (n % 0x20 + 0xc0)) = .opens ⟨1, 0x80, 0xBF, n⟩ := by
  interval_cases n <;> rfl

/-- Of three bytes the first one tells four bits. The second is bounded where the character would fit
    into two bytes or be a surrogate. -/
theorem lead_three {n : Nat} (h : n < 16) :
    lead (.ofNat (n % 0x10 + 0xe0)) =
      .opens ⟨2, if n = 0 then 0xA0 else 0x80, if n = 13 then 0x9F else 0xBF, n⟩ := by
  interval_cases n <;> rfl

/-- Of four bytes the first one tells three bits. The second is bounded where the character would fit
    into three bytes or be past the last one. -/
theorem lead_four {n : Nat} (h : n < 5) :
    lead (.ofNat (n % 0x08 + 0xf0)) =
      .opens ⟨3, if n = 0 then 0x90 else 0x80, if n = 4 then 0x8F else 0xBF, n⟩ := by
  interval_cases n <;> rfl

section Continuation

variable {low high : UInt8} {n : Nat} {text : List Char}

theorem toNat_continuation (n : Nat) : (UInt8.ofNat (n % 0x40 + 0x80)).toNat = n % 0x40 + 0x80 :=
  Nat.mod_eq_of_lt (by omega)

private theorem within_iff :
    (low ≤ .ofNat (n % 0x40 + 0x80) ∧ .ofNat (n % 0x40 + 0x80) ≤ high) ↔
      low.toNat ≤ n % 0x40 + 0x80 ∧ n % 0x40 + 0x80 ≤ high.toNat := by
  rw [UInt8.le_iff_toNat_le, UInt8.le_iff_toNat_le, toNat_continuation]

/-- A byte goes on with a character that needs more after it. -/
theorem feed_more (hlow : low.toNat ≤ n % 0x40 + 0x80) (hhigh : n % 0x40 + 0x80 ≤ high.toNat)
    (owed bits : Nat) :
    Decoder.feed ⟨some ⟨owed + 2, low, high, bits⟩, text⟩ (.ofNat (n % 0x40 + 0x80)) =
      ⟨some ⟨owed + 1, 0x80, 0xBF, bits * 64 + n % 64⟩, text⟩ := by
  have hbits : (n % 0x40 + 0x80) % 64 = n % 64 := by omega
  simp only [Decoder.feed, if_pos (within_iff.mpr ⟨hlow, hhigh⟩), toNat_continuation, hbits]

/-- A byte ends a character. -/
theorem feed_last (hlow : low.toNat ≤ n % 0x40 + 0x80) (hhigh : n % 0x40 + 0x80 ≤ high.toNat)
    (bits : Nat) :
    Decoder.feed ⟨some ⟨1, low, high, bits⟩, text⟩ (.ofNat (n % 0x40 + 0x80)) =
      { text := scalar (bits * 64 + n % 64) :: text } := by
  have hbits : (n % 0x40 + 0x80) % 64 = n % 64 := by omega
  simp only [Decoder.feed, if_pos (within_iff.mpr ⟨hlow, hhigh⟩), toNat_continuation, hbits]

end Continuation

/-! ## §2 One character -/

theorem feed_of_lead_opens {b : UInt8} {p : Pending} (h : lead b = .opens p) (text : List Char) :
    Decoder.feed { text } b = ⟨some p, text⟩ := by
  simp [Decoder.feed, Decoder.begin, h]

/-- **The bytes of a character are decoded as that character.** -/
theorem foldl_feed_char (c : Char) (text : List Char) :
    (String.utf8EncodeChar c).foldl Decoder.feed { text } = { text := c :: text } := by
  have hvalid : c.val.toNat < 0xd800 ∨ 0xdfff < c.val.toNat ∧ c.val.toNat < 0x110000 := c.valid
  have hscalar : scalar c.val.toNat = c := scalar_toNat c
  unfold String.utf8EncodeChar
  dsimp only
  generalize c.val.toNat = n at hvalid hscalar ⊢
  split
  case isTrue hone =>
    simp [Decoder.feed, Decoder.begin, lead_one hone, hscalar]
  case isFalse hone =>
    split
    case isTrue htwo =>
      have hbits : n / 64 * 64 + n % 64 = n := by omega
      rw [List.foldl_cons, feed_of_lead_opens (lead_two (by omega) (by omega)), List.foldl_cons,
        feed_last (by simp) (by simp; omega), hbits, hscalar]
      rfl
    case isFalse htwo =>
      split
      case isTrue hthree =>
        have hbits : (n / 4096 * 64 + n / 64 % 64) * 64 + n % 64 = n := by omega
        rw [List.foldl_cons, feed_of_lead_opens (lead_three (by omega)), List.foldl_cons, feed_more,
          List.foldl_cons, feed_last (by simp) (by simp; omega), hbits, hscalar]
        · rfl
        -- what starts with a zero takes more than two bytes, and what starts with 13 is no surrogate
        · split <;> simp
          omega
        · split <;> simp <;> omega
      case isFalse hthree =>
        have hbits : ((n / 262144 * 64 + n / 4096 % 64) * 64 + n / 64 % 64) * 64 + n % 64 = n := by
          omega
        rw [List.foldl_cons, feed_of_lead_opens (lead_four (by omega)), List.foldl_cons, feed_more,
          List.foldl_cons, feed_more (by simp) (by simp; omega), List.foldl_cons,
          feed_last (by simp) (by simp; omega), hbits, hscalar]
        · rfl
        · split <;> simp
          omega
        · split <;> simp <;> omega

/-- Only a line feed has the byte of one. -/
theorem eq_of_newline_mem {c : Char} (h : newline ∈ String.utf8EncodeChar c) : c = '\n' := by
  -- every byte of a longer character is above those of single ones
  have habove : ∀ {n : Nat}, 0x80 ≤ n → n < 0x100 → newline ≠ .ofNat n := by
    intro n hlow hhigh heq
    have := congrArg UInt8.toNat heq
    rw [show (UInt8.ofNat n).toNat = n from Nat.mod_eq_of_lt hhigh] at this
    have hten : newline.toNat = 10 := rfl
    omega
  unfold String.utf8EncodeChar at h
  dsimp only at h
  split at h
  case isTrue hone =>
    have hbyte := congrArg UInt8.toNat (List.mem_singleton.mp h)
    rw [show (UInt8.ofNat c.val.toNat).toNat = c.val.toNat from Nat.mod_eq_of_lt (by omega)] at hbyte
    refine Char.ext (UInt32.toNat_inj.mp ?_)
    exact hbyte.symm
  case isFalse =>
    exfalso
    split at h
    · simp only [List.mem_cons, List.not_mem_nil, or_false] at h
      rcases h with h | h <;> exact habove (by omega) (by omega) h
    · split at h
      · simp only [List.mem_cons, List.not_mem_nil, or_false] at h
        rcases h with h | h | h <;> exact habove (by omega) (by omega) h
      · simp only [List.mem_cons, List.not_mem_nil, or_false] at h
        rcases h with h | h | h | h <;> exact habove (by omega) (by omega) h

/-! ## §3 Texts -/

theorem foldl_feed_chars (cs text : List Char) :
    (cs.flatMap String.utf8EncodeChar).foldl Decoder.feed { text } =
      { text := cs.reverse ++ text } := by
  induction cs generalizing text with
  | nil => rfl
  | cons c cs ih =>
    rw [List.flatMap_cons, List.foldl_append, foldl_feed_char, ih, List.reverse_cons,
      List.append_assoc]
    rfl

/-- **A text is decoded from its own bytes.** -/
theorem decode?_encode (s : String) : decode? (encode s) = some s := by
  have hlossy : decodeLossy (encode s) = s := by
    rw [decodeLossy, decodeChars, encode, foldl_feed_chars]
    simp [Decoder.finish]
  simp [decode?, hlossy]

/-- A text without line feeds has no byte of one. -/
theorem newline_not_mem_encode {s : String} (h : '\n' ∉ s.toList) : newline ∉ encode s := by
  intro hmem
  obtain ⟨c, hc, hbyte⟩ := List.mem_flatMap.mp hmem
  rw [eq_of_newline_mem hbyte] at hc
  exact h hc

end PaneMux.Utf8
