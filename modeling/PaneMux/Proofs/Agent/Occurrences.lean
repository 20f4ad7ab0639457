import Mathlib.Data.List.Infix
import PaneMux.Agent.Marker

/-!
# Markers in a Byte String

The built-in markers are read off a byte string from left to right, and what a match covers is not
searched again. Nothing is lost by that: no marker begins inside another one of its form, so that the
matches are all the places where a marker stands.

## Architecture

- **§1** the texts of markers (`Marker.Written`), and frames whose matches cannot be mistaken
- **§2** one match is one text (`Marker.matchAt?_eq_some_iff`)
- **§3** the matches in a byte string are the places where a marker stands
-/

namespace PaneMux.Marker

/-! ## §1 Texts -/

/-- A word: letters from `a` to `z`, one at least. -/
def IsWord (word : Bytes) : Prop := word ≠ [] ∧ ∀ b ∈ word, 97 ≤ b ∧ b ≤ 122

theorem isLower_iff {b : UInt8} : isLower b = true ↔ 97 ≤ b ∧ b ≤ 122 := by simp [isLower]

/-- The texts with a word between a beginning and one of some ends. -/
inductive Framed (start : Bytes) (ends : List Bytes) : Bytes → Bytes → Prop
  | intro {word close : Bytes} (hword : IsWord word) (hclose : close ∈ ends) :
      Framed start ends word (start ++ word ++ close)

/-- **The texts of a built-in marker** with a word, byte by byte. -/
def Written : Marker → Bytes → Bytes → Prop
  -- `ESC ] 7770;status=`, and at the end `BEL` or `ESC \`
  | .sequence =>
    Framed [27, 93, 55, 55, 55, 48, 59, 115, 116, 97, 116, 117, 115, 61] [[7], [27, 92]]
  -- `[agent:`, and at the end `]`
  | .tag => Framed [91, 97, 103, 101, 110, 116, 58] [[93]]
  | .pattern _ => fun _ _ => False

/-- What is looked for are these bytes. -/
theorem sequenceStart_eq :
    sequenceStart = [27, 93, 55, 55, 55, 48, 59, 115, 116, 97, 116, 117, 115, 61] := by
  decide +kernel

theorem sequenceEnds_eq : sequenceEnds = [[7], [27, 92]] := rfl

theorem tagStart_eq : tagStart = [91, 97, 103, 101, 110, 116, 58] := by decide +kernel

theorem tagEnd_eq : tagEnd = [93] := by decide +kernel

/-- A beginning and some ends that nothing between them can be taken for. -/
structure Distinct (first second : UInt8) (start : Bytes) (ends : List Bytes) : Prop where
  /-- the first byte is not there again, and is no letter -/
  first_notMem : first ∉ second :: start
  first_not_lower : isLower first = false
  /-- the first byte of an end is no letter, so that it ends the word -/
  closes : ∀ close ∈ ends, close.head?.any (!isLower ·) = true
  /-- no end is the beginning of another -/
  apart : ∀ close ∈ ends, ∀ close' ∈ ends, close <+: close' → close = close'
  /-- where the first byte stands in an end, it is not the second one that follows -/
  outside : ∀ close ∈ ends, ∀ rest ∈ close.tails, rest.head? = some first →
    rest.tail.head?.any (· != second) = true

namespace Distinct

variable {first second : UInt8} {start : Bytes} {ends : List Bytes}

theorem exists_close (h : Distinct first second start ends) {close : Bytes} (hclose : close ∈ ends) :
    ∃ b rest, close = b :: rest ∧ isLower b = false := by
  have hfirst := h.closes close hclose
  cases close with
  | nil => simp at hfirst
  | cons b rest => exact ⟨b, rest, rfl, by simpa using hfirst⟩

/-- Nothing begins where the first byte is missing, or is followed by something else in an end. -/
theorem not_begins_inside (h : Distinct first second start ends) {body close : Bytes}
    (hbody : first ∉ body) (hclose : close ∈ ends) {k : Nat} (hlt : k < (body ++ close).length)
    (more : Bytes) : ¬first :: second :: start <+: (body ++ close).drop k ++ more := by
  intro hbegins
  induction body generalizing k with
  | nil =>
    rw [List.nil_append] at hlt hbegins
    have htail := h.outside close hclose _ ((List.mem_tails _ _).mpr (List.drop_suffix k close))
    cases hrest : close.drop k with
    | nil => exact absurd (List.drop_eq_nil_iff.mp hrest) (Nat.not_le.mpr hlt)
    | cons b rest =>
      rw [hrest] at htail hbegins
      obtain ⟨rfl, hsecond⟩ := List.cons_prefix_cons.mp hbegins
      cases rest with
      | nil => simp at htail
      | cons c rest =>
        obtain ⟨rfl, -⟩ := List.cons_prefix_cons.mp hsecond
        simp at htail
  | cons b body ih =>
    obtain ⟨hne, hbody⟩ := not_or.mp (List.mem_cons.not.mp hbody)
    cases k with
    | zero => exact hne (List.cons_prefix_cons.mp hbegins).1
    | succ k => exact ih hbody (by simpa using hlt) hbegins

/-- **No text begins inside another one**, whatever follows that. -/
theorem not_begins (h : Distinct first second start ends) {word text : Bytes}
    (htext : Framed (first :: second :: start) ends word text) {k : Nat} (hpos : 0 < k)
    (hlt : k < text.length) (more : Bytes) :
    ¬first :: second :: start <+: text.drop k ++ more := by
  obtain ⟨hword, hclose⟩ := htext
  obtain ⟨j, rfl⟩ := Nat.exists_eq_succ_of_ne_zero (Nat.ne_of_gt hpos)
  have hbody : first ∉ second :: start ++ word := by
    refine List.not_mem_append h.first_notMem fun hmem => ?_
    exact absurd (isLower_iff.mpr (hword.2 first hmem))
      (by rw [h.first_not_lower]; exact Bool.false_ne_true)
  exact h.not_begins_inside hbody hclose (by simpa using hlt) more

end Distinct

theorem distinct_sequence :
    Distinct 27 93 [55, 55, 55, 48, 59, 115, 116, 97, 116, 117, 115, 61] [[7], [27, 92]] := by
  constructor <;> decide +kernel

theorem distinct_tag : Distinct 91 97 [103, 101, 110, 116, 58] [[93]] := by
  constructor <;> decide +kernel

theorem Framed.length_pos {first : UInt8} {start : Bytes} {ends : List Bytes} {word text : Bytes}
    (h : Framed (first :: start) ends word text) : 0 < text.length := by
  obtain ⟨-, -⟩ := h
  simp

theorem Framed.start_prefix {start : Bytes} {ends : List Bytes} {word text : Bytes}
    (h : Framed start ends word text) : start <+: text := by
  obtain ⟨-, -⟩ := h
  rw [List.append_assoc]
  exact List.prefix_append _ _

theorem Framed.first_prefix {first : UInt8} {start : Bytes} {ends : List Bytes}
    {word text rest : Bytes} (h : Framed (first :: start) ends word text) (hhere : text <+: rest) :
    rest.head? = some first := by
  obtain ⟨more, rfl⟩ := h.start_prefix.trans hhere
  rfl

namespace Written

variable {m m' : Marker} {word word' text text' : Bytes}

theorem length_pos (h : m.Written word text) : 0 < text.length := by
  cases m with
  | sequence => exact Framed.length_pos h
  | tag => exact Framed.length_pos h
  | pattern p => exact h.elim

theorem mem_builtIn (h : m.Written word text) : m ∈ builtIn := by
  cases m with
  | sequence => exact List.mem_cons_self
  | tag => exact List.mem_cons_of_mem _ List.mem_cons_self
  | pattern p => exact h.elim

/-- Markers of different forms begin with different bytes. -/
theorem marker_unique {rest : Bytes} (h : m.Written word text) (h' : m'.Written word' text')
    (hhere : text <+: rest) (hhere' : text' <+: rest) : m = m' := by
  have first {m : Marker} {word text : Bytes} (h : m.Written word text) (hhere : text <+: rest) :
      (m = .sequence ∧ rest.head? = some 27) ∨ (m = .tag ∧ rest.head? = some 91) := by
    cases m with
    | sequence => exact .inl ⟨rfl, Framed.first_prefix h hhere⟩
    | tag => exact .inr ⟨rfl, Framed.first_prefix h hhere⟩
    | pattern p => exact h.elim
  rcases first h hhere with ⟨rfl, hfirst⟩ | ⟨rfl, hfirst⟩ <;>
    rcases first h' hhere' with ⟨rfl, hfirst'⟩ | ⟨rfl, hfirst'⟩ <;> simp_all

/-- **No marker begins inside another one of its form.** -/
theorem not_begins (h : m.Written word text) (h' : m.Written word' text') {k : Nat} (hpos : 0 < k)
    (hlt : k < text.length) (more : Bytes) : ¬text' <+: text.drop k ++ more := by
  intro hbegins
  cases m with
  | sequence =>
    exact distinct_sequence.not_begins h hpos hlt more ((Framed.start_prefix h').trans hbegins)
  | tag => exact distinct_tag.not_begins h hpos hlt more ((Framed.start_prefix h').trans hbegins)
  | pattern p => exact h.elim

end Written

/-! ## §2 One match -/

theorem after?_eq_some_iff {start rest inside : Bytes} :
    after? start rest = some inside ↔ rest = start ++ inside := by
  induction start generalizing rest with
  | nil => simp [after?]
  | cons a start ih =>
    cases rest with
    | nil => simp [after?]
    | cons b rest =>
      by_cases hab : a = b
      · simp [after?, hab, ih]
      · simp [after?, hab, Ne.symm hab]

/-- A match, step by step. -/
theorem framed?_steps {start : Bytes} {ends : List Bytes} {rest : Bytes}
    {found : Nat × Option Bytes} :
    framed? start ends rest = some found ↔
      ∃ inside, rest = start ++ inside ∧ inside.takeWhile isLower ≠ [] ∧
        ∃ close, (ends.find? fun e =>
            e.isPrefixOf (inside.drop (inside.takeWhile isLower).length)) = some close ∧
          (start.length + (inside.takeWhile isLower).length + close.length,
            some (inside.takeWhile isLower)) = found := by
  simp [framed?, Option.bind_eq_some_iff, guard, after?_eq_some_iff]

/-- **A match is a text that stands at the place.** -/
theorem framed?_eq_some_iff {first second : UInt8} {start : Bytes} {ends : List Bytes}
    (h : Distinct first second start ends) {rest : Bytes} {n : Nat} {found : Option Bytes} :
    framed? (first :: second :: start) ends rest = some (n, found) ↔
      ∃ word text, Framed (first :: second :: start) ends word text ∧ text <+: rest ∧
        n = text.length ∧ found = some word := by
  rw [framed?_steps]
  constructor
  · rintro ⟨inside, rfl, hne, close, hfind, hfound⟩
    obtain ⟨rfl, rfl⟩ := Prod.mk.inj hfound
    have hword : IsWord (inside.takeWhile isLower) :=
      ⟨hne, fun b hb => isLower_iff.mp (List.all_eq_true.mp List.all_takeWhile b hb)⟩
    have hclose : close <+: inside.drop (inside.takeWhile isLower).length := by
      simpa using List.find?_some hfind
    refine ⟨_, _, .intro hword (List.mem_of_find?_eq_some hfind), ?_,
      by simp only [List.length_append], rfl⟩
    rw [List.append_assoc, List.prefix_append_right_inj]
    calc inside.takeWhile isLower ++ close
        <+: inside.takeWhile isLower ++ inside.drop (inside.takeWhile isLower).length :=
          (List.prefix_append_right_inj _).mpr hclose
      _ = inside := List.prefix_iff_eq_append.mp (List.takeWhile_prefix _)
  · rintro ⟨word, text, ⟨hword, hclose⟩, ⟨more, rfl⟩, rfl, rfl⟩
    rename_i close
    obtain ⟨b, rest, hb, hlower⟩ := h.exists_close hclose
    have htake : (word ++ (close ++ more)).takeWhile isLower = word := by
      rw [List.takeWhile_append_of_pos fun b hb => isLower_iff.mpr (hword.2 b hb), hb]
      simp [hlower]
    have hfind : (ends.find? fun e => e.isPrefixOf (close ++ more)) = some close := by
      obtain ⟨close', hfind⟩ := Option.isSome_iff_exists.mp
        (List.find?_isSome (p := fun e => e.isPrefixOf (close ++ more)) |>.mpr
          ⟨close, hclose, by simp⟩)
      have hclose' := List.mem_of_find?_eq_some hfind
      have hprefix : close' <+: close ++ more := by simpa using List.find?_some hfind
      rw [hfind]
      -- of two ends that stand at one place one begins the other
      rcases List.prefix_or_prefix_of_prefix hprefix (List.prefix_append close more) with hle | hle
      · rw [h.apart _ hclose' _ hclose hle]
      · rw [h.apart _ hclose _ hclose' hle]
    refine ⟨word ++ (close ++ more), by simp, by rw [htake]; exact hword.1, close, ?_, ?_⟩
    · rw [htake, List.drop_left]
      exact hfind
    · rw [htake]
      simp only [List.length_append]

/-- **A match of a built-in marker is a text of it that stands at the place.** What is before the place
    does not matter. -/
theorem matchAt?_eq_some_iff {m : Marker} (hm : m ∈ builtIn) {previous : Option UInt8} {rest : Bytes}
    {n : Nat} {found : Option Bytes} :
    m.matchAt? previous rest = some (n, found) ↔
      ∃ word text, m.Written word text ∧ text <+: rest ∧ n = text.length ∧ found = some word := by
  rcases List.mem_cons.mp hm with rfl | hm
  · rw [matchAt?, sequenceStart_eq, sequenceEnds_eq]
    exact framed?_eq_some_iff distinct_sequence
  · obtain rfl := List.mem_singleton.mp hm
    rw [matchAt?, tagStart_eq, tagEnd_eq]
    exact framed?_eq_some_iff distinct_tag

/-- Of one marker one text stands at a place, with one word. -/
theorem Written.unique {m : Marker} {word word' text text' rest : Bytes} (h : m.Written word text)
    (h' : m.Written word' text') (hhere : text <+: rest) (hhere' : text' <+: rest) :
    text.length = text'.length ∧ word = word' := by
  have hmatch : m.matchAt? none rest = some (text.length, some word) :=
    (matchAt?_eq_some_iff h.mem_builtIn).mpr ⟨word, text, h, hhere, rfl, rfl⟩
  have hmatch' : m.matchAt? none rest = some (text'.length, some word') :=
    (matchAt?_eq_some_iff h.mem_builtIn).mpr ⟨word', text', h', hhere', rfl, rfl⟩
  rw [hmatch, Option.some.injEq, Prod.mk.injEq, Option.some.injEq] at hmatch'
  exact hmatch'

/-! ## §3 All matches -/

/-- **A marker stands in a byte string**: its place, its word and all of its text. -/
structure Stands (m : Marker) (data : Bytes) (place : Nat) (word text : Bytes) : Prop where
  written : m.Written word text
  here : text <+: data.drop place

theorem stands_cons {m : Marker} {b : UInt8} {rest : Bytes} {place : Nat} {word text : Bytes} :
    m.Stands (b :: rest) (place + 1) word text ↔ m.Stands rest place word text :=
  ⟨fun ⟨hwritten, hhere⟩ => ⟨hwritten, hhere⟩, fun ⟨hwritten, hhere⟩ => ⟨hwritten, hhere⟩⟩

/-- Where a marker stands none of its form stands before it ends. -/
theorem Stands.le_of_stands {m : Marker} {data : Bytes} {place place' : Nat}
    {word word' text text' : Bytes} (h : m.Stands data place word text)
    (h' : m.Stands data place' word' text') (hlt : place < place') :
    place + text.length ≤ place' := by
  by_contra hinside
  obtain ⟨more, hmore⟩ := h.here
  obtain ⟨k, rfl⟩ := Nat.exists_eq_add_of_lt hlt
  have hk : k + 1 < text.length := by omega
  refine h.written.not_begins h'.written (Nat.succ_pos k) hk more ?_
  have hdrop : data.drop (place + k + 1) = text.drop (k + 1) ++ more := by
    rw [Nat.add_assoc, ← List.drop_drop, ← hmore, List.drop_append_of_le_length hk.le]
  rw [← hdrop]
  exact h'.here

/-- An occurrence is that of a marker in a byte string, behind some bytes that are skipped. -/
def Found (m : Marker) (data : Bytes) (start skip : Nat) (o : Occurrence) : Prop :=
  ∃ place word text, skip ≤ place ∧ m.Stands data place word text ∧
    o = ⟨start + place, text.length, some word⟩

theorem found_cons {m : Marker} {b : UInt8} {rest : Bytes} {start skip : Nat} {o : Occurrence} :
    m.Found (b :: rest) start (skip + 1) o ↔ m.Found rest (start + 1) skip o := by
  constructor
  · rintro ⟨place, word, text, hskip, hstands, rfl⟩
    obtain ⟨place, rfl⟩ := Nat.exists_eq_add_of_le' (Nat.le_of_add_left_le hskip)
    exact ⟨place, word, text, by omega, stands_cons.mp hstands, by rw [Nat.add_assoc, Nat.add_comm 1]⟩
  · rintro ⟨place, word, text, hskip, hstands, rfl⟩
    exact ⟨place + 1, word, text, by omega, stands_cons.mpr hstands,
      by rw [Nat.add_assoc, Nat.add_comm 1]⟩

/-- Nothing is found at a place where no marker stands. -/
theorem found_zero_of_not {m : Marker} {b : UInt8} {rest : Bytes} {start : Nat} {o : Occurrence}
    (hnone : ∀ word text, ¬m.Stands (b :: rest) 0 word text) :
    m.Found (b :: rest) start 0 o ↔ m.Found (b :: rest) start 1 o := by
  constructor
  · rintro ⟨place, word, text, -, hstands, rfl⟩
    refine ⟨place, word, text, Nat.one_le_iff_ne_zero.mpr ?_, hstands, rfl⟩
    rintro rfl
    exact hnone _ _ hstands
  · rintro ⟨place, word, text, -, hstands, rfl⟩
    exact ⟨place, word, text, Nat.zero_le _, hstands, rfl⟩

/-- **Where a marker stands it is found**, and the next one behind it. -/
theorem found_zero_of_stands {m : Marker} {data : Bytes} {start : Nat} {o : Occurrence}
    {word text : Bytes} (h : m.Stands data 0 word text) :
    m.Found data start 0 o ↔ o = ⟨start, text.length, some word⟩ ∨ m.Found data start text.length o := by
  constructor
  · rintro ⟨place, word', text', -, hstands, rfl⟩
    rcases Nat.eq_zero_or_pos place with rfl | hpos
    · obtain ⟨hlength, rfl⟩ := h.written.unique hstands.written h.here hstands.here
      exact .inl (by rw [hlength]; rfl)
    · have hle := h.le_of_stands hstands hpos
      exact .inr ⟨place, word', text', by omega, hstands, rfl⟩
  · rintro (rfl | ⟨place, word', text', -, hstands, rfl⟩)
    · exact ⟨0, word, text, Nat.le_refl _, h, rfl⟩
    · exact ⟨place, word', text', Nat.zero_le _, hstands, rfl⟩

/-- **What is gathered** are the markers that stand behind what is skipped. -/
theorem mem_gather {m : Marker} (hm : m ∈ builtIn) {found : List Occurrence} {start skip : Nat}
    {previous : Option UInt8} {data : Bytes} {o : Occurrence} :
    o ∈ m.gather found start skip previous data ↔ o ∈ found ∨ m.Found data start skip o := by
  induction data generalizing found start skip previous with
  | nil =>
    have hnone : ¬m.Found [] start skip o := by
      rintro ⟨place, word, text, -, ⟨hwritten, hhere⟩, -⟩
      have hpos := hwritten.length_pos
      simp_all
    simp [gather, hnone]
  | cons b rest ih =>
    cases skip with
    | succ skip => rw [gather, ih, found_cons]
    | zero =>
      unfold gather
      cases hmatch : m.matchAt? previous (b :: rest) with
      | none =>
        have hnone : ∀ word text, ¬m.Stands (b :: rest) 0 word text := by
          intro word text hstands
          have hsome : m.matchAt? previous (b :: rest) = some (text.length, some word) :=
            (matchAt?_eq_some_iff hm).mpr ⟨word, text, hstands.written, hstands.here, rfl, rfl⟩
          cases hmatch.symm.trans hsome
        rw [found_zero_of_not hnone, found_cons, ← ih]
      | some found' =>
        obtain ⟨n, w⟩ := found'
        obtain ⟨word, text, hwritten, hhere, rfl, rfl⟩ := (matchAt?_eq_some_iff hm).mp hmatch
        obtain ⟨n, hn⟩ := Nat.exists_eq_succ_of_ne_zero (Nat.ne_of_gt hwritten.length_pos)
        have hstands : m.Stands (b :: rest) 0 word text := ⟨hwritten, hhere⟩
        rw [found_zero_of_stands hstands, hn, found_cons]
        dsimp only
        rw [ih, List.mem_cons, or_assoc, or_left_comm]

/-- **The matches in a byte string are the places where a marker stands.** -/
theorem mem_occurrences_iff {m : Marker} (hm : m ∈ builtIn) {data : Bytes} {o : Occurrence} :
    o ∈ m.occurrences data ↔
      ∃ word text, m.Stands data o.start word text ∧ o.length = text.length ∧ o.word = some word := by
  rw [occurrences, List.mem_reverse, mem_gather hm]
  constructor
  · rintro (hnil | ⟨place, word, text, -, hstands, rfl⟩)
    · cases hnil
    · exact ⟨word, text, by rwa [Nat.zero_add], rfl, rfl⟩
  · rintro ⟨word, text, hstands, hlength, hword⟩
    obtain ⟨place, length, w⟩ := o
    obtain rfl : w = some word := hword
    obtain rfl : length = text.length := hlength
    exact .inr ⟨place, word, text, Nat.zero_le _, hstands, by rw [Nat.zero_add]⟩

end PaneMux.Marker
