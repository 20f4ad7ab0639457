import Mathlib.Algebra.GroupWithZero.Nat
import Mathlib.Data.List.DropRight
import Mathlib.Data.List.Infix
import PaneMux.Proofs.Scrollback.Account
import PaneMux.Proofs.Text.Lossy

/-!
# Searching the Scrollback

A search reads what a scrollback still holds, and answers for the output as a whole: each line it finds
is a line of everything ever pushed, under the number it has there. Of the lines that are not there any
more nothing is found, and of the line in which the loss ends only what is left is looked at.

## Architecture

- **§1** the lines of an output (`outputLines`), and what is left of them (`remnant`)
- **§2** an output that is cut in two
- **§3** the scan: decoding, splitting and comparing
- **§4** the law
-/

namespace PaneMux

namespace Scrollback

/-! ## §1 Lines of an output -/

/-- The lines of an output. The last one has no line end, and is empty after one. -/
def outputLines (output : Bytes) : List Bytes := output.splitOn newline

/-- The number of bytes of an output before its line `k`. -/
def lineStart (output : Bytes) (k : Nat) : Nat :=
  (((outputLines output).take k).map fun line => line.length + 1).sum

/-- What is left of line `k` of an output when its first `gone` bytes are not there any more. -/
def remnant (output : Bytes) (gone k : Nat) : Bytes :=
  ((outputLines output).getD k []).drop (gone - lineStart output k)

/-- The text of a line contains the needle. -/
def Mentions (needle : String) (line : Bytes) : Prop := needle.toList <:+: Utf8.decodeChars line

instance (needle : String) : DecidablePred (Mentions needle) := fun _ =>
  inferInstanceAs (Decidable (_ <:+: _))

/-- The text of a line as a search shows it: without the carriage returns at its end. -/
def shown (line : Bytes) : String :=
  String.ofList ((Utf8.decodeChars line).rdropWhile (· = '\r'))

theorem outputLines_ne_nil (x : Bytes) : outputLines x ≠ [] := List.splitOn_ne_nil newline x

theorem outputLines_of_not_mem {x : Bytes} (hx : newline ∉ x) : outputLines x = [x] :=
  List.splitOn_eq_singleton hx

/-- A line end ends the first line. -/
theorem outputLines_append_newline {line : Bytes} (hline : newline ∉ line) (rest : Bytes) :
    outputLines (line ++ newline :: rest) = line :: outputLines rest :=
  List.splitOn_append_cons_self_of_not_mem hline rest

theorem newlines_of_not_mem {x : Bytes} (hx : newline ∉ x) : newlines x = 0 :=
  List.count_eq_zero.mpr hx

theorem newlines_append_newline {line : Bytes} (hline : newline ∉ line) (rest : Bytes) :
    newlines (line ++ newline :: rest) = newlines rest + 1 := by
  simp [newlines_cons, newlines_of_not_mem hline]

theorem lineStart_zero (output : Bytes) : lineStart output 0 = 0 := rfl

theorem lineStart_append_newline {line : Bytes} (hline : newline ∉ line) (rest : Bytes) (k : Nat) :
    lineStart (line ++ newline :: rest) (k + 1) = line.length + 1 + lineStart rest k := by
  rw [lineStart, outputLines_append_newline hline]
  rfl

theorem lineStart_succ {output : Bytes} {k : Nat} (hk : k < (outputLines output).length) :
    lineStart output (k + 1) = lineStart output k + ((outputLines output)[k].length + 1) := by
  rw [lineStart, List.take_succ_eq_append_getElem hk, List.map_append, List.sum_append]
  rfl

theorem lineStart_mono (output : Bytes) {j k : Nat} (h : j ≤ k) :
    lineStart output j ≤ lineStart output k := by
  obtain ⟨m, rfl⟩ := Nat.exists_eq_add_of_le h
  rw [lineStart, lineStart, List.take_add, List.map_append, List.sum_append]
  exact Nat.le_add_right _ _

/-! ## §2 Cuts -/

/-- Bytes without a line end go to the first line of what comes after them. -/
theorem outputLines_append_of_not_mem {x : Bytes} (hx : newline ∉ x) (y : Bytes) :
    outputLines (x ++ y) = (outputLines y).modifyHead (x ++ ·) := by
  by_cases hy : newline ∈ y
  · obtain ⟨line, rest, rfl, hline⟩ := List.eq_append_cons_of_mem hy
    have hboth : newline ∉ x ++ line := by simp [hx, hline]
    rw [← List.append_assoc, outputLines_append_newline hboth, outputLines_append_newline hline,
      List.modifyHead_cons]
  · have hboth : newline ∉ x ++ y := by simp [hx, hy]
    rw [outputLines_of_not_mem hboth, outputLines_of_not_mem hy, List.modifyHead_cons]

/-- **Where an output is cut in two**, the lines from the cut on are those of the second part, but for
    a head of the first of them that is in the first part. -/
theorem outputLines_append (gone held : Bytes) :
    ∃ head, (outputLines (gone ++ held)).drop (newlines gone) =
        (outputLines held).modifyHead (head ++ ·) ∧
      lineStart (gone ++ held) (newlines gone) + head.length = gone.length := by
  by_cases hgone : newline ∈ gone
  · obtain ⟨line, rest, rfl, hline⟩ := List.eq_append_cons_of_mem hgone
    have hlength : rest.length < (line ++ newline :: rest).length := by simp; omega
    obtain ⟨head, hlines, hstart⟩ := outputLines_append rest held
    refine ⟨head, ?_, ?_⟩
    · rw [List.append_assoc, List.cons_append, outputLines_append_newline hline,
        newlines_append_newline hline, List.drop_succ_cons, hlines]
    · rw [List.append_assoc, List.cons_append, newlines_append_newline hline,
        lineStart_append_newline hline, List.length_append, List.length_cons, ← hstart]
      omega
  · refine ⟨gone, ?_, ?_⟩
    · rw [newlines_of_not_mem hgone, List.drop_zero, outputLines_append_of_not_mem hgone]
    · rw [newlines_of_not_mem hgone, lineStart_zero, Nat.zero_add]
termination_by gone.length

section Cut

variable (gone held : Bytes)

theorem length_outputLines_append :
    (outputLines (gone ++ held)).length = newlines gone + (outputLines held).length := by
  obtain ⟨head, hlines, -⟩ := outputLines_append gone held
  have hlength := congrArg List.length hlines
  have hpos : 0 < (outputLines held).length := List.length_pos_iff.mpr (outputLines_ne_nil held)
  rw [List.length_drop, List.length_modifyHead] at hlength
  omega

/-- Behind the line in which the cut is, no line has lost anything. -/
theorem remnant_of_lt {k : Nat} (hk : newlines gone < k) :
    remnant (gone ++ held) gone.length k = (outputLines (gone ++ held)).getD k [] := by
  obtain ⟨head, hlines, hstart⟩ := outputLines_append gone held
  have hpos : 0 < (outputLines held).length := List.length_pos_iff.mpr (outputLines_ne_nil held)
  have hcut : newlines gone < (outputLines (gone ++ held)).length := by
    rw [length_outputLines_append]
    omega
  -- the line of the cut holds the head and a line end at least
  have hhead : head.length ≤ (outputLines (gone ++ held))[newlines gone].length := by
    obtain ⟨first, rest, hcons⟩ := List.exists_cons_of_ne_nil (outputLines_ne_nil held)
    have hget : (outputLines (gone ++ held))[newlines gone]? = some (head ++ first) := by
      have hzero := congrArg (·[0]?) hlines
      simpa [hcons] using hzero
    rw [List.getElem?_eq_getElem hcut] at hget
    rw [Option.some.inj hget, List.length_append]
    exact Nat.le_add_right _ _
  have hstart' := lineStart_mono (gone ++ held) (Nat.succ_le_of_lt hk)
  rw [Nat.succ_eq_add_one, lineStart_succ hcut] at hstart'
  rw [remnant, Nat.sub_eq_zero_of_le (by omega), List.drop_zero]

/-- **The lines held are what is left of the lines of the output**, from the one of the cut on. -/
theorem outputLines_eq_map_remnant :
    outputLines held = (List.range' (newlines gone) (outputLines held).length).map
      (remnant (gone ++ held) gone.length) := by
  obtain ⟨head, hlines, hstart⟩ := outputLines_append gone held
  refine List.ext_getElem (by simp) fun i hi _ => ?_
  rw [List.getElem_map, List.getElem_range', Nat.one_mul]
  have hget : (outputLines (gone ++ held))[newlines gone + i]? =
      ((outputLines held).modifyHead (head ++ ·))[i]? := by
    rw [← hlines, List.getElem?_drop]
  cases i with
  | zero =>
    obtain ⟨first, rest, hcons⟩ := List.exists_cons_of_ne_nil (outputLines_ne_nil held)
    have hfirst : (outputLines (gone ++ held)).getD (newlines gone) [] = head ++ first := by
      simpa [hcons, List.getD_eq_getElem?_getD] using congrArg (Option.getD · []) hget
    rw [Nat.add_zero, remnant, hfirst, show gone.length - lineStart (gone ++ held) (newlines gone) =
      head.length by omega, List.drop_left]
    simp [hcons]
  | succ i =>
    rw [remnant_of_lt gone held (by omega), List.getD_eq_getElem?_getD, hget]
    simp [List.getElem?_eq_getElem hi]

end Cut

/-! ## §3 The scan -/

theorem splitLines_eq (lines : List (List Char)) (line cs : List Char) :
    splitLines lines line cs =
      lines.reverse ++ (cs.splitOn '\n').modifyHead (line.reverse ++ ·) := by
  induction cs generalizing lines line with
  | nil => simp [splitLines]
  | cons c cs ih =>
    rw [splitLines, List.splitOn_cons_eq_if_modifyHead]
    by_cases hc : c = '\n'
    · simp only [hc, ih, if_true, beq_self_eq_true, List.reverse_cons, List.reverse_nil,
        List.nil_append, List.modifyHead_cons, List.append_nil, List.append_assoc, List.cons_append]
      cases cs.splitOn '\n' <;> rfl
    · simp [hc, ih, Function.comp_def]

theorem occursIn_iff {needle line : List Char} : occursIn needle line = true ↔ needle <:+: line := by
  induction line with
  | nil => simp [occursIn]
  | cons c line ih => simp [occursIn, ih, List.infix_cons_iff]

/-- The lines of some numbers that mention the needle, as a search lists them. -/
def found (needle : String) (line : Nat → Bytes) (numbers : List Nat) : List LineMatch :=
  (numbers.filter fun k => Mentions needle (line k)).map fun k => ⟨k, shown (line k)⟩

/-- **The scan goes through the lines in order** and lists those that mention the needle. -/
theorem matchesFrom_eq (needle : String) (line : Nat → Bytes) (n count : Nat) :
    matchesFrom needle.toList n (((List.range' n count).map line).map Utf8.decodeChars) =
      found needle line (List.range' n count) := by
  induction count generalizing n with
  | zero => rfl
  | succ count ih =>
    have hoccurs : occursIn needle.toList (Utf8.decodeChars (line n)) =
        decide (Mentions needle (line n)) := by
      rw [Bool.eq_iff_iff, occursIn_iff, decide_eq_true_iff, Mentions]
    rw [List.range'_succ, List.map_cons, List.map_cons, matchesFrom, ih, hoccurs, found, found,
      List.filter_cons]
    split <;> rfl

/-- A search answers for what is held with the lines of the whole output. -/
theorem search_eq {b : Scrollback} {pushed : List Chunk} (h : b.Accounts pushed) {needle : String}
    (hneedle : needle ≠ "") :
    let output := pushed.flatMap Chunk.data
    b.search needle = found needle (remnant output b.truncation.bytes)
      (List.range' b.truncation.lines ((outputLines output).length - b.truncation.lines)) := by
  intro output
  obtain ⟨gone, houtput, hbytes, hlines⟩ := h.lost
  have hoccurs : needle.isEmpty = false := by simpa [String.isEmpty_iff] using hneedle
  have hheld : (outputLines output).length - newlines gone = (outputLines b.toBytes).length := by
    show (outputLines (pushed.flatMap Chunk.data)).length - newlines gone = _
    rw [← houtput, length_outputLines_append, Nat.add_sub_cancel_left]
  calc b.search needle
      = matchesFrom needle.toList (newlines gone)
          ((outputLines b.toBytes).map Utf8.decodeChars) := by
        rw [search, hoccurs, splitLines_eq, hlines, outputLines, ← Utf8.splitOn_decodeChars]
        cases (Utf8.decodeChars b.toBytes).splitOn '\n' <;> rfl
    _ = found needle (remnant (gone ++ b.toBytes) gone.length)
          (List.range' (newlines gone) (outputLines b.toBytes).length) := by
        rw [← matchesFrom_eq, ← outputLines_eq_map_remnant]
    _ = _ := by rw [houtput, hbytes, hlines, hheld]

/-! ## §4 The law -/

theorem filter_found (needle : String) (line : Nat → Bytes) (first : Nat) (numbers : List Nat) :
    (found needle line numbers).filter (first < ·.line) =
      found needle line (numbers.filter (first < ·)) := by
  rw [found, found, List.filter_map, List.filter_filter, List.filter_filter]
  exact congrArg _ (List.filter_congr fun k _ => Bool.and_comm _ _)

theorem found_congr {needle : String} {line line' : Nat → Bytes} {numbers : List Nat}
    (h : ∀ k ∈ numbers, line k = line' k) : found needle line numbers = found needle line' numbers := by
  have hfilter : (numbers.filter fun k => Mentions needle (line k)) =
      numbers.filter fun k => Mentions needle (line' k) :=
    List.filter_congr fun k hk => by rw [h k hk]
  rw [found, found, hfilter]
  exact List.map_congr_left fun k hk => by rw [h k (List.mem_filter.mp hk).1]

/-- The numbers above `first`, of a range that begins no later. -/
theorem filter_lt_range' {start first count : Nat} (hstart : start ≤ first) (hfirst : first < count) :
    (List.range' start (count - start)).filter (first < ·) =
      List.range' (first + 1) (count - (first + 1)) := by
  have hsplit : List.range' start (count - start) =
      List.range' start (first + 1 - start) ++ List.range' (first + 1) (count - (first + 1)) := by
    have happend := List.range'_append_1 (s := start) (m := first + 1 - start)
      (n := count - (first + 1))
    rw [show start + (first + 1 - start) = first + 1 by omega,
      show first + 1 - start + (count - (first + 1)) = count - start by omega] at happend
    exact happend.symm
  have hbelow : (List.range' start (first + 1 - start)).filter (first < ·) = [] := by
    refine List.filter_eq_nil_iff.mpr fun k hk => ?_
    have := (List.mem_range'_1.mp hk).2
    simp
    omega
  have habove : (List.range' (first + 1) (count - (first + 1))).filter (first < ·) =
      List.range' (first + 1) (count - (first + 1)) := by
    refine List.filter_eq_self.mpr fun k hk => ?_
    have := (List.mem_range'_1.mp hk).1
    simp
    omega
  rw [hsplit, List.filter_append, hbelow, habove, List.nil_append]

/-- The lines behind the one in which the loss ends are found as if nothing had been lost. -/
theorem filter_search {b : Scrollback} {pushed : List Chunk} (h : b.Accounts pushed)
    {needle : String} (hneedle : needle ≠ "") {first : Nat} (hfirst : b.truncation.lines ≤ first)
    (hcount : first < (outputLines (pushed.flatMap Chunk.data)).length) :
    (b.search needle).filter (first < ·.line) =
      found needle ((outputLines (pushed.flatMap Chunk.data)).getD · [])
        (List.range' (first + 1)
          ((outputLines (pushed.flatMap Chunk.data)).length - (first + 1))) := by
  obtain ⟨gone, houtput, hbytes, hlines⟩ := h.lost
  rw [search_eq h hneedle, filter_found, filter_lt_range' hfirst hcount]
  refine found_congr fun k hk => ?_
  have hk := (List.mem_range'_1.mp hk).1
  rw [← houtput, hbytes, remnant_of_lt gone b.toBytes (by omega)]

/-- **A search agrees with the output as a whole**: after any pushes `cs` onto a new scrollback, with any
    limits, let `first` be the number of lines counted as gone. The search for a text lists, in order and
    once each, the lines of everything pushed from the number `first` on whose decoded text contains it,
    under their numbers there, and shows them without the carriage returns at their end. The line
    `first`, which there is, is taken without the part of it that is gone, and all later ones as they
    are: those are found just as in a scrollback that was given the same pushes and has lost nothing. -/
theorem search_agrees (limits : Limits) (cs : List Chunk) (needle : String)
    (hneedle : needle ≠ "") :
    let b := cs.foldl push (empty limits)
    let lines := outputLines (cs.flatMap Chunk.data)
    let left := remnant (cs.flatMap Chunk.data) b.truncation.bytes
    let first := b.truncation.lines
    first < lines.length ∧
      b.search needle =
        ((List.range' first (lines.length - first)).filter fun k => Mentions needle (left k)).map
          (fun k => ⟨k, shown (left k)⟩) ∧
      (∀ k, first < k → left k = lines.getD k []) ∧
      ∀ limits' : Limits,
        let b' := cs.foldl push (empty limits')
        b'.truncation.isTruncated = false →
          (b.search needle).filter (first < ·.line) = (b'.search needle).filter (first < ·.line) := by
  intro b lines left first
  have haccounts : ∀ limits, (cs.foldl push (empty limits)).Accounts (solid cs) :=
    fun limits => (accounts_foldl_push_empty limits cs).1
  have houtput : (solid cs).flatMap Chunk.data = cs.flatMap Chunk.data := flatMap_data_solid cs
  obtain ⟨gone, hgone, hbytes, hlines⟩ := (haccounts limits).lost
  rw [houtput] at hgone
  have hfirst : first < lines.length := by
    have hheld : 0 < (outputLines b.toBytes).length :=
      List.length_pos_iff.mpr (outputLines_ne_nil _)
    have hlength : lines.length = newlines gone + (outputLines b.toBytes).length := by
      rw [← length_outputLines_append, hgone]
    have hcount : first = newlines gone := hlines
    omega
  refine ⟨hfirst, ?_, fun k hk => ?_, ?_⟩
  · have hsearch := search_eq (haccounts limits) hneedle
    rw [houtput] at hsearch
    exact hsearch
  · have hleft := remnant_of_lt gone b.toBytes (show newlines gone < k from hlines ▸ hk)
    rw [hgone, ← hbytes] at hleft
    exact hleft
  · intro limits' b' hwhole
    -- nothing is gone, and so no line
    have hnone : b'.truncation.lines = 0 := by
      obtain ⟨gone', -, hbytes', hlines'⟩ := (haccounts limits').lost
      have hlength : gone'.length = 0 := by
        rw [← hbytes']
        simpa [Truncation.isTruncated] using hwhole
      rw [hlines', List.length_eq_zero_iff.mp hlength, newlines_nil]
    have hheld := filter_search (haccounts limits) hneedle (Nat.le_refl _) (by rwa [houtput])
    have hwhole' := filter_search (haccounts limits') hneedle (Nat.le_trans hnone.le (Nat.zero_le _))
      (by rwa [houtput])
    exact hheld.trans hwhole'.symm

/-- A line is gone, and of the next one all but the second byte of a character, so that nothing is found
    there. The third line is cut by the border of two chunks and ends in a carriage return. -/
theorem search_agrees_cut :
    let cs : List Chunk := [⟨1, 1, [97, 116, newline, 99, 97, 116, 32, 195]⟩,
      ⟨1, 2, [169, newline, 99, 97]⟩, ⟨1, 3, [116, 13, newline]⟩]
    let b := cs.foldl push (empty ⟨2, 8⟩)
    let whole := cs.foldl push (empty ⟨100, 100⟩)
    "at" ≠ "" ∧ b.truncation.lines = 1 ∧ b.search "at" = [⟨2, "cat"⟩] ∧
      whole.truncation.isTruncated = false ∧
      (whole.search "at").filter (1 < ·.line) = [⟨2, "cat"⟩] := by
  intro cs b whole
  have hneedle : "at" ≠ "" := by decide
  have hwhole : whole.truncation.isTruncated = false := by decide
  obtain ⟨-, hsearch, -, hsame⟩ := search_agrees ⟨2, 8⟩ cs "at" hneedle
  have hfound : b.search "at" = [⟨2, "cat"⟩] := hsearch.trans (by decide +kernel)
  refine ⟨hneedle, by decide, hfound, hwhole, ?_⟩
  rw [show (1 : Nat) = b.truncation.lines by decide, ← hsame ⟨100, 100⟩ hwhole, hfound]
  decide

end Scrollback

end PaneMux
