import Mathlib.Tactic.NormNum
import PaneMux.Json.Printer
import PaneMux.Json.Reader
import PaneMux.Proofs.Json.Canonical
import PaneMux.Proofs.Json.Lexing
import PaneMux.Proofs.Text.Digits

/-!
# Reading JSON that was written

The compact form of a value is read back as the same value, members in the same order, when the value
holds no fractional number, its integers fit 64 bits, and it is not nested too deep for the reader
(`Json.Readable`).

## Architecture

- **§1** integers: the numeral of an integer is a literal without fraction and exponent
- **§2** the values that can be read back, and their canonical forms among them
- **§3** the tokens of a value are spelled and separated
- **§4** the reader turns the tokens of a value into the value
- **§5** whole texts
-/

namespace PaneMux.Json

open PaneMux.Text

/-! ## §1 Integers -/

namespace NumberLiteral

theorem takeDigits_of_digits {cs : List Char} (h : ∀ c ∈ cs, c.isDigit = true) :
    takeDigits cs = (cs.map fun c => c.toNat - '0'.toNat, []) := by
  induction cs with
  | nil => rfl
  | cons c cs ih =>
    simp only [takeDigits, digitValue?_of_isDigit (h c (List.mem_cons_self ..)),
      ih fun c hc => h c (List.mem_cons_of_mem _ hc), List.map_cons]

theorem ofDigits_map (cs : List Char) :
    ofDigits (cs.map fun c => c.toNat - '0'.toNat) = Nat.ofDigitChars 10 cs 0 := by
  simp only [ofDigits, Nat.ofDigitChars, List.foldl_map, Nat.mul_comm]

theorem whole?_toDigits (n : Nat) :
    ∃ ds, whole? (Nat.toDigits 10 n) = some (ds, []) ∧ ofDigits ds = n := by
  refine ⟨_, ?_, (ofDigits_map _).trans Nat.ofDigitChars_ten_toDigits⟩
  rw [whole?, takeDigits_of_digits fun c hc => isDigit_of_mem_toDigits hc]
  rcases Nat.eq_zero_or_pos n with rfl | hpos
  · rfl
  · -- the first digit is none that may only stand alone
    have hhead := head?_toDigits_ne_zero hpos
    have hdigit : ∀ c ∈ Nat.toDigits 10 n, c.isDigit = true := fun c hc => isDigit_of_mem_toDigits hc
    cases hdigits : Nat.toDigits 10 n with
    | nil => exact absurd hdigits Nat.toDigits_ne_nil
    | cons c cs =>
      rw [hdigits] at hhead hdigit
      have hc : c.toNat - '0'.toNat ≠ 0 :=
        sub_zero_ne_zero (hdigit c (List.mem_cons_self ..)) (by simpa using hhead)
      split
      case h_1 heq => cases heq
      case h_2 heq => injection heq with heq; injection heq with heq; exact absurd heq hc
      case h_3 => rfl

/-- The literal of a natural number, with or without a minus sign before it. -/
theorem parse?_toDigits (n : Nat) : ∃ ds, ofDigits ds = n ∧
    parse? (Nat.toDigits 10 n) = some ⟨false, ds, [], none, false⟩ ∧
    parse? ('-' :: Nat.toDigits 10 n) = some ⟨true, ds, [], none, false⟩ := by
  obtain ⟨ds, hwhole, hds⟩ := whole?_toDigits n
  refine ⟨ds, hds, ?_, ?_⟩
  -- without a sign: the first digit is not taken for one
  · cases hdigits : Nat.toDigits 10 n with
    | nil => exact absurd hdigits Nat.toDigits_ne_nil
    | cons c cs =>
      have hsign : c ≠ '-' := by
        rintro rfl
        exact absurd (isDigit_of_mem_toDigits (hdigits ▸ List.mem_cons_self ..)) (by decide)
      rw [hdigits] at hwhole
      simp [parse?, hsign, hwhole]
  · simp [parse?, hwhole]

end NumberLiteral

/-- An integer of 64 bits, with or without a sign. -/
def IsWord64 (n : Int) : Prop := -(2 : Int) ^ 63 ≤ n ∧ n < 2 ^ 64

/-- **The numeral of an integer stands for it.** -/
theorem ofNumber?_toString {n : Int} (h : IsWord64 n) :
    ofNumber? (toString n).toList = some (.int n) := by
  obtain ⟨hlow, hhigh⟩ := h
  rw [Int.toString_eq_repr, Int.repr_eq_if]
  split
  case isTrue hpos =>
    obtain ⟨ds, hds, hparse, -⟩ := NumberLiteral.parse?_toDigits n.toNat
    have hmax : n.toNat ≤ NumberLiteral.maxSignificand := by
      norm_num [NumberLiteral.maxSignificand]
      omega
    rw [Nat.repr_eq_ofList_toDigits, String.toList_ofList, ofNumber?, hparse, Option.bind_some]
    simp [NumberLiteral.value?, hds, hmax, hpos]
  case isFalse hneg =>
    obtain ⟨ds, hds, -, hparse⟩ := NumberLiteral.parse?_toDigits (-n).toNat
    have hmax : (-n).toNat ≤ Nat.pow 2 63 := by
      norm_num
      omega
    have hpos : 0 < (-n).toNat := by omega
    have htext : ("-" ++ (-n).toNat.repr).toList = '-' :: Nat.toDigits 10 (-n).toNat := by
      simp [Nat.repr_eq_ofList_toDigits]
    rw [htext, ofNumber?, hparse, Option.bind_some]
    simp only [NumberLiteral.value?, hds, hmax, hpos]
    simp
    omega

/-! ## §2 Values that can be read back -/

/-- A value nested at most so deep, without fractional numbers and with integers of 64 bits. -/
inductive Readable : Nat → Json → Prop where
  | null {n : Nat} : Readable n .null
  | bool {n : Nat} (b : Bool) : Readable n (.bool b)
  | int {n : Nat} {i : Int} (h : IsWord64 i) : Readable n (.int i)
  | str {n : Nat} (s : String) : Readable n (.str s)
  | arr {n : Nat} {js : List Json} (h : ∀ j ∈ js, Readable n j) : Readable (n + 1) (.arr js)
  | obj {n : Nat} {ms : List (String × Json)} (h : ∀ m ∈ ms, Readable n m.2) :
    Readable (n + 1) (.obj ms)

namespace Readable

variable {n : Nat} {α : Type} {encode : α → Json}

theorem nat {i : Nat} (h : i < 2 ^ 64) : Readable n (.nat i) :=
  .int ⟨by omega, by omega⟩

theorem opt {o : Option α} (h : ∀ a, o = some a → Readable n (encode a)) :
    Readable n (.opt encode o) := by
  cases o with
  | none => exact .null
  | some a => exact h a rfl

theorem list {as : List α} (h : ∀ a ∈ as, Readable n (encode a)) :
    Readable (n + 1) (.list encode as) := by
  refine .arr fun j hj => ?_
  obtain ⟨a, ha, rfl⟩ := List.mem_map.mp hj
  exact h a ha

theorem obj_nil : Readable (n + 1) (.obj []) := .obj nofun

theorem obj_cons {key : String} {j : Json} {ms : List (String × Json)} (hj : Readable n j)
    (hms : Readable (n + 1) (.obj ms)) : Readable (n + 1) (.obj ((key, j) :: ms)) := by
  cases hms with
  | obj hms => exact .obj (List.forall_mem_cons.mpr ⟨hj, hms⟩)

theorem obj_append {ms ms' : List (String × Json)} (h : Readable (n + 1) (.obj ms))
    (h' : Readable (n + 1) (.obj ms')) : Readable (n + 1) (.obj (ms ++ ms')) := by
  cases h with
  | obj h =>
    cases h' with
    | obj h' => exact .obj (List.forall_mem_append.mpr ⟨h, h'⟩)

end Readable

/-- What fits does so in canonical form too. -/
theorem Readable.canonical {n : Nat} {j : Json} (h : Readable n j) : Readable n j.canonical := by
  induction h with
  | null => exact .null
  | bool b => exact .bool b
  | int h => exact .int h
  | str s => exact .str s
  | arr _ ih =>
    rw [Json.canonical, canonicalItems_eq_map]
    refine .arr fun j hj => ?_
    obtain ⟨i, hi, rfl⟩ := List.mem_map.mp hj
    exact ih i hi
  | obj _ ih =>
    rw [Json.canonical, canonicalMembers_eq_map]
    refine .obj fun m hm => ?_
    obtain ⟨i, hi, rfl⟩ := List.mem_map.mp (mem_sortMembers hm)
    exact ih i hi

/-! ## §3 Tokens of a value -/

theorem isSpelled_toString (n : Int) : (Token.number (toString n).toList).IsSpelled := by
  have hnumber : ∀ k, ∀ d ∈ Nat.toDigits 10 k, isNumberChar d = true := fun k d hd => by
    simp [isNumberChar, isDigit_of_mem_toDigits hd]
  rw [Int.toString_eq_repr, Int.repr_eq_if]
  split
  · cases hdigits : Nat.toDigits 10 n.toNat with
    | nil => exact absurd hdigits Nat.toDigits_ne_nil
    | cons c cs =>
      have hc : c.isDigit = true := isDigit_of_mem_toDigits (hdigits ▸ List.mem_cons_self ..)
      refine ⟨c, cs, by simp [Nat.repr_eq_ofList_toDigits, hdigits], by simp [hc], fun d hd => ?_⟩
      exact hnumber n.toNat d (hdigits ▸ List.mem_cons_of_mem _ hd)
  · exact ⟨'-', Nat.toDigits 10 (-n).toNat, by simp [Nat.repr_eq_ofList_toDigits], by decide,
      hnumber _⟩

/-- Tokens of a value: they are spelled, and stay separated from what can follow a value. -/
structure Token.Printable (ts : List Token) : Prop where
  spelled : ∀ t ∈ ts, t.IsSpelled
  separated : ∀ rest, Tight rest → Separated (ts ++ rest)

theorem Token.printable_singleton {t : Token} (h : t.IsSpelled) : Token.Printable [t] :=
  ⟨by simpa using h, fun _ hrest => hrest.cons t⟩

theorem Token.printable_word {c : Char} {cs : List Char} (hc : isWordChar c = true)
    (hcs : cs.all isWordChar = true) : Token.Printable [.word (c :: cs)] :=
  printable_singleton ⟨c, cs, rfl, hc, List.all_eq_true.mp hcs⟩

theorem itemTokens_printable {js : List Json} (h : ∀ j ∈ js, Token.Printable (tokens j)) :
    (∀ t ∈ itemTokens js, t.IsSpelled) ∧ ∀ rest, Separated rest → Tight (itemTokens js ++ rest) := by
  induction js with
  | nil => exact ⟨by simp [itemTokens, Token.IsSpelled], fun _ hrest => hrest.tight_cons rfl⟩
  | cons j js ih =>
    have hj := h j (List.mem_cons_self ..)
    obtain ⟨hspelled, hsep⟩ := ih fun j hj => h j (List.mem_cons_of_mem _ hj)
    rw [itemTokens]
    constructor
    · simp only [List.mem_cons, List.mem_append]
      rintro t (rfl | ht | ht)
      · trivial
      · exact hj.spelled t ht
      · exact hspelled t ht
    · intro rest hrest
      rw [List.cons_append, List.append_assoc]
      exact (hj.separated _ (hsep rest hrest)).tight_cons rfl

theorem memberTokens_printable {ms : List (String × Json)}
    (h : ∀ m ∈ ms, Token.Printable (tokens m.2)) :
    (∀ t ∈ memberTokens ms, t.IsSpelled) ∧
      ∀ rest, Separated rest → Tight (memberTokens ms ++ rest) := by
  induction ms with
  | nil => exact ⟨by simp [memberTokens, Token.IsSpelled], fun _ hrest => hrest.tight_cons rfl⟩
  | cons m ms ih =>
    have hm := h m (List.mem_cons_self ..)
    obtain ⟨hspelled, hsep⟩ := ih fun m hm => h m (List.mem_cons_of_mem _ hm)
    rw [memberTokens]
    constructor
    · simp only [List.mem_cons, List.mem_append]
      rintro t (rfl | rfl | rfl | ht | ht)
      iterate 3 trivial
      · exact hm.spelled t ht
      · exact hspelled t ht
    · intro rest hrest
      simp only [List.cons_append, List.append_assoc]
      have hvalue := hm.separated _ (hsep rest hrest)
      exact ((hvalue.tight_cons rfl).separated.tight_cons rfl).separated.tight_cons rfl

/-- **The tokens of a value can be found again.** -/
theorem Readable.printable {n : Nat} {j : Json} (h : Readable n j) : Token.Printable (tokens j) := by
  induction h with
  | null => exact Token.printable_word rfl rfl
  | bool b => cases b <;> exact Token.printable_word rfl rfl
  | int _ => exact Token.printable_singleton (isSpelled_toString _)
  | str s => exact Token.printable_singleton trivial
  | @arr _ js _ ih =>
    obtain ⟨hspelled, hsep⟩ := itemTokens_printable ih
    cases js with
    | nil => exact ⟨by simp [tokens, Token.IsSpelled], fun rest hrest =>
        ((hsep rest hrest.separated).separated.tight_cons rfl).separated⟩
    | cons j js =>
      -- the items as they would follow another one, with the bracket in place of the comma
      rw [itemTokens] at hspelled hsep
      exact ⟨List.forall_mem_cons.mpr ⟨trivial, (List.forall_mem_cons.mp hspelled).2⟩,
        fun rest hrest => (Separated.tight_cons (hsep rest hrest.separated).separated.tail rfl).separated⟩
  | @obj _ ms _ ih =>
    obtain ⟨hspelled, hsep⟩ := memberTokens_printable ih
    cases ms with
    | nil => exact ⟨by simp [tokens, Token.IsSpelled], fun rest hrest =>
        ((hsep rest hrest.separated).separated.tight_cons rfl).separated⟩
    | cons m ms =>
      rw [memberTokens] at hspelled hsep
      exact ⟨List.forall_mem_cons.mpr ⟨trivial, (List.forall_mem_cons.mp hspelled).2⟩,
        fun rest hrest => (Separated.tight_cons (hsep rest hrest.separated).separated.tail rfl).separated⟩

/-! ## §4 The reader -/

namespace Reader

theorem run_cons (r : Reader) (t : Token) (ts : List Token) :
    r.run (t :: ts) = (r.feed t).bind fun r => r.run ts := rfl

/-- The reader turns the tokens of a value into the value, in frames that leave room for `n` more. -/
def Reads (n : Nat) (j : Json) : Prop :=
  ∀ frames rest, frames.length + n ≤ maxDepth →
    run ⟨frames, .value⟩ (tokens j ++ rest) = run ⟨frames, .more j⟩ rest

theorem run_itemTokens {n : Nat} {js : List Json} (h : ∀ j ∈ js, Reads n j) {frames : List Frame}
    (hdepth : frames.length + (n + 1) ≤ maxDepth) (done : List Json) (v : Json) (rest : List Token) :
    run ⟨.items done :: frames, .more v⟩ (itemTokens js ++ rest) =
      run ⟨frames, .more (.arr ((v :: done).reverse ++ js))⟩ rest := by
  -- on the items to come; each starts with the comma that makes the one before it done
  induction js generalizing done v with
  | nil => rw [List.append_nil]; rfl
  | cons j js ih =>
    rw [itemTokens, List.cons_append, List.append_assoc]
    show run ⟨.items (v :: done) :: frames, .value⟩ _ = _
    rw [h j (List.mem_cons_self ..) _ _ (by rw [List.length_cons]; omega),
      ih (fun j hj => h j (List.mem_cons_of_mem _ hj)), List.reverse_cons, List.append_assoc]
    rfl

theorem run_memberTokens {n : Nat} {ms : List (String × Json)} (h : ∀ m ∈ ms, Reads n m.2)
    {frames : List Frame} (hdepth : frames.length + (n + 1) ≤ maxDepth)
    (done : List (String × Json)) (k : String) (v : Json) (rest : List Token) :
    run ⟨.members done k :: frames, .more v⟩ (memberTokens ms ++ rest) =
      run ⟨frames, .more (.obj (((k, v) :: done).reverse ++ ms))⟩ rest := by
  induction ms generalizing done k v with
  | nil => rw [List.append_nil]; rfl
  | cons m ms ih =>
    obtain ⟨l, w⟩ := m
    rw [memberTokens]
    simp only [List.cons_append, List.append_assoc]
    show run ⟨.members ((k, v) :: done) (String.ofList l.toList) :: frames, .value⟩ _ = _
    rw [String.ofList_toList, h _ (List.mem_cons_self ..) _ _ (by rw [List.length_cons]; omega),
      ih (fun m hm => h m (List.mem_cons_of_mem _ hm)), List.reverse_cons, List.append_assoc]
    rfl

/-- A value does not begin with the end of an array. -/
theorem exists_tokens_eq_cons {n : Nat} {j : Json} (h : Readable n j) :
    ∃ t ts, tokens j = t :: ts ∧ t ≠ .closeArr := by
  cases h with
  | null | int | str => exact ⟨_, _, rfl, by simp⟩
  | bool b => cases b <;> exact ⟨_, _, rfl, by simp⟩
  | @arr _ js => cases js <;> exact ⟨_, _, rfl, by simp⟩
  | @obj _ ms => cases ms <;> exact ⟨_, _, rfl, by simp⟩

/-- **The tokens of a value are read as that value.** -/
theorem reads_of_readable {n : Nat} {j : Json} (h : Readable n j) : Reads n j := by
  induction h with
  | null => exact fun _ _ _ => rfl
  | bool b => cases b <;> exact fun _ _ _ => rfl
  | int h =>
    intro frames rest _
    show ((ofNumber? _).map _).bind _ = _
    rw [ofNumber?_toString h]
    rfl
  | str s =>
    intro frames rest _
    show run ⟨frames, .more (.str (String.ofList s.toList))⟩ rest = _
    rw [String.ofList_toList]
  | @arr n js hreadable ih =>
    intro frames rest hdepth
    have hroom : frames.length < maxDepth := by omega
    cases js with
    | nil => simp [tokens, run_cons, feed, start, hroom]
    | cons j js =>
      -- behind the bracket the machine also takes the end of the array, which is not what comes
      obtain ⟨t, ts, htokens, ht⟩ := exists_tokens_eq_cons (hreadable j (List.mem_cons_self ..))
      have hfirst : ∀ rest, run ⟨.items [] :: frames, .firstItem⟩ (tokens j ++ rest) =
          run ⟨.items [] :: frames, .value⟩ (tokens j ++ rest) := by
        intro rest
        rw [htokens, List.cons_append, run_cons, run_cons]
        congr 1
        unfold feed
        simp only []
        split
        case h_1 => exact absurd rfl ht
        case h_2 => rfl
      rw [tokens, List.cons_append, run_cons]
      simp only [feed, start, if_pos hroom, Option.bind_some, List.append_assoc]
      rw [hfirst, ih j (List.mem_cons_self ..) _ _ (by rw [List.length_cons]; omega),
        run_itemTokens (fun j hj => ih j (List.mem_cons_of_mem _ hj)) hdepth]
      rfl
  | @obj n ms hreadable ih =>
    intro frames rest hdepth
    have hroom : frames.length < maxDepth := by omega
    cases ms with
    | nil => simp [tokens, run_cons, feed, start, hroom]
    | cons m ms =>
      obtain ⟨k, v⟩ := m
      rw [tokens]
      simp only [List.cons_append, List.append_assoc, run_cons, feed, start, if_pos hroom,
        Option.bind_some]
      rw [String.ofList_toList, ih _ (List.mem_cons_self ..) _ _ (by rw [List.length_cons]; omega),
        run_memberTokens (fun m hm => ih m (List.mem_cons_of_mem _ hm)) hdepth]
      rfl

end Reader

/-! ## §5 Texts -/

/-- **What is written is read back**, members in the order in which they were written. -/
theorem parse?_compact {j : Json} (h : Readable maxDepth j) : parse? j.compact = some j := by
  obtain ⟨hspelled, hsep⟩ := h.printable
  have hseparated : Separated (tokens j) := by
    have := hsep [] .nil
    rwa [List.append_nil] at this
  have hread := Reader.reads_of_readable h [] [] (by simp)
  rw [List.append_nil] at hread
  rw [parse?, compact, String.toList_ofList, tokenize?_flatMap_spell hspelled hseparated,
    Option.bind_some, hread]
  rfl

end PaneMux.Json
