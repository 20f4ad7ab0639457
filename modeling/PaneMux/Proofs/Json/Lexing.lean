import Mathlib.Data.List.Chain
import Mathlib.Tactic.FinCases
import PaneMux.Json.Token

/-!
# Finding the tokens of a text

A list of tokens is found again in the text that spells them: strings with every kind of escape,
numbers and words of any length. The one thing it takes is that no two tokens that could run into one
another, numbers and words, stand next to each other (`Separated`).

## Architecture

- **§1** strings: an escape is undone, whichever character it stands for
- **§2** numbers and words: their characters are gathered until one comes that cannot belong to them
- **§3** where the machine stands after a token (`Lexer.after`), and how it takes the next
- **§4** whole texts
-/

namespace PaneMux.Json

open PaneMux.Text

/-! ## §1 Strings -/

namespace Lexer

@[simp] theorem run_nil (l : Lexer) : l.run [] = some l := rfl

theorem run_cons (l : Lexer) (c : Char) (cs : List Char) :
    l.run (c :: cs) = (l.feed c).bind fun l => l.run cs := rfl

theorem run_append (l : Lexer) (cs ds : List Char) :
    l.run (cs ++ ds) = (l.run cs).bind fun l => l.run ds := by
  induction cs generalizing l with
  | nil => rfl
  | cons c cs ih =>
    rw [List.cons_append, run_cons, run_cons, Option.bind_assoc]
    exact Option.bind_congr fun l _ => ih l

end Lexer

variable {c : Char} {n : Nat} {t : Token}

theorem controlEscape_eq : ∀ n < 32,
    controlEscape n = ['\\', 'u', '0', '0', (n / 16).digitChar, (n % 16).digitChar] := by
  decide

theorem hexValue?_digitChar : ∀ d < 16, hexValue? d.digitChar = some d := by
  decide

theorem run_controlEscape (h : n < 32) (cs : List Char) (ts : List Token) :
    Lexer.run ⟨.string cs, ts⟩ (controlEscape n) = some ⟨.string (Char.ofNat n :: cs), ts⟩ := by
  have hzero : hexValue? '0' = some 0 := by decide
  have hhigh := hexValue?_digitChar (n / 16) (by omega)
  have hlow := hexValue?_digitChar (n % 16) (by omega)
  have hvalue : n / 16 * 16 + n % 16 = n := by omega
  -- a control is no half of a surrogate pair
  have hfirst : isHighSurrogate n = false := by simp [isHighSurrogate]; omega
  have hsecond : isLowSurrogate n = false := by simp [isLowSurrogate]; omega
  rw [controlEscape_eq n h]
  simp [Lexer.run, Lexer.feed, LexState.endUnit, hzero, hhigh, hlow, hvalue, hfirst, hsecond]

/-- **An escape is undone.** -/
theorem run_escapeChar (c : Char) (cs : List Char) (ts : List Token) :
    Lexer.run ⟨.string cs, ts⟩ (escapeChar c) = some ⟨.string (c :: cs), ts⟩ := by
  unfold escapeChar
  split
  case h_1 | h_2 | h_3 | h_4 | h_5 => rfl
  case h_6 hquote hslash _ _ _ =>
    split
    case isTrue hbackspace => rw [← Char.ofNat_toNat c, hbackspace]; rfl
    case isFalse =>
      split
      case isTrue hfeed => rw [← Char.ofNat_toNat c, hfeed]; rfl
      case isFalse =>
        split
        case isTrue hcontrol => rw [run_controlEscape hcontrol, Char.ofNat_toNat]
        case isFalse hplain =>
          rw [Lexer.run_cons, Lexer.feed]
          simp only [if_neg hquote, if_neg hslash, if_neg hplain, Option.bind_some, Lexer.run_nil]

theorem run_string (s cs : List Char) (ts : List Token) :
    Lexer.run ⟨.string cs, ts⟩ (s.flatMap escapeChar) = some ⟨.string (s.reverse ++ cs), ts⟩ := by
  induction s generalizing cs with
  | nil => rfl
  | cons c s ih =>
    rw [List.flatMap_cons, Lexer.run_append, run_escapeChar, Option.bind_some, ih,
      List.reverse_cons, List.append_assoc]
    rfl

/-! ## §2 Numbers and words -/

/-- A character with a meaning of its own between two tokens. -/
def isMark (c : Char) : Bool :=
  c ∈ [' ', '\n', '\t', '\r', '[', ']', '\x7b', '\x7d', ',', ':', '"']

theorem begin_of_not_isMark (h : isMark c = false) (ts : List Token) :
    Lexer.begin ts c =
      if c.isDigit || c == '-' then some { state := .number [c], tokens := ts }
      else if isWordChar c then some { state := .word [c], tokens := ts }
      else none := by
  simp only [isMark, List.mem_cons, List.not_mem_nil, or_false, decide_eq_false_iff_not,
    not_or] at h
  have hspace : ¬ isSpace c = true := by simp [isSpace, h]
  unfold Lexer.begin
  rw [if_neg hspace]
  split
  case h_8 => rfl
  -- every other case is that of a mark
  all_goals simp at h

theorem not_isNumberChar_of_isMark (h : isMark c = true) : isNumberChar c = false := by
  simp only [isMark, decide_eq_true_eq] at h
  fin_cases h <;> decide

theorem not_isWordChar_of_isMark (h : isMark c = true) : isWordChar c = false := by
  simp only [isMark, decide_eq_true_eq] at h
  fin_cases h <;> decide

theorem not_isMark_of_isNumberChar (h : isNumberChar c = true) : isMark c = false := by
  rw [Bool.eq_false_iff]
  intro hmark
  rw [not_isNumberChar_of_isMark hmark] at h
  cases h

theorem not_isMark_of_isWordChar (h : isWordChar c = true) : isMark c = false := by
  rw [Bool.eq_false_iff]
  intro hmark
  rw [not_isWordChar_of_isMark hmark] at h
  cases h

theorem not_isDigit_of_isWordChar (h : isWordChar c = true) :
    (c.isDigit || c == '-') = false := by
  simp only [isWordChar, Bool.and_eq_true, decide_eq_true_eq] at h
  have hlow : 97 ≤ c.toNat := h.1
  rw [Bool.or_eq_false_iff]
  constructor
  · simp only [Char.isDigit, Bool.and_eq_false_iff, decide_eq_false_iff_not]
    right
    intro (hhigh : c.toNat ≤ 57)
    omega
  · rw [beq_eq_false_iff_ne]
    rintro rfl
    exact absurd hlow (by decide)

/-- Characters that a state keeps are gathered in it. -/
theorem run_gather {gather : List Char → LexState} {p : Char → Bool}
    (hfeed : ∀ c cs ts, p c = true → Lexer.feed ⟨gather cs, ts⟩ c = some ⟨gather (c :: cs), ts⟩)
    {ds : List Char} (h : ∀ d ∈ ds, p d = true) (cs : List Char) (ts : List Token) :
    Lexer.run ⟨gather cs, ts⟩ ds = some ⟨gather (ds.reverse ++ cs), ts⟩ := by
  induction ds generalizing cs with
  | nil => rfl
  | cons d ds ih =>
    obtain ⟨hd, hds⟩ := List.forall_mem_cons.mp h
    rw [Lexer.run_cons, hfeed d cs ts hd, Option.bind_some, ih hds, List.reverse_cons,
      List.append_assoc]
    rfl

/-! ## §3 One token -/

namespace Token

/-- A token that more characters could still belong to. -/
def isLoose : Token → Bool
  | .number _ | .word _ => true
  | _ => false

/-- A token that its own characters spell: a number begins with a digit or a minus sign, and a word
    is made of letters. -/
def IsSpelled : Token → Prop
  | .number cs =>
    ∃ c ds, cs = c :: ds ∧ (c.isDigit || c == '-') = true ∧ ∀ d ∈ ds, isNumberChar d = true
  | .word cs => ∃ c ds, cs = c :: ds ∧ isWordChar c = true ∧ ∀ d ∈ ds, isWordChar d = true
  | _ => True

/-- Every other token begins with a mark, and so ends what stands before it. -/
theorem spell_of_not_isLoose (h : t.isLoose = false) :
    ∃ c cs, t.spell = c :: cs ∧ isMark c = true := by
  cases t with
  | number | word => exact absurd h (by simp [isLoose])
  | str => exact ⟨_, _, rfl, by decide⟩
  | openArr | closeArr | openObj | closeObj | comma | colon => exact ⟨_, _, rfl, by decide⟩

end Token

/-- Where the machine stands after a token, given those before it, newest first: a number or a word
    may still go on. -/
def Lexer.after (ts : List Token) : Token → Lexer
  | .number cs => ⟨.number cs.reverse, ts⟩
  | .word cs => ⟨.word cs.reverse, ts⟩
  | t => ⟨.between, t :: ts⟩

theorem Lexer.after_of_not_isLoose (h : t.isLoose = false) (ts : List Token) :
    Lexer.after ts t = ⟨.between, t :: ts⟩ := by
  cases t <;> first | rfl | exact absurd h (by simp [Token.isLoose])

@[simp]
theorem Lexer.finish_after (ts : List Token) (t : Token) :
    (Lexer.after ts t).finish = some (t :: ts).reverse := by
  cases t <;> simp [Lexer.after, Lexer.finish]

/-- **A token is taken** when nothing before it is left open. -/
theorem run_spell (h : t.IsSpelled) (ts : List Token) :
    Lexer.run ⟨.between, ts⟩ t.spell = some (Lexer.after ts t) := by
  cases t with
  | number cs =>
    obtain ⟨c, ds, rfl, hc, hds⟩ := h
    have hmark : isMark c = false := by
      apply not_isMark_of_isNumberChar
      simp only [isNumberChar, hc, Bool.true_or]
    -- what may begin a number may also go on in one, and so is no mark
    have hfeed : ∀ d cs ts, isNumberChar d = true →
        Lexer.feed ⟨.number cs, ts⟩ d = some ⟨.number (d :: cs), ts⟩ := fun _ _ _ hd => if_pos hd
    show ((Lexer.begin ts c).bind fun l => l.run ds) = _
    rw [begin_of_not_isMark hmark, if_pos hc, Option.bind_some, run_gather hfeed hds]
    simp [Lexer.after]
  | word cs =>
    obtain ⟨c, ds, rfl, hc, hds⟩ := h
    have hfeed : ∀ d cs ts, isWordChar d = true →
        Lexer.feed ⟨.word cs, ts⟩ d = some ⟨.word (d :: cs), ts⟩ := fun _ _ _ hd => if_pos hd
    show ((Lexer.begin ts c).bind fun l => l.run ds) = _
    rw [begin_of_not_isMark (not_isMark_of_isWordChar hc),
      if_neg (by simp [not_isDigit_of_isWordChar hc]), if_pos hc, Option.bind_some,
      run_gather hfeed hds]
    simp [Lexer.after]
  | str s =>
    show Lexer.run ⟨.string [], ts⟩ (s.flatMap escapeChar ++ ['"']) = _
    rw [Lexer.run_append, run_string, List.append_nil, Option.bind_some]
    show some (⟨.between, .str s.reverse.reverse :: ts⟩ : Lexer) = _
    rw [List.reverse_reverse]
    rfl
  | openArr | closeArr | openObj | closeObj | comma | colon => rfl

/-- A mark ends what stands before it. -/
theorem run_after_of_isMark (h : isMark c = true) (cs : List Char) (ts : List Token) (t : Token) :
    (Lexer.after ts t).run (c :: cs) = Lexer.run ⟨.between, t :: ts⟩ (c :: cs) := by
  cases t with
  | number ds => simp [Lexer.run_cons, Lexer.after, Lexer.feed, not_isNumberChar_of_isMark h]
  | word ds => simp [Lexer.run_cons, Lexer.after, Lexer.feed, not_isWordChar_of_isMark h]
  | _ => rfl

/-! ## §4 Texts -/

/-- No two tokens stand next to each other that could run into one another. -/
def Separated (ts : List Token) : Prop :=
  ts.IsChain fun a b => a.isLoose = true → b.isLoose = false

/-- Tokens that any token may stand before. -/
structure Tight (ts : List Token) : Prop where
  separated : Separated ts
  head : ∀ t ∈ ts.head?, t.isLoose = false

theorem Tight.nil : Tight [] := ⟨List.isChain_nil, by simp⟩

theorem Tight.cons {ts : List Token} (h : Tight ts) (t : Token) : Separated (t :: ts) := by
  cases ts with
  | nil => exact List.isChain_singleton _
  | cons u ts => exact List.isChain_cons_cons.mpr ⟨fun _ => h.head u rfl, h.separated⟩

theorem Separated.tight_cons {ts : List Token} (h : Separated ts) (ht : t.isLoose = false) :
    Tight (t :: ts) := by
  refine ⟨?_, by simpa using ht⟩
  cases ts with
  | nil => exact List.isChain_singleton _
  | cons u ts => exact List.isChain_cons_cons.mpr ⟨fun hloose => by simp [ht] at hloose, h⟩

theorem run_spell_after {u : Token} (h : t.IsSpelled)
    (hgap : u.isLoose = true → t.isLoose = false) (cs : List Char) (ts : List Token) :
    (Lexer.after ts u).run (t.spell ++ cs) = (Lexer.after (u :: ts) t).run cs := by
  have hbetween : (Lexer.after ts u).run (t.spell ++ cs) =
      Lexer.run ⟨.between, u :: ts⟩ (t.spell ++ cs) := by
    cases hloose : u.isLoose with
    | true =>
      -- the token before is still open, and the first character of this one ends it
      obtain ⟨c, ds, hspell, hmark⟩ := Token.spell_of_not_isLoose (hgap hloose)
      rw [hspell]
      exact run_after_of_isMark hmark _ ts u
    | false => rw [Lexer.after_of_not_isLoose hloose]
  rw [hbetween, Lexer.run_append, run_spell h, Option.bind_some]

theorem run_flatMap_spell {ts : List Token} (h : ∀ t ∈ ts, t.IsSpelled) {u : Token}
    (hsep : Separated (u :: ts)) (done : List Token) :
    ((Lexer.after done u).run (ts.flatMap Token.spell)).bind Lexer.finish =
      some ((u :: done).reverse ++ ts) := by
  -- the last token taken is kept apart from those before it: only that one may still be open
  induction ts generalizing u done with
  | nil => simp
  | cons t ts ih =>
    obtain ⟨hgap, hrest⟩ := List.isChain_cons_cons.mp hsep
    rw [List.flatMap_cons, run_spell_after (h t (List.mem_cons_self ..)) hgap,
      ih (fun t ht => h t (List.mem_cons_of_mem _ ht)) hrest, List.reverse_cons, List.append_assoc]
    rfl

/-- **Tokens are found in the text that spells them.** -/
theorem tokenize?_flatMap_spell {ts : List Token} (h : ∀ t ∈ ts, t.IsSpelled)
    (hsep : Separated ts) : tokenize? (ts.flatMap Token.spell) = some ts := by
  cases ts with
  | nil => rfl
  | cons t ts =>
    rw [tokenize?, List.flatMap_cons, Lexer.run_append, run_spell (h t (List.mem_cons_self ..)),
      Option.bind_some]
    exact run_flatMap_spell (fun t ht => h t (List.mem_cons_of_mem _ ht)) hsep []

end PaneMux.Json
