import Mathlib.Data.List.Lex
import Mathlib.Data.Prod.Lex
import Mathlib.Data.String.Basic
import Mathlib.Logic.Relation
import PaneMux.Text.Path

/-!
# Spellings of Paths

A path means its components. What stands between two components may be spelled in many ways, so that
repeated and trailing slashes and inner dots do not make another path; and paths are in the order of
their components, whatever their spellings look like side by side.

## Architecture

- **§1** the order of components, and of paths
- **§2** the parts between slashes, of which some do not count
- **§3** spellings of one path (`Path.Respelled`)
-/

namespace PaneMux

/-! ## §1 Order -/

/-- The place of a component in the order: by kind, and names among themselves. -/
def Component.place : Component → ℕ ×ₗ String
  | .normal name => toLex (3, name)
  | c => toLex (c.rank, "")

theorem Component.place_injective : Function.Injective place := by
  intro a b h
  cases a <;> cases b <;> simp_all [place, rank]

theorem Component.less_iff {a b : Component} : a.less b = true ↔ a.place < b.place := by
  cases a <;> cases b <;> simp [less, place, rank, Prod.Lex.toLex_lt_toLex]

namespace Path

/-- **Lists of components are in lexicographic order.** -/
theorem lessList_iff {as bs : List Component} :
    lessList as bs = true ↔ as.map Component.place < bs.map Component.place := by
  induction as generalizing bs with
  | nil => cases bs <;> simp [lessList]
  | cons a as ih =>
    cases bs with
    | nil => simp [lessList]
    | cons b bs =>
      simp only [lessList, List.map_cons, List.cons_lt_cons_iff, Bool.or_eq_true,
        Bool.and_eq_true, beq_iff_eq, Component.less_iff, ih, Component.place_injective.eq_iff]

/-! ## §2 Parts -/

/-- The components of the parts that are between slashes. -/
def ofParts : List String → List Component
  | "" :: rest@(_ :: _) => .root :: inner rest
  | "." :: rest => .current :: inner rest
  | parts => inner parts

theorem components_eq (p : String) : components p = ofParts (splitSlashes [] p.toList) := rfl

theorem ofParts_cons (first : String) (rest : List String) :
    ofParts (first :: rest) =
      if first = "" ∧ rest ≠ [] then .root :: inner rest
      else if first = "." then .current :: inner rest
      else inner (first :: rest) := by
  unfold ofParts
  split
  · simp_all
  · simp_all
  · cases rest <;> simp_all

/-- A part that is empty or a dot is no component. -/
theorem inner_idle {part : String} (hpart : part = "" ∨ part = ".") (before behind : List String) :
    inner (before ++ part :: behind) = inner (before ++ behind) := by
  simp [inner, hpart]

/-- **Behind the first part, an empty one or a dot does not count**, unless the path is the root with
    nothing behind it. -/
theorem ofParts_idle {part : String} (hpart : part = "" ∨ part = ".") {before behind : List String}
    (hbefore : before ≠ []) (hroot : before ++ behind ≠ [""]) :
    ofParts (before ++ part :: behind) = ofParts (before ++ behind) := by
  obtain ⟨first, rest, rfl⟩ := List.exists_cons_of_ne_nil hbefore
  have hrest := inner_idle hpart rest behind
  have hall := inner_idle hpart (first :: rest) behind
  simp only [List.cons_append] at hall hroot ⊢
  rw [ofParts_cons, ofParts_cons, hrest, hall]
  by_cases hfirst : first = ""
  · subst hfirst
    have hmore : rest ++ behind ≠ [] := fun hnone => hroot (congrArg _ hnone)
    rw [if_pos ⟨rfl, by simp⟩, if_pos ⟨rfl, hmore⟩]
  · simp only [hfirst, false_and, if_false]

/-- **A slash divides the parts before it from those behind it.** -/
theorem splitSlashes_append (part before behind : List Char) :
    splitSlashes part (before ++ '/' :: behind) =
      splitSlashes part before ++ splitSlashes [] behind := by
  induction before generalizing part with
  | nil => simp [splitSlashes]
  | cons c before ih =>
    simp only [List.cons_append, splitSlashes]
    split
    · rw [ih, List.cons_append]
    · exact ih _

/-- The first part begins with what has been read of it. -/
theorem exists_splitSlashes_eq (part cs : List Char) :
    ∃ first rest, splitSlashes part cs = first :: rest ∧ part.reverse <+: first.toList := by
  induction cs generalizing part with
  | nil => exact ⟨_, [], rfl, by simp⟩
  | cons c cs ih =>
    unfold splitSlashes
    split
    · exact ⟨_, _, rfl, by simp⟩
    · obtain ⟨first, rest, hsplit, hprefix⟩ := ih (c :: part)
      refine ⟨first, rest, hsplit, List.IsPrefix.trans ?_ hprefix⟩
      simp

theorem splitSlashes_ne_nil (part cs : List Char) : splitSlashes part cs ≠ [] := by
  obtain ⟨first, rest, hsplit, -⟩ := exists_splitSlashes_eq part cs
  simp [hsplit]

/-- Only nothing has one empty part and no other. -/
theorem eq_nil_of_splitSlashes {cs : List Char} (h : splitSlashes [] cs = [""]) : cs = [] := by
  cases cs with
  | nil => rfl
  | cons c cs =>
    unfold splitSlashes at h
    split at h
    · exact absurd (List.cons.inj h).2 (splitSlashes_ne_nil [] cs)
    · obtain ⟨first, rest, hsplit, hprefix⟩ := exists_splitSlashes_eq [c] cs
      rw [h] at hsplit
      obtain ⟨rfl, -⟩ := List.cons.inj hsplit
      simp at hprefix

/-! ## §3 Spellings -/

/-- A separator that does not count: a spelling that has it, and the one without it. -/
inductive Idle : String → String → Prop
  | doubled (dir rest : String) : Idle (dir ++ "//" ++ rest) (dir ++ "/" ++ rest)
  /-- behind anything, for a slash alone is the root -/
  | trailing (dir : String) (h : dir ≠ "") : Idle (dir ++ "/") dir
  | dot (dir rest : String) : Idle (dir ++ "/./" ++ rest) (dir ++ "/" ++ rest)

/-- **Two spellings of a path** that differ only in separators that do not count. -/
def Respelled : String → String → Prop := Relation.EqvGen Idle

theorem components_of_idle {p q : String} (h : Idle p q) : components p = components q := by
  -- there are two parts at least where a slash is left
  have hroot (before behind : List Char) :
      splitSlashes [] before ++ splitSlashes [] behind ≠ [""] := by
    intro heq
    have hlength := congrArg List.length heq
    have hbefore := List.length_pos_of_ne_nil (splitSlashes_ne_nil [] before)
    have hbehind := List.length_pos_of_ne_nil (splitSlashes_ne_nil [] behind)
    simp only [List.length_append, List.length_singleton] at hlength
    omega
  rw [components_eq, components_eq]
  cases h with
  | doubled dir rest =>
    have hslashes : (dir ++ "//" ++ rest).toList = dir.toList ++ '/' :: ([] ++ '/' :: rest.toList) := by
      simp
    have hslash : (dir ++ "/" ++ rest).toList = dir.toList ++ '/' :: rest.toList := by simp
    rw [hslashes, hslash, splitSlashes_append, splitSlashes_append, splitSlashes_append]
    exact ofParts_idle (.inl rfl) (splitSlashes_ne_nil _ _) (hroot _ _)
  | trailing _ hdir =>
    have hslash : (q ++ "/").toList = q.toList ++ '/' :: [] := by simp
    have hparts : splitSlashes [] q.toList ++ [] ≠ [""] := by
      rw [List.append_nil]
      exact fun h => hdir (String.toList_eq_nil_iff.mp (eq_nil_of_splitSlashes h))
    rw [hslash, splitSlashes_append]
    have hempty : "" = "" ∨ "" = "." := .inl rfl
    simpa [splitSlashes] using ofParts_idle hempty (splitSlashes_ne_nil _ _) hparts
  | dot dir rest =>
    have hdot : (dir ++ "/./" ++ rest).toList =
        dir.toList ++ '/' :: (['.'] ++ '/' :: rest.toList) := by simp
    have hslash : (dir ++ "/" ++ rest).toList = dir.toList ++ '/' :: rest.toList := by simp
    rw [hdot, hslash, splitSlashes_append, splitSlashes_append, splitSlashes_append]
    exact ofParts_idle (.inr rfl) (splitSlashes_ne_nil _ _) (hroot _ _)

/-- **Two spellings of a path have the same components.** -/
theorem components_of_respelled {p q : String} (h : Respelled p q) :
    components p = components q := by
  induction h with
  | rel p q h => exact components_of_idle h
  | refl p => rfl
  | symm p q _ ih => exact ih.symm
  | trans p q r _ _ hpq hqr => exact hpq.trans hqr

end Path

end PaneMux
