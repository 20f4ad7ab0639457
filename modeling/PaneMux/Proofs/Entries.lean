import PaneMux.Proofs.Sorted
import PaneMux.Store.Settings

/-!
# Entries

Maps from text to text are kept as lists sorted by key: the stored settings, the variables of a
process, the notes on a pane. An entry that is put in replaces the one with its key, and leaves every
other key as it was.

## Architecture

- **§1** what is kept under a key (`Entries.value?`), and after an entry is put in
- **§2** sorted lists (`Entries.Sorted`), kept when an entry is put in; one that is built from its own
  entries, in any order, is the same
- **§3** entries that are put in only where their keys are missing
-/

namespace PaneMux.Entries

open Decoder (insertEntry)

variable {t : List (String × String)} {key value : String}

/-! ## §1 Looking up -/

/-- The value under a key. -/
def value? (t : List (String × String)) (key : String) : Option String :=
  (t.find? (·.1 = key)).map (·.2)

/-- The keys, in order. -/
def keys (t : List (String × String)) : List String := t.map (·.1)

@[simp] theorem value?_nil (key : String) : value? [] key = none := rfl

theorem value?_cons (key value : String) (t : List (String × String)) (k : String) :
    value? ((key, value) :: t) k = if key = k then some value else value? t k := by
  by_cases hk : key = k <;> simp [value?, hk]

theorem isSome_value?_iff : (value? t key).isSome ↔ key ∈ keys t := by
  simp [value?, keys, List.find?_isSome]

/-- **What is put in is found** under its key, and what else there is stays. -/
theorem value?_insertEntry (key value : String) (t : List (String × String)) (k : String) :
    value? (insertEntry key value t) k = if key = k then some value else value? t k := by
  induction t with
  | nil => exact value?_cons key value [] k
  | cons row t ih =>
    obtain ⟨key', value'⟩ := row
    unfold insertEntry
    by_cases hsame : key = key'
    · -- the entry takes the place of one with its key
      subst hsame
      simp only [if_true, value?_cons]
      split <;> rfl
    · simp only [hsame, if_false]
      split
      · exact value?_cons key value _ k
      · rw [value?_cons, value?_cons, ih]
        by_cases hk : key' = k
        · subst hk
          simp [hsame]
        · simp [hk]

/-! ## §2 Order -/

/-- The keys rise strictly, so that none is there twice. -/
def Sorted (t : List (String × String)) : Prop := (keys t).Pairwise (· < ·)

theorem Sorted.nodup (h : Sorted t) : (keys t).Nodup := Keyed.Sorted.nodup h

theorem insertEntry_eq_put (key value : String) (t : List (String × String)) :
    insertEntry key value t = Keyed.put key value t := by
  induction t with
  | nil => rfl
  | cons row t ih =>
    unfold Decoder.insertEntry Keyed.put
    rw [ih]

theorem Sorted.insertEntry (h : Sorted t) (key value : String) :
    Sorted (Decoder.insertEntry key value t) := by
  rw [insertEntry_eq_put]
  exact Keyed.Sorted.put h key value

/-- **A sorted list is what its entries make**, in whichever order they are put in. -/
theorem Sorted.foldl_insertEntry (h : Sorted t) {rows : List (String × String)}
    (hrows : rows.Perm t) : rows.foldl (fun m e => Decoder.insertEntry e.1 e.2 m) [] = t := by
  simp only [insertEntry_eq_put]
  exact Keyed.Sorted.sort_eq h hrows

/-! ## §3 Completion -/

theorem any_key_iff : t.any (·.1 = key) = (value? t key).isSome := by
  rw [value?, Option.isSome_map, List.isSome_find?]

/-- **What is there stays, and what is missing is added.** -/
theorem value?_addMissing (t rows : List (String × String)) (k : String) :
    value? (Store.addMissing t rows).2 k = (value? t k).or (value? rows k) := by
  induction rows generalizing t with
  | nil => simp [Store.addMissing]
  | cons row rows ih =>
    obtain ⟨key, value⟩ := row
    unfold Store.addMissing
    rw [any_key_iff, value?_cons]
    split
    case isTrue hthere =>
      rw [ih]
      by_cases hk : key = k
      · subst hk
        obtain ⟨v, hv⟩ := Option.isSome_iff_exists.mp hthere
        simp [hv]
      · simp [hk]
    case isFalse hmissing =>
      show value? (Store.addMissing (insertEntry key value t) rows).2 k = _
      rw [ih, value?_insertEntry]
      by_cases hk : key = k
      · subst hk
        simp [Option.not_isSome_iff_eq_none.mp hmissing]
      · simp [hk]

theorem Sorted.addMissing (h : Sorted t) (rows : List (String × String)) :
    Sorted (Store.addMissing t rows).2 := by
  induction rows generalizing t with
  | nil => exact h
  | cons row rows ih =>
    unfold Store.addMissing
    split
    · exact ih h
    · exact ih (h.insertEntry _ _)

/-- Where no key is missing nothing is added. -/
theorem addMissing_eq_self {rows : List (String × String)}
    (h : ∀ row ∈ rows, (value? t row.1).isSome) : Store.addMissing t rows = (0, t) := by
  induction rows with
  | nil => rfl
  | cons row rows ih =>
    have hrow : t.any (·.1 = row.1) = true := by
      rw [any_key_iff]
      exact h row (List.mem_cons_self ..)
    rw [Store.addMissing, if_pos hrow]
    exact ih fun row' hrow' => h row' (List.mem_cons_of_mem _ hrow')

end PaneMux.Entries
