import Mathlib.Data.List.Induction
import Mathlib.Data.String.Basic
import PaneMux.Proofs.Keyed

/-!
# Lists Sorted by Key

The entries of a map and the members of an object are kept in the order of their keys, each key once. What
is put in takes the place of what was there under its key, and leaves all else as it was.

## Architecture

- **§1** an item is put in its place (`Keyed.put`)
- **§2** sorted lists (`Keyed.Sorted`), kept when an item is put in
- **§3** lists that are built from their items, one after the other
-/

namespace PaneMux.Keyed

variable {α : Type} {t t' rows : List (String × α)} {key k : String} {value v : α}

/-! ## §1 Putting in -/

/-- Puts an item in its place in a list sorted by key, replacing one with the same key. -/
def put (key : String) (value : α) : List (String × α) → List (String × α)
  | [] => [(key, value)]
  | (k, v) :: rest =>
    if key = k then (key, value) :: rest
    else if key < k then (key, value) :: (k, v) :: rest
    else (k, v) :: put key value rest

theorem eq_or_mem_of_mem_put {e : String × α} (h : e ∈ put key value t) : e = (key, value) ∨ e ∈ t := by
  induction t with
  | nil => exact .inl (List.mem_singleton.mp h)
  | cons row t ih =>
    obtain ⟨key', value'⟩ := row
    unfold put at h
    split at h
    case isTrue =>
      rcases List.mem_cons.mp h with rfl | h
      · exact .inl rfl
      · exact .inr (List.mem_cons_of_mem _ h)
    case isFalse =>
      split at h
      case isTrue => exact List.mem_cons.mp h
      case isFalse =>
        rcases List.mem_cons.mp h with rfl | h
        · exact .inr (List.mem_cons_self ..)
        · exact (ih h).imp_right (List.mem_cons_of_mem _)

theorem put_perm (h : key ∉ t.map (·.1)) : (put key value t).Perm ((key, value) :: t) := by
  induction t with
  | nil => rfl
  | cons row t ih =>
    obtain ⟨key', value'⟩ := row
    obtain ⟨hne, hrest⟩ := not_or.mp (List.mem_cons.not.mp h)
    unfold put
    rw [if_neg hne]
    split
    case isTrue => rfl
    case isFalse => exact ((ih hrest).cons _).trans (List.Perm.swap ..)

/-! ## §2 Order -/

/-- The keys rise strictly, so that none is there twice. -/
def Sorted (t : List (String × α)) : Prop := (t.map (·.1)).Pairwise (· < ·)

theorem Sorted.nil : Sorted ([] : List (String × α)) := List.Pairwise.nil

theorem Sorted.nodup (h : Sorted t) : (t.map (·.1)).Nodup := List.Pairwise.imp ne_of_lt h

/-- There is one way to sort. -/
theorem Sorted.eq_of_perm (h : Sorted t) (h' : Sorted t') (hperm : t.Perm t') : t = t' :=
  hperm.eq_of_pairwise (fun _ _ _ _ hab hba => absurd hba hab.asymm) (List.pairwise_map.mp h)
    (List.pairwise_map.mp h')

/-- A sorted list is told by what is in it. -/
theorem Sorted.ext (h : Sorted t) (h' : Sorted t') (hmem : ∀ e, e ∈ t ↔ e ∈ t') : t = t' :=
  h.eq_of_perm h' <|
    (List.perm_ext_iff_of_nodup (.of_map _ h.nodup) (.of_map _ h'.nodup)).mpr hmem

theorem Sorted.put (h : Sorted t) (key : String) (value : α) : Sorted (Keyed.put key value t) := by
  induction t with
  | nil => exact List.pairwise_singleton _ _
  | cons row t ih =>
    obtain ⟨key', value'⟩ := row
    obtain ⟨hfirst, hrest⟩ := List.pairwise_cons.mp h
    unfold Keyed.put
    split
    case isTrue hsame => exact hsame ▸ h
    case isFalse hne =>
      split
      case isTrue hlt =>
        refine List.pairwise_cons.mpr ⟨fun k hk => ?_, h⟩
        rcases List.mem_cons.mp hk with rfl | hk
        · exact hlt
        · exact hlt.trans (hfirst k hk)
      case isFalse hnlt =>
        -- the item goes somewhere behind the first one
        have hlt : key' < key := lt_of_le_of_ne (not_lt.mp hnlt) (Ne.symm hne)
        refine List.pairwise_cons.mpr ⟨fun k hk => ?_, ih hrest⟩
        obtain ⟨e, he, rfl⟩ := List.mem_map.mp hk
        rcases eq_or_mem_of_mem_put he with rfl | he
        · exact hlt
        · exact hfirst e.1 (List.mem_map_of_mem he)

private theorem not_mem_of_lt (h : ∀ k ∈ t.map (·.1), key < k) : (key, v) ∉ t := fun hmem =>
  absurd (h key (List.mem_map_of_mem hmem)) (lt_irrefl key)

/-- **What is put in replaces what was there under its key**, and nothing else. -/
theorem mem_put_iff (h : Sorted t) :
    (k, v) ∈ put key value t ↔ if key = k then v = value else (k, v) ∈ t := by
  induction t with
  | nil => by_cases hk : key = k <;> simp [put, hk, eq_comm]
  | cons row t ih =>
    obtain ⟨key', value'⟩ := row
    obtain ⟨hfirst, hrest⟩ := List.pairwise_cons.mp h
    unfold put
    split
    case isTrue hsame =>
      subst hsame
      split_ifs with hk
      · subst hk
        simp [not_mem_of_lt hfirst]
      · simp [Ne.symm hk]
    case isFalse hne =>
      split
      case isTrue hlt =>
        have hbehind : ∀ k ∈ ((key', value') :: t).map (·.1), key < k :=
          List.forall_mem_cons.mpr ⟨hlt, fun k hk => hlt.trans (hfirst k hk)⟩
        split_ifs with hk
        · subst hk
          rw [List.mem_cons, or_iff_left (not_mem_of_lt hbehind)]
          simp
        · simp [Ne.symm hk]
      case isFalse =>
        rw [List.mem_cons, ih hrest]
        split_ifs with hk
        · subst hk
          simp [hne]
        · rw [List.mem_cons]

/-! ## §3 Building -/

/-- The sorted list that items make when they are put in one after the other. -/
def sort (rows : List (String × α)) : List (String × α) :=
  rows.foldl (fun t e => put e.1 e.2 t) []

theorem sort_append_singleton (rows : List (String × α)) (e : String × α) :
    sort (rows ++ [e]) = put e.1 e.2 (sort rows) := by
  rw [sort, List.foldl_concat]
  rfl

theorem sorted_sort (rows : List (String × α)) : Sorted (sort rows) := by
  induction rows using List.reverseRecOn with
  | nil => exact .nil
  | append_singleton rows e ih =>
    rw [sort_append_singleton]
    exact ih.put e.1 e.2

/-- **The last item under each key** is in the sorted list, and nothing else. -/
theorem mem_sort_iff :
    (key, value) ∈ sort rows ↔ value ∈ ((rows.filter (·.1 = key)).map (·.2)).getLast? := by
  induction rows using List.reverseRecOn with
  | nil => simp [sort]
  | append_singleton rows e ih =>
    rw [sort_append_singleton, mem_put_iff (sorted_sort rows), ih, List.filter_append,
      List.map_append]
    have hlast : ([e].filter (·.1 = key)).map (·.2) = if e.1 = key then [e.2] else [] := by
      by_cases he : e.1 = key <;> simp [he]
    rw [hlast]
    split_ifs <;> simp [eq_comm]

/-- **No item is lost** where no key is there twice. -/
theorem sort_perm (h : (rows.map (·.1)).Nodup) : (sort rows).Perm rows := by
  have hfold : (sort rows).Perm (rows ++ []) :=
    Keyed.foldl_perm (fun _ _ => put_perm) (by rwa [List.append_nil])
  rwa [List.append_nil] at hfold

/-- A sorted list is what its items make, in whichever order they are put in. -/
theorem Sorted.sort_eq (h : Sorted t) (hrows : rows.Perm t) : sort rows = t :=
  (sorted_sort rows).eq_of_perm h <|
    (sort_perm ((hrows.map _).nodup_iff.mpr h.nodup)).trans hrows

end PaneMux.Keyed
