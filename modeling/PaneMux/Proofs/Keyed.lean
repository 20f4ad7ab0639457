import Mathlib.Data.List.Nodup

/-!
# Lists with Keys

Subscribers, panes, terminals and sessions are all kept in lists and looked up by an identifier. No
two of a kind share one, so that what is found is the only thing there.
-/

namespace PaneMux.Keyed

variable {α κ : Type} {key : α → κ} {xs ys : List α} {x : α} {id : κ}

section Finding

variable [DecidableEq κ]

/-- What is found is there, under the key that was asked for. -/
theorem mem_of_find? (h : xs.find? (key · = id) = some x) : x ∈ xs ∧ key x = id :=
  ⟨List.mem_of_find?_eq_some h, by simpa using List.find?_some h⟩

/-- **What is there is found** under its key, where no two things share one. -/
theorem find?_eq_some (hkeys : (xs.map key).Nodup) (hx : x ∈ xs) :
    xs.find? (key · = key x) = some x := by
  cases hfind : xs.find? (key · = key x) with
  | none =>
    have := List.find?_eq_none.mp hfind x hx
    simp at this
  | some x' =>
    obtain ⟨hx', hkey⟩ := mem_of_find? hfind
    rw [List.inj_on_of_nodup_map hkeys hx' hx hkey]

/-- Something is found under the keys that there are. -/
theorem isSome_find?_iff : (xs.find? (key · = id)).isSome ↔ id ∈ xs.map key := by
  simp [List.find?_isSome]

/-- It is the only thing under its key. -/
theorem filter_eq_singleton (hkeys : (xs.map key).Nodup) (hx : x ∈ xs) :
    xs.filter (key · = key x) = [x] := by
  have hmem : ∀ y, y ∈ xs.filter (key · = key x) ↔ y ∈ [x] := by
    intro y
    rw [List.mem_filter, decide_eq_true_iff, List.mem_singleton]
    constructor
    · intro ⟨hy, hkey⟩
      exact List.inj_on_of_nodup_map hkeys hy hx hkey
    · rintro rfl
      exact ⟨hx, rfl⟩
  have hnodup : (xs.filter (key · = key x)).Nodup := (List.Nodup.of_map key hkeys).filter _
  exact List.perm_singleton.mp ((List.perm_ext_iff_of_nodup hnodup (List.nodup_singleton x)).mpr hmem)

end Finding

/-- **What is put in is all there**, when things with different keys are put in one after the other. -/
theorem foldl_perm {insert : α → List α → List α}
    (hinsert : ∀ x xs, key x ∉ xs.map key → (insert x xs).Perm (x :: xs))
    (hkeys : ((xs ++ ys).map key).Nodup) :
    (xs.foldl (fun kept x => insert x kept) ys).Perm (xs ++ ys) := by
  induction xs generalizing ys with
  | nil => rfl
  | cons x xs ih =>
    have hnew : key x ∉ ys.map key := fun hmem => (List.nodup_cons.mp hkeys).1 <|
      ((List.suffix_append xs ys).sublist.map _).mem hmem
    have hmove : (xs ++ insert x ys).Perm (x :: xs ++ ys) :=
      ((hinsert x ys hnew).append_left xs).trans List.perm_middle
    exact (ih ((hmove.map _).nodup_iff.mpr hkeys)).trans hmove

end PaneMux.Keyed
