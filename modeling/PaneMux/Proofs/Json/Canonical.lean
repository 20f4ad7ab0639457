import PaneMux.Json.Value
import PaneMux.Proofs.Sorted

/-!
# Canonical form

Sorting the members of an object keeps the last value of each key: none is invented, and where no key
is there twice none is lost, so that the canonical form of such an object has the same members in
another order.

## Architecture

- **§1** values in canonical form, item by item and member by member
- **§2** what is written under a key (`Json.values`)
- **§3** members sorted by key
-/

namespace PaneMux.Json

variable {key : String} {v : Json} {ms : List (String × Json)}

/-! ## §1 Parts -/

theorem canonicalItems_eq_map (js : List Json) : canonicalItems js = js.map canonical := by
  induction js with
  | nil => rfl
  | cons j js ih => rw [canonicalItems, ih, List.map_cons]

theorem canonicalMembers_eq_map (ms : List (String × Json)) :
    canonicalMembers ms = ms.map fun m => (m.1, m.2.canonical) := by
  induction ms with
  | nil => rfl
  | cons m ms ih => rw [canonicalMembers, ih, List.map_cons]

/-! ## §2 Keys -/

/-- The keys of members, in order. -/
def keys (ms : List (String × Json)) : List String := ms.map (·.1)

/-- The values that are written under a key, in order. -/
def values (ms : List (String × Json)) (key : String) : List Json :=
  (ms.filter (·.1 = key)).map (·.2)

theorem values_cons (m : String × Json) (ms : List (String × Json)) (key : String) :
    values (m :: ms) key = if m.1 = key then m.2 :: values ms key else values ms key := by
  by_cases hm : m.1 = key <;> simp [values, hm]

theorem mem_values_iff : v ∈ values ms key ↔ (key, v) ∈ ms := by
  simp [values]

theorem length_values (ms : List (String × Json)) (key : String) :
    (values ms key).length = (keys ms).count key := by
  rw [values, List.length_map, ← List.countP_eq_length_filter, keys, List.count, List.countP_map]
  rfl

/-- **The last value** of a key is the one that is looked up. -/
theorem lookup_eq_getLast? (key : String) (ms : List (String × Json)) :
    lookup key ms = (values ms key).getLast? := by
  induction ms with
  | nil => rfl
  | cons m ms ih =>
    rw [lookup, ih, values_cons]
    split_ifs
    · rw [List.getLast?_cons]
      cases (values ms key).getLast? <;> rfl
    · cases (values ms key).getLast? <;> rfl

theorem lookup_of_mem (hnodup : (keys ms).Nodup) (h : (key, v) ∈ ms) : lookup key ms = some v := by
  have hfilter : ms.filter (·.1 = key) = [(key, v)] := Keyed.filter_eq_singleton hnodup h
  rw [lookup_eq_getLast?, values, hfilter]
  rfl

theorem values_canonicalMembers (ms : List (String × Json)) (key : String) :
    values (canonicalMembers ms) key = (values ms key).map canonical := by
  rw [canonicalMembers_eq_map, values, values, List.filter_map, List.map_map, List.map_map]
  rfl

/-- What is left of an object without some of its keys. -/
theorem values_filter_not_contains (ms : List (String × Json)) (names : List String)
    (key : String) :
    values (ms.filter fun m => !names.contains m.1) key =
      if key ∈ names then [] else values ms key := by
  unfold values
  rw [List.filter_filter]
  split_ifs with hkey
  · rw [List.filter_eq_nil_iff.mpr, List.map_nil]
    intro m _
    by_cases hm : m.1 = key <;> simp [hm, hkey]
  · congr 1
    refine List.filter_congr fun m _ => ?_
    by_cases hm : m.1 = key <;> simp [hm, hkey]

/-! ## §3 Sorting -/

theorem insertMember_eq_put (key : String) (value : Json) (ms : List (String × Json)) :
    insertMember key value ms = Keyed.put key value ms := by
  induction ms with
  | nil => rfl
  | cons m ms ih =>
    unfold insertMember Keyed.put
    rw [ih]

theorem sortMembers_eq_sort (ms : List (String × Json)) : sortMembers ms = Keyed.sort ms := by
  simp only [sortMembers, insertMember_eq_put]
  rfl

/-- **Sorting keeps the last value of each key**, and nothing else. -/
theorem mem_sortMembers_iff : (key, v) ∈ sortMembers ms ↔ v ∈ (values ms key).getLast? := by
  rw [sortMembers_eq_sort]
  exact Keyed.mem_sort_iff

/-- **No member is invented.** -/
theorem mem_sortMembers {m : String × Json} (h : m ∈ sortMembers ms) : m ∈ ms :=
  mem_values_iff.mp (List.mem_of_getLast? (mem_sortMembers_iff.mp h))

/-- **No member is lost** where no key is there twice. -/
theorem sortMembers_perm (h : (keys ms).Nodup) : (sortMembers ms).Perm ms := by
  rw [sortMembers_eq_sort]
  exact Keyed.sort_perm h

end PaneMux.Json
