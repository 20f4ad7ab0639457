import PaneMux.Proofs.Json.Decoding
import PaneMux.Proofs.Json.Yields
import PaneMux.Wire.Request

/-!
# Reading Requests

A line is taken as a request exactly if it is one object in which there is one `id` and one `op`, each
once. Whatever else it holds is an argument. Every other line is refused, under the last `id` that it
has, so that a client can tell which of its requests was no good.

## Architecture

- **§1** records whose fields must all be there: each is read off the one member with its name, whatever
  the other fields are (`Record.ofMembers_both`)
- **§2** the head of a request, and its arguments
- **§3** lines
-/

namespace PaneMux

open DecodeError

/-! ## §1 Fields that must be there -/

namespace Decoder

theorem natural_eq_ok_iff {bits n : Nat} {expected : String} {j : Json} :
    natural bits expected j = .ok n ↔ j = .nat n ∧ n < 2 ^ bits := by
  constructor
  · intro h
    refine ⟨?_, yields_natural bits expected h⟩
    obtain ⟨i, hi, rfl⟩ := exists_of_map_eq_ok h
    unfold integer at hi
    split at hi
    · split at hi
      case isTrue hrange =>
        obtain rfl := Except.ok.inj hi
        rw [Json.nat, Int.toNat_of_nonneg hrange.1]
      case isFalse => cases hi
    · cases hi
  · rintro ⟨rfl, hn⟩
    exact reads_natural hn expected _ Json.View.id

theorem string_eq_ok_iff {s : String} {j : Json} : string j = .ok s ↔ j = .str s := by
  cases j <;> simp [string, refuse]

end Decoder

namespace Record

variable {α β : Type} {r : Record α} {s : Record β} {ms : List (String × Json)}

/-- The record passes over members that are none of its fields. -/
def PassesOver (r : Record α) : Prop := ∀ k ∉ r.names, ∀ j, r.check k j = .ok ()

theorem passesOver_field (name : String) (d : Decoder α) : (field name d).PassesOver :=
  fun k hk j => if_neg fun heq => hk (by simp [field, heq])

/-- **A field is read** off the only member with its name. -/
theorem ofMembers_field {name : String} {d : Decoder α} {a : α} :
    (field name d).ofMembers ms = .ok a ↔ ∃ j, Json.values ms name = [j] ∧ d j = .ok a := by
  rw [ofMembers_eq_ok_iff]
  simp only [field, List.mem_singleton, forall_eq, if_true, Json.lookup_eq_getLast?]
  rcases hvalues : Json.values ms name with _ | ⟨j, _ | ⟨j', js⟩⟩
  · simp
  · cases hj : d j <;> simp [hj, Except.map]
  · simp

/-- **Two records are read** independently of each other, where no field belongs to both. -/
theorem ofMembers_both (hr : r.PassesOver) (hs : s.PassesOver) (hnames : r.names.Disjoint s.names)
    {a : α} {b : β} :
    (r.both s).ofMembers ms = .ok (a, b) ↔ r.ofMembers ms = .ok a ∧ s.ofMembers ms = .ok b := by
  have hnames' : (r.both s).names = r.names ++ s.names := rfl
  simp only [ofMembers_eq_ok_iff, check_both, named_both, hnames', List.forall_mem_append]
  have hleft : ∀ k ∈ r.names, ∀ j, s.check k j = .ok () := fun k hk => hs k (hnames hk)
  have hright : ∀ k ∈ s.names, ∀ j, r.check k j = .ok () := fun k hk => hr k fun h => hnames h hk
  constructor
  · rintro ⟨⟨hfirst, hsecond⟩, ha, hb⟩
    exact ⟨⟨fun k hk => ⟨(hfirst k hk).1, fun j hj => ((hfirst k hk).2 j hj).1⟩, ha⟩,
      fun k hk => ⟨(hsecond k hk).1, fun j hj => ((hsecond k hk).2 j hj).2⟩, hb⟩
  · rintro ⟨⟨hfirst, ha⟩, hsecond, hb⟩
    exact ⟨⟨fun k hk => ⟨(hfirst k hk).1, fun j hj => ⟨(hfirst k hk).2 j hj, hleft k hk j⟩⟩,
      fun k hk => ⟨(hsecond k hk).1, fun j hj => ⟨hright k hk j, (hsecond k hk).2 j hj⟩⟩⟩, ha, hb⟩

end Record

/-! ## §2 Requests -/

namespace Request

variable {ms : List (String × Json)}

theorem fields_ofMembers {id : Nat} {op : String} :
    fields.ofMembers ms = .ok (id, op) ↔
      (Json.values ms "id" = [.nat id] ∧ id < 2 ^ 64) ∧ Json.values ms "op" = [.str op] := by
  have hdisjoint : List.Disjoint ["id"] ["op"] := by simp
  rw [fields, Record.ofMembers_both (Record.passesOver_field _ _) (Record.passesOver_field _ _)
    hdisjoint, Record.ofMembers_field, Record.ofMembers_field]
  simp [Decoder.u64, Decoder.natural_eq_ok_iff, Decoder.string_eq_ok_iff, and_left_comm]

/-- The arguments of a request with some members. -/
def argsOf (ms : List (String × Json)) : List (String × Json) :=
  Json.sortMembers (Json.canonicalMembers (ms.filter fun m => !fields.names.contains m.1))

theorem sorted_argsOf (ms : List (String × Json)) : Keyed.Sorted (argsOf ms) := by
  rw [argsOf, Json.sortMembers_eq_sort]
  exact Keyed.sorted_sort _

theorem mem_argsOf_iff {key : String} {value : Json} :
    (key, value) ∈ argsOf ms ↔ key ≠ "id" ∧ key ≠ "op" ∧
      ∃ v, (Json.values ms key).getLast? = some v ∧ value = v.canonical := by
  have hnames : fields.names = ["id", "op"] := rfl
  rw [argsOf, Json.mem_sortMembers_iff, Json.values_canonicalMembers, Json.values_filter_not_contains,
    hnames]
  split_ifs with hkey
  · refine iff_of_false (by simp) ?_
    rintro ⟨hid, hop, -⟩
    simp [hid, hop] at hkey
  · have hother : key ≠ "id" ∧ key ≠ "op" := by simpa using hkey
    simp [hother, List.getLast?_map, eq_comm]

theorem decode_obj_eq_ok_iff {r : Request} :
    decode (.obj ms) = .ok r ↔ fields.ofMembers ms = .ok (r.id, r.op) ∧ r.args = argsOf ms := by
  have hdecode : decode (.obj ms) =
      (fields.ofMembers ms >>= fun head => .ok ⟨head.1, head.2, argsOf ms⟩) := rfl
  rw [hdecode, bind_eq_ok_iff]
  constructor
  · rintro ⟨head, hhead, h⟩
    obtain rfl := Except.ok.inj h
    exact ⟨hhead, rfl⟩
  · rintro ⟨hhead, hargs⟩
    exact ⟨_, hhead, by rw [← hargs]⟩

/-- What is no object is no request. -/
theorem exists_obj_of_decode_eq_ok {j : Json} {r : Request} (h : decode j = .ok r) :
    ∃ ms, j = .obj ms := by
  cases j with
  | obj ms => exact ⟨ms, rfl⟩
  | _ => cases h

/-! ## §3 Lines -/

variable {line : String}

theorem parse_eq_ok_iff {r : Request} :
    parse line = .ok r ↔ ∃ ms, Json.parse? line = some (.obj ms) ∧
      fields.ofMembers ms = .ok (r.id, r.op) ∧ r.args = argsOf ms := by
  unfold parse
  cases hline : Json.parse? line with
  | none => simp
  | some j =>
    constructor
    · intro h
      have hdecode : decode j = .ok r := by
        cases hj : decode j <;> simp_all [Except.mapError]
      obtain ⟨ms, rfl⟩ := exists_obj_of_decode_eq_ok hdecode
      exact ⟨ms, rfl, decode_obj_eq_ok_iff.mp hdecode⟩
    · rintro ⟨ms, hms, h⟩
      obtain rfl := Option.some.inj hms
      simp only [decode_obj_eq_ok_iff.mpr h]
      rfl

theorem of_parse_eq_error {id : Nat} {e : WireError} (h : parse line = .error (id, e)) :
    id = recoverId line ∧ e.code = .invalidRequest := by
  unfold parse at h
  split at h
  · obtain ⟨rfl, rfl⟩ := Prod.mk.inj (Except.error.inj h)
    exact ⟨rfl, rfl⟩
  · next j _ =>
    cases hj : decode j with
    | ok r => simp [hj, Except.mapError] at h
    | error cause =>
      rw [hj] at h
      obtain ⟨rfl, rfl⟩ := Prod.mk.inj (Except.error.inj h)
      exact ⟨rfl, rfl⟩

/-- The line is an object, and its last `id` is a number of 64 bits. -/
def LastId (line : String) (id : Nat) : Prop :=
  ∃ ms, Json.parse? line = some (.obj ms) ∧ (Json.values ms "id").getLast? = some (.nat id) ∧
    id < 2 ^ 64

theorem recoverId_of_lastId {id : Nat} (h : LastId line id) : recoverId line = id := by
  obtain ⟨ms, hline, hid, hbits⟩ := h
  have hget : (Json.parse? line).bind (·.get? "id") = some (.nat id) := by
    rw [hline, Option.bind_some, Json.get?, Json.lookup_eq_getLast?, hid]
  have hread : Decoder.u64 (.nat id) = .ok id := Decoder.natural_eq_ok_iff.mpr ⟨rfl, hbits⟩
  rw [recoverId, hget]
  show (Decoder.u64 (.nat id)).toOption.getD 0 = id
  rw [hread]
  rfl

theorem recoverId_of_not_lastId (h : ∀ id, ¬ LastId line id) : recoverId line = 0 := by
  unfold recoverId
  split
  case h_1 j hget =>
    obtain ⟨j', hline, hget⟩ := Option.bind_eq_some_iff.mp hget
    cases hread : Decoder.u64 j with
    | error e => rfl
    | ok id =>
      obtain ⟨rfl, hbits⟩ := Decoder.natural_eq_ok_iff.mp hread
      cases j' with
      | obj ms =>
        rw [Json.get?, Json.lookup_eq_getLast?] at hget
        exact absurd ⟨ms, hline, hget, hbits⟩ (h id)
      | _ => cases hget
  case h_2 => rfl

/-- **Requests and refusals**: a line is taken exactly if it is one object in which `id` is once, and a
    number of 64 bits, and `op` is once, and a string. The request has these two, and under every other
    key the last value. A line that is not taken makes no sense as a request, and is refused under its
    last `id` if it is an object that has one of 64 bits, and otherwise under zero. -/
theorem parse_correlates (line : String) :
    (∀ r, parse line = .ok r ↔ ∃ ms, Json.parse? line = some (.obj ms) ∧
      Json.values ms "id" = [.nat r.id] ∧ r.id < 2 ^ 64 ∧ Json.values ms "op" = [.str r.op] ∧
      Keyed.Sorted r.args ∧ ∀ key value, (key, value) ∈ r.args ↔ key ≠ "id" ∧ key ≠ "op" ∧
        ∃ v, (Json.values ms key).getLast? = some v ∧ value = v.canonical) ∧
    ∀ id e, parse line = .error (id, e) → e.code = .invalidRequest ∧
      (∀ n, LastId line n → id = n) ∧ ((∀ n, ¬ LastId line n) → id = 0) := by
  refine ⟨fun r => ?_, fun id e h => ?_⟩
  · rw [parse_eq_ok_iff]
    refine exists_congr fun ms => and_congr_right fun _ => ?_
    rw [fields_ofMembers, and_assoc, and_assoc]
    refine and_congr_right fun _ => and_congr_right fun _ => and_congr_right fun _ => ?_
    constructor
    · rintro hargs
      rw [hargs]
      exact ⟨sorted_argsOf ms, fun _ _ => mem_argsOf_iff⟩
    · rintro ⟨hsorted, hmem⟩
      exact hsorted.ext (sorted_argsOf ms) fun (key, value) => (hmem key value).trans mem_argsOf_iff.symm
  · obtain ⟨rfl, hcode⟩ := of_parse_eq_error h
    exact ⟨hcode, fun n => recoverId_of_lastId, recoverId_of_not_lastId⟩

/-- A line with two identifiers is refused under the second. -/
theorem parse_correlates_two_ids :
    ∃ e, parse "\x7b\"id\":7,\"op\":\"output\",\"id\":9\x7d" = .error (9, e) ∧
      e.code = .invalidRequest := by
  generalize hline : "\x7b\"id\":7,\"op\":\"output\",\"id\":9\x7d" = line
  have hread : Json.parse? line =
      some (.obj [("id", .nat 7), ("op", .str "output"), ("id", .nat 9)]) := by
    rw [← hline]
    rfl
  obtain ⟨htaken, hrefused⟩ := parse_correlates line
  cases hparse : parse line with
  | ok r =>
    obtain ⟨ms, hms, hid, -⟩ := (htaken r).mp hparse
    obtain rfl := Json.obj.inj (Option.some.inj (hread.symm.trans hms))
    simp [Json.values] at hid
  | error refusal =>
    obtain ⟨id, e⟩ := refusal
    obtain ⟨hcode, hid, -⟩ := hrefused id e hparse
    obtain rfl := hid 9 ⟨_, hread, rfl, by decide⟩
    exact ⟨e, rfl, hcode⟩

end Request

end PaneMux
