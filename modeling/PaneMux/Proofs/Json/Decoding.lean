import Mathlib.Data.List.Perm.Basic
import PaneMux.Json.Decode
import PaneMux.Proofs.Entries
import PaneMux.Proofs.Json.Canonical
import PaneMux.Proofs.Json.Yields
import PaneMux.Proofs.Time.Rfc3339
import PaneMux.Terminal.Event
import PaneMux.Terminal.Process

/-!
# Decoding what was encoded

A decoder reads a value off the JSON form that was written for it, and does so in every *view* of that
form: as it was written, in canonical form, or with the members of its objects in any other order.
This module has one lemma for each way of making a decoder, so that the law of a decoder is assembled
in the shape in which the decoder is.

## Architecture

- **§1** views of a value (`Json.View`), and what is seen of the members of an object (`Shows`)
- **§2** decoders of plain values (`Decoder.Reads`)
- **§3** records: what holds of every field holds of the record (`Record.Reads`)
- **§4** variants: by a tag among the members, or by a string or a one-member object
-/

namespace PaneMux

/-! ## §1 Views -/

namespace Json

/-- A way of looking at JSON values that may reorder members, and nothing else. -/
structure View (f : Json → Json) : Prop where
  null : f .null = .null
  bool : ∀ b, f (.bool b) = .bool b
  int : ∀ n, f (.int n) = .int n
  str : ∀ s, f (.str s) = .str s
  arr : ∀ js, f (.arr js) = .arr (js.map f)
  obj : ∀ ms, (keys ms).Nodup →
    ∃ ms', f (.obj ms) = .obj ms' ∧ ms'.Perm (ms.map fun m => (m.1, f m.2))

theorem View.id : View fun j => j where
  null := rfl
  bool _ := rfl
  int _ := rfl
  str _ := rfl
  arr js := by rw [List.map_id']
  obj ms _ := ⟨ms, rfl, by simp⟩

/-- **The canonical form is a view.** -/
theorem View.canonical : View canonical where
  null := rfl
  bool _ := rfl
  int _ := rfl
  str _ := rfl
  arr js := by rw [Json.canonical, canonicalItems_eq_map]
  obj ms h := by
    refine ⟨_, rfl, ?_⟩
    rw [canonicalMembers_eq_map]
    refine sortMembers_perm ?_
    simpa [keys, Function.comp_def] using h

/-- Members `ms'` are a view of members `ms`, which have no key twice. -/
structure Shows (f : Json → Json) (ms ms' : List (String × Json)) : Prop where
  view : View f
  nodup : (keys ms).Nodup
  perm : ms'.Perm (ms.map fun m => (m.1, f m.2))

namespace Shows

variable {f : Json → Json} {ms ms' : List (String × Json)} {key : String} {j : Json}

theorem nodup_shown (h : Shows f ms ms') : (keys ms').Nodup := by
  rw [keys, (h.perm.map _).nodup_iff, List.map_map]
  exact h.nodup

theorem mem (h : Shows f ms ms') (hmem : (key, j) ∈ ms) : (key, f j) ∈ ms' :=
  h.perm.mem_iff.mpr (List.mem_map.mpr ⟨_, hmem, rfl⟩)

/-- What is shown under the key of a member is that member's value. -/
theorem eq_of_mem (h : Shows f ms ms') (hmem : (key, j) ∈ ms) {j' : Json}
    (hshown : (key, j') ∈ ms') : j' = f j :=
  Option.some.inj <|
    (lookup_of_mem h.nodup_shown hshown).symm.trans (lookup_of_mem h.nodup_shown (h.mem hmem))

theorem filter (h : Shows f ms ms') (p : String → Bool) :
    Shows f (ms.filter fun m => p m.1) (ms'.filter fun m => p m.1) where
  view := h.view
  nodup := (List.filter_sublist.map _).nodup h.nodup
  perm := by
    have hperm := h.perm.filter fun m => p m.1
    rwa [List.filter_map] at hperm

end Shows

end Json

open Json (View Shows)
open DecodeError

/-! ## §2 Plain values -/

namespace Decoder

variable {α : Type} {d : Decoder α} {j : Json} {a : α}

/-- The decoder reads `a` off every view of `j`. -/
def Reads (d : Decoder α) (j : Json) (a : α) : Prop := ∀ f, View f → d (f j) = .ok a

/-- A value that is not mapped is read under another name for its type. -/
theorem Reads.map {β : Type} (h : d.Reads j a) (g : α → β) :
    Decoder.Reads (fun j => (d j).map g) j (g a) :=
  fun f hf => congrArg (Except.map g) (h f hf)

theorem reads_natural {bits n : Nat} (h : n < 2 ^ bits) (expected : String) :
    (natural bits expected).Reads (.nat n) n := by
  intro f hf
  have hrange : (0 : Int) ≤ n ∧ (n : Int) < (Nat.pow 2 bits : Nat) :=
    ⟨Int.natCast_nonneg n, Int.ofNat_lt.mpr h⟩
  rw [natural, Json.nat, hf.int, integer, if_pos hrange]
  rfl

theorem reads_u64 {n : Nat} (h : n < 2 ^ 64) : u64.Reads (.nat n) n := reads_natural h _

theorem reads_u32 {n : Nat} (h : n < 2 ^ 32) : u32.Reads (.nat n) n := reads_natural h _

theorem reads_u16 (n : UInt16) : u16.Reads (.nat n.toNat) n := by
  have h := (reads_natural n.toNat_lt "u16").map UInt16.ofNat
  rwa [UInt16.ofNat_toNat] at h

theorem reads_u8 (b : UInt8) : u8.Reads (.nat b.toNat) b := by
  have h := (reads_natural b.toNat_lt "u8").map UInt8.ofNat
  rwa [UInt8.ofNat_toNat] at h

theorem reads_i32 (n : Int32) : i32.Reads (.int n.toInt) n := by
  intro f hf
  have hrange : -(Nat.pow 2 31 : Nat) ≤ n.toInt ∧ n.toInt < (Nat.pow 2 31 : Nat) :=
    ⟨n.le_toInt, n.toInt_lt⟩
  rw [i32, hf.int, integer, if_pos hrange]
  exact congrArg _ n.ofInt_toInt

theorem reads_bool (b : Bool) : bool.Reads (.bool b) b := fun f hf => by rw [hf.bool]; rfl

theorem reads_string (s : String) : string.Reads (.str s) s := fun f hf => by rw [hf.str]; rfl

theorem reads_path (s : String) : path.Reads (.str s) s := fun f hf => by rw [hf.str]; rfl

/-- An instant is read off its text. -/
theorem reads_instant {t : Time.Instant} (h : t.IsWritten) : instant.Reads (.str t.text) t := by
  intro f hf
  rw [hf.str, instant, t.parse_text h]
  rfl

/-- A value or null: null is read as no value, since it is the form of none. -/
theorem reads_nullable {encode : α → Json} {o : Option α} (hnull : ∀ a, d .null ≠ .ok a)
    (h : ∀ a, o = some a → d.Reads (encode a) a) : d.nullable.Reads (.opt encode o) o := by
  intro f hf
  cases o with
  | none => rw [Json.opt, hf.null]; rfl
  | some a =>
    -- the form of a value is not null in any view, because null is refused
    have hread := h a rfl f hf
    rw [Json.opt]
    unfold nullable
    split
    case h_1 heq => exact absurd (heq ▸ hread) (hnull a)
    case h_2 => rw [hread]; rfl

theorem items_map {f : Json → Json} {encode : α → Json} {as : List α}
    (h : ∀ a ∈ as, d (f (encode a)) = .ok a) : items d ((as.map encode).map f) = .ok as := by
  induction as with
  | nil => rfl
  | cons a as ih =>
    rw [List.map_cons, List.map_cons, items, h a (List.mem_cons_self ..),
      ih fun a ha => h a (List.mem_cons_of_mem _ ha)]
    rfl

/-- A list is read when its items are. -/
theorem reads_list {encode : α → Json} {as : List α} (h : ∀ a ∈ as, d.Reads (encode a) a) :
    (list d).Reads (.list encode as) as := by
  intro f hf
  rw [Json.list, hf.arr, list]
  exact items_map fun a ha => h a ha f hf

theorem reads_bytes (b : Bytes) : bytes.Reads (bytesJson b) b := by
  intro f hf
  rw [bytesJson, hf.arr, bytes]
  exact items_map fun b _ => reads_u8 b f hf

private theorem entries_of_forall₂ {ms : List (String × Json)} {t : List (String × String)}
    (h : List.Forall₂ (fun m e => m = (e.1, Json.str e.2)) ms t) : entries ms = .ok t := by
  induction h with
  | nil => rfl
  | cons heq _ ih =>
    subst heq
    rw [entries, ih]
    rfl

/-- Members that hold texts are read as entries, in the order in which they come. -/
theorem entries_of_perm {ms : List (String × Json)} {t : List (String × String)}
    (h : ms.Perm (t.map fun e => (e.1, .str e.2))) :
    ∃ rows, entries ms = .ok rows ∧ rows.Perm t := by
  have hsame : List.Forall₂ (fun m e => m = (e.1, Json.str e.2))
      (t.map fun e => (e.1, Json.str e.2)) t :=
    List.forall₂_map_left_iff.mpr (List.forall₂_same.mpr fun _ _ => rfl)
  obtain ⟨rows, hrows, hperm⟩ := List.perm_comp_forall₂ h hsame
  exact ⟨rows, entries_of_forall₂ hrows, hperm⟩

/-- **A map is read back** from whichever order its members are seen in, since it is sorted. -/
theorem reads_stringMap {t : List (String × String)} (h : Entries.Sorted t) :
    stringMap.Reads (stringMapJson t) t := by
  intro f hf
  have hnodup : (Json.keys (t.map fun e => (e.1, Json.str e.2))).Nodup := by
    simpa [Json.keys, Entries.keys, Function.comp_def] using h.nodup
  obtain ⟨ms, hobj, hperm⟩ := hf.obj _ hnodup
  simp only [List.map_map, Function.comp_def, hf.str] at hperm
  obtain ⟨rows, hentries, hrows⟩ := entries_of_perm hperm
  rw [stringMapJson, hobj, stringMap, hentries]
  exact congrArg Except.ok (h.foldl_insertEntry hrows)

end Decoder

/-! ## §3 Records -/

namespace Record

variable {α β γ : Type} {r : Record α} {ms : List (String × Json)} {a : α}

/-- The record reads `a` off every view of some members: it refuses none of them, and finds `a`. -/
structure Reads (r : Record α) (ms : List (String × Json)) (a : α) : Prop where
  check : ∀ {f ms'}, Shows f ms ms' → ∀ m ∈ ms', r.check m.1 m.2 = .ok ()
  named : ∀ {f ms'}, Shows f ms ms' → r.named ms' = .ok a

theorem reads_pure (a : α) : (pure a).Reads ms a := ⟨fun _ _ _ => rfl, fun _ => rfl⟩

/-- A field is read off the member with its name. -/
theorem reads_field {name : String} {d : Decoder α} {absent short : Option α} {j : Json}
    (hmem : (name, j) ∈ ms) (h : d.Reads j a) : (field name d absent short).Reads ms a where
  check {f ms'} hshows m hm := by
    -- of all members only the one with the field's own name is looked at
    by_cases hname : m.1 = name
    · subst hname
      have hvalue := hshows.eq_of_mem hmem hm
      simp only [field, if_true, hvalue, h f hshows.view]
      rfl
    · exact if_neg hname
  named {f ms'} hshows := by
    have hlookup := Json.lookup_of_mem hshows.nodup_shown (hshows.mem hmem)
    simp only [field, hlookup, h f hshows.view]

/-- A field that may be left out is read off a value or null. -/
theorem reads_optional {name : String} {d : Decoder α} {encode : α → Json} {o : Option α}
    (hmem : (name, .opt encode o) ∈ ms) (hnull : ∀ a, d .null ≠ .ok a)
    (h : ∀ a, o = some a → d.Reads (encode a) a) : (optional name d).Reads ms o :=
  reads_field hmem (Decoder.reads_nullable hnull h)

theorem Reads.map (h : r.Reads ms a) (g : α → β) : (r.map g).Reads ms (g a) where
  check hshows := h.check hshows
  named hshows := congrArg (Except.map g) (h.named hshows)

theorem check_both {s : Record β} (k : String) (j : Json) :
    (r.both s).check k j = .ok () ↔ r.check k j = .ok () ∧ s.check k j = .ok () := by
  refine bind_eq_ok_iff.trans ⟨?_, fun h => ⟨(), h⟩⟩
  rintro ⟨⟨⟩, h⟩
  exact h

theorem named_both {s : Record β} {b : β} :
    (r.both s).named ms = .ok (a, b) ↔ r.named ms = .ok a ∧ s.named ms = .ok b := by
  constructor
  · intro h
    obtain ⟨x, hx, h⟩ := exists_of_bind_eq_ok h
    obtain ⟨y, hy, h⟩ := exists_of_bind_eq_ok h
    obtain ⟨rfl, rfl⟩ := Prod.mk.inj (Except.ok.inj h)
    exact ⟨hx, hy⟩
  · rintro ⟨ha, hb⟩
    show (r.named ms >>= fun x => s.named ms >>= fun y => Except.ok (x, y)) = _
    rw [ha, hb]
    rfl

theorem Reads.both (h : r.Reads ms a) {s : Record β} {b : β} (hs : s.Reads ms b) :
    (r.both s).Reads ms (a, b) where
  check hshows m hm := (check_both m.1 m.2).mpr ⟨h.check hshows m hm, hs.check hshows m hm⟩
  named hshows := named_both.mpr ⟨h.named hshows, hs.named hshows⟩

theorem Reads.and {r : Record (α → β)} {g : α → β} (h : r.Reads ms g) {s : Record α}
    (hs : s.Reads ms a) : (r.and s).Reads ms (g a) :=
  (h.both hs).map _

/-- **No member is refused** exactly if every field comes at most once, and with a value that it can
    have. -/
theorem checkAll_eq_ok_iff {seen : List String} :
    r.checkAll seen ms = .ok () ↔ ∀ k ∈ r.names, (k ∈ seen → Json.values ms k = []) ∧
      (Json.values ms k).length ≤ 1 ∧ ∀ j ∈ Json.values ms k, r.check k j = .ok () := by
  induction ms generalizing seen with
  | nil => simp [checkAll, Json.values]
  | cons m ms ih =>
    obtain ⟨key, j⟩ := m
    unfold checkAll
    simp only [List.contains_iff_mem, Json.values_cons]
    split_ifs with hname hseen
    · -- the field has come before
      refine iff_of_false (fun h => by cases h) fun h => ?_
      simpa using (h key hname).1 hseen
    · rw [bind_eq_ok_iff]
      constructor
      · rintro ⟨⟨⟩, hj, hrest⟩ k hk
        obtain ⟨hnew, hlength, hcheck⟩ := ih.mp hrest k hk
        split_ifs with hsame
        · subst hsame
          simp [hnew (List.mem_cons_self ..), hseen, hj]
        · exact ⟨fun h => hnew (List.mem_cons_of_mem _ h), hlength, hcheck⟩
      · intro h
        obtain ⟨-, honce, hcheck⟩ := h key hname
        simp only [if_true, List.length_cons] at honce hcheck
        refine ⟨(), hcheck j (List.mem_cons_self ..), ih.mpr fun k hk => ?_⟩
        by_cases hsame : key = k
        · subst hsame
          simp [List.length_eq_zero_iff.mp (Nat.le_zero.mp (Nat.le_of_succ_le_succ honce))]
        · obtain ⟨hnew, hlength, hrest⟩ := h k hk
          rw [if_neg hsame] at hnew hlength hrest
          exact ⟨fun hmem => hnew ((List.mem_cons.mp hmem).resolve_left (Ne.symm hsame)), hlength, hrest⟩
    · rw [ih]
      refine forall₂_congr fun k hk => ?_
      rw [if_neg fun hsame : key = k => hname (hsame ▸ hk)]

theorem ofMembers_eq_ok_iff {a : α} :
    r.ofMembers ms = .ok a ↔ (∀ k ∈ r.names, (Json.values ms k).length ≤ 1 ∧
      ∀ j ∈ Json.values ms k, r.check k j = .ok ()) ∧ r.named ms = .ok a := by
  have hcheckAll : r.checkAll [] ms = .ok () ↔ _ := checkAll_eq_ok_iff
  simp only [List.not_mem_nil, false_implies, true_and] at hcheckAll
  rw [← hcheckAll, ofMembers, bind_eq_ok_iff]
  constructor
  · rintro ⟨⟨⟩, h⟩
    exact h
  · exact fun h => ⟨(), h⟩

theorem Reads.ofMembers (h : r.Reads ms a) {f : Json → Json} {ms' : List (String × Json)}
    (hshows : Shows f ms ms') : r.ofMembers ms' = .ok a := by
  rw [ofMembers_eq_ok_iff]
  refine ⟨fun k _ => ⟨?_, fun j hj => h.check hshows (k, j) (Json.mem_values_iff.mp hj)⟩,
    h.named hshows⟩
  rw [Json.length_values]
  exact List.nodup_iff_count_le_one.mp hshows.nodup_shown k

/-- **A record is read back** when its fields are. -/
theorem reads_decoder (hnodup : (Json.keys ms).Nodup) (h : r.Reads ms a) (title : String) :
    (r.decoder title).Reads (.obj ms) a := by
  intro f hf
  obtain ⟨ms', hobj, hperm⟩ := hf.obj ms hnodup
  rw [hobj]
  exact h.ofMembers ⟨hf, hnodup, hperm⟩

/-- A record is read back together with the one that takes the members it leaves. -/
theorem reads_decoderWith {others : List (String × Json) → Except DecodeError β} {b : β}
    (hnodup : (Json.keys ms).Nodup) (h : r.Reads ms a)
    (hothers : ∀ {f ms'}, Shows f (ms.filter fun m => !r.names.contains m.1) ms' →
      others ms' = .ok b) (title : String) (make : α → β → γ) :
    (r.decoderWith title others make).Reads (.obj ms) (make a b) := by
  intro f hf
  obtain ⟨ms', hobj, hperm⟩ := hf.obj ms hnodup
  have hshows : Shows f ms ms' := ⟨hf, hnodup, hperm⟩
  rw [hobj]
  show (r.ofMembers ms' >>= fun a => others _ >>= fun b => Except.ok (make a b)) = _
  rw [h.ofMembers hshows, hothers (hshows.filter fun k => !r.names.contains k)]
  rfl

end Record

/-! ## §4 Variants -/

namespace Variant

variable {α : Type} {variants : List (Variant α)} {v : Variant α} {a : α} {tag name : String}
  {ms : List (String × Json)}

/-- The fields of a variant are read off the members beside its tag. -/
theorem ofMembers_of_shows (hfind : variants.find? (·.name = name) = some v)
    (htag : tag ∉ Json.keys ms) (h : v.fields.Reads ms a) (byIndex : Bool) {f : Json → Json}
    {ms' : List (String × Json)} (hshows : Shows f ((tag, .str name) :: ms) ms') :
    ofMembers tag variants byIndex ms' = .ok a := by
  have hmem : (tag, .str name) ∈ ms' := by
    have hshown := hshows.mem (List.mem_cons_self ..)
    rwa [hshows.view.str] at hshown
  have htagged : ms'.filter (fun m => m.1 = tag) = [(tag, .str name)] :=
    Keyed.filter_eq_singleton hshows.nodup_shown hmem
  have hothers : (((tag, Json.str name) :: ms).filter fun m => decide (m.1 ≠ tag)) = ms := by
    rw [List.filter_cons_of_neg (by simp)]
    refine List.filter_eq_self.mpr fun m hm => decide_eq_true fun heq => ?_
    exact htag (heq ▸ List.mem_map.mpr ⟨m, hm, rfl⟩)
  have hrest := hshows.filter fun k => decide (k ≠ tag)
  rw [hothers] at hrest
  unfold ofMembers
  rw [htagged]
  show (choose variants name >>= fun v => v.fields.ofMembers _) = _
  rw [choose, hfind]
  exact h.ofMembers hrest

/-- **A tagged value is read back** when the fields of its variant are. -/
theorem reads_tagged (hfind : variants.find? (·.name = name) = some v)
    (hnodup : (Json.keys ((tag, .str name) :: ms)).Nodup) (h : v.fields.Reads ms a)
    (title : String) : (tagged tag title variants).Reads (.obj ((tag, .str name) :: ms)) a := by
  intro f hf
  obtain ⟨ms', hobj, hperm⟩ := hf.obj _ hnodup
  rw [hobj]
  exact ofMembers_of_shows hfind (List.nodup_cons.mp hnodup).1 h false ⟨hf, hnodup, hperm⟩

variable {forms : List (String × Named α)}

/-- A variant by name alone is read off its name. -/
theorem reads_external_bare (hfind : forms.find? (·.1 = name) = some (name, .bare a)) :
    (external forms).Reads (.str name) a := by
  intro f hf
  rw [hf.str]
  show (external.find forms name >>= _) = _
  rw [external.find, hfind]
  rfl

/-- A variant by name with a value is read off an object with the name as its only key. -/
theorem reads_external_wrapping {d : Decoder α} {j : Json}
    (hfind : forms.find? (·.1 = name) = some (name, .wrapping d)) (h : d.Reads j a) :
    (external forms).Reads (.obj [(name, j)]) a := by
  intro f hf
  obtain ⟨ms', hobj, hperm⟩ := hf.obj [(name, j)] (List.nodup_singleton _)
  rw [hobj, List.perm_singleton.mp hperm]
  show (external.find forms name >>= _) = _
  rw [external.find, hfind]
  exact h f hf

end Variant

end PaneMux
