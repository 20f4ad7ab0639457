import Mathlib.Algebra.Group.Nat.Defs
import PaneMux.Json.Decode

/-!
# What Decoders Give

A decoder refuses what does not fit its type, so that some things hold of whatever it gives: a number
has as many bits as were asked for. What holds of the fields of a record holds of the record, in
whichever form it came.

## Architecture

- **§1** results that are made of other results
- **§2** plain values (`Decoder.Yields`)
- **§3** records: one lemma for each way of making one (`Record.Yields`)
-/

namespace PaneMux

/-! ## §1 Results -/

namespace DecodeError

variable {α β : Type} {x : Except DecodeError α} {b : β}

theorem exists_of_map_eq_ok {f : α → β} (h : x.map f = .ok b) : ∃ a, x = .ok a ∧ f a = b := by
  cases x with
  | error e => cases h
  | ok a => exact ⟨a, rfl, Except.ok.inj h⟩

theorem exists_of_bind_eq_ok {f : α → Except DecodeError β} (h : (x >>= f) = .ok b) :
    ∃ a, x = .ok a ∧ f a = .ok b := by
  cases x with
  | error e => cases h
  | ok a => exact ⟨a, rfl, h⟩

theorem bind_eq_ok_iff {f : α → Except DecodeError β} :
    (x >>= f) = .ok b ↔ ∃ a, x = .ok a ∧ f a = .ok b := by
  refine ⟨exists_of_bind_eq_ok, ?_⟩
  rintro ⟨a, rfl, h⟩
  exact h

end DecodeError

open DecodeError

/-! ## §2 Plain values -/

namespace Decoder

variable {α : Type} {d : Decoder α} {p : α → Prop}

/-- Whatever the decoder gives has a property. -/
def Yields (d : Decoder α) (p : α → Prop) : Prop := ∀ ⦃j a⦄, d j = .ok a → p a

theorem yields_true (d : Decoder α) : d.Yields fun _ => True := fun _ _ _ => trivial

/-- **A number has no more bits than were asked for.** -/
theorem yields_natural (bits : Nat) (expected : String) :
    (natural bits expected).Yields (· < 2 ^ bits) := by
  intro j n h
  obtain ⟨i, hinteger, rfl⟩ := exists_of_map_eq_ok h
  unfold integer at hinteger
  split at hinteger
  · split at hinteger
    case isTrue hrange =>
      obtain rfl := Except.ok.inj hinteger
      exact (Int.toNat_lt hrange.1).mpr hrange.2
    case isFalse => cases hinteger
  · cases hinteger

/-- What is given instead of null has the property. -/
theorem Yields.nullable (h : d.Yields p) : d.nullable.Yields fun o => ∀ a ∈ o, p a := by
  intro j o hj
  unfold Decoder.nullable at hj
  split at hj
  · obtain rfl := Except.ok.inj hj
    exact fun a ha => absurd ha (Option.not_mem_none a)
  · obtain ⟨a, hd, rfl⟩ := exists_of_map_eq_ok hj
    intro x hx
    obtain rfl := Option.some.inj hx
    exact h hd

end Decoder

/-! ## §3 Records -/

namespace Record

variable {α β : Type} {p : α → Prop}

/-- Whatever is read off the members of an object or off a list has a property. -/
structure Yields (r : Record α) (p : α → Prop) : Prop where
  named : ∀ {members a}, r.named members = .ok a → p a
  listed : ∀ {js a rest}, r.listed js = .ok (some (a, rest)) → p a

theorem yields_pure {a : α} (h : p a) : (pure a).Yields p where
  named heq := by
    obtain rfl := Except.ok.inj heq
    exact h
  listed heq := by
    obtain ⟨rfl, -⟩ := Prod.mk.inj (Option.some.inj (Except.ok.inj heq))
    exact h

/-- A field with a default is what was read, or the default. -/
theorem yields_withDefault {d : Decoder α} (h : d.Yields p) {a : α} (ha : p a) (name : String) :
    (withDefault name d a).Yields p where
  named {members b} heq := by
    unfold withDefault field at heq
    dsimp only at heq
    split at heq
    · exact h heq
    · obtain rfl := Except.ok.inj heq
      exact ha
  listed {js b rest} heq := by
    cases js with
    | nil =>
      obtain ⟨rfl, -⟩ := Prod.mk.inj (Option.some.inj (Except.ok.inj heq))
      exact ha
    | cons j js =>
      obtain ⟨x, hx, heq⟩ := exists_of_map_eq_ok heq
      obtain ⟨rfl, -⟩ := Prod.mk.inj (Option.some.inj heq)
      exact h hx

/-- **One more field**: what is made of it has the property, whatever is read as the field. -/
theorem Yields.and {r : Record (α → β)} {s : Record α} {q : β → Prop}
    (hr : r.Yields fun f => ∀ a, p a → q (f a)) (hs : s.Yields p) : (r.and s).Yields q where
  named {members b} heq := by
    obtain ⟨_, hboth, rfl⟩ := exists_of_map_eq_ok heq
    obtain ⟨f, hf, hboth⟩ := exists_of_bind_eq_ok hboth
    obtain ⟨a, ha, hboth⟩ := exists_of_bind_eq_ok hboth
    obtain rfl := Except.ok.inj hboth
    exact hr.named hf a (hs.named ha)
  listed {js b rest} heq := by
    obtain ⟨read, hboth, hread⟩ := exists_of_map_eq_ok heq
    obtain ⟨_, rfl, heq⟩ := Option.map_eq_some_iff.mp hread
    obtain ⟨first, hf, hboth⟩ := exists_of_bind_eq_ok hboth
    cases first with
    | none => cases hboth
    | some first =>
      obtain ⟨second, ha, hboth⟩ := exists_of_bind_eq_ok hboth
      cases second with
      | none => cases hboth
      | some second =>
        obtain rfl := Option.some.inj (Except.ok.inj hboth)
        obtain ⟨rfl, -⟩ := Prod.mk.inj heq
        exact hr.listed hf _ (hs.listed ha)

/-- **A record has the property**, read off an object or off a list. -/
theorem Yields.decoder {r : Record α} (h : r.Yields p) (title : String) :
    (r.decoder title).Yields p := by
  intro j a heq
  unfold Record.decoder at heq
  split at heq
  · obtain ⟨_, -, hnamed⟩ := exists_of_bind_eq_ok heq
    exact h.named hnamed
  · obtain ⟨read, hlisted, heq⟩ := exists_of_bind_eq_ok heq
    split at heq
    · cases heq
    · obtain rfl := Except.ok.inj heq
      exact h.listed hlisted
    · cases heq
  · cases heq

end Record

end PaneMux
