import Mathlib.Data.List.DropRight
import PaneMux.Config.Settings
import PaneMux.Proofs.Entries

/-!
# The Values of Settings

What a text means as the value of a setting does not depend on the configuration that it changes, and
changing one setting leaves the others alone. A list of rows therefore gives every setting the meaning
of its own row, wherever that stands in the list.

## Architecture

- **§1** keys, and texts without the blanks around them
- **§2** `SettingValue`, and configurations as what they say of every key
- **§3** one change (`Config.set`), and the meaning of a text
- **§4** several changes (`Config.setAll`)
-/

namespace PaneMux

/-! ## §1 Keys and texts -/

namespace Text

/-- What has been trimmed has no blanks left at its ends. -/
theorem trimChars_trimChars (cs : List Char) : trimChars (trimChars cs) = trimChars cs := by
  show List.rdropWhile isBlank (List.dropWhile isBlank (trimChars cs)) = trimChars cs
  have hfront : List.dropWhile isBlank (trimChars cs) = trimChars cs := by
    rw [List.dropWhile_eq_self_iff]
    intro hlength
    -- a first character that is left is the first one of those that are left at the front
    have hinside : trimChars cs <+: cs.dropWhile isBlank := List.rdropWhile_prefix isBlank _
    have hpos := hlength.trans_le hinside.length_le
    rw [hinside.getElem hlength]
    exact List.dropWhile_eq_self_iff.mp (List.dropWhile_idempotent isBlank cs) hpos
  rw [hfront]
  exact List.rdropWhile_idempotent isBlank _

@[simp] theorem trim_trim (s : String) : trim (trim s) = trim s := by
  simp [trim, trimChars_trimChars]

end Text

namespace SettingKey

theorem ofText?_text (k : SettingKey) : ofText? k.text = some k := by
  cases k <;> decide +kernel

theorem text_of_ofText? {s : String} {k : SettingKey} (h : ofText? s = some k) : k.text = s := by
  simpa using List.find?_some h

end SettingKey

/-! ## §2 Values -/

/-- What a setting is set to. -/
inductive SettingValue where
  | number (n : Nat)
  /-- a number, or no limit -/
  | limit (n : Option Nat)
  | flag (b : Bool)
  | program (p : Option String)
  deriving DecidableEq, Repr

namespace Config

/-- What a configuration says of a key. -/
def value (c : Config) : SettingKey → SettingValue
  | .scrollbackLines => .number c.scrollbackLines
  | .scrollbackBytes => .number c.scrollbackBytes
  | .subscriberQueue => .number c.subscriberQueue
  | .inputQueue => .number c.inputQueue
  | .closeGraceMs => .number c.closeGraceMs
  | .resizeDebounceMs => .number c.resizeDebounceMs
  | .metricsIntervalMs => .number c.metricsIntervalMs
  | .metricsHistory => .number c.metricsHistory
  | .statusExpiryMs => .limit c.statusExpiryMs
  | .statusMarkers => .flag c.statusMarkers
  | .defaultShell => .program c.defaultShell

variable {c c' : Config}

/-- **The settings are all there is to a configuration.** -/
theorem eq_of_value_eq (h : ∀ k, c.value k = c'.value k) : c = c' := by
  cases c
  cases c'
  have h1 := h .scrollbackLines
  have h2 := h .scrollbackBytes
  have h3 := h .subscriberQueue
  have h4 := h .inputQueue
  have h5 := h .closeGraceMs
  have h6 := h .resizeDebounceMs
  have h7 := h .metricsIntervalMs
  have h8 := h .metricsHistory
  have h9 := h .statusExpiryMs
  have h10 := h .statusMarkers
  have h11 := h .defaultShell
  simp only [value, SettingValue.number.injEq, SettingValue.limit.injEq, SettingValue.flag.injEq,
    SettingValue.program.injEq] at h1 h2 h3 h4 h5 h6 h7 h8 h9 h10 h11
  subst h1 h2 h3 h4 h5 h6 h7 h8 h9 h10 h11
  rfl

/-! ## §3 One change -/

/-- Whether a text can be taken, and what is made of it, does not depend on what was there before. -/
theorem map_value_assign? (c c' : Config) (k : SettingKey) (text : String) :
    (c.assign? k text).map (·.value k) = (c'.assign? k text).map (·.value k) := by
  cases k <;> simp [assign?, value, Function.comp_def]

/-- Another setting stays as it is. -/
theorem value_assign?_of_ne {k k' : SettingKey} {text : String} (h : c.assign? k text = some c')
    (hne : k' ≠ k) : c'.value k' = c.value k' := by
  cases k
  case defaultShell =>
    cases Option.some.inj h
    cases k' <;> first | rfl | exact absurd rfl hne
  all_goals
    obtain ⟨v, -, rfl⟩ := Option.map_eq_some_iff.mp h
    cases k' <;> first | rfl | exact absurd rfl hne

/-- What is done with the text of a key that there is. -/
theorem set_text (c : Config) (k : SettingKey) (text : String) :
    (c.set k.text text).toOption = c.assign? k (Text.trim text) := by
  unfold set
  rw [SettingKey.ofText?_text]
  dsimp only
  cases c.assign? k (Text.trim text) <;> rfl

/-- Only keys that there are can be set. -/
theorem exists_key_of_set {key text : String} (h : c.set key text = .ok c') :
    ∃ k : SettingKey, k.text = key := by
  unfold set at h
  split at h
  · cases h
  · exact ⟨_, SettingKey.text_of_ofText? (by assumption)⟩

end Config

/-- What a text means as the value of a setting, if it can be taken as one. -/
def SettingKey.meaning? (k : SettingKey) (text : String) : Option SettingValue :=
  (({} : Config).set k.text text).toOption.map (·.value k)

namespace Config

variable {c c' : Config}

/-- **The meaning of a text** is what it sets a configuration to, whatever that was. -/
theorem map_value_set (c : Config) (k : SettingKey) (text : String) :
    (c.set k.text text).toOption.map (·.value k) = k.meaning? text := by
  rw [SettingKey.meaning?, set_text, set_text]
  exact map_value_assign? ..

theorem value_set_of_ne {k : SettingKey} {key text : String} (h : c.set key text = .ok c')
    (hne : k.text ≠ key) : c'.value k = c.value k := by
  obtain ⟨k', rfl⟩ := exists_key_of_set h
  have hassign : c.assign? k' (Text.trim text) = some c' := by rw [← set_text, h]; rfl
  exact value_assign?_of_ne hassign fun heq => hne (congrArg _ heq)

/-- A text that is accepted has a meaning. -/
theorem meaning?_of_set {k : SettingKey} {text : String} (h : c.set k.text text = .ok c') :
    k.meaning? text = some (c'.value k) := by
  rw [← map_value_set c, h]
  rfl

end Config

namespace SettingKey

/-- Blanks around a text mean nothing. -/
theorem meaning?_trim (k : SettingKey) (text : String) :
    k.meaning? (Text.trim text) = k.meaning? text := by
  rw [meaning?, meaning?, Config.set_text, Config.set_text, Text.trim_trim]

/-- The default of a setting as it is written. -/
def default (k : SettingKey) : SettingValue := ({} : Config).value k

/-- **Every default can be read back.** -/
theorem meaning?_get_default (k : SettingKey) :
    k.meaning? (({} : Config).get k) = some k.default := by
  cases k <;> decide +kernel

/-- The defaults have a row for every key, and for no other. -/
theorem value?_settings (c : Config) (k : SettingKey) :
    Entries.value? c.settings k.text = some (c.get k) := by
  cases k <;> rfl

end SettingKey

/-! ## §4 Several changes -/

theorem Config.setAll_cons (c : Config) (key text : String) (rows : List (String × String)) :
    c.setAll ((key, text) :: rows) = ((c.set key text).toOption.getD c).setAll rows := by
  rw [setAll, setEach]
  cases c.set key text <;> rfl

/-- **Every setting gets the meaning of its own row**, and stays as it is without one. -/
theorem Config.value_setAll (c : Config) {rows : List (String × String)}
    (hkeys : (Entries.keys rows).Nodup) (k : SettingKey) :
    (c.setAll rows).value k =
      ((Entries.value? rows k.text).bind k.meaning?).getD (c.value k) := by
  induction rows generalizing c with
  | nil => rfl
  | cons row rows ih =>
    obtain ⟨key, text⟩ := row
    obtain ⟨hfirst, hrest⟩ := List.nodup_cons.mp hkeys
    rw [Config.setAll_cons, ih _ hrest, Entries.value?_cons]
    by_cases hk : key = k.text
    · -- this is its row, and there is no other
      subst hk
      have hnone : Entries.value? rows k.text = none :=
        Option.not_isSome_iff_eq_none.mp fun hsome => hfirst (Entries.isSome_value?_iff.mp hsome)
      rw [if_pos rfl, hnone, Option.bind_some, ← map_value_set c]
      cases c.set k.text text <;> rfl
    · rw [if_neg hk]
      cases hset : c.set key text with
      | error e => rfl
      | ok c' => rw [← value_set_of_ne hset (Ne.symm hk)]; rfl

end PaneMux
