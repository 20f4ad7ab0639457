import PaneMux.Proofs.Settings.RoundTrip

/-!
# Settings Made One by One

A configuration that texts alone have made out of the defaults says of every setting what some text
means, however often it was changed and however much was refused on the way. Such values are read
back, with one exception, a limit of zero. The text `0` never makes one, since it stands for no limit,
but every other numeral of zero does; and the row of such a limit is read as no limit.

## Architecture

- **§1** the values that texts mean (`SettingKey.Meant`), and what they come back as
- **§2** the texts that were taken (`SettingKey.taken`), the last of which decides
- **§3** the configuration that is read back
-/

namespace PaneMux

open PaneMux.Text

/-! ## §1 Values that texts mean -/

namespace Config

variable {s : String} {n : Nat}

theorem lt_of_number? (h : number? s = some n) : n < 2 ^ 64 := by
  simpa using (Option.filter_eq_some_iff.mp h).2

theorem positive?_eq_some_iff : positive? s = some n ↔ number? s = some n ∧ n ≠ 0 := by
  rw [positive?, Option.filter_eq_some_iff, decide_eq_true_iff, Nat.pos_iff_ne_zero]

/-- A limit is a number, or there is none. -/
theorem expiry?_eq_some {e : Option Nat} (h : expiry? s = some e) :
    e = none ∨ ∃ n, e = some n ∧ number? s = some n ∧ s ≠ "0" := by
  unfold expiry? at h
  split at h
  case isTrue => exact .inl (Option.some.inj h).symm
  case isFalse hword =>
    obtain ⟨n, hn, rfl⟩ := Option.map_eq_some_iff.mp h
    exact .inr ⟨n, rfl, hn, fun hzero => hword (.inr (.inr hzero))⟩

end Config

/-- A limit of zero is none. -/
def SettingValue.effective : SettingValue → SettingValue
  | .limit n => .limit (n.filter (· ≠ 0))
  | v => v

namespace SettingKey

open Config

/-- The kinds of texts, by the setting that they are for. -/
theorem meaning?_eq (k : SettingKey) (text : String) :
    k.meaning? text =
      match k with
      | .statusExpiryMs => (expiry? (trim text)).map .limit
      | .statusMarkers => (flag? (trim text)).map .flag
      | .defaultShell => some (.program (if trim text = "" then none else some (trim text)))
      | k => (if k.positive then positive? (trim text) else number? (trim text)).map .number := by
  rw [meaning?, set_text]
  cases k <;> simp [assign?, value, Function.comp_def, positive]

/-- Some text means the value. -/
def Meant (k : SettingKey) (v : SettingValue) : Prop := ∃ text, k.meaning? text = some v

variable {k : SettingKey} {v : SettingValue}

theorem meant_default (k : SettingKey) : k.Meant k.default := ⟨_, meaning?_get_default k⟩

/-- **What a text means has 64 bits and comes back**, but for a limit of zero. -/
theorem Meant.readBack (h : k.Meant v) : v.Fits ∧ k.readBack? v = some v.effective := by
  obtain ⟨text, h⟩ := h
  rw [meaning?_eq] at h
  cases k
  case statusExpiryMs =>
    obtain ⟨e, he, rfl⟩ := Option.map_eq_some_iff.mp h
    refine ⟨?_, rfl⟩
    rcases expiry?_eq_some he with rfl | ⟨n, rfl, hn, -⟩
    · simp [SettingValue.Fits]
    · simpa [SettingValue.Fits] using lt_of_number? hn
  case statusMarkers =>
    obtain ⟨b, -, rfl⟩ := Option.map_eq_some_iff.mp h
    exact ⟨trivial, rfl⟩
  case defaultShell =>
    cases Option.some.inj h
    refine ⟨trivial, ?_⟩
    by_cases hempty : trim text = "" <;>
      simp [readBack?, SettingValue.effective, Option.filter, hempty]
  all_goals
    -- a number, which six of the settings refuse to be zero
    simp only [positive, if_true, Bool.false_eq_true, if_false] at h
    obtain ⟨n, hn, rfl⟩ := Option.map_eq_some_iff.mp h
  case closeGraceMs | resizeDebounceMs =>
    exact ⟨lt_of_number? hn, by simp [readBack?, SettingValue.effective, positive]⟩
  all_goals
    obtain ⟨hnumber, hpos⟩ := positive?_eq_some_iff.mp hn
    exact ⟨lt_of_number? hnumber, if_neg fun hzero => hpos hzero.2⟩

/-- A text means a limit of zero if it is a numeral of zero, but not the plainest one. -/
theorem meaning?_eq_limit_zero_iff {text : String} :
    statusExpiryMs.meaning? text = some (.limit (some 0)) ↔
      number? (trim text) = some 0 ∧ trim text ≠ "0" := by
  rw [meaning?_eq]
  constructor
  · intro h
    obtain ⟨e, he, hlimit⟩ := Option.map_eq_some_iff.mp h
    cases hlimit
    rcases expiry?_eq_some he with hnone | ⟨n, hsome, hn, hne⟩
    · cases hnone
    · cases hsome
      exact ⟨hn, hne⟩
  · rintro ⟨hzero, hne⟩
    have hword : ¬(trim text = "" ∨ trim text = "never" ∨ trim text = "0") := by
      -- neither of the words is a numeral
      rintro (h | h | h)
      · rw [h] at hzero; revert hzero; decide
      · rw [h] at hzero; revert hzero; decide
      · exact hne h
    simp [expiry?, hword, hzero]

end SettingKey

/-! ## §2 Texts that were taken -/

/-- The texts of the rows for a key that mean something, oldest first. -/
def SettingKey.taken (k : SettingKey) (rows : List (String × String)) : List String :=
  (rows.filter fun row => row.1 = k.text ∧ (k.meaning? row.2).isSome).map (·.2)

namespace Config

/-- **Every setting has the meaning of the last text that was taken for it.** -/
theorem value_setAll_taken (c : Config) (rows : List (String × String)) (k : SettingKey) :
    (c.setAll rows).value k = ((k.taken rows).getLast?.bind k.meaning?).getD (c.value k) := by
  induction rows generalizing c with
  | nil => rfl
  | cons row rows ih =>
    obtain ⟨key, text⟩ := row
    rw [setAll_cons, ih]
    by_cases hk : key = k.text
    · subst hk
      cases hset : c.set k.text text with
      | error e =>
        have hmeaning : k.meaning? text = none := by rw [← map_value_set c, hset]; rfl
        simp [SettingKey.taken, hmeaning, Except.toOption]
      | ok c' =>
        have hmeaning := meaning?_of_set hset
        -- a later text that was taken counts, and this one otherwise
        have htaken : k.taken ((k.text, text) :: rows) = text :: k.taken rows := by
          simp [SettingKey.taken, hmeaning]
        rw [htaken, List.getLast?_cons]
        cases hlast : (k.taken rows).getLast? with
        | none => simp [hmeaning, Except.toOption]
        | some last =>
          have hlater : (k.text, last) ∈ rows ∧ (k.meaning? last).isSome := by
            simpa [SettingKey.taken] using List.mem_of_getLast? hlast
          obtain ⟨v, hv⟩ := Option.isSome_iff_exists.mp hlater.2
          simp [hv]
    · have htaken : k.taken ((key, text) :: rows) = k.taken rows := by
        simp [SettingKey.taken, hk]
      rw [htaken]
      cases hset : c.set key text with
      | error e => rfl
      | ok c' => rw [Except.toOption, Option.getD_some, value_set_of_ne hset (Ne.symm hk)]

/-- **Every value of a configuration that settings made is one that some text means.** -/
theorem meant_setAll (rows : List (String × String)) (k : SettingKey) :
    k.Meant ((({} : Config).setAll rows).value k) := by
  rw [value_setAll_taken]
  cases hmeaning : (k.taken rows).getLast?.bind k.meaning? with
  | none => exact k.meant_default
  | some v =>
    obtain ⟨text, -, htext⟩ := Option.bind_eq_some_iff.mp hmeaning
    exact ⟨text, htext⟩

/-! ## §3 Reading back -/

/-- The configuration without a limit of zero. -/
def effective (c : Config) : Config := { c with statusExpiryMs := c.statusExpiryMs.filter (· ≠ 0) }

theorem value_effective (c : Config) (k : SettingKey) :
    c.effective.value k = (c.value k).effective := by
  cases k <;> rfl

/-- **What texts mean is taken when it is written**, and comes back but for a limit of zero. -/
theorem setEach_settings_of_meant {c : Config} (h : ∀ k : SettingKey, k.Meant (c.value k)) :
    ({} : Config).setEach c.settings = (c.effective, []) := by
  have hfits : c.Fits := fun k => (h k).readBack.1
  refine Prod.ext (eq_of_value_eq fun k => ?_) ?_
  · show (({} : Config).setAll c.settings).value k = _
    rw [value_readBack hfits, (h k).readBack.2, value_effective, Option.getD_some]
  · rw [setEach_settings_snd hfits, List.map_eq_nil_iff, List.filter_eq_nil_iff]
    intro k hk hzero
    have hnone : k.readBack? (c.value k) = none :=
      SettingKey.readBack?_eq_none_iff.mpr ⟨by simpa using hzero, (List.mem_filter.mp hk).2⟩
    rw [(h k).readBack.2] at hnone
    cases hnone

/-- Only a numeral of zero other than `0`, taken last, makes a limit of zero. -/
theorem limit_zero_iff (rows : List (String × String)) :
    (({} : Config).setAll rows).statusExpiryMs = some 0 ↔
      ∃ text, (SettingKey.statusExpiryMs.taken rows).getLast? = some text ∧
        number? (trim text) = some 0 ∧ trim text ≠ "0" := by
  have hvalue (c : Config) :
      c.statusExpiryMs = some 0 ↔ c.value .statusExpiryMs = .limit (some 0) :=
    ⟨fun h => congrArg SettingValue.limit h, SettingValue.limit.inj⟩
  rw [hvalue, value_setAll_taken]
  cases (SettingKey.statusExpiryMs.taken rows).getLast? with
  | none => exact ⟨fun h => (by cases h), fun ⟨_, h, _⟩ => (by cases h)⟩
  | some text =>
    simp only [Option.bind_some, Option.some.injEq, exists_eq_left',
      ← SettingKey.meaning?_eq_limit_zero_iff]
    cases hmeaning : SettingKey.statusExpiryMs.meaning? text with
    | none => exact ⟨fun h => (by cases h), fun h => (by cases h)⟩
    | some v => rw [Option.getD_some, Option.some.injEq]

/-- **A configuration that settings made is read back from its own rows**: none of them is refused, and
    it comes back as it is unless the text that was last taken for the limit is a numeral of zero other
    than `0`, in which case it comes back without a limit. -/
theorem settings_made_read_back (rows : List (String × String)) :
    let c : Config := ({} : Config).setAll rows
    let read := ({} : Config).setEach c.settings
    read.2 = [] ∧ read.1 = { c with statusExpiryMs := c.statusExpiryMs.filter (· ≠ 0) } ∧
      (read.1 = c ↔ ¬ ∃ text, (SettingKey.statusExpiryMs.taken rows).getLast? = some text ∧
        number? (trim text) = some 0 ∧ trim text ≠ "0") := by
  intro c read
  have hread : read = (c.effective, []) := setEach_settings_of_meant (meant_setAll rows)
  have hsame : c.effective = c ↔ c.statusExpiryMs ≠ some 0 := by
    rw [← SettingKey.readBack_limit .statusExpiryMs]
    refine ⟨fun h => congrArg (·.value .statusExpiryMs) h, fun h => eq_of_value_eq fun k => ?_⟩
    cases k
    case statusExpiryMs => exact h
    all_goals rfl
  rw [← limit_zero_iff]
  exact ⟨congrArg Prod.snd hread, congrArg Prod.fst hread, hread ▸ hsame⟩

/-- A limit of zero that is written `00` does not come back. -/
theorem limit_of_zero_lost :
    let c := ({} : Config).setAll [("status_expiry_ms", "00")]
    c.statusExpiryMs = some 0 ∧ ({} : Config).setEach c.settings = ({}, []) ∧ c ≠ {} := by
  decide +kernel

end Config

end PaneMux
