import PaneMux.Proofs.Json.Yields
import PaneMux.Proofs.Settings.Values
import PaneMux.Proofs.Text.Digits

/-!
# Settings that Are Read Back

A configuration is written as rows of text and read back into the defaults. Numbers, truth values and
programs come back as they were, with a few exceptions, which are all there are: a zero is refused by
six of the settings, a limit of zero means that there is none, and a program loses the blanks around
it.

## Architecture

- **§1** numbers that fit their type (`Config.Fits`), also in a configuration that was decoded
- **§2** what a value comes back as (`SettingKey.readBack?`)
- **§3** rows that are refused, and the configuration that is read back
-/

namespace PaneMux

open PaneMux.Text

/-! ## §1 Numbers that fit -/

/-- The numbers in a value have 64 bits. -/
def SettingValue.Fits : SettingValue → Prop
  | .number n => n < 2 ^ 64
  | .limit n => ∀ m ∈ n, m < 2 ^ 64
  | .flag _ => True
  | .program _ => True

namespace Config

/-- **The numbers of a configuration have 64 bits.** -/
def Fits (c : Config) : Prop := ∀ k, (c.value k).Fits

/-- **Numbers that were decoded fit.** -/
theorem fits_of_decode {j : Json} {c : Config} (h : decode j = .ok c) : c.Fits := by
  have hnumber (name expected : String) {n : Nat} (hn : n < 2 ^ 64) :
      (Record.withDefault name (Decoder.natural 64 expected) n).Yields (· < 2 ^ 64) :=
    Record.yields_withDefault (Decoder.yields_natural 64 expected) hn name
  have hfields : fields.Yields Fits := by
    refine .and (.and (.and (.and (.and (.and (.and (.and (.and (.and (.and
      (Record.yields_pure ?_)
      (hnumber _ _ (by decide))) (hnumber _ _ (by decide))) (hnumber _ _ (by decide)))
      (hnumber _ _ (by decide))) (hnumber _ _ (by decide))) (hnumber _ _ (by decide)))
      (hnumber _ _ (by decide))) (hnumber _ _ (by decide)))
      (Record.yields_withDefault (Decoder.yields_natural 64 _).nullable (by simp) _))
      (Record.yields_withDefault (Decoder.yields_true _) trivial _))
      (Record.yields_withDefault (Decoder.yields_true _) trivial _)
    -- eleven fields, nine of which have numbers that fit
    intro a1 h1 a2 h2 a3 h3 a4 h4 a5 h5 a6 h6 a7 h7 a8 h8 a9 h9 _ _ _ _ k
    cases k <;> assumption
  exact hfields.decoder _ h

end Config

/-! ## §2 Values that come back -/

namespace SettingKey

/-- The setting is a number other than zero. -/
def positive : SettingKey → Bool
  | .scrollbackLines | .scrollbackBytes | .subscriberQueue | .inputQueue | .metricsIntervalMs
  | .metricsHistory => true
  | _ => false

/-- **What a value comes back as**, if its text is accepted. -/
def readBack? (k : SettingKey) : SettingValue → Option SettingValue
  | .number n => if k.positive ∧ n = 0 then none else some (.number n)
  | .limit n => some (.limit (n.filter (· ≠ 0)))
  | .flag b => some (.flag b)
  | .program p => some (.program ((p.map trim).filter (· ≠ "")))

/-- Nothing but a zero is refused. -/
theorem readBack?_eq_none_iff {k : SettingKey} {v : SettingValue} :
    k.readBack? v = none ↔ v = .number 0 ∧ k.positive = true := by
  cases v <;> simp [readBack?, and_comm]

theorem default_ne_zero {k : SettingKey} (h : k.positive = true) : k.default ≠ .number 0 := by
  revert h
  cases k <;> decide

/-- A number comes back unless it is a zero that is refused, since no default is one. -/
theorem readBack_number (k : SettingKey) (n : Nat) :
    (k.readBack? (.number n)).getD k.default = .number n ↔ (k.positive = true → n ≠ 0) := by
  by_cases hrefused : k.positive = true ∧ n = 0
  · obtain ⟨hpositive, rfl⟩ := hrefused
    simp [readBack?, hpositive, default_ne_zero hpositive]
  · rw [readBack?, if_neg hrefused]
    exact ⟨fun _ hpositive hzero => hrefused ⟨hpositive, hzero⟩, fun _ => rfl⟩

/-- A limit comes back unless it is zero. -/
theorem readBack_limit (k : SettingKey) (n : Option Nat) :
    (k.readBack? (.limit n)).getD k.default = .limit n ↔ n ≠ some 0 := by
  cases n <;> simp [readBack?]

theorem readBack_flag (k : SettingKey) (b : Bool) :
    (k.readBack? (.flag b)).getD k.default = .flag b := rfl

/-- A program comes back if it has a name, without blanks around it. -/
theorem readBack_program (k : SettingKey) (p : Option String) :
    (k.readBack? (.program p)).getD k.default = .program p ↔
      p = none ∨ ∃ s, p = some s ∧ s ≠ "" ∧ trim s = s := by
  cases p with
  | none => simp [readBack?]
  | some s =>
    simp only [readBack?, Option.map_some, Option.getD_some, SettingValue.program.injEq,
      Option.filter_eq_some_iff, Option.some.injEq, reduceCtorEq, false_or, exists_eq_left',
      decide_eq_true_iff]
    exact and_comm

end SettingKey

namespace Config

theorem number?_decimal {n : Nat} (h : n < 2 ^ 64) : number? (decimal n) = some n :=
  natural?_decimal h

theorem positive?_decimal {n : Nat} (h : n < 2 ^ 64) :
    positive? (decimal n) = if n = 0 then none else some n := by
  rw [positive?, number?_decimal h]
  by_cases hzero : n = 0
  · simp [hzero]
  · simp [hzero, Nat.pos_of_ne_zero hzero]

theorem expiry?_decimal {n : Nat} (h : n < 2 ^ 64) :
    expiry? (decimal n) = some (if n = 0 then none else some n) := by
  have hempty : decimal n ≠ "" := decimal_ne_of_numeral? rfl
  have hnever : decimal n ≠ "never" := decimal_ne_of_numeral? (by decide)
  have hzero : decimal n = "0" ↔ n = 0 := decimal_injective.eq_iff (b := 0)
  rw [expiry?, number?_decimal h]
  simp only [hempty, hnever, hzero, false_or]
  split <;> rfl

/-- **The text of a setting means what its value comes back as.** -/
theorem meaning?_get {c : Config} (h : c.Fits) (k : SettingKey) :
    k.meaning? (c.get k) = k.readBack? (c.value k) := by
  have hfits := h k
  rw [SettingKey.meaning?, set_text]
  cases k
  case statusExpiryMs =>
    simp only [get, assign?, value, Option.map_map] at hfits ⊢
    cases hlimit : c.statusExpiryMs with
    | none => decide +kernel
    | some n =>
      -- the texts that mean no limit are none of a number but zero
      rw [hlimit] at hfits
      rw [Option.elim_some, trim_decimal, expiry?_decimal (hfits n rfl)]
      by_cases hzero : n = 0 <;> simp [SettingKey.readBack?, Option.filter, hzero]
  case statusMarkers =>
    simp only [get, assign?, value, Option.map_map]
    cases c.statusMarkers <;> decide +kernel
  case defaultShell =>
    have hprogram (p : Option String) :
        (({} : Config).assign? .defaultShell (trim (p.getD ""))).map (·.value .defaultShell) =
          SettingKey.defaultShell.readBack? (.program p) := by
      cases p with
      | none => decide +kernel
      | some s =>
        by_cases hempty : trim s = "" <;>
          simp [assign?, value, SettingKey.readBack?, Option.filter, hempty]
    exact hprogram c.defaultShell
  case closeGraceMs | resizeDebounceMs =>
    -- any number will do
    simp [get, assign?, number?_decimal hfits, value, SettingKey.readBack?, SettingKey.positive]
  all_goals
    -- a number that must not be zero
    simp [get, assign?, positive?_decimal hfits, value, SettingKey.readBack?, SettingKey.positive]
    split <;> simp

/-! ## §3 Rows that are read -/

/-- What is refused does not depend on what was there before. -/
theorem set_eq_error {k : SettingKey} {text : String} (h : k.meaning? text = none) (c : Config) :
    c.set k.text text = .error (.invalidValue k.text (trim text)) := by
  rw [← map_value_set c, Option.map_eq_none_iff, set_text] at h
  rw [set, SettingKey.ofText?_text]
  simp only [h]

theorem exists_set_eq_ok {k : SettingKey} {text : String} (h : k.meaning? text ≠ none)
    (c : Config) : ∃ c', c.set k.text text = .ok c' := by
  rw [← map_value_set c, ne_eq, Option.map_eq_none_iff] at h
  cases hset : c.set k.text text with
  | ok c' => exact ⟨c', rfl⟩
  | error e => exact absurd (congrArg Except.toOption hset) h

/-- **The rows that are refused are those that mean nothing**, in their order. -/
theorem setEach_snd (c : Config) (keys : List SettingKey) (text : SettingKey → String) :
    (c.setEach (keys.map fun k => (k.text, text k))).2 =
      (keys.filter fun k => (k.meaning? (text k)).isNone).map fun k =>
        .invalidValue k.text (trim (text k)) := by
  induction keys generalizing c with
  | nil => rfl
  | cons k keys ih =>
    rw [List.map_cons, setEach]
    by_cases hnone : k.meaning? (text k) = none
    · rw [set_eq_error hnone, List.filter_cons_of_pos (by simp [hnone]), List.map_cons, ← ih]
    · obtain ⟨c', hset⟩ := exists_set_eq_ok hnone c
      rw [hset, List.filter_cons_of_neg (by simpa using hnone)]
      exact ih c'

/-- **What a setting is when a configuration is read back.** -/
theorem value_readBack {c : Config} (h : c.Fits) (k : SettingKey) :
    (({} : Config).setAll c.settings).value k = (k.readBack? (c.value k)).getD k.default := by
  have hkeys : (Entries.keys c.settings).Nodup := by
    show (SettingKey.all.map SettingKey.text).Nodup
    decide
  rw [value_setAll _ hkeys, SettingKey.value?_settings, Option.bind_some, meaning?_get h]
  rfl

/-- A configuration is read back if each of its values is. -/
theorem readBack_eq_iff {c : Config} (h : c.Fits) :
    ({} : Config).setAll c.settings = c ↔
      ∀ k ∈ SettingKey.all, (k.readBack? (c.value k)).getD k.default = c.value k := by
  constructor
  · intro hback k _
    rw [← value_readBack h, hback]
  · intro hback
    refine eq_of_value_eq fun k => (value_readBack h k).trans (hback k ?_)
    cases k <;> decide

/-- The text of a zero. -/
theorem trim_get_of_value {c : Config} {k : SettingKey} (h : c.value k = .number 0) :
    trim (c.get k) = "0" := by
  cases k
  case statusExpiryMs | statusMarkers | defaultShell => cases h
  all_goals
    rw [get, SettingValue.number.inj h]
    exact trim_decimal 0

/-- The rows that are refused of a configuration: those of a zero that must not be one. -/
theorem setEach_settings_snd {c : Config} (h : c.Fits) :
    (({} : Config).setEach c.settings).2 =
      ((SettingKey.all.filter (·.positive)).filter fun k => c.value k = .number 0).map fun k =>
        .invalidValue k.text "0" := by
  have hrefused (k : SettingKey) : (k.meaning? (c.get k)).isNone =
      (decide (c.value k = .number 0) && k.positive) := by
    rw [meaning?_get h, Bool.eq_iff_iff, Option.isNone_iff_eq_none, SettingKey.readBack?_eq_none_iff]
    simp
  rw [settings, setEach_snd, List.filter_filter]
  simp only [hrefused]
  refine List.map_congr_left fun k hk => ?_
  have hzero : c.value k = .number 0 ∧ k.positive = true := by simpa using (List.mem_filter.mp hk).2
  rw [trim_get_of_value hzero.1]

/-- **Settings are read back exactly**, but for a zero that is refused, a limit of zero, and a program
    with blanks around it or without a name. -/
theorem settings_read_back (c : Config) (h : c.Fits ∨ ∃ j, decode j = .ok c) :
    let read := ({} : Config).setEach c.settings
    read.2 = ([SettingKey.scrollbackLines, .scrollbackBytes, .subscriberQueue, .inputQueue,
        .metricsIntervalMs, .metricsHistory].filter fun k => c.value k = .number 0).map
          (fun k => .invalidValue k.text "0") ∧
      (read.1 = c ↔
        (c.scrollbackLines ≠ 0 ∧ c.scrollbackBytes ≠ 0 ∧ c.subscriberQueue ≠ 0 ∧ c.inputQueue ≠ 0 ∧
          c.metricsIntervalMs ≠ 0 ∧ c.metricsHistory ≠ 0) ∧
        c.statusExpiryMs ≠ some 0 ∧
        (c.defaultShell = none ∨ ∃ s, c.defaultShell = some s ∧ s ≠ "" ∧ trim s = s)) := by
  have hfits : c.Fits := h.elim id fun ⟨j, hj⟩ => fits_of_decode hj
  refine ⟨setEach_settings_snd hfits, (readBack_eq_iff hfits).trans ?_⟩
  simp [SettingKey.all, value, SettingKey.readBack_number, SettingKey.readBack_limit,
    SettingKey.readBack_flag, SettingKey.readBack_program, SettingKey.positive, and_assoc]

/-- A decoded configuration with zeros, and one with the largest numbers there are. -/
theorem settings_read_back_extremes :
    let j : Json := .obj [("input_queue", .nat 0), ("default_shell", .str "fish -l"),
      ("close_grace_ms", .nat 0), ("metrics_history", .nat 0), ("status_expiry_ms", .nat 5)]
    let zeros : Config :=
      { inputQueue := 0, closeGraceMs := 0, metricsHistory := 0, statusExpiryMs := some 5,
        defaultShell := some "fish -l" }
    let most : Config :=
      { closeGraceMs := 2 ^ 64 - 1, metricsHistory := 2 ^ 64 - 1,
        statusExpiryMs := some (2 ^ 64 - 1), defaultShell := some "fish -l" }
    decode j = .ok zeros ∧
      (({} : Config).setEach zeros.settings).2 =
        [.invalidValue "input_queue" "0", .invalidValue "metrics_history" "0"] ∧
      (({} : Config).setEach zeros.settings).1 ≠ zeros ∧
      ({} : Config).setEach most.settings = (most, []) := by
  intro j zeros most
  have hdecode : decode j = .ok zeros := rfl
  have hmost : most.Fits := by
    intro k
    cases k <;> simp [SettingValue.Fits, value, most]
  obtain ⟨hrefused, hsame⟩ := settings_read_back zeros (.inr ⟨j, hdecode⟩)
  obtain ⟨hnone, hback⟩ := settings_read_back most (.inl hmost)
  refine ⟨hdecode, hrefused, fun heq => (hsame.mp heq).1.2.2.2.1 rfl, Prod.ext (hback.mpr ?_) hnone⟩
  refine ⟨by decide, by decide, .inr ⟨_, rfl, by decide, by decide +kernel⟩⟩

end Config

end PaneMux
