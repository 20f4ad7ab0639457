import PaneMux.Daemon.Service
import PaneMux.Proofs.Settings.Values

/-!
# Settings and Restarts

A setting is checked against the configuration of the daemon that runs, stored as text, and read when
the next daemon starts. Each of the three looks at the text in its own way; what a client set and was
not refused is what the daemon starts with all the same, however often that happens in between.

## Architecture

- **§1** loading a configuration: what is added, and that doing it again adds nothing
- **§2** a daemon that starts
- **§3** requests and restarts (`Daemon.settle`), and what they make of the value stored for a key
- **§4** the values at the next start
-/

namespace PaneMux

open Entries (value? Sorted)

/-! ## §1 Loading -/

/-- The settings that are missing in rows are added with their defaults. -/
def Config.completed (rows : List (String × String)) : List (String × String) :=
  (Store.addMissing rows ({} : Config).settings).2

theorem Config.sorted_completed {rows : List (String × String)} (h : Sorted rows) :
    Sorted (completed rows) := h.addMissing _

theorem Config.completed_completed (rows : List (String × String)) :
    Store.addMissing (completed rows) ({} : Config).settings = (0, completed rows) := by
  refine Entries.addMissing_eq_self fun row hrow => ?_
  -- every key of the defaults is there by now
  have hdefault : (value? ({} : Config).settings row.1).isSome :=
    Entries.isSome_value?_iff.mpr (List.mem_map_of_mem hrow)
  rw [completed, Entries.value?_addMissing, Option.isSome_or, hdefault, Bool.or_true]

/-- The value that rows give a key: the meaning of its own row if it has one, and else the default. -/
def SettingKey.given (k : SettingKey) (rows : List (String × String)) : SettingValue :=
  ((value? rows k.text).bind k.meaning?).getD k.default

/-- **Completing rows is no change of what they say.** -/
theorem SettingKey.given_completed (k : SettingKey) (rows : List (String × String)) :
    k.given (Config.completed rows) = k.given rows := by
  rw [given, given, Config.completed, Entries.value?_addMissing, SettingKey.value?_settings]
  cases value? rows k.text with
  | none => simp [meaning?_get_default]
  | some text => rfl

namespace Store

variable {s : Store} {rows : List (String × String)}

/-- The stored settings; none where the table is missing. -/
def settingRows (s : Store) : List (String × String) := s.settings.getD []

/-- Loading reads what is stored, and completes it. -/
theorem loadConfig_eq (h : s.settings = some rows) :
    s.loadConfig =
      .ok (({} : Config).setAll rows, { s with settings := some (Config.completed rows) }) := by
  simp [loadConfig, allSettings, seed, settingsTable, h, bind, Except.bind, pure, Except.pure,
    Config.completed]

/-- **Every setting is loaded with the value that the rows give it.** -/
theorem value_setAll_default (hsorted : Sorted rows) (k : SettingKey) :
    (({} : Config).setAll rows).value k = k.given rows :=
  Config.value_setAll _ hsorted.nodup k

/-- **Loading again gives the same configuration and adds nothing.** -/
theorem loadConfig_again (hsorted : Sorted rows)
    (h : s.settings = some (Config.completed rows)) :
    s.loadConfig = .ok (({} : Config).setAll rows, s) := by
  have hconfig : ({} : Config).setAll (Config.completed rows) = ({} : Config).setAll rows :=
    Config.eq_of_value_eq fun k => by
      rw [value_setAll_default (Config.sorted_completed hsorted), value_setAll_default hsorted,
        SettingKey.given_completed]
  rw [loadConfig_eq h, hconfig, Config.completed, Config.completed_completed, ← h]

/-! ## §2 Starting -/

/-- The tables that a start needs are there, with these settings. -/
structure Ready (s : Store) (rows : List (String × String)) : Prop where
  settings : s.settings = some rows
  sessions : s.sessions.isSome
  panes : s.panes.isSome

/-- No change takes a table away or touches the settings in one. -/
theorem Ready.apply (h : s.Ready rows) (c : Change) : (s.apply c).Ready rows := by
  obtain ⟨hsettings, hsessions, hpanes⟩ := h
  cases c <;> constructor <;> simp [Store.apply, hsettings, hsessions, hpanes]

theorem Ready.foldl_apply (h : s.Ready rows) (cs : List Change) :
    (cs.foldl Store.apply s).Ready rows := by
  induction cs generalizing s with
  | nil => exact h
  | cons c cs ih => exact ih (h.apply c)

/-- **A store that is brought up to date keeps its settings.** -/
theorem ready_setUp (s : Store) : s.setUp.Ready s.settingRows := by
  have hcreated : (creation.foldl apply s).Ready s.settingRows := ⟨rfl, rfl, rfl⟩
  rw [setUp, changes, List.foldl_append]
  exact hcreated.foldl_apply _

end Store

namespace Daemon

/-- **A daemon starts on every store**, with the configuration that is loaded from it. -/
theorem start_eq_ok (s : Store) (now : Time.Moment) :
    ∃ d, start s now = .ok d ∧ d.registry.config = ({} : Config).setAll s.settingRows ∧
      d.store.settings = some (Config.completed s.settingRows) := by
  obtain ⟨hsettings, hsessions, hpanes⟩ := s.ready_setUp
  obtain ⟨sessions, hsessions⟩ := Option.isSome_iff_exists.mp hsessions
  obtain ⟨panes, hpanes⟩ := Option.isSome_iff_exists.mp hpanes
  simp only [start, Store.loadConfig_eq hsettings, Store.closeDangling, Store.sessionTable,
    Store.paneTable, hsessions, hpanes, bind, Except.bind, pure, Except.pure]
  exact ⟨_, rfl, rfl, rfl⟩

/-! ## §3 Requests and restarts -/

/-- What can happen to settings. -/
inductive SettingAct where
  /-- a client asks for a value -/
  | set (key value : String)
  | restart (now : Time.Moment)

/-- A daemon after a request, or the daemon that takes over its store. -/
def settle (d : Daemon) : SettingAct → Daemon
  | .set key value => (Served.setSetting ⟨d, {}⟩ key value).2.daemon
  | .restart now => (start d.store now).toOption.getD d

def settleAll (d : Daemon) (acts : List SettingAct) : Daemon := acts.foldl settle d

/-- The key and the value of a request that is accepted. -/
def accepts? (d : Daemon) : SettingAct → Option (String × String)
  | .set key value => if (Served.setSetting ⟨d, {}⟩ key value).1.isOk then some (key, value) else none
  | .restart _ => none

/-- The requests that are accepted, oldest first. -/
def accepted (d : Daemon) : List SettingAct → List (String × String)
  | [] => []
  | act :: acts => (d.accepts? act).toList ++ (d.settle act).accepted acts

theorem accepted_append_singleton (d : Daemon) (acts : List SettingAct) (act : SettingAct) :
    d.accepted (acts ++ [act]) = d.accepted acts ++ ((d.settleAll acts).accepts? act).toList := by
  induction acts generalizing d with
  | nil => simp [accepted, settleAll]
  | cons first acts ih => simp [accepted, ih, settleAll]

/-- **A request that is refused changes nothing.** -/
theorem setSetting_of_error {s : Served} {key value : String} {e : WireError}
    (h : (s.setSetting key value).1 = .error e) : (s.setSetting key value).2 = s := by
  unfold Served.setSetting at h ⊢
  split
  · rfl
  · split
    · rfl
    · simp_all

/-- A request that is accepted puts the text, without the blanks around it, in the place of its key. -/
theorem setSetting_of_isOk {s : Served} {key value : String}
    (h : (s.setSetting key value).1.isOk = true) :
    (∃ config, s.daemon.registry.config.set key value = .ok config) ∧
      ∃ rows, s.daemon.store.settings = some rows ∧
        (s.setSetting key value).2.daemon.store.settings =
          some (Decoder.insertEntry key (Text.trim value) rows) := by
  unfold Served.setSetting at h ⊢
  cases hset : s.daemon.registry.config.set key value with
  | error e => simp [hset, Except.isOk, Except.toBool] at h
  | ok config =>
    cases hrows : s.daemon.store.settings with
    | none =>
      simp [hset, Store.setSetting, Store.settingsTable, hrows, bind, Except.bind,
        Served.fromStore, Except.mapError, Except.map, Except.isOk, Except.toBool] at h
    | some rows =>
      refine ⟨⟨config, rfl⟩, rows, rfl, ?_⟩
      simp [Store.setSetting, Store.settingsTable, hrows, bind, Except.bind, pure, Except.pure]

end Daemon

/-! ## §4 The next start -/

/-- The value a key is to have: that of the last request accepted for it; if there was none, that of
    the row it had in the beginning; and the default where that row is missing or means nothing. -/
def SettingKey.expected (k : SettingKey) (original accepted : List (String × String)) :
    Option SettingValue :=
  match (accepted.filter (·.1 = k.text)).getLast? with
  | some (_, value) => k.meaning? value
  | none => some (k.given original)

namespace Daemon

/-- The stored settings are in order and give every key the value that it is to have. -/
structure Settled (d : Daemon) (original accepted : List (String × String)) : Prop where
  sorted : Sorted d.store.settingRows
  given : ∀ k : SettingKey, k.expected original accepted = some (k.given d.store.settingRows)

variable {d : Daemon} {original accepted : List (String × String)}

/-- **Each request and each restart keeps the values that keys are to have.** -/
theorem Settled.settle (h : d.Settled original accepted) (act : SettingAct) :
    (d.settle act).Settled original (accepted ++ (d.accepts? act).toList) := by
  cases act with
  | restart now =>
    obtain ⟨d', hstart, -, hrows⟩ := start_eq_ok d.store now
    have hsettle : (d.settle (.restart now)).store.settingRows =
        Config.completed d.store.settingRows := by
      simp [Daemon.settle, hstart, Except.toOption, Store.settingRows, hrows]
    constructor
    · rw [hsettle]
      exact Config.sorted_completed h.sorted
    · intro k
      rw [hsettle, SettingKey.given_completed]
      simpa [accepts?] using h.given k
  | set key value =>
    cases hout : (Served.setSetting ⟨d, {}⟩ key value).1 with
    | error e =>
      have hsame : d.settle (.set key value) = d :=
        congrArg Served.daemon (setSetting_of_error hout)
      rw [hsame]
      simpa [accepts?, hout, Except.isOk, Except.toBool] using h
    | ok result =>
      have hok : (Served.setSetting ⟨d, {}⟩ key value).1.isOk = true := by rw [hout]; rfl
      obtain ⟨⟨config, hset⟩, rows, hrows, hnew⟩ := setSetting_of_isOk hok
      obtain ⟨hsorted, hgiven⟩ := h
      have hold : d.store.settingRows = rows := by rw [Store.settingRows, hrows]; rfl
      have hsettle : (d.settle (.set key value)).store.settingRows =
          Decoder.insertEntry key (Text.trim value) rows := by
        rw [Store.settingRows, Daemon.settle, hnew]; rfl
      rw [hold] at hsorted hgiven
      constructor
      · rw [hsettle]
        exact hsorted.insertEntry _ _
      · intro k
        rw [hsettle, SettingKey.given, Entries.value?_insertEntry, accepts?, if_pos hok,
          SettingKey.expected, Option.toList_some, List.filter_append]
        by_cases hk : key = k.text
        · -- the newest request for this key is this one
          subst hk
          simp [SettingKey.meaning?_trim, Config.meaning?_of_set hset]
        · simpa [hk, SettingKey.expected, SettingKey.given] using hgiven k

theorem settled_settleAll (hsorted : Sorted d.store.settingRows) (acts : List SettingAct) :
    (d.settleAll acts).Settled d.store.settingRows (d.accepted acts) := by
  induction acts using List.reverseRecOn with
  | nil => exact ⟨hsorted, fun _ => rfl⟩
  | append_singleton acts act ih =>
    rw [accepted_append_singleton, settleAll, List.foldl_append]
    exact ih.settle act

/-- **Settings survive restarts.** -/
theorem settings_survive_restarts (d : Daemon) (hsorted : Sorted d.store.settingRows)
    (acts : List SettingAct) (now : Time.Moment) :
    let d' := d.settleAll acts
    (∃ started, start d'.store now = .ok started ∧ ∀ k : SettingKey,
      k.expected d.store.settingRows (d.accepted acts) = some (started.registry.config.value k)) ∧
    (∀ (pumps : Pumps) (key value : String) (e : WireError),
      (Served.setSetting ⟨d', pumps⟩ key value).1 = .error e →
        (Served.setSetting ⟨d', pumps⟩ key value).2 = ⟨d', pumps⟩) ∧
    ∃ config s, d'.store.setUp.loadConfig = .ok (config, s) ∧
      s = { d'.store.setUp with settings := some s.settingRows } ∧
      Sorted s.settingRows ∧
      (∀ key, value? s.settingRows key =
        (value? d'.store.settingRows key).or (value? ({} : Config).settings key)) ∧
      s.loadConfig = .ok (config, s) := by
  intro d'
  have h : d'.Settled d.store.settingRows (d.accepted acts) := settled_settleAll hsorted acts
  refine ⟨?_, fun _ _ _ _ he => setSetting_of_error he, ?_⟩
  · obtain ⟨started, hstart, hconfig, -⟩ := start_eq_ok d'.store now
    refine ⟨started, hstart, fun k => ?_⟩
    rw [hconfig, Store.value_setAll_default h.sorted]
    exact h.given k
  · have hready := d'.store.ready_setUp
    exact ⟨_, _, Store.loadConfig_eq hready.settings, rfl, Config.sorted_completed h.sorted,
      Entries.value?_addMissing _ _, Store.loadConfig_again h.sorted rfl⟩

/-- A row that means nothing, one of an unknown key, one that is changed, and one that is kept. -/
theorem settings_survive_restarts_twice :
    let store : Store :=
      { settings := some [("close_grace_ms", "soon"), ("input_queue", "0"),
          ("scrollback_lines", " 5 "), ("warp_factor", "9")] }
    let d : Daemon := .ofConfig {} store
    let acts : List SettingAct := [.restart ⟨⟨0, 0⟩, 0⟩, .set "input_queue" "7",
      .set "input_queue" "none", .set "warp_factor" "10", .restart ⟨⟨1, 0⟩, 1⟩,
      .set "status_expiry_ms" " never "]
    d.accepted acts = [("input_queue", "7"), ("status_expiry_ms", " never ")] ∧
      ∃ started, start (d.settleAll acts).store ⟨⟨2, 0⟩, 2⟩ = .ok started ∧
        started.registry.config.value .closeGraceMs = .number 2000 ∧
        started.registry.config.value .inputQueue = .number 7 ∧
        started.registry.config.value .scrollbackLines = .number 5 ∧
        started.registry.config.value .statusExpiryMs = .limit none := by
  intro store d acts
  have hsorted : Sorted d.store.settingRows := by
    show List.Pairwise _ (_ : List String)
    decide +kernel
  obtain ⟨⟨started, hstart, hvalue⟩, -⟩ :=
    settings_survive_restarts d hsorted acts ⟨⟨2, 0⟩, 2⟩
  have hset : ∀ {k : SettingKey} {v : SettingValue},
      k.expected d.store.settingRows (d.accepted acts) = some v →
        started.registry.config.value k = v := by
    intro k v hk
    exact Option.some.inj ((hvalue k).symm.trans hk)
  refine ⟨by decide +kernel, started, hstart, hset ?_, hset ?_, hset ?_, hset ?_⟩ <;> decide +kernel

end Daemon

end PaneMux
