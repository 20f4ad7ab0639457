import PaneMux.Config.Basic
import PaneMux.Text.Quoted

/-!
# Settings

A configuration as rows of text, the form in which people change it and in which it is stored.
Each row has a key and a value; the keys have their own little grammars: a positive number, any
number, a number or `never`, a truth value, or a text of which only the blanks at the ends go.
-/

namespace PaneMux

open PaneMux.Text

/-- The name of a setting. -/
inductive SettingKey where
  | scrollbackLines
  | scrollbackBytes
  | subscriberQueue
  | inputQueue
  | closeGraceMs
  | resizeDebounceMs
  | metricsIntervalMs
  | metricsHistory
  | statusExpiryMs
  | statusMarkers
  | defaultShell
  deriving DecidableEq, Repr

namespace SettingKey

/-- The key as it is written. -/
def text : SettingKey → String
  | .scrollbackLines => "scrollback_lines"
  | .scrollbackBytes => "scrollback_bytes"
  | .subscriberQueue => "subscriber_queue"
  | .inputQueue => "input_queue"
  | .closeGraceMs => "close_grace_ms"
  | .resizeDebounceMs => "resize_debounce_ms"
  | .metricsIntervalMs => "metrics_interval_ms"
  | .metricsHistory => "metrics_history"
  | .statusExpiryMs => "status_expiry_ms"
  | .statusMarkers => "status_markers"
  | .defaultShell => "default_shell"

/-- Every key, in the order in which settings are listed. -/
def all : List SettingKey :=
  [.scrollbackLines, .scrollbackBytes, .subscriberQueue, .inputQueue, .closeGraceMs,
    .resizeDebounceMs, .metricsIntervalMs, .metricsHistory, .statusExpiryMs, .statusMarkers,
    .defaultShell]

/-- The key with a name. -/
def ofText? (s : String) : Option SettingKey := all.find? (·.text = s)

end SettingKey

/-- Why a setting was refused. -/
inductive SettingError where
  | unknownKey (key : String)
  /-- the value is given without the blanks around it -/
  | invalidValue (key value : String)
  deriving DecidableEq, Repr

/-- The cause in words. -/
def SettingError.message : SettingError → String
  | .unknownKey k => "unknown setting: " ++ k
  | .invalidValue k v => "invalid value for " ++ k ++ ": " ++ quoted v

namespace Config

/-- A number of 64 bits. -/
def number? (s : String) : Option Nat := natural? (Nat.pow 2 64) s

/-- A number of 64 bits other than zero. -/
def positive? (s : String) : Option Nat := (number? s).filter (0 < ·)

/-- The time a running status is believed: no limit, or a number. -/
def expiry? (s : String) : Option (Option Nat) :=
  if s = "" ∨ s = "never" ∨ s = "0" then some none else (number? s).map some

/-- A truth value. -/
def flag? (s : String) : Option Bool :=
  if s = "true" then some true else if s = "false" then some false else none

/-- Changes one field to what a trimmed text says, if it says anything. -/
def assign? (c : Config) (key : SettingKey) (value : String) : Option Config :=
  match key with
  | .scrollbackLines => (positive? value).map fun n => { c with scrollbackLines := n }
  | .scrollbackBytes => (positive? value).map fun n => { c with scrollbackBytes := n }
  | .subscriberQueue => (positive? value).map fun n => { c with subscriberQueue := n }
  | .inputQueue => (positive? value).map fun n => { c with inputQueue := n }
  | .closeGraceMs => (number? value).map fun n => { c with closeGraceMs := n }
  | .resizeDebounceMs => (number? value).map fun n => { c with resizeDebounceMs := n }
  | .metricsIntervalMs => (positive? value).map fun n => { c with metricsIntervalMs := n }
  | .metricsHistory => (positive? value).map fun n => { c with metricsHistory := n }
  | .statusExpiryMs => (expiry? value).map fun e => { c with statusExpiryMs := e }
  | .statusMarkers => (flag? value).map fun b => { c with statusMarkers := b }
  | .defaultShell => some { c with defaultShell := if value = "" then none else some value }

/-- Changes one setting. Blanks around the value do not count. -/
def set (c : Config) (key value : String) : Except SettingError Config :=
  match SettingKey.ofText? key with
  | none => .error (.unknownKey key)
  | some k =>
    match c.assign? k (trim value) with
    | some c => .ok c
    | none => .error (.invalidValue key (trim value))

/-- Changes several settings in order. The ones that are refused change nothing, and the causes are given
    in the same order. -/
def setEach (c : Config) : List (String × String) → Config × List SettingError
  | [] => (c, [])
  | (key, value) :: rows =>
    match c.set key value with
    | .ok c => c.setEach rows
    | .error e =>
      let (c, es) := c.setEach rows
      (c, e :: es)

/-- Changes several settings in order, passing over the ones that are refused. -/
def setAll (c : Config) (rows : List (String × String)) : Config := (c.setEach rows).1

/-- The value of one setting as text. -/
def get (c : Config) : SettingKey → String
  | .scrollbackLines => decimal c.scrollbackLines
  | .scrollbackBytes => decimal c.scrollbackBytes
  | .subscriberQueue => decimal c.subscriberQueue
  | .inputQueue => decimal c.inputQueue
  | .closeGraceMs => decimal c.closeGraceMs
  | .resizeDebounceMs => decimal c.resizeDebounceMs
  | .metricsIntervalMs => decimal c.metricsIntervalMs
  | .metricsHistory => decimal c.metricsHistory
  | .statusExpiryMs => c.statusExpiryMs.elim "never" decimal
  | .statusMarkers => toString c.statusMarkers
  | .defaultShell => c.defaultShell.getD ""

/-- Every setting as a row of text. -/
def settings (c : Config) : List (String × String) :=
  SettingKey.all.map fun k => (k.text, c.get k)

end Config

end PaneMux
