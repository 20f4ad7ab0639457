import PaneMux.Config.Settings
import PaneMux.Store.Basic

/-!
# Stored settings

Settings as they are stored, and the configuration that a daemon starts with: the defaults, changed by
every stored setting that can be understood. Settings not stored yet are added with their default.
-/

namespace PaneMux.Store

/-- The stored value of a key. -/
def setting (s : Store) (key : String) : Result (Option String) := do
  let t ← s.settingsTable
  return (t.find? (·.1 = key)).map (·.2)

/-- Every stored setting, sorted by key. -/
def allSettings (s : Store) : Result (List (String × String)) := s.settingsTable

/-- Stores a value under a key. -/
def setSetting (s : Store) (key value : String) : Result Store := do
  let t ← s.settingsTable
  return { s with settings := some (Decoder.insertEntry key value t) }

/-- Adds the rows whose keys are not there yet. -/
def addMissing : List (String × String) → List (String × String) → Nat × List (String × String)
  | t, [] => (0, t)
  | t, (key, value) :: rest =>
    if t.any (·.1 = key) then addMissing t rest
    else
      let (n, t) := addMissing (Decoder.insertEntry key value t) rest
      (n + 1, t)

/-- Stores the rows whose keys are not stored yet, and tells how many they were. -/
def seed (s : Store) (rows : List (String × String)) : Result (Nat × Store) := do
  let t ← s.settingsTable
  let (n, t) := addMissing t rows
  return (n, { s with settings := some t })

/-- The configuration to start with. Settings that are not stored yet are stored. -/
def loadConfig (s : Store) : Result (Config × Store) := do
  let stored ← s.allSettings
  let (_, s) ← s.seed ({} : Config).settings
  return (({} : Config).setAll stored, s)

end PaneMux.Store
