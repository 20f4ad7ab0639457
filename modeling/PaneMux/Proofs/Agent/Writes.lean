import Mathlib.Data.List.Induction
import PaneMux.Agent.Tracker

/-!
# Writes to a Tracker

A tracker is written to by calls, by what the output of a pane says and by the end of a process. All of
these are writes of one status to one key, and what the tracker keeps for a key is the last of those
since the key was removed, whatever spellings its path was given.

## Architecture

- **§1** keys: two spellings of one (`StatusKey.identity`)
- **§2** everything that can happen to a tracker (`Tracker.Act`), and its runs
- **§3** writes, and the record of those to one key (`Tracker.written`)
- **§4** what is kept is what was written last
-/

namespace PaneMux

/-! ## §1 Keys -/

namespace StatusKey

/-- What a key means: a pane by its number, a path by its components. -/
def identity : StatusKey → Nat ⊕ List Component
  | .pane id => .inl id
  | .path p => .inr (Path.components p)

/-- **Two keys are the same if they mean the same.** -/
theorem same_iff {a b : StatusKey} : a.same b = true ↔ a.identity = b.identity := by
  cases a <;> cases b <;> simp [same, identity, Path.same]

/-- A pane has one key. -/
theorem pane_same_iff {id : Nat} {key : StatusKey} :
    (StatusKey.pane id).same key = true ↔ key = .pane id := by
  cases key with
  | path path => simp [same]
  | pane id' => simpa [same] using eq_comm

@[simp] theorem same_self (a : StatusKey) : a.same a = true := same_iff.mpr rfl

theorem same_comm (a b : StatusKey) : a.same b = b.same a := by
  rw [Bool.eq_iff_iff, same_iff, same_iff, eq_comm]

/-- Of two spellings of one key it makes no difference which one is compared with a third. -/
theorem same_congr {a b : StatusKey} (h : a.same b = true) (c : StatusKey) :
    c.same a = c.same b := by
  rw [Bool.eq_iff_iff, same_iff, same_iff, same_iff.mp h]

theorem same_congr_left {a b : StatusKey} (h : a.same b = true) (c : StatusKey) :
    a.same c = b.same c := by
  rw [same_comm a, same_comm b, same_congr h]

/-- Two keys that mean the same as a third mean the same. -/
theorem same_of_same {a b c : StatusKey} (ha : c.same a = true) (hb : c.same b = true) :
    a.same b = true := by
  rw [← same_congr_left ha, hb]

end StatusKey

namespace Tracker

/-! ## §2 Actions -/

/-- What can happen to a tracker. Each action comes with its time; the times need not fit together. -/
inductive Act where
  | set (now : Time.Moment) (key : StatusKey) (status : AgentStatus)
  | scan (now : Time.Moment) (pane : Nat) (data : Bytes)
  | recordExit (now : Time.Moment) (pane : Nat) (code : Option Int32)
  | remove (key : StatusKey)

/-- The tracker after an action. -/
def perform (t : Tracker) : Act → Tracker
  | .set now key status => (t.set now key status).2
  | .scan now pane data => (t.scan now pane data).2
  | .recordExit now pane code => t.recordExit now pane code
  | .remove key => (t.remove key).2

/-- Actions one after the other. -/
def run (t : Tracker) (acts : List Act) : Tracker := acts.foldl perform t

theorem run_append_singleton (t : Tracker) (acts : List Act) (act : Act) :
    t.run (acts ++ [act]) = (t.run acts).perform act := by
  simp [run]

/-! ## §3 Writes -/

/-- A status that is written to a key at some time. -/
structure Write where
  key : StatusKey
  status : AgentStatus
  /-- in milliseconds of uptime -/
  uptime : Nat
  deriving DecidableEq, Repr

/-- What an action writes, if it writes anything. Output without a report writes nothing. -/
def Act.write? (markers : List Marker) : Act → Option Write
  | .set now key status => some ⟨key, status, now.uptime⟩
  | .scan now pane data =>
    (Marker.report? markers data).map fun status => ⟨.pane pane, status, now.uptime⟩
  | .recordExit now pane code =>
    some ⟨.pane pane, if code = some 0 then .idle else .error, now.uptime⟩
  | .remove _ => none

/-- The record of the writes to a key, after an action. Where the key is removed a new one begins. -/
def Act.note (markers : List Marker) (key : StatusKey) (ws : List Write) (act : Act) : List Write :=
  match act with
  | .remove k => if key.same k then [] else ws
  | act => ws ++ ((act.write? markers).filter fun w => key.same w.key).toList

/-- All that some actions have written to a key since it was last removed, oldest first. -/
def written (markers : List Marker) (key : StatusKey) (acts : List Act) : List Write :=
  acts.foldl (Act.note markers key) []

theorem written_append_singleton (markers : List Marker) (key : StatusKey) (acts : List Act)
    (act : Act) :
    written markers key (acts ++ [act]) = act.note markers key (written markers key acts) := by
  simp [written]

/-- **All that an action can do**: write a status to a key, remove a key, or nothing. -/
theorem perform_cases (t : Tracker) (act : Act) :
    (∃ now key status, act.write? t.markers = some ⟨key, status, now.uptime⟩ ∧
        t.perform act = (t.set now key status).2) ∨
      (∃ key, act = .remove key ∧ t.perform act = (t.remove key).2) ∨
      (act.write? t.markers = none ∧ (∀ key, act ≠ .remove key) ∧ t.perform act = t) := by
  cases act with
  | set now key status => exact .inl ⟨now, key, status, rfl, rfl⟩
  | scan now pane data =>
    cases hreport : Marker.report? t.markers data with
    | some status =>
      exact .inl ⟨now, .pane pane, status, by simp [Act.write?, hreport],
        by simp [perform, scan, hreport]⟩
    | none =>
      exact .inr (.inr ⟨by simp [Act.write?, hreport], nofun, by simp [perform, scan, hreport]⟩)
  | recordExit now pane code => exact .inl ⟨now, .pane pane, _, rfl, rfl⟩
  | remove key => exact .inr (.inl ⟨key, rfl, rfl⟩)

/-- A write is noted for its key and for no other. -/
theorem note_of_write? {markers : List Marker} {act : Act} {w : Write}
    (h : act.write? markers = some w) (key : StatusKey) (ws : List Write) :
    act.note markers key ws = if key.same w.key then ws ++ [w] else ws := by
  cases act with
  | remove k => simp [Act.write?] at h
  | _ =>
    simp only [Act.note, h]
    cases hkey : key.same w.key <;> simp [hkey]

theorem note_of_write?_eq_none {markers : List Marker} {act : Act}
    (h : act.write? markers = none) (hremove : ∀ key, act ≠ .remove key) (key : StatusKey)
    (ws : List Write) : act.note markers key ws = ws := by
  cases act with
  | remove k => exact absurd rfl (hremove k)
  | _ => simp [Act.note, h]

@[simp] theorem expiry_set (t : Tracker) (now : Time.Moment) (key : StatusKey)
    (status : AgentStatus) : (t.set now key status).2.expiry = t.expiry := by
  simp only [set]
  split <;> rfl

@[simp] theorem markers_set (t : Tracker) (now : Time.Moment) (key : StatusKey)
    (status : AgentStatus) : (t.set now key status).2.markers = t.markers := by
  simp only [set]
  split <;> rfl

/-- No action changes how long a status is believed, or what counts as a report. -/
theorem expiry_markers_perform (t : Tracker) (act : Act) :
    (t.perform act).expiry = t.expiry ∧ (t.perform act).markers = t.markers := by
  obtain ⟨now, key, status, -, h⟩ | ⟨key, -, h⟩ | ⟨-, -, h⟩ := t.perform_cases act <;> rw [h]
  · exact ⟨expiry_set t now key status, markers_set t now key status⟩
  · exact ⟨rfl, rfl⟩
  · exact ⟨rfl, rfl⟩

theorem expiry_markers_run (t : Tracker) (acts : List Act) :
    (t.run acts).expiry = t.expiry ∧ (t.run acts).markers = t.markers := by
  induction acts generalizing t with
  | nil => exact ⟨rfl, rfl⟩
  | cons act acts ih =>
    obtain ⟨hexpiry, hmarkers⟩ := t.expiry_markers_perform act
    exact ⟨(ih _).1.trans hexpiry, (ih _).2.trans hmarkers⟩

/-! ## §4 What is kept -/

/-- The status kept for a key, and when it was written. -/
def kept? (t : Tracker) (key : StatusKey) : Option (AgentStatus × Nat) :=
  (t.find? key).map fun e => (e.status, e.touched)

theorem entries_set (t : Tracker) (now : Time.Moment) (key : StatusKey) (status : AgentStatus) :
    (t.set now key status).2.entries =
      TrackedStatus.insert ⟨key, status, now.wall, now.uptime⟩ t.entries := by
  simp only [set]
  split <;> rfl

/-- **An entry that is put in is found** under every spelling of its key, and under no other key. -/
theorem find?_insert (e : TrackedStatus) (entries : List TrackedStatus) (key : StatusKey) :
    ((e.insert entries).find? fun x => key.same x.key).map (fun x => (x.status, x.touched)) =
      if key.same e.key then some (e.status, e.touched)
      else (entries.find? fun x => key.same x.key).map fun x => (x.status, x.touched) := by
  induction entries with
  | nil => by_cases hkey : key.same e.key = true <;> simp [TrackedStatus.insert, hkey]
  | cons old rest ih =>
    unfold TrackedStatus.insert
    by_cases hold : e.key.same old.key = true
    · -- the entry that is there keeps its spelling
      have hsame : key.same old.key = key.same e.key := (StatusKey.same_congr hold key).symm
      by_cases hkey : key.same e.key = true <;> simp [hold, hsame, hkey]
    · by_cases hless : e.key.less old.key = true
      · by_cases hkey : key.same e.key = true <;> simp [hold, hless, hkey]
      · simp only [hold, hless, Bool.false_eq_true, if_false, List.find?_cons]
        by_cases hkey : key.same old.key = true
        · have hother : key.same e.key = false := by
            rw [← Bool.not_eq_true]
            exact fun h => hold (StatusKey.same_of_same h hkey)
          simp [hkey, hother]
        · simp only [hkey]
          exact ih

/-- A status is kept for the key it is written to, and what is kept for other keys stays. -/
theorem kept?_set (t : Tracker) (now : Time.Moment) (key : StatusKey) (status : AgentStatus)
    (k : StatusKey) :
    (t.set now key status).2.kept? k =
      if k.same key then some (status, now.uptime) else t.kept? k := by
  simp only [kept?, find?, entries_set]
  exact find?_insert _ t.entries k

/-- A key that is removed is not found, and every other one is found as before. -/
theorem find?_remove (t : Tracker) (key k : StatusKey) :
    (t.remove key).2.find? k = if k.same key then none else t.find? k := by
  simp only [find?, remove, List.find?_filter]
  by_cases hkey : k.same key = true
  · simp [hkey, StatusKey.same_congr_left hkey]
  · rw [if_neg hkey]
    congr 1
    funext e
    by_cases he : k.same e.key = true
    · have hother : key.same e.key = false := by
        rw [← Bool.not_eq_true]
        exact fun h => hkey (by rw [StatusKey.same_congr_left he, StatusKey.same_comm, h])
      simp [he, hother]
    · simp [he]

theorem kept?_remove (t : Tracker) (key k : StatusKey) :
    (t.remove key).2.kept? k = if k.same key then none else t.kept? k := by
  simp only [kept?, find?_remove]
  split <;> rfl

/-- What is kept for a key after a write, to that key or to another one. -/
theorem kept?_perform {t : Tracker} {act : Act} (hremove : ∀ k, act ≠ .remove k) (key : StatusKey) :
    (t.perform act).kept? key =
      (((act.write? t.markers).filter fun w => key.same w.key).map
        fun w => (w.status, w.uptime)).or (t.kept? key) := by
  obtain ⟨now, k, status, hwrite, h⟩ | ⟨k, hact, -⟩ | ⟨hwrite, -, h⟩ := t.perform_cases act
  · rw [h, hwrite, kept?_set]
    by_cases hkey : key.same k = true <;> simp [Option.filter, hkey]
  · exact absurd hact (hremove k)
  · simp [h, hwrite]

/-- **What is kept for a key is what was written to it last.** -/
theorem kept?_run (expiry : Option Nat) (markers : List Marker) (acts : List Act)
    (key : StatusKey) :
    (({ expiry, markers } : Tracker).run acts).kept? key =
      (written markers key acts).getLast?.map fun w => (w.status, w.uptime) := by
  induction acts using List.reverseRecOn with
  | nil => rfl
  | append_singleton acts act ih =>
    rw [run_append_singleton, written_append_singleton]
    have hmarkers : (({ expiry, markers } : Tracker).run acts).markers = markers :=
      (expiry_markers_run _ acts).2
    obtain ⟨now, k, status, hwrite, h⟩ | ⟨k, rfl, h⟩ | ⟨hwrite, hremove, h⟩ :=
      (({ expiry, markers } : Tracker).run acts).perform_cases act
    · rw [hmarkers] at hwrite
      rw [h, kept?_set, note_of_write? hwrite, ih]
      split <;> simp
    · rw [h, kept?_remove, ih, Act.note]
      split <;> simp
    · rw [hmarkers] at hwrite
      rw [h, note_of_write?_eq_none hwrite hremove, ih]

end Tracker

end PaneMux
