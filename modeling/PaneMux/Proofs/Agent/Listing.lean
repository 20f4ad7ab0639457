import Mathlib.Data.List.Forall2
import Mathlib.Data.List.Lex
import Mathlib.Data.Sum.Order
import PaneMux.Proofs.Agent.Changes
import PaneMux.Proofs.Text.Paths

/-!
# The List of Statuses

What a tracker shows is fixed by what was written to it: under every key the status that was written
last, unless it has expired, and in the list one entry for each key that has one, in the order of keys
and spelled as the key was spelled first. Neither depends on how paths are spelled otherwise.

## Architecture

- **§1** the order of keys, in which two keys are the same or one comes first
- **§2** entries in that order (`Tracker.Ordered`), and the spelling that is kept
- **§3** actions that differ in spelling (`Tracker.Act.Respells`)
- **§4** what is seen of a key, and the list
-/

namespace PaneMux

/-! ## §1 The order of keys -/

namespace StatusKey

variable {a b c : StatusKey}

/-- The place of a key in the order: panes by number, then paths by their components. -/
def place : StatusKey → ℕ ⊕ₗ List (ℕ ×ₗ String)
  | .pane id => toLex (.inl id)
  | .path p => toLex (.inr ((Path.components p).map Component.place))

/-- **Keys are in the order of their places.** -/
theorem less_iff : a.less b = true ↔ a.place < b.place := by
  cases a <;> cases b <;> simp [less, place, Path.less, Path.lessList_iff]

/-- Two spellings of a key have one place. -/
theorem same_iff_place : a.same b = true ↔ a.place = b.place := by
  have hpaths := List.map_injective_iff.mpr Component.place_injective
  cases a <;> cases b <;> simp [same, place, Path.same, hpaths.eq_iff]

theorem less_trans (hab : a.less b = true) (hbc : b.less c = true) : a.less c = true :=
  less_iff.mpr ((less_iff.mp hab).trans (less_iff.mp hbc))

/-- A key does not come before another spelling of itself. -/
theorem not_same_of_less (h : a.less b = true) : a.same b = false := by
  rw [← Bool.not_eq_true, same_iff_place]
  exact (less_iff.mp h).ne

/-- **Of two keys that are not the same one comes first.** -/
theorem less_of_not (hsame : ¬a.same b = true) (hless : ¬a.less b = true) : b.less a = true := by
  rw [same_iff_place] at hsame
  rw [less_iff] at hless ⊢
  exact lt_of_le_of_ne (not_lt.mp hless) (Ne.symm hsame)

/-- What comes before a key comes before all its spellings. -/
theorem less_of_same_left (hsame : a.same b = true) (h : a.less c = true) : b.less c = true := by
  rw [less_iff, ← same_iff_place.mp hsame]
  exact less_iff.mp h

theorem less_of_same_right (hsame : a.same b = true) (h : c.less a = true) : c.less b = true := by
  rw [less_iff, ← same_iff_place.mp hsame]
  exact less_iff.mp h

/-- Spellings of one path are one key. -/
theorem path_same_of_respelled {p q : String} (h : Path.Respelled p q) :
    (path p).same (path q) = true :=
  same_iff.mpr (congrArg Sum.inr (Path.components_of_respelled h))

end StatusKey

namespace Tracker

variable {expiry : Option Nat} {markers : List Marker}

/-! ## §2 Entries in order -/

/-- **The keys of entries rise strictly.** -/
def Ordered (entries : List TrackedStatus) : Prop :=
  entries.Pairwise fun a b => a.key.less b.key = true

/-- An entry that is put in takes its place among the others, or the place of the one with its key. -/
theorem mem_insert {e x : TrackedStatus} {entries : List TrackedStatus} (h : x ∈ e.insert entries) :
    e.key.same x.key = true ∨ x ∈ entries := by
  induction entries with
  | nil =>
    obtain rfl := List.mem_singleton.mp h
    exact .inl (StatusKey.same_self _)
  | cons old rest ih =>
    unfold TrackedStatus.insert at h
    split at h
    case isTrue hsame =>
      rcases List.mem_cons.mp h with rfl | hx
      · exact .inl hsame
      · exact .inr (List.mem_cons_of_mem _ hx)
    case isFalse =>
      split at h
      case isTrue =>
        rcases List.mem_cons.mp h with rfl | hx
        · exact .inl (StatusKey.same_self _)
        · exact .inr hx
      case isFalse =>
        rcases List.mem_cons.mp h with rfl | hx
        · exact .inr List.mem_cons_self
        · exact (ih hx).imp id (List.mem_cons_of_mem _)

/-- **An entry that is put in keeps the order.** -/
theorem Ordered.insert {entries : List TrackedStatus} (h : Ordered entries) (e : TrackedStatus) :
    Ordered (e.insert entries) := by
  induction entries with
  | nil => exact List.pairwise_singleton _ _
  | cons old rest ih =>
    obtain ⟨hfirst, hrest⟩ := List.pairwise_cons.mp h
    unfold TrackedStatus.insert
    split
    case isTrue => exact List.pairwise_cons.mpr ⟨hfirst, hrest⟩
    case isFalse hsame =>
      split
      case isTrue hless =>
        refine List.pairwise_cons.mpr ⟨fun x hx => ?_, h⟩
        rcases List.mem_cons.mp hx with rfl | hx
        · exact hless
        · exact StatusKey.less_trans hless (hfirst x hx)
      case isFalse hless =>
        -- the entry goes somewhere behind the first one
        refine List.pairwise_cons.mpr ⟨fun x hx => ?_, ih hrest⟩
        rcases mem_insert hx with hx | hx
        · exact StatusKey.less_of_same_right hx (StatusKey.less_of_not hsame hless)
        · exact hfirst x hx

/-- Nothing has a key that comes before the first one. -/
theorem Ordered.find?_eq_none {entries : List TrackedStatus} {old : TrackedStatus}
    (h : Ordered (old :: entries)) {key : StatusKey} (hless : key.less old.key = true) :
    (old :: entries).find? (fun x => key.same x.key) = none := by
  refine List.find?_eq_none.mpr fun x hx => ?_
  rw [Bool.not_eq_true]
  apply StatusKey.not_same_of_less
  rcases List.mem_cons.mp hx with rfl | hx
  · exact hless
  · exact StatusKey.less_trans hless ((List.pairwise_cons.mp h).1 x hx)

/-- **A key is the only one of its kind.** -/
theorem Ordered.filter_same {entries : List TrackedStatus} (h : Ordered entries) (key : StatusKey) :
    (entries.filter fun x => key.same x.key) = (entries.find? fun x => key.same x.key).toList := by
  induction entries with
  | nil => rfl
  | cons old rest ih =>
    obtain ⟨hfirst, hrest⟩ := List.pairwise_cons.mp h
    by_cases hold : key.same old.key = true
    · have hothers : (rest.filter fun x => key.same x.key) = [] := by
        refine List.filter_eq_nil_iff.mpr fun x hx => ?_
        rw [StatusKey.same_congr_left hold, StatusKey.not_same_of_less (hfirst x hx)]
        exact Bool.false_ne_true
      simp [hold, hothers]
    · simpa [hold] using ih hrest

/-- The spelling that is kept of a key. -/
def spelling? (t : Tracker) (key : StatusKey) : Option StatusKey := (t.find? key).map (·.key)

/-- **An entry that is there keeps its spelling**, and a new one is spelled as it is put in. -/
theorem Ordered.spelling_insert {entries : List TrackedStatus} (h : Ordered entries)
    (e : TrackedStatus) (key : StatusKey) :
    ((e.insert entries).find? fun x => key.same x.key).map (·.key) =
      if key.same e.key then
        some (((entries.find? fun x => key.same x.key).map (·.key)).getD e.key)
      else (entries.find? fun x => key.same x.key).map (·.key) := by
  induction entries with
  | nil => by_cases hkey : key.same e.key = true <;> simp [TrackedStatus.insert, hkey]
  | cons old rest ih =>
    unfold TrackedStatus.insert
    by_cases hold : e.key.same old.key = true
    · have hsame : key.same old.key = key.same e.key := (StatusKey.same_congr hold key).symm
      by_cases hkey : key.same e.key = true <;> simp [hold, hsame, hkey]
    · by_cases hless : e.key.less old.key = true
      · by_cases hkey : key.same e.key = true
        · -- nothing was there under this key
          have hnone := h.find?_eq_none
            (StatusKey.less_of_same_left (StatusKey.same_comm .. ▸ hkey) hless)
          simp [hold, hless, hkey, hnone]
        · simp [hold, hless, hkey]
      · simp only [hold, hless, Bool.false_eq_true, if_false, List.find?_cons]
        by_cases hkey : key.same old.key = true
        · have hother : key.same e.key = false := by
            rw [← Bool.not_eq_true]
            exact fun h => hold (StatusKey.same_of_same h hkey)
          simp [hkey, hother]
        · simp only [hkey]
          exact ih (List.pairwise_cons.mp h).2

theorem Ordered.perform {t : Tracker} (h : Ordered t.entries) (act : Act) :
    Ordered (t.perform act).entries := by
  obtain ⟨now, key, status, -, hact⟩ | ⟨key, -, hact⟩ | ⟨-, -, hact⟩ := t.perform_cases act <;>
    rw [hact]
  · rw [entries_set]
    exact h.insert _
  · exact List.Pairwise.filter _ h
  · exact h

/-- **Entries are in order**, whatever has happened. -/
theorem ordered_run (acts : List Act) : Ordered (({ expiry, markers } : Tracker).run acts).entries := by
  induction acts using List.reverseRecOn with
  | nil => exact List.Pairwise.nil
  | append_singleton acts act ih =>
    rw [run_append_singleton]
    exact ih.perform act

/-- **A key is spelled as it was written first.** -/
theorem spelling?_run (expiry : Option Nat) (markers : List Marker) (acts : List Act)
    (key : StatusKey) :
    (({ expiry, markers } : Tracker).run acts).spelling? key =
      (written markers key acts).head?.map (·.key) := by
  induction acts using List.reverseRecOn with
  | nil => rfl
  | append_singleton acts act ih =>
    rw [run_append_singleton, written_append_singleton]
    have hmarkers : (({ expiry, markers } : Tracker).run acts).markers = markers :=
      (expiry_markers_run _ acts).2
    obtain ⟨now, k, status, hwrite, h⟩ | ⟨k, rfl, h⟩ | ⟨hwrite, hremove, h⟩ :=
      (({ expiry, markers } : Tracker).run acts).perform_cases act
    · rw [hmarkers] at hwrite
      rw [h, note_of_write? hwrite, spelling?, find?, entries_set,
        (ordered_run acts).spelling_insert]
      simp only [spelling?, find?] at ih
      rw [ih]
      split
      · cases written markers key acts <;> rfl
      · rfl
    · rw [h, Act.note, spelling?, find?_remove]
      split
      · rfl
      · exact ih
    · rw [hmarkers] at hwrite
      rw [h, note_of_write?_eq_none hwrite hremove]
      exact ih

/-! ## §3 Spellings -/

end Tracker

/-- Two spellings of a key: those of a path may differ in separators that do not count. -/
inductive StatusKey.Respelled : StatusKey → StatusKey → Prop
  | pane (id : Nat) : Respelled (.pane id) (.pane id)
  | path {p q : String} (h : Path.Respelled p q) : Respelled (.path p) (.path q)

theorem StatusKey.Respelled.same {a b : StatusKey} (h : a.Respelled b) : a.same b = true := by
  cases h with
  | pane id => exact same_self _
  | path h => exact path_same_of_respelled h

namespace Tracker

variable {expiry : Option Nat} {markers : List Marker}

/-- **Two actions that differ in the spelling of a key only.** -/
inductive Act.Respelled : Act → Act → Prop
  | set {key key' : StatusKey} (h : key.Respelled key') (now : Time.Moment) (status : AgentStatus) :
      Respelled (.set now key status) (.set now key' status)
  | scan (now : Time.Moment) (pane : Nat) (data : Bytes) :
      Respelled (.scan now pane data) (.scan now pane data)
  | recordExit (now : Time.Moment) (pane : Nat) (code : Option Int32) :
      Respelled (.recordExit now pane code) (.recordExit now pane code)
  | remove {key key' : StatusKey} (h : key.Respelled key') : Respelled (.remove key) (.remove key')

/-- Entries that say the same of one key. -/
structure Agrees (a b : TrackedStatus) : Prop where
  key : a.key.same b.key = true
  status : a.status = b.status
  updatedAt : a.updatedAt = b.updatedAt
  touched : a.touched = b.touched

theorem Agrees.visible {a b : TrackedStatus} (h : Agrees a b) (expiry : Option Nat) (uptime : Nat) :
    a.visible expiry uptime = b.visible expiry uptime := by
  simp only [TrackedStatus.visible, h.status, h.touched]

/-- **Entries that agree are put in at the same place.** -/
theorem Agrees.insert {a b : TrackedStatus} (h : Agrees a b) {as bs : List TrackedStatus}
    (hentries : List.Forall₂ Agrees as bs) :
    List.Forall₂ Agrees (a.insert as) (b.insert bs) := by
  induction hentries with
  | nil => exact .cons h .nil
  | @cons old old' as bs hold hrest ih =>
    have hsame : a.key.same old.key = b.key.same old'.key := by
      rw [StatusKey.same_congr_left h.key, StatusKey.same_congr hold.key]
    have hless : a.key.less old.key = b.key.less old'.key := by
      rw [Bool.eq_iff_iff, StatusKey.less_iff, StatusKey.less_iff,
        StatusKey.same_iff_place.mp h.key, StatusKey.same_iff_place.mp hold.key]
    unfold TrackedStatus.insert
    rw [← hsame, ← hless]
    split
    · exact .cons ⟨hold.key, h.status, h.updatedAt, h.touched⟩ hrest
    · split
      · exact .cons h (.cons hold hrest)
      · exact .cons hold ih

/-- Under two spellings of a key the same is seen of entries that agree. -/
theorem visible?_eq_of_agrees {t t' : Tracker} (hexpiry : t.expiry = t'.expiry)
    (hentries : List.Forall₂ Agrees t.entries t'.entries) {key key' : StatusKey}
    (hkey : key.same key' = true) (uptime : Nat) :
    t.visible? uptime key = t'.visible? uptime key' := by
  simp only [visible?, find?, ← hexpiry]
  generalize t.entries = entries, t'.entries = entries' at hentries
  induction hentries with
  | nil => rfl
  | cons h hrest ih =>
    have hsame := (StatusKey.same_congr_left hkey _).trans (StatusKey.same_congr h.key key')
    simp only [List.find?_cons, hsame]
    split
    · exact congrArg some (h.visible _ _)
    · exact ih

theorem agrees_set {t t' : Tracker} (hentries : List.Forall₂ Agrees t.entries t'.entries)
    (now : Time.Moment) {key key' : StatusKey} (hkey : key.same key' = true)
    (status : AgentStatus) :
    List.Forall₂ Agrees (t.set now key status).2.entries (t'.set now key' status).2.entries := by
  rw [entries_set, entries_set]
  have hentry : Agrees ⟨key, status, now.wall, now.uptime⟩ ⟨key', status, now.wall, now.uptime⟩ :=
    ⟨hkey, rfl, rfl, rfl⟩
  exact hentry.insert hentries

/-- **An action does the same under another spelling.** -/
theorem agrees_perform {t t' : Tracker} (hmarkers : t.markers = t'.markers)
    (hentries : List.Forall₂ Agrees t.entries t'.entries) {act act' : Act}
    (hact : act.Respelled act') :
    List.Forall₂ Agrees (t.perform act).entries (t'.perform act').entries := by
  cases hact with
  | set h now status => exact agrees_set hentries now h.same status
  | scan now pane data =>
    simp only [perform, scan, ← hmarkers]
    split
    · exact agrees_set hentries now (StatusKey.same_self _) _
    · exact hentries
  | recordExit now pane code => exact agrees_set hentries now (StatusKey.same_self _) _
  | remove h =>
    refine List.rel_filter (fun e e' he => ?_) hentries
    show (!_) = true ↔ (!_) = true
    rw [StatusKey.same_congr_left h.same, StatusKey.same_congr he.key]

theorem agrees_run {t t' : Tracker} (hmarkers : t.markers = t'.markers)
    (hentries : List.Forall₂ Agrees t.entries t'.entries) {acts acts' : List Act}
    (hacts : List.Forall₂ Act.Respelled acts acts') :
    List.Forall₂ Agrees (t.run acts).entries (t'.run acts').entries := by
  induction hacts generalizing t t' with
  | nil => exact hentries
  | @cons act act' acts acts' hact hrest ih =>
    refine ih ?_ (agrees_perform hmarkers hentries hact)
    rw [(expiry_markers_perform t act).2, (expiry_markers_perform t' act').2, hmarkers]

/-! ## §4 What is shown -/

/-- **A key shows what was written to it last**, unless that has expired. -/
theorem get_eq_of_written (expiry : Option Nat) {acts : List Act} {key : StatusKey} {w : Write}
    (h : (written markers key acts).getLast? = some w) (uptime : Nat) :
    let t := ({ expiry, markers } : Tracker).run acts
    (w.Expired expiry uptime → t.get uptime key = .idle) ∧
      (¬w.Expired expiry uptime → t.get uptime key = w.status) := by
  intro t
  obtain ⟨ws, hws⟩ := List.getLast?_eq_some_iff.mp h
  obtain ⟨s, hseen, hidle, hlast⟩ := visible?_of_written_eq_append expiry hws uptime
  rw [get, hseen]
  exact ⟨hidle, hlast⟩

/-- **A key has one entry in the list if anything was written to it**, and else none. -/
theorem filter_list (expiry : Option Nat) (markers : List Marker) (acts : List Act) (uptime : Nat)
    (key : StatusKey) :
    let t := ({ expiry, markers } : Tracker).run acts
    ((t.list uptime).filter fun e => key.same e.key).map (fun e => (e.key, e.status)) =
      ((written markers key acts).head?.map fun w => (w.key, t.get uptime key)).toList := by
  intro t
  have hspelling := spelling?_run expiry markers acts key
  have hordered : Ordered t.entries := ordered_run acts
  have hfilter := hordered.filter_same key
  simp only [list, List.filter_map, List.map_map, Function.comp_def]
  rw [hfilter]
  show ((t.find? key).toList.map _) = _
  cases hfind : t.find? key with
  | none =>
    rw [spelling?, hfind, Option.map_none, eq_comm, Option.map_eq_none_iff] at hspelling
    rw [hspelling]
    rfl
  | some e =>
    rw [spelling?, hfind, Option.map_some, eq_comm, Option.map_eq_some_iff] at hspelling
    obtain ⟨w, hw, hkey⟩ := hspelling
    rw [hw, get, visible?, hfind]
    simp [hkey]

/-- **A tracker shows what was written to it**, and the spelling of paths makes no difference. -/
theorem shown_as_written (expiry : Option Nat) (markers : List Marker) (acts : List Act)
    (uptime : Nat) :
    let t := ({ expiry, markers } : Tracker).run acts
    (∀ key,
      (written markers key acts = [] → t.get uptime key = .idle) ∧
      ∀ w, (written markers key acts).getLast? = some w →
        (w.Expired expiry uptime → t.get uptime key = .idle) ∧
        (¬w.Expired expiry uptime → t.get uptime key = w.status)) ∧
    (t.list uptime).Pairwise (fun a b => a.key.less b.key = true) ∧
    (∀ key, ((t.list uptime).filter fun e => key.same e.key).map (fun e => (e.key, e.status)) =
      ((written markers key acts).head?.map fun w => (w.key, t.get uptime key)).toList) ∧
    ∀ acts', List.Forall₂ Act.Respelled acts acts' →
      let t' := ({ expiry, markers } : Tracker).run acts'
      (∀ key key', key.Respelled key' → t.get uptime key = t'.get uptime key') ∧
      List.Forall₂ (fun e e' => e.key.same e'.key = true ∧ e.status = e'.status)
        (t.list uptime) (t'.list uptime) := by
  intro t
  refine ⟨fun key => ⟨fun hnone => ?_, fun w hw => get_eq_of_written expiry hw uptime⟩, ?_,
    filter_list expiry markers acts uptime, fun acts' hacts => ?_⟩
  · rw [get, visible?_of_written_eq_nil expiry hnone, Option.getD_none]
  · exact List.pairwise_map.mpr (ordered_run acts)
  · intro t'
    have hexpiry : t.expiry = t'.expiry :=
      (expiry_markers_run _ acts).1.trans (expiry_markers_run _ acts').1.symm
    have hentries : List.Forall₂ Agrees t.entries t'.entries := agrees_run rfl .nil hacts
    constructor
    · intro key key' hkey
      rw [get, get, visible?_eq_of_agrees hexpiry hentries hkey.same]
    · refine List.forall₂_map_left_iff.mpr (List.forall₂_map_right_iff.mpr ?_)
      refine hentries.imp fun e e' he => ⟨he.key, ?_⟩
      rw [hexpiry]
      exact he.visible _ _

/-- A report on a directory that is repeated in time, under another spelling each time, beside a pane
    that is forgotten. -/
theorem shown_as_written_respelled :
    let now (uptime : Nat) : Time.Moment := ⟨⟨0, 0⟩, uptime⟩
    let acts (first again : String) : List Act :=
      [.set (now 0) (.path first) .running, .recordExit (now 5000) 9 (some 1),
        .scan (now 6000) 2 (Utf8.encode "[agent:warning]"), .remove (.pane 9),
        .set (now 20000) (.path again) .running]
    let t := ({ expiry := some 30000 } : Tracker).run (acts "/w//a/" "/w/./a")
    let t' := ({ expiry := some 30000 } : Tracker).run (acts "/w/a/" "/w/a")
    t.get 49999 (.path "/w/a") = .running ∧ t.get 50000 (.path "/w/a") = .idle ∧
      t'.get 50000 (.path "/w//a") = .idle ∧
      ((t.list 50000).filter fun e => (StatusKey.path "/w/a").same e.key).map
        (fun e => (e.key, e.status)) = [(.path "/w//a/", .idle)] ∧
      ((t.list 50000).filter fun e => (StatusKey.pane 9).same e.key) = [] := by
  intro now acts t t'
  have hlast : (written Marker.builtIn (.path "/w/a") (acts "/w//a/" "/w/./a")).getLast? =
      some ⟨.path "/w/./a", .running, 20000⟩ := by decide +kernel
  have hfirst : (written Marker.builtIn (.path "/w/a") (acts "/w//a/" "/w/./a")).head? =
      some ⟨.path "/w//a/", .running, 0⟩ := by decide +kernel
  have hnone : (written Marker.builtIn (.pane 9) (acts "/w//a/" "/w/./a")).head? = none := by
    decide +kernel
  have hdoubled : Path.Respelled "/w//a" "/w/a" := .rel _ _ (.doubled "/w" "a")
  have hslash : Path.Respelled "/w//a/" "/w/a/" := .rel _ _ (.doubled "/w" "a/")
  have hdot : Path.Respelled "/w/./a" "/w/a" := .rel _ _ (.dot "/w" "a")
  have hacts : List.Forall₂ Act.Respelled (acts "/w//a/" "/w/./a") (acts "/w/a/" "/w/a") :=
    .cons (.set (.path hslash) _ _) <| .cons (.recordExit _ _ _) <| .cons (.scan _ _ _) <|
      .cons (.remove (.pane 9)) <| .cons (.set (.path hdot) _ _) .nil
  obtain ⟨hsoon, -⟩ := shown_as_written (some 30000) Marker.builtIn (acts "/w//a/" "/w/./a") 49999
  obtain ⟨hlate, -, hlist, hrespelled⟩ :=
    shown_as_written (some 30000) Marker.builtIn (acts "/w//a/" "/w/./a") 50000
  have hidle : t.get 50000 (.path "/w/a") = .idle :=
    ((hlate _).2 _ hlast).1 ⟨rfl, 30000, rfl, Nat.le_refl _⟩
  refine ⟨((hsoon _).2 _ hlast).2 ?_, hidle, ?_, ?_, ?_⟩
  · rintro ⟨-, ttl, httl, hle⟩
    obtain rfl := Option.some.inj httl
    exact absurd hle (by decide)
  · rw [← (hrespelled _ hacts).1 _ _ (.path (.symm _ _ hdoubled))]
    exact hidle
  · rw [hlist, hfirst, Option.map_some, hidle]
    rfl
  · have hpane := hlist (.pane 9)
    rw [hnone, Option.map_none, Option.toList_none, List.map_eq_nil_iff] at hpane
    exact hpane

end Tracker

end PaneMux
