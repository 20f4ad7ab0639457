import PaneMux.Proofs.Agent.Writes

/-!
# What Observers Know

Observers of a tracker are told of a write if it changes what they see of the key. What they see may have
become idle before anyone wrote that, so a running status that is written to be idle only after it has
expired is the one write they are not told of: they were told that it runs and have to let it expire by
themselves. In all other cases the last they were told is the last that was written.

## Architecture

- **§1** what observers see of a key, in terms of what was written to it
- **§2** lapses (`Tracker.Lapsed`): idle is written once running has expired
- **§3** what one write tells observers, and what a run does
-/

namespace PaneMux.Tracker

variable {expiry : Option Nat} {markers : List Marker}

/-! ## §1 What is seen -/

/-- **A running status that is believed no more**, so that its key shows as idle. -/
def Write.Expired (expiry : Option Nat) (uptime : Nat) (w : Write) : Prop :=
  w.status = .running ∧ ∃ ttl, expiry = some ttl ∧ ttl ≤ uptime - w.uptime

theorem visible_of_expired {e : TrackedStatus} {w : Write} {uptime : Nat}
    (hstatus : e.status = w.status) (htouched : e.touched = w.uptime)
    (h : w.Expired expiry uptime) : e.visible expiry uptime = .idle := by
  obtain ⟨hrunning, ttl, rfl, hle⟩ := h
  rw [← htouched] at hle
  simp [TrackedStatus.visible, hstatus, hrunning, hle]

theorem visible_of_not_expired {e : TrackedStatus} {w : Write} {uptime : Nat}
    (hstatus : e.status = w.status) (htouched : e.touched = w.uptime)
    (h : ¬w.Expired expiry uptime) : e.visible expiry uptime = w.status := by
  unfold TrackedStatus.visible
  split
  case h_1 ttl hrunning =>
    rw [if_neg fun hle => h ⟨hstatus ▸ hrunning, _, rfl, htouched ▸ hle⟩, ← hstatus, hrunning]
  case h_2 => exact hstatus

theorem visible?_of_written_eq_nil (expiry : Option Nat) {acts : List Act} {key : StatusKey}
    (h : written markers key acts = []) (uptime : Nat) :
    (({ expiry, markers } : Tracker).run acts).visible? uptime key = none := by
  have hkept := kept?_run expiry markers acts key
  rw [h, kept?, List.getLast?_nil, Option.map_none, Option.map_eq_none_iff] at hkept
  rw [visible?, hkept, Option.map_none]

/-- **Observers see what was written last**, or idle if that has expired. -/
theorem visible?_of_written_eq_append (expiry : Option Nat) {acts : List Act} {key : StatusKey}
    {ws : List Write} {w : Write} (h : written markers key acts = ws ++ [w]) (uptime : Nat) :
    ∃ s, (({ expiry, markers } : Tracker).run acts).visible? uptime key = some s ∧
      (w.Expired expiry uptime → s = .idle) ∧ (¬w.Expired expiry uptime → s = w.status) := by
  have hkept := kept?_run expiry markers acts key
  rw [h, kept?, List.getLast?_concat, Option.map_some, Option.map_eq_some_iff] at hkept
  obtain ⟨e, he, hw⟩ := hkept
  obtain ⟨hstatus, htouched⟩ := Prod.mk.inj hw
  have hexpiry := (expiry_markers_run { expiry, markers } acts).1
  rw [visible?, he, hexpiry]
  exact ⟨_, rfl, visible_of_expired hstatus htouched, visible_of_not_expired hstatus htouched⟩

/-! ## §2 Lapses -/

/-- **The writes to a key end in a lapse**: after a running status nothing but idle was written, for the
    first time when it had expired. -/
def Lapsed (expiry : Option Nat) (ws : List Write) : Prop :=
  ∃ before w i rest, ws = before ++ w :: i :: rest ∧ w.Expired expiry i.uptime ∧
    ∀ x ∈ i :: rest, x.status = .idle

theorem not_lapsed_singleton (w : Write) : ¬Lapsed expiry [w] := by
  rintro ⟨before, w', i, rest, h, -⟩
  have := congrArg List.length h
  simp at this
  omega

/-- **A lapse goes on while idle is written**, and begins where idle is written behind an expired
    running status. -/
theorem lapsed_append_pair {ws : List Write} {l w : Write} :
    Lapsed expiry (ws ++ [l] ++ [w]) ↔
      w.status = .idle ∧ (Lapsed expiry (ws ++ [l]) ∨ l.Expired expiry w.uptime) := by
  constructor
  · rintro ⟨before, r, i, rest, hws, hexpired, hidle⟩
    obtain rfl | ⟨rest, y, rfl⟩ := rest.eq_nil_or_concat
    · have hfront : ws ++ [l] ++ [w] = before ++ [r] ++ [i] := by simpa using hws
      obtain ⟨hpair, hwi⟩ := List.append_inj' hfront rfl
      obtain ⟨-, hlr⟩ := List.append_inj' hpair rfl
      obtain rfl : w = i := by simpa using hwi
      obtain rfl : l = r := by simpa using hlr
      exact ⟨hidle w (by simp), .inr hexpired⟩
    · have hfront : ws ++ [l] ++ [w] = before ++ r :: i :: rest ++ [y] := by simpa using hws
      obtain ⟨hinit, hwy⟩ := List.append_inj' hfront rfl
      obtain rfl : w = y := by simpa using hwy
      exact ⟨hidle w (by simp), .inl ⟨before, r, i, rest, hinit, hexpired, fun x hx =>
        hidle x (by simpa [← or_assoc] using .inl (List.mem_cons.mp hx))⟩⟩
  · rintro ⟨hw, ⟨before, r, i, rest, hws, hexpired, hidle⟩ | hexpired⟩
    · refine ⟨before, r, i, rest ++ [w], by simp [hws], hexpired, ?_⟩
      intro x hx
      obtain hx | rfl : x ∈ i :: rest ∨ x = w := by simpa [or_assoc] using hx
      · exact hidle x hx
      · exact hw
    · exact ⟨ws, l, w, [], by simp, hexpired, by simpa using hw⟩

/-! ## §3 What is told -/

/-- The last status that observers were told for a key. -/
def told? (t : Tracker) (key : StatusKey) : Option AgentStatus :=
  (t.changes.filter fun c => key.same c.key).getLast?.map (·.status)

/-- **Observers are told of a write** under every spelling of its key, unless they see its status
    already. -/
theorem told?_set (t : Tracker) (now : Time.Moment) (key : StatusKey) (status : AgentStatus)
    (k : StatusKey) :
    (t.set now key status).2.told? k =
      if k.same key ∧ t.visible? now.uptime key ≠ some status then some status else t.told? k := by
  simp only [told?, set]
  by_cases hseen : t.visible? now.uptime key = some status
  · simp [hseen]
  · by_cases hkey : k.same key = true <;> simp [hseen, hkey]

@[simp] theorem told?_remove (t : Tracker) (key k : StatusKey) :
    (t.remove key).2.told? k = t.told? k := rfl

/-- What observers have been told of a key is what was written to it: all of it, unless the writes end
    in a lapse. -/
def Informed (expiry : Option Nat) (told : Option AgentStatus) (ws : List Write) : Prop :=
  ∀ w, ws.getLast? = some w →
    (¬Lapsed expiry ws → told = some w.status) ∧
    (Lapsed expiry ws → w.status = .idle ∧ told = some .running)

/-- Nothing was written. -/
theorem Informed.nil (told : Option AgentStatus) : Informed expiry told [] := by
  intro w hw
  cases hw

/-- The first write to a key. -/
theorem Informed.first (w : Write) : Informed expiry (some w.status) [w] := by
  intro w' hw'
  obtain rfl : w = w' := by simpa using hw'
  exact ⟨fun _ => rfl, fun h => absurd h (not_lapsed_singleton w)⟩

/-- **One more write**, where observers see `s`: idle if the write before has expired, and else what it
    wrote. -/
theorem Informed.append {told : Option AgentStatus} {ws : List Write} {l : Write}
    (h : Informed expiry told (ws ++ [l])) (w : Write) {s : AgentStatus}
    (hidle : l.Expired expiry w.uptime → s = .idle)
    (hlast : ¬l.Expired expiry w.uptime → s = l.status) :
    Informed expiry (if s = w.status then told else some w.status) (ws ++ [l] ++ [w]) := by
  intro w' hw'
  obtain rfl : w = w' := by simpa using hw'
  obtain ⟨hwhole, hlapsed⟩ := h l (by simp)
  rw [lapsed_append_pair]
  by_cases hexpired : l.Expired expiry w.uptime
  · have hnot : ¬Lapsed expiry (ws ++ [l]) := by
      intro hlapse
      have := hexpired.1.symm.trans (hlapsed hlapse).1
      contradiction
    rw [hidle hexpired]
    by_cases hw : w.status = .idle
    · rw [if_pos hw.symm, hwhole hnot, hexpired.1]
      exact ⟨fun hno => absurd ⟨hw, .inr hexpired⟩ hno, fun _ => ⟨hw, rfl⟩⟩
    · rw [if_neg (Ne.symm hw)]
      exact ⟨fun _ => rfl, fun hlapse => absurd hlapse.1 hw⟩
  · rw [hlast hexpired]
    by_cases hw : l.status = w.status
    · rw [if_pos hw]
      refine ⟨fun hno => ?_, fun ⟨hwidle, hor⟩ => ⟨hwidle, (hlapsed (hor.resolve_right hexpired)).2⟩⟩
      have hnot : ¬Lapsed expiry (ws ++ [l]) := fun hlapse =>
        hno ⟨hw.symm.trans (hlapsed hlapse).1, .inl hlapse⟩
      rw [hwhole hnot, hw]
    · rw [if_neg hw]
      refine ⟨fun _ => rfl, fun ⟨hwidle, hor⟩ => ?_⟩
      exact absurd ((hlapsed (hor.resolve_right hexpired)).1.trans hwidle.symm) hw

theorem visible?_congr (t : Tracker) (uptime : Nat) {a b : StatusKey} (h : a.same b = true) :
    t.visible? uptime a = t.visible? uptime b := by
  simp only [visible?, find?, StatusKey.same_congr_left h]

/-- **A write to a key** after any run. -/
theorem informed_set {acts : List Act} {key : StatusKey}
    (h : Informed expiry ((({ expiry, markers } : Tracker).run acts).told? key)
      (written markers key acts))
    (now : Time.Moment) {k : StatusKey} (hkey : key.same k = true) (status : AgentStatus) :
    Informed expiry (((({ expiry, markers } : Tracker).run acts).set now k status).2.told? key)
      (written markers key acts ++ [⟨k, status, now.uptime⟩]) := by
  rw [told?_set, ← visible?_congr _ _ hkey]
  obtain hws | ⟨ws, l, hws⟩ := (written markers key acts).eq_nil_or_concat
  · rw [visible?_of_written_eq_nil expiry hws, hws]
    simpa [hkey] using Informed.first ⟨k, status, now.uptime⟩
  · rw [List.concat_eq_append] at hws
    obtain ⟨s, hseen, hidle, hlast⟩ :=
      visible?_of_written_eq_append expiry hws now.uptime
    rw [hws] at h ⊢
    have := h.append ⟨k, status, now.uptime⟩ hidle hlast
    simpa [hkey, hseen, ite_not] using this

/-- **Whatever has happened**, observers of a key know what was written to it last unless that is idle
    behind an expired running status. -/
theorem informed_run (acts : List Act) (key : StatusKey) :
    Informed expiry ((({ expiry, markers } : Tracker).run acts).told? key)
      (written markers key acts) := by
  induction acts using List.reverseRecOn with
  | nil => exact .nil _
  | append_singleton acts act ih =>
    rw [run_append_singleton, written_append_singleton]
    have hmarkers : (({ expiry, markers } : Tracker).run acts).markers = markers :=
      (expiry_markers_run _ acts).2
    obtain ⟨now, k, status, hwrite, h⟩ | ⟨k, rfl, h⟩ | ⟨hwrite, hremove, h⟩ :=
      (({ expiry, markers } : Tracker).run acts).perform_cases act
    · rw [hmarkers] at hwrite
      rw [h, note_of_write? hwrite]
      by_cases hkey : key.same k = true
      · rw [if_pos hkey]
        exact informed_set ih now hkey status
      · simpa [told?_set, hkey] using ih
    · rw [h, told?_remove, Act.note]
      split
      · exact .nil _
      · exact ih
    · rw [hmarkers] at hwrite
      rw [h, note_of_write?_eq_none hwrite hremove]
      exact ih

/-- An action that writes nothing to a key. -/
def Act.Spares (markers : List Marker) (key : StatusKey) (act : Act) : Prop :=
  ∀ w, act.write? markers = some w → key.same w.key = false

theorem told?_perform_of_spares {t : Tracker} {key : StatusKey} {act : Act}
    (hspares : act.Spares t.markers key) : (t.perform act).told? key = t.told? key := by
  obtain ⟨now, k, status, hwrite, h⟩ | ⟨k, -, h⟩ | ⟨-, -, h⟩ := t.perform_cases act <;> rw [h]
  · simp [told?_set, hspares _ hwrite]
  · rfl

theorem told?_run_of_spares {t : Tracker} {key : StatusKey} (acts : List Act)
    (hspares : ∀ act ∈ acts, act.Spares t.markers key) : (t.run acts).told? key = t.told? key := by
  induction acts generalizing t with
  | nil => rfl
  | cons act acts ih =>
    have hmarkers := (t.expiry_markers_perform act).2
    have hrest : ∀ a ∈ acts, a.Spares (t.perform act).markers key := by
      rw [hmarkers]
      exact fun a ha => hspares a (List.mem_cons_of_mem _ ha)
    exact (ih hrest).trans (told?_perform_of_spares (hspares act List.mem_cons_self))

/-- **Observers know what was written last.** From the moment a status is written to a key, and for as
    long as nothing else is written to it, the last they were told of the key is that status. The one
    exception is idle written in a lapse: then the last they were told is the running status that has
    expired, and that they see as idle too. -/
theorem told?_after_write {act : Act} {w : Write} {key : StatusKey} (acts : List Act)
    {later : List Act} (hwrite : act.write? markers = some w) (hkey : key.same w.key = true)
    (hlater : ∀ a ∈ later, a.Spares markers key) :
    let ws := written markers key (acts ++ [act])
    let told := (({ expiry, markers } : Tracker).run (acts ++ act :: later)).told? key
    (¬Lapsed expiry ws → told = some w.status) ∧
      (Lapsed expiry ws → w.status = .idle ∧ told = some .running) := by
  intro ws told
  have hlast : ws.getLast? = some w := by
    simp [ws, written_append_singleton, note_of_write? hwrite, hkey]
  have hmarkers : (({ expiry, markers } : Tracker).run (acts ++ [act])).markers = markers :=
    (expiry_markers_run _ _).2
  have htold : told = (({ expiry, markers } : Tracker).run (acts ++ [act])).told? key := by
    rw [← told?_run_of_spares later fun a ha => by rw [hmarkers]; exact hlater a ha]
    simp [told, run]
  rw [htold]
  exact informed_run (acts ++ [act]) key w hlast

/-- A process that has reported running ends well, a moment before the report expires and when it has
    expired; afterwards another pane fails. -/
theorem told?_after_write_exit :
    let t : Tracker := { expiry := some 30000 }
    let report : Act := .scan ⟨⟨0, 0⟩, 0⟩ 1 (Utf8.encode "[agent:running]")
    let soon : Act := .recordExit ⟨⟨0, 0⟩, 29999⟩ 1 (some 0)
    let late : Act := .recordExit ⟨⟨0, 0⟩, 30000⟩ 1 (some 0)
    let other : Act := .recordExit ⟨⟨0, 0⟩, 50000⟩ 2 (some 1)
    (t.run ([report] ++ soon :: [other])).told? (.pane 1) = some .idle ∧
      (t.run ([report] ++ late :: [other])).told? (.pane 1) = some .running := by
  intro t report soon late other
  have hother : ∀ a ∈ [other], a.Spares Marker.builtIn (.pane 1) := by
    rintro a ha w hw
    obtain rfl : a = other := List.mem_singleton.mp ha
    obtain rfl : _ = w := Option.some.inj hw
    rfl
  have hlapsed (uptime : Nat) :
      Lapsed (some 30000) ([⟨.pane 1, .running, 0⟩] ++ [⟨.pane 1, .idle, uptime⟩]) ↔
        30000 ≤ uptime := by
    rw [← List.nil_append [_], lapsed_append_pair, List.nil_append]
    simp [not_lapsed_singleton, Write.Expired]
  constructor
  · exact (told?_after_write (w := ⟨.pane 1, .idle, 29999⟩) [report] rfl rfl hother).1
      (mt (hlapsed 29999).mp (by decide))
  · exact ((told?_after_write [report] rfl rfl hother).2 ((hlapsed 30000).mpr (Nat.le_refl _))).2

/-- Idle that is written when running has expired is not told, though it is what is written last. -/
theorem idle_after_expiry_untold :
    ¬∀ (expiry : Option Nat) (markers : List Marker) (acts : List Act) (act : Act) (w : Write),
      (∀ a ∈ acts, ∀ key, a ≠ .remove key) → act.write? markers = some w →
        (({ expiry, markers } : Tracker).run (acts ++ [act])).told? w.key = some w.status := by
  intro h
  have := h (some 30000) [] [.set ⟨⟨0, 0⟩, 0⟩ (.pane 1) .running]
    (.set ⟨⟨0, 0⟩, 30000⟩ (.pane 1) .idle) ⟨.pane 1, .idle, 30000⟩ (by simp) rfl
  revert this
  decide

end PaneMux.Tracker
