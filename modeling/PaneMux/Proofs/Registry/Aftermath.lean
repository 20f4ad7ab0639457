import PaneMux.Proofs.Agent.Writes
import PaneMux.Proofs.Registry.Effects
import PaneMux.Proofs.Registry.Ownership

/-!
# The Status of a Closed Pane

Closing a pane takes its status away at once, but not its process: that is brought to its end later, and
until then its reader goes on and reports what it reads and how the process ends. A status that comes in
this way is kept under the identifier of a pane that is gone. Nothing that callers do can bring one
about, and nothing they do can take it away.

## Architecture

- **§1** the status kept for a pane (`Panes.status?`), and panes that are gone (`Panes.Clears`): one that
  is gone stays gone with the status it has, and one that goes loses its own
- **§2** the same for every action of a registry that is no callback of a reader
- **§3** callbacks, as actions and on their own (`Registry.Turn`), and what they write (`Turn.writes`)
- **§4** what is listed under the identifier of a closed pane
-/

namespace PaneMux

namespace Panes

/-! ## §1 Panes that are gone -/

/-- The status kept under the identifier of a pane, and when it was written. -/
def status? (p : Panes) (id : Nat) : Option (AgentStatus × Nat) := p.status.kept? (.pane id)

/-- The identifiers of the panes there are. -/
def ids (p : Panes) : List Nat := p.owners.map Prod.fst

theorem contains_iff {p : Panes} {id : Nat} : p.contains id = true ↔ id ∈ p.ids := by
  rw [contains, find?, Keyed.isSome_find?_iff, ids, owners, List.map_map]
  rfl

/-- **Nobody is heard of again**: of panes with an identifier that has been given out, one that is gone
    stays gone and keeps the status it has, and one that goes has none any more. -/
structure Clears (p p' : Panes) : Prop where
  next_le : p.nextId ≤ p'.nextId
  gone : ∀ id < p.nextId, id ∉ p.ids → id ∉ p'.ids ∧ p'.status? id = p.status? id
  goes : ∀ id < p.nextId, id ∈ p.ids → id ∉ p'.ids → p'.status? id = none

namespace Clears

variable {p p' p'' : Panes}

theorem trans (h : p.Clears p') (h' : p'.Clears p'') : p.Clears p'' where
  next_le := Nat.le_trans h.next_le h'.next_le
  gone id hid hgone := by
    obtain ⟨hgone', hstatus⟩ := h.gone id hid hgone
    obtain ⟨hgone'', hstatus'⟩ := h'.gone id (Nat.lt_of_lt_of_le hid h.next_le) hgone'
    exact ⟨hgone'', hstatus'.trans hstatus⟩
  goes id hid hlive hgone := by
    have hid' := Nat.lt_of_lt_of_le hid h.next_le
    by_cases hlive' : id ∈ p'.ids
    · exact h'.goes id hid' hlive' hgone
    · -- it went with the first of the two, and stays as it is
      rw [(h'.gone id hid' hlive').2]
      exact h.goes id hid hlive hlive'

/-- The panes stay the same ones, and only their own statuses change. -/
theorem of_owners_eq (howners : p'.owners = p.owners) (hnext : p'.nextId = p.nextId)
    (hstatus : ∀ id ∉ p.ids, p'.status? id = p.status? id) : p.Clears p' where
  next_le := Nat.le_of_eq hnext.symm
  gone id _ hgone := ⟨by rw [ids, howners]; exact hgone, hstatus id hgone⟩
  goes id _ hlive hgone := by
    rw [ids, howners] at hgone
    exact absurd hlive hgone

/-- The panes stay the same ones, and so do all statuses. -/
theorem of_keeps (h : p.Keeps p') (hstatus : p'.status = p.status) : p.Clears p' :=
  of_owners_eq h.owners_eq h.nextId_eq fun id _ => by rw [status?, hstatus]; rfl

theorem refl (p : Panes) : p.Clears p := of_keeps (.refl p) rfl

/-- A pane that is made has an identifier that nobody had. -/
theorem of_makes {session : Nat} {d : PaneDescriptor} (h : p.Makes p' session d)
    (hstatus : p'.status = p.status) : p.Clears p' where
  next_le := by rw [h.nextId_eq]; exact Nat.le_succ _
  gone id hid hgone := by
    refine ⟨?_, by rw [status?, hstatus]; rfl⟩
    rw [ids, h.owners_eq, List.map_append]
    intro hmem
    rcases List.mem_append.mp hmem with hmem | hmem
    · exact hgone hmem
    · exact Nat.ne_of_lt hid (List.mem_singleton.mp hmem)
  goes id _ hlive hgone := by
    rw [ids, h.owners_eq, List.map_append] at hgone
    exact absurd (List.mem_append_left _ hlive) hgone

theorem of_attempts {session : Nat} {outcome : Except RequestError PaneDescriptor × Panes}
    (h : p.Attempts session outcome) (hstatus : outcome.2.status = p.status) :
    p.Clears outcome.2 := by
  unfold Attempts at h
  split at h
  · exact of_makes h hstatus
  · exact of_keeps h hstatus

/-- **Closing a pane** takes its status away and no other. -/
theorem close (p : Panes) (uptime : Nat) (how : Teardown) (id : Nat) :
    p.Clears (p.close uptime how id).2 := by
  have hcloses := p.closes_close uptime how id
  have hids : (p.close uptime how id).2.ids = p.ids.filter (· ≠ id) := by
    rw [ids, hcloses.owners_eq, ids, List.filter_map]
    simp [Function.comp_def]
  cases hfind : p.find? id with
  | none =>
    have hclose : (p.close uptime how id).2 = p := by simp [Panes.close, hfind]
    rw [hclose]
    exact refl p
  | some r =>
    have hstatus : (p.close uptime how id).2.status = (p.status.remove (.pane id)).2 :=
      congrArg Prod.fst (aside_close hfind uptime how)
    constructor
    case next_le => exact Nat.le_of_eq hcloses.nextId_eq.symm
    case gone =>
      intro id' _ hgone
      have hne : id' ≠ id := by
        rintro rfl
        exact hgone (List.mem_map.mpr ⟨_, mem_owners_of_find? hfind, rfl⟩)
      refine ⟨fun hmem => hgone ?_, ?_⟩
      · rw [hids] at hmem
        exact (List.mem_filter.mp hmem).1
      · rw [status?, hstatus, Tracker.kept?_remove, if_neg (by simpa [StatusKey.same] using hne)]
        rfl
    case goes =>
      intro id' _ hlive hgone
      obtain rfl : id' = id := by
        by_contra hne
        exact hgone (by rw [hids]; exact List.mem_filter.mpr ⟨hlive, by simpa using hne⟩)
      rw [status?, hstatus, Tracker.kept?_remove, if_pos (StatusKey.same_self _)]

theorem through : Through Clears where
  refl := refl
  trans := trans
  emit _ _ := of_owners_eq rfl rfl fun _ _ => rfl
  close := close

end Clears

end Panes

/-! ## §2 Actions -/

namespace Registry

variable {r : Registry}

/-- A callback: the reader of a pane tells what it has read, or how the process has ended. -/
def Act.isCallback : Act → Bool
  | .output .. | .ended .. => true
  | _ => false

theorem mem_ids_of_checkStatusKey {id : Nat} (h : r.checkStatusKey (.pane id) = .ok ()) :
    id ∈ r.panes.ids := by
  cases hfind : r.panes.find? id with
  | some record => exact List.mem_map.mpr ⟨_, Panes.mem_owners_of_find? hfind, rfl⟩
  | none =>
    simp only [checkStatusKey, Panes.find, hfind] at h
    cases h

/-- Statuses are written for panes that there are, and for paths. -/
theorem clears_setAgentStatus (r : Registry) (now : Time.Moment) (key : StatusKey)
    (status : AgentStatus) : r.panes.Clears (r.setAgentStatus now key status).2.panes := by
  unfold setAgentStatus
  split
  · exact .refl _
  · rename_i hcheck
    refine .of_owners_eq rfl rfl fun id hgone => ?_
    have hother : (StatusKey.pane id).same key = false := by
      cases key with
      | path path => rfl
      | pane id' =>
        have hne : id ≠ id' := by
          rintro rfl
          exact hgone (mem_ids_of_checkStatusKey hcheck)
        simpa [StatusKey.same] using hne
    exact (r.panes.status.kept?_set now key status (.pane id)).trans (by rw [hother]; rfl)

/-- Time passes without a word on statuses. -/
theorem keeps_elapse (h : r.Consistent) (probe : Probe) (clock : Clock) (uptime : Nat) :
    r.panes.Keeps (r.elapse probe clock uptime).panes := by
  have hkeeps := h.keeps_due uptime
  unfold elapse sampleDue
  dsimp only
  split
  · exact hkeeps
  · split
    · exact hkeeps.trans (.of_eq rfl rfl rfl rfl)
    · exact hkeeps

/-- **Callers neither bring back nor take away** what is kept for a pane that is gone, and they take
    away what is kept for a pane that they close. -/
theorem clears_perform (h : r.Consistent) {act : Act} (hact : act.isCallback = false) :
    r.panes.Clears (r.perform act).panes := by
  refine Panes.Clears.through.perform ?_
  -- the operation of the action: only one that writes statuses is more than a change of panes
  by_cases hstatus : act.tellsAside = true
  · cases act with
    | subscribe id =>
      have hkept : (r.panes.subscribe id).2.status = r.panes.status := by
        unfold Panes.subscribe
        split <;> rfl
      exact .of_keeps (r.panes.keeps_subscribe id) hkept
    | setAgentStatus now key status => exact r.clears_setAgentStatus now key status
    | output _ _ _ | ended _ _ _ => cases hact
    | _ => cases hstatus
  · have haside := Panes.status_eq_of_aside (r.aside_operate (Bool.not_eq_true _ ▸ hstatus))
    cases act with
    | createTerminal spawn now session o =>
      exact .of_attempts (r.panes.attempts_createTerminal spawn now.wall session o) haside
    | createPane now session kind o =>
      exact .of_attempts (r.panes.attempts_createPane now.wall session kind o) haside
    | focusPane now id => exact .of_keeps (r.panes.keeps_touch now id) haside
    | renamePane now id title =>
      exact .of_keeps (Panes.keeps_rename h.tidy.nodup_records now id title) haside
    | resizePane now how id size => exact .of_keeps (r.panes.keeps_resize now how id size) haside
    | sendInput now id data => exact .of_keeps (r.panes.keeps_sendInput now id data) haside
    | receive subscription => exact .of_keeps (r.panes.keeps_receive subscription) haside
    | elapse probe clock uptime => exact .of_keeps (keeps_elapse h probe clock uptime) haside
    | subscribe _ | setAgentStatus _ _ _ | output _ _ _ | ended _ _ _ => exact absurd rfl hstatus
    | _ => exact .of_owners_eq rfl rfl fun _ _ => rfl

end Registry

/-! ## §3 Callbacks -/

namespace Panes

/-- What is made of some output of a pane before subscribers have it. -/
def hear (p : Panes) (now : Time.Moment) (id : Nat) (data : Bytes) : Panes :=
  { p with status := (p.status.scan now id data).2 }

/-- What is made of the end of a process before subscribers are told. -/
def notice (p : Panes) (now : Time.Moment) (id : Nat) (code : Option Int32) (killed : Bool) :
    Panes :=
  { p with
    metrics := p.metrics.deactivate id
    status := if killed then p.status else p.status.recordExit now id code }.emit
      (.paneExited id code killed)

theorem keeps_hear (p : Panes) (now : Time.Moment) (id : Nat) (data : Bytes) :
    p.Keeps (p.hear now id data) := .of_eq rfl rfl rfl rfl

theorem keeps_notice (p : Panes) (now : Time.Moment) (id : Nat) (code : Option Int32)
    (killed : Bool) : p.Keeps (p.notice now id code killed) := by
  unfold notice
  refine .trans ?_ (.emit _ rfl)
  exact .of_eq rfl rfl rfl rfl

/-- The end of a process reaches a terminal that is there, if it is the first end. -/
theorem onExit_eq {p : Panes} {id : Nat} {t : Terminal} (ht : p.terminal? id = some t)
    (hexit : t.exit = none) (now : Time.Moment) (code : Option Int32) :
    p.onExit now id code = (p.notice now id code t.terminating).modifyTerminal id (·.ended code) := by
  simp [onExit, ht, hexit, notice]

/-- The end of a process has a status of its own only if the process was not being killed. -/
theorem status_onExit (p : Panes) (now : Time.Moment) (id : Nat) (code : Option Int32) :
    (p.onExit now id code).status =
      if (p.terminal? id).any fun t => t.exit.isNone && !t.terminating then
        p.status.recordExit now id code
      else p.status := by
  cases ht : p.terminal? id with
  | none => simp [onExit, ht]
  | some t =>
    cases hexit : t.exit with
    | some exit => simp [onExit, ht, hexit]
    | none =>
      rw [onExit_eq ht hexit]
      cases hkilled : t.terminating <;> simp [notice, emit, modifyTerminal, hexit, hkilled]

end Panes

namespace Registry

/-- **What can happen to a registry while readers run**: an action, or a callback of a reader alone,
    which has not got to the subscribers yet. Whether a process was being killed is settled some time
    before its end is told. -/
inductive Turn where
  | act (act : Act)
  | heard (now : Time.Moment) (pane : Nat) (data : Bytes)
  | noticed (now : Time.Moment) (pane : Nat) (code : Option Int32) (killed : Bool)

/-- The registry after a turn. -/
def turn (r : Registry) : Turn → Registry
  | .act act => r.perform act
  | .heard now pane data => { r with panes := r.panes.hear now pane data }
  | .noticed now pane code killed => { r with panes := r.panes.notice now pane code killed }

def turns (r : Registry) (xs : List Turn) : Registry := xs.foldl turn r

/-- What a reader has to tell the tracker in a turn. The end of a process is told once, and no status
    comes of it if the process was being killed. -/
def Turn.report? (r : Registry) : Turn → Option Tracker.Act
  | .act (.output now pane data) | .heard now pane data => some (.scan now pane data)
  | .act (.ended now pane code) =>
    if (r.panes.terminal? pane).any fun t => t.exit.isNone && !t.terminating then
      some (.recordExit now pane code)
    else none
  | .noticed now pane code killed => if killed then none else some (.recordExit now pane code)
  | .act _ => none

/-- What a reader writes under the identifier of a pane. -/
def Turn.writes (r : Registry) (pane : Nat) (x : Turn) : List Tracker.Write :=
  (((x.report? r).bind (·.write? r.panes.status.markers)).filter
    fun w => (StatusKey.pane pane).same w.key).toList

/-- All that readers write under the identifier of a pane, oldest first. -/
def written (r : Registry) (pane : Nat) : List Turn → List Tracker.Write
  | [] => []
  | x :: xs => x.writes r pane ++ (r.turn x).written pane xs

variable {r : Registry}

/-- **A turn is a report or clears**: a reader writes a status, or nobody is heard of again. -/
theorem turn_cases (h : r.Consistent) (x : Turn) :
    (x.report? r = none ∧ r.panes.Clears (r.turn x).panes) ∨
      ∃ report, x.report? r = some report ∧ (∀ key, report ≠ .remove key) ∧
        r.panes.Keeps (r.turn x).panes ∧
        (r.turn x).panes.status = r.panes.status.perform report := by
  cases x with
  | heard now pane data =>
    exact .inr ⟨.scan now pane data, rfl, nofun, r.panes.keeps_hear now pane data, rfl⟩
  | noticed now pane code killed =>
    have hkeeps := r.panes.keeps_notice now pane code killed
    cases killed with
    | true => exact .inl ⟨rfl, .of_keeps hkeeps rfl⟩
    | false => exact .inr ⟨.recordExit now pane code, rfl, nofun, hkeeps, rfl⟩
  | act act =>
    by_cases hact : act.isCallback = true
    · cases act with
      | output now pane data =>
        exact .inr ⟨.scan now pane data, rfl, nofun, .of_eq rfl rfl rfl rfl, rfl⟩
      | ended now pane code =>
        have hkeeps := r.panes.keeps_onExit now pane code
        have hstatus := r.panes.status_onExit now pane code
        simp only [Turn.report?]
        split
        · rename_i hown
          rw [if_pos hown] at hstatus
          exact .inr ⟨.recordExit now pane code, rfl, nofun, hkeeps, hstatus⟩
        · rename_i hown
          rw [if_neg hown] at hstatus
          exact .inl ⟨rfl, .of_keeps hkeeps hstatus⟩
      | _ => cases hact
    · rw [Bool.not_eq_true] at hact
      refine .inl ⟨?_, clears_perform h hact⟩
      cases act <;> first | rfl | cases hact

theorem Consistent.turn (h : r.Consistent) (x : Turn) : (r.turn x).Consistent := by
  cases x with
  | act act => exact h.perform act
  | heard now pane data => exact h.of_keeps rfl rfl (r.panes.keeps_hear now pane data)
  | noticed now pane code killed =>
    exact h.of_keeps rfl rfl (r.panes.keeps_notice now pane code killed)

theorem Consistent.turns (h : r.Consistent) (xs : List Turn) : (r.turns xs).Consistent := by
  induction xs generalizing r with
  | nil => exact h
  | cons x xs ih => exact ih (h.turn x)

/-! ## §4 Closed panes -/

/-- What is kept for a pane once some statuses have been written for it, on top of what there was. -/
def after (ws : List Tracker.Write) (kept : Option (AgentStatus × Nat)) : Option (AgentStatus × Nat) :=
  (ws.getLast?.map fun w => (w.status, w.uptime)).or kept

theorem gone_turn (h : r.Consistent) {pane : Nat} (hissued : pane < r.panes.nextId)
    (hgone : pane ∉ r.panes.ids) (x : Turn) :
    pane < (r.turn x).panes.nextId ∧ pane ∉ (r.turn x).panes.ids ∧
      (r.turn x).panes.status? pane = after (x.writes r pane) (r.panes.status? pane) := by
  obtain ⟨hreport, hclears⟩ | ⟨report, hreport, hremove, hkeeps, hstatus⟩ := turn_cases h x
  · obtain ⟨hgone', hstatus⟩ := hclears.gone pane hissued hgone
    exact ⟨Nat.lt_of_lt_of_le hissued hclears.next_le, hgone',
      by simpa [Turn.writes, hreport, after] using hstatus⟩
  · refine ⟨hkeeps.nextId_eq ▸ hissued, by rw [Panes.ids, hkeeps.owners_eq]; exact hgone, ?_⟩
    rw [Panes.status?, hstatus, Tracker.kept?_perform hremove]
    cases hwrite : report.write? r.panes.status.markers with
    | none => simp [Turn.writes, hreport, hwrite, after, Panes.status?]
    | some w =>
      by_cases hkey : (StatusKey.pane pane).same w.key = true <;>
        simp [Turn.writes, hreport, hwrite, after, Panes.status?, Option.filter, hkey]

theorem after_append (ws ws' : List Tracker.Write) (kept : Option (AgentStatus × Nat)) :
    after (ws ++ ws') kept = after ws' (after ws kept) := by
  simp [after, List.getLast?_append, Option.map_or, Option.or_assoc]

/-- **What is kept for a pane that is gone** is what readers have written since. -/
theorem gone_turns (h : r.Consistent) {pane : Nat} (hissued : pane < r.panes.nextId)
    (hgone : pane ∉ r.panes.ids) (xs : List Turn) :
    (r.turns xs).panes.status? pane = after (r.written pane xs) (r.panes.status? pane) := by
  induction xs generalizing r with
  | nil => rfl
  | cons x xs ih =>
    obtain ⟨hissued', hgone', hstatus⟩ := gone_turn h hissued hgone x
    rw [written, after_append, ← hstatus]
    exact ih (h.turn x) hissued' hgone'

/-- A pane that is closed in a turn has no status right after it. -/
theorem status?_of_closed (h : r.Consistent) (x : Turn) {pane : Nat} (hlive : pane ∈ r.panes.ids)
    (hclosed : pane ∉ (r.turn x).panes.ids) :
    pane < (r.turn x).panes.nextId ∧ (r.turn x).panes.status? pane = none := by
  obtain ⟨owner, howner, rfl⟩ := List.mem_map.mp hlive
  have hissued := h.tidy.fresh owner howner
  obtain ⟨-, hclears⟩ | ⟨report, -, -, hkeeps, -⟩ := turn_cases h x
  · exact ⟨Nat.lt_of_lt_of_le hissued hclears.next_le, hclears.goes owner.1 hissued hlive hclosed⟩
  · -- a report closes nothing
    refine absurd ?_ hclosed
    rw [Panes.ids]
    exact hkeeps.owners_eq ▸ hlive

/-- What is listed under the identifier of a pane is the status kept for it. -/
theorem exists_mem_agentStatuses_iff {uptime pane : Nat} :
    (∃ e ∈ r.agentStatuses uptime, e.key = .pane pane) ↔ (r.panes.status? pane).isSome := by
  simp [agentStatuses, Tracker.list, Panes.status?, Tracker.kept?, Tracker.find?,
    StatusKey.pane_same_iff]

/-- **What is listed of a closed pane** is what its reader has written since it was closed, and
    nothing as long as it has written nothing: whatever else is done, before and after. -/
theorem listed_after_close (config : Config) (earlier later : List Turn) (closing : Turn)
    (pane : Nat)
    (hlive : ((new config).turns earlier).panes.contains pane = true)
    (hclosed : ((new config).turns (earlier ++ [closing])).panes.contains pane = false)
    (uptime : Nat) :
    (∃ e ∈ ((new config).turns (earlier ++ closing :: later)).agentStatuses uptime,
        e.key = .pane pane) ↔
      ((new config).turns (earlier ++ [closing])).written pane later ≠ [] := by
  have hbefore := (consistent_new config).turns earlier
  have hafter := (consistent_new config).turns (earlier ++ [closing])
  rw [Panes.contains_iff] at hlive
  rw [← Bool.not_eq_true, Panes.contains_iff] at hclosed
  have hturn : (new config).turns (earlier ++ [closing]) =
      ((new config).turns earlier).turn closing := by simp [turns]
  have hlater : (new config).turns (earlier ++ closing :: later) =
      ((new config).turns (earlier ++ [closing])).turns later := by simp [turns]
  obtain ⟨hissued, hnone⟩ :
      pane < ((new config).turns (earlier ++ [closing])).panes.nextId ∧
        ((new config).turns (earlier ++ [closing])).panes.status? pane = none := by
    rw [hturn] at hclosed ⊢
    exact status?_of_closed hbefore closing hlive hclosed
  rw [hlater, exists_mem_agentStatuses_iff, gone_turns hafter hissued hclosed, hnone]
  simp [after]

/-- A terminal that is closed while its process runs. -/
def closedTerminal : List Turn :=
  [.act (.createSession ⟨0, 0⟩ none),
    .act (.createTerminal (fun _ => .ok ⟨some 9, "/bin/sh", [], "/", [], ⟨0, 0⟩⟩) ⟨⟨0, 0⟩, 0⟩ 1 {}),
    .act (.closePane 0 .graceful 1)]

/-- Callers write a status in vain, and output that says nothing and the end of a process that is being
    killed leave nothing behind; a report does. -/
theorem listed_after_close_terminal :
    let plain : Turn := .act (.output ⟨⟨0, 0⟩, 1⟩ 1 (Utf8.encode "bye"))
    let call : Turn := .act (.setAgentStatus ⟨⟨0, 0⟩, 2⟩ (.pane 1) .warning)
    let report : Turn := .heard ⟨⟨0, 0⟩, 3⟩ 1 (Utf8.encode "[agent:running]")
    let ended : Turn := .act (.ended ⟨⟨0, 0⟩, 4⟩ 1 (some 1))
    ¬(∃ e ∈ ((new {}).turns (closedTerminal ++ [plain, call, ended])).agentStatuses 5,
        e.key = .pane 1) ∧
      ∃ e ∈ ((new {}).turns (closedTerminal ++ [plain, call, report, ended])).agentStatuses 5,
        e.key = .pane 1 := by
  intro plain call report ended
  have hlisted := fun later => listed_after_close {} (closedTerminal.take 2) later
    (.act (.closePane 0 .graceful 1)) 1 (by decide) (by decide) 5
  exact ⟨mt (hlisted [plain, call, ended]).mp (by decide),
    (hlisted [plain, call, report, ended]).mpr (by decide)⟩

/-- A process that reports when it is asked to end leaves a status for a pane that is gone. -/
theorem report_outlives_pane :
    let r := (new {}).turns closedTerminal
    let r' := r.turn (.act (.output ⟨⟨0, 0⟩, 1⟩ 1 (Utf8.encode "[agent:running]")))
    ((new {}).turns (closedTerminal.take 2)).panes.contains 1 = true ∧
      r.panes.contains 1 = false ∧ r.agentStatuses 0 = [] ∧
      r'.agentStatuses 1 = [⟨.pane 1, .running, ⟨0, 0⟩⟩] := by
  decide

end Registry

end PaneMux
