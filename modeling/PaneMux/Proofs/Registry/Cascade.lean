import PaneMux.Proofs.Agent.Writes
import PaneMux.Proofs.Registry.Ownership

/-!
# Closing a Session

A session goes with all its panes, and a pane with everything that is kept under its identifier: its
record, its status, its measurements and the size that waits for it. All of these are kept apart from
each other and from the list of the session. This file proves that together they are taken away just
where they should be, so that no neighbour is touched and nothing is left over.

## Architecture

- **§1** `Panes.Sheds`: panes that are gone with all that was kept of them, beside the others as they were
- **§2** closing one pane, and closing several
- **§3** closing a session, and closing all of them
- **§4** the law
-/

namespace PaneMux

namespace Terminal

@[simp] theorem pane_terminate (t : Terminal) (uptime grace : Nat) :
    (t.terminate uptime grace).1.pane = t.pane := by
  unfold terminate
  split <;> rfl

@[simp] theorem pane_abandon (t : Terminal) : t.abandon.1.pane = t.pane := by
  unfold abandon
  split <;> rfl

end Terminal

namespace Panes

/-! ## §1 What is shed -/

/-- **Some panes are gone with all that was kept of them**: their records, and what stands under their
    identifiers among the sizes that wait, the measurements and the statuses. Everything else is as it
    was, the terminals of other panes included. -/
structure Sheds (p p' : Panes) (ids : List Nat) : Prop where
  records : p'.records = p.records.filter (·.id ∉ ids)
  resizes : p'.resizes = { p.resizes with slots := p.resizes.slots.filter (·.pane ∉ ids) }
  metrics : p'.metrics = { p.metrics with tracked := p.metrics.tracked.filter (·.pane ∉ ids) }
  status : p'.status =
    { p.status with entries := p.status.entries.filter (·.key ∉ ids.map StatusKey.pane) }
  terminals : p'.terminals.filter (·.pane ∉ ids) = p.terminals.filter (·.pane ∉ ids)
  config : p'.config = p.config
  nextId : p'.nextId = p.nextId
  abandoned : p'.abandoned = p.abandoned
  nextSubscription : p'.nextSubscription = p.nextSubscription

namespace Sheds

variable {p p' p'' : Panes} {ids ids' : List Nat}

/-- The log and what is asked of the machine are no matter of the panes. -/
theorem nil (p : Panes) (events : List LifecycleEvent) (requests : List HostRequest) :
    p.Sheds { p with events, requests } [] where
  records := by simp
  resizes := by simp
  metrics := by simp
  status := by simp
  terminals := rfl
  config := rfl
  nextId := rfl
  abandoned := rfl
  nextSubscription := rfl

/-- What is left of what is left. -/
private theorem filter_filter_notMem {α κ : Type} [DecidableEq κ] (key : α → κ) (ks ks' : List κ)
    (xs : List α) :
    (xs.filter (key · ∉ ks)).filter (key · ∉ ks') = xs.filter (key · ∉ ks ++ ks') := by
  rw [List.filter_filter]
  exact List.filter_congr fun x _ => by simp [not_or, Bool.and_comm]

theorem trans (h : p.Sheds p' ids) (h' : p'.Sheds p'' ids') : p.Sheds p'' (ids ++ ids') where
  records := by rw [h'.records, h.records, filter_filter_notMem]
  resizes := by rw [h'.resizes, h.resizes]; simp only [filter_filter_notMem]
  metrics := by rw [h'.metrics, h.metrics]; simp only [filter_filter_notMem]
  status := by rw [h'.status, h.status]; simp only [filter_filter_notMem, List.map_append]
  terminals := by
    calc p''.terminals.filter (·.pane ∉ ids ++ ids')
        = (p''.terminals.filter (·.pane ∉ ids')).filter (·.pane ∉ ids) := by
          rw [List.filter_comm, filter_filter_notMem]
      _ = (p'.terminals.filter (·.pane ∉ ids)).filter (·.pane ∉ ids') := by
          rw [h'.terminals, List.filter_comm]
      _ = p.terminals.filter (·.pane ∉ ids ++ ids') := by
          rw [h.terminals, filter_filter_notMem]
  config := h'.config.trans h.config
  nextId := h'.nextId.trans h.nextId
  abandoned := h'.abandoned.trans h.abandoned
  nextSubscription := h'.nextSubscription.trans h.nextSubscription

/-- The log is no matter of the panes. -/
theorem trans_emit (h : p.Sheds p' ids) (e : LifecycleEvent) : p.Sheds (p'.emit e) ids := by
  have hshed := h.trans (.nil p' (p'.events ++ [e]) p'.requests)
  rwa [List.append_nil] at hshed

/-- A pane that is shed is not found any more, and any other is there as before. -/
theorem find?_eq (h : p.Sheds p' ids) (id : Nat) :
    p'.find? id = if id ∈ ids then none else p.find? id := by
  rw [find?, h.records, List.find?_filter]
  split
  case isTrue hid =>
    refine List.find?_eq_none.mpr fun r _ hr => ?_
    obtain ⟨hnot, hrid⟩ : r.id ∉ ids ∧ r.id = id := by simpa using hr
    exact hnot (hrid ▸ hid)
  case isFalse hid =>
    refine congrArg (p.records.find? ·) (funext fun r => ?_)
    by_cases hr : r.id = id <;> simp [hr, hid]

theorem terminal?_eq (h : p.Sheds p' ids) {id : Nat} (hid : id ∉ ids) :
    p'.terminal? id = p.terminal? id := by
  -- it is looked for among the terminals of the other panes
  have hother : ∀ ts : List Terminal,
      ts.find? (·.pane = id) = (ts.filter (·.pane ∉ ids)).find? (·.pane = id) := by
    intro ts
    rw [List.find?_filter]
    refine congrArg (ts.find? ·) (funext fun t => ?_)
    by_cases ht : t.pane = id <;> simp [ht, hid]
  rw [terminal?, hother, h.terminals, ← hother, terminal?]

/-- **What callers see** of a pane that is shed is nothing, and of any other what they saw before. -/
theorem get_eq (h : p.Sheds p' ids) (id : Nat) :
    p'.get id = if id ∈ ids then .error (.paneNotFound id) else p.get id := by
  unfold get find
  rw [h.find?_eq]
  by_cases hid : id ∈ ids
  · simp only [hid, if_true]
    rfl
  · simp only [hid, if_false]
    cases hfind : p.find? id with
    | none => rfl
    | some r =>
      have hrid : r.id = id := (mem_of_find?_eq_some hfind).2
      show Except.ok (p'.describe r) = Except.ok (p.describe r)
      rw [describe, describe, hrid, h.terminal?_eq hid]

end Sheds

/-! ## §2 Closing panes -/

/-- Taking away the record of a pane takes away what is kept under its identifier. -/
theorem sheds_erase (p : Panes) (id : Nat) : p.Sheds (p.erase id) [id] where
  records := by simp [erase]
  resizes := by simp [erase, Debouncer.forget]
  metrics := by simp [erase, Sampler.untrack]
  status := by
    simp only [erase, Tracker.remove, List.map_singleton, List.mem_singleton]
    congr 1
    refine List.filter_congr fun e _ => ?_
    rw [Bool.eq_iff_iff]
    simp [← Bool.not_eq_true, StatusKey.pane_same_iff]
  terminals := rfl
  config := rfl
  nextId := rfl
  abandoned := rfl
  nextSubscription := rfl

/-- Another terminal in place of that of a pane that is shed. -/
private theorem filter_map_terminals {ids : List Nat} {id : Nat} (hid : id ∈ ids) {t' : Terminal}
    (ht' : t'.pane = id) (ts : List Terminal) :
    (ts.map fun t => if t.pane = id then t' else t).filter (·.pane ∉ ids) =
      ts.filter (·.pane ∉ ids) := by
  induction ts with
  | nil => rfl
  | cons t ts ih => by_cases ht : t.pane = id <;> simp_all [List.filter_cons]

/-- The process that is brought to its end is that of a pane that is shed. -/
theorem Sheds.retire {p p' : Panes} {ids : List Nat} (h : p.Sheds p' ids) {id : Nat} (hid : id ∈ ids)
    (uptime : Nat) (how : Teardown) : p.Sheds (p'.retire uptime how id) ids := by
  cases hfind : p'.terminal? id with
  | none => simpa [Panes.retire, hfind] using h
  | some t =>
    have hpane : t.pane = id := (Keyed.mem_of_find? hfind).2
    obtain ⟨t', asked, hretire, hpane'⟩ : ∃ t' asked,
        p'.retire uptime how id = (p'.modifyTerminal id fun _ => t').ask asked ∧ t'.pane = id := by
      let t₀ : Terminal := { t with stream := t.stream.release }
      cases how with
      | graceful =>
        exact ⟨_, (t₀.terminate uptime p'.config.closeGraceMs).2, by simp only [Panes.retire, hfind, t₀],
          (t₀.pane_terminate uptime p'.config.closeGraceMs).trans hpane⟩
      | immediate =>
        exact ⟨_, t₀.abandon.2, by simp only [Panes.retire, hfind, t₀], t₀.pane_abandon.trans hpane⟩
    rw [hretire]
    exact { h with terminals := (filter_map_terminals hid hpane' _).trans h.terminals }

/-- **Closing a pane** sheds it. -/
theorem close_eq {p : Panes} {id : Nat} {r : Pane} (hfind : p.find? id = some r) (uptime : Nat)
    (how : Teardown) :
    ∃ p', p.close uptime how id = (.ok (some r.session), p') ∧ p.Sheds p' [id] ∧
      p'.events = p.events ++ [.paneClosed id r.session] := by
  have hshed : p.Sheds (((p.erase id).retire uptime how id).emit (.paneClosed id r.session)) [id] :=
    ((p.sheds_erase id).retire (List.mem_singleton.mpr rfl) uptime how).trans_emit _
  refine ⟨_, by simp [close, hfind], hshed, ?_⟩
  have hevents : ((p.erase id).retire uptime how id).events = p.events := by
    unfold Panes.retire
    split <;> rfl
  simp [emit, hevents]

end Panes

namespace Registry

/-- **Closing panes that belong to a session**, one after the other, sheds them all and reports them. -/
theorem closePanes_eq (uptime session : Nat) (ids : List Nat) (hids : ids.Nodup) :
    ∀ (report : CloseReport) (p : Panes), (p.records.map (·.id)).Nodup →
      (∀ id ∈ ids, (id, session) ∈ p.owners) →
        ∃ p', closePanes uptime ids report p = ({ report with closed := report.closed ++ ids }, p') ∧
          p.Sheds p' ids ∧ p'.events = p.events ++ ids.map (.paneClosed · session) := by
  induction ids with
  | nil =>
    intro report p _ _
    exact ⟨p, by simp [closePanes], .nil p p.events p.requests, by simp⟩
  | cons id ids ih =>
    intro report p hnodup howners
    obtain ⟨hnot, hrest⟩ := List.nodup_cons.mp hids
    -- the first one is there, and the others still are once it is gone
    obtain ⟨r, hr, howner⟩ := List.mem_map.mp (howners id List.mem_cons_self)
    obtain ⟨rfl, rfl⟩ := Prod.mk.inj howner
    obtain ⟨p₁, hclose, hshed, hevents⟩ :=
      Panes.close_eq (Keyed.find?_eq_some hnodup hr) uptime .graceful
    have hnodup₁ : (p₁.records.map (·.id)).Nodup := by
      rw [hshed.records]
      exact hnodup.sublist (List.filter_sublist.map _)
    have howners₁ : ∀ id ∈ ids, (id, r.session) ∈ p₁.owners := by
      intro id hid
      obtain ⟨r', hr', howner⟩ := List.mem_map.mp (howners id (List.mem_cons_of_mem _ hid))
      refine List.mem_map.mpr ⟨r', ?_, howner⟩
      have hr'id : r'.id = id := congrArg Prod.fst howner
      rw [hshed.records, List.mem_filter]
      exact ⟨hr', by simpa [hr'id] using fun heq : id = r.id => hnot (heq ▸ hid)⟩
    obtain ⟨p₂, hcloses, hshed', hevents'⟩ :=
      ih hrest { report with closed := report.closed ++ [r.id] } p₁ hnodup₁ howners₁
    refine ⟨p₂, ?_, hshed.trans hshed', ?_⟩
    · simp [closePanes, hclose, hcloses]
    · simp [hevents', hevents]

/-! ## §3 Closing sessions -/

variable {r : Registry}

/-- No two sessions share an identifier. -/
theorem Consistent.nodup_sessions (h : r.Consistent) : (r.sessions.map (·.id)).Nodup :=
  h.ascending.imp Nat.ne_of_lt

/-- **Closing a session** takes it away, and sheds its panes. -/
theorem Consistent.closeSession_eq (h : r.Consistent) {s : Session} (hs : s ∈ r.sessions)
    (uptime : Nat) :
    ∃ panes, r.closeSession uptime s.id =
        (.ok { session := s.id, closed := s.panes },
          { r with sessions := r.sessions.filter (· ≠ s), panes }) ∧
      r.panes.Sheds panes s.panes ∧
      panes.events = r.events ++ s.panes.map (.paneClosed · s.id) ++ [.sessionClosed s.id] := by
  have hfind : r.session s.id = .ok s := by
    rw [session, session?, Keyed.find?_eq_some h.nodup_sessions hs]
  have hnodup : s.panes.Nodup := by
    rw [h.listed s hs]
    exact h.tidy.nodup.sublist (List.filter_sublist.map _)
  have howners : ∀ id ∈ s.panes, (id, s.id) ∈ r.panes.owners := by
    intro id hid
    rw [h.listed s hs] at hid
    exact Panes.mem_ownedBy_iff.mp hid
  have hothers : r.sessions.filter (·.id ≠ s.id) = r.sessions.filter (· ≠ s) := by
    refine List.filter_congr fun s' hs' => ?_
    have hsame : s'.id = s.id ↔ s' = s :=
      ⟨fun hid => List.inj_on_of_nodup_map h.nodup_sessions hs' hs hid, fun heq => heq ▸ rfl⟩
    simp [hsame]
  obtain ⟨panes, hclose, hshed, hevents⟩ := closePanes_eq uptime s.id s.panes hnodup
    { session := s.id } r.panes h.tidy.nodup_records howners
  refine ⟨panes.emit (.sessionClosed s.id), ?_, hshed.trans_emit _, ?_⟩
  · simp only [Registry.closeSession, hfind, hclose, hothers, Registry.emit, List.nil_append]
  · simp [Panes.emit, hevents, events]

/-- **Closing all sessions** that there are, one after the other, leaves none of them. -/
theorem closeAll_eq (uptime : Nat) (ss : List Session) :
    ∀ {r : Registry}, r.Consistent → r.sessions = ss →
      ∃ panes, closeAll uptime (ss.map (·.id)) r =
          (ss.map fun s => { session := s.id, closed := s.panes }, { r with sessions := [], panes }) ∧
        r.panes.Sheds panes (ss.flatMap (·.panes)) ∧
        panes.events = r.events ++
          ss.flatMap fun s => s.panes.map (.paneClosed · s.id) ++ [.sessionClosed s.id] := by
  induction ss with
  | nil =>
    intro r _ hss
    have hsame : r = { r with sessions := [], panes := r.panes } := by rw [← hss]
    exact ⟨r.panes, congrArg (Prod.mk []) hsame, .nil r.panes r.panes.events r.panes.requests,
      by simp [events]⟩
  | cons s ss ih =>
    intro r h hss
    obtain ⟨panes, hclose, hshed, hevents⟩ :=
      h.closeSession_eq (hss ▸ List.mem_cons_self : s ∈ r.sessions) uptime
    have hclosed := h.closeSession uptime s.id
    rw [hclose] at hclosed
    have hrest : r.sessions.filter (· ≠ s) = ss := by
      have hnot : s ∉ ss := (List.nodup_cons.mp (hss ▸ h.nodup_sessions.of_map)).1
      rw [hss, List.filter_cons_of_neg (by simp), List.filter_eq_self]
      exact fun s' hs' => by simpa using fun heq : s' = s => hnot (heq ▸ hs')
    obtain ⟨panes', hcloses, hshed', hevents'⟩ := ih hclosed hrest
    refine ⟨panes', ?_, hshed.trans hshed', ?_⟩
    · simp only [List.map_cons, closeAll, hclose, hcloses]
    · simp [hevents', hevents, events]

/-! ## §4 The law -/

/-- **Closing a session cascades exactly**: after any actions, closing any session there is reports all
    of its panes, in the order in which they were made, and no failure. It takes away that session, its
    panes and all that is kept under their identifiers, and nothing else: the other sessions, and other
    panes as callers see them, are as they were. It makes known that each of these panes is closed, in
    the same order, and then that the session is. Shutting down does this for each session, in the order
    of identifiers, and leaves no session and no pane. -/
theorem closing_cascades (config : Config) (acts : List Act) (uptime : Nat) :
    let r := (new config).run acts
    let told := fun s : Session =>
      s.panes.map (LifecycleEvent.paneClosed · s.id) ++ [LifecycleEvent.sessionClosed s.id]
    (∀ s ∈ r.sessions,
      let out := r.closeSession uptime s.id
      out.1 = .ok { session := s.id, closed := s.panes, failed := [] } ∧
        s.panes = (r.panes.records.filter (·.session = s.id)).map (·.id) ∧
        s.panes.Sublist (createdPanes r.events) ∧
        out.2 = { r with sessions := r.sessions.filter (· ≠ s), panes := out.2.panes } ∧
        r.panes.Sheds out.2.panes s.panes ∧
        (∀ id, out.2.panes.get id =
          if id ∈ s.panes then .error (.paneNotFound id) else r.panes.get id) ∧
        out.2.events = r.events ++ told s) ∧
    let down := r.shutdown uptime
    down.1 = r.sessions.map (fun s => { session := s.id, closed := s.panes, failed := [] }) ∧
      (r.sessions.map (·.id)).Pairwise (· < ·) ∧
      down.2.sessions = [] ∧ down.2.panes.records = [] ∧
      r.panes.Sheds down.2.panes (r.sessions.flatMap (·.panes)) ∧
      down.2.events = r.events ++ r.sessions.flatMap told := by
  intro r told
  have h : r.Consistent := consistent_run config acts
  refine ⟨fun s hs => ?_, ?_⟩
  · intro out
    obtain ⟨panes, hclose, hshed, hevents⟩ := h.closeSession_eq hs uptime
    have hout : out = _ := hclose
    have hlisted : s.panes = (r.panes.records.filter (·.session = s.id)).map (·.id) := by
      rw [h.listed s hs, Panes.ownedBy, Panes.owners, List.filter_map, List.map_map]
      rfl
    refine ⟨by rw [hout], hlisted, ?_, by rw [hout], by rw [hout]; exact hshed, ?_, ?_⟩
    · rw [h.listed s hs]
      exact (List.filter_sublist.map _).trans h.chronicled.complete
    · rw [hout]
      exact hshed.get_eq
    · rw [hout]
      exact hevents.trans (List.append_assoc ..)
  · intro down
    have hstopped : ({ r with sampling := none } : Registry).Consistent := h.of_keeps rfl rfl (.refl _)
    obtain ⟨panes, hcloses, hshed, hevents⟩ := closeAll_eq uptime r.sessions hstopped rfl
    have hdown : down = _ := hcloses
    have hall : ∀ p ∈ r.panes.records, p.id ∈ r.sessions.flatMap (·.panes) := by
      intro p hp
      have howner : (p.id, p.session) ∈ r.panes.owners := List.mem_map.mpr ⟨p, hp, rfl⟩
      obtain ⟨s, hs, hsid⟩ := h.owned _ howner
      refine List.mem_flatMap.mpr ⟨s, hs, ?_⟩
      rw [h.listed s hs, Panes.mem_ownedBy_iff, hsid]
      exact howner
    rw [hdown]
    refine ⟨rfl, h.ascending, rfl, ?_, hshed, hevents⟩
    rw [hshed.records, List.filter_eq_nil_iff]
    exact fun p hp => by simpa using List.mem_flatMap.mp (hall p hp)

/-- Of two sessions the one with a terminal goes, whose pane 3 has been closed before. With its panes go
    the status of one, the measurements of its process and the size that waits for it; the statuses of
    the other session and of a path stay. -/
theorem closing_cascades_terminal :
    let spawn : Spawner := fun _ => .ok ⟨some 9, "/bin/sh", [], "/", [], ⟨0, 0⟩⟩
    let now : Time.Moment := ⟨⟨0, 0⟩, 0⟩
    let acts : List Act := [.createSession ⟨0, 0⟩ (some "a"), .createSession ⟨0, 0⟩ (some "b"),
      .createTerminal spawn now 1 {}, .createPane now 2 .editor {}, .createPane now 1 .editor {},
      .createPane now 1 .editor {}, .closePane 0 .graceful 3, .resizePane now .graceful 1 ⟨9, 9⟩,
      .setAgentStatus now (.pane 1) .warning, .setAgentStatus now (.pane 2) .warning,
      .setAgentStatus now (.path "/work") .warning]
    let r := (new {}).run acts
    let a : Session := ⟨1, "a", ⟨0, 0⟩, [1, 4], some 1⟩
    let b : Session := ⟨2, "b", ⟨0, 0⟩, [2], some 2⟩
    let out := r.closeSession 7 a.id
    r.sessions = [a, b] ∧ r.panes.resizes.slots.map (·.pane) = [1] ∧
      r.panes.metrics.tracked.map (·.pane) = [1] ∧
      r.panes.status.entries.map (·.key) = [.pane 1, .pane 2, .path "/work"] ∧
      out.1 = .ok { session := 1, closed := [1, 4] } ∧ out.2.sessions = [b] ∧
      out.2.panes.resizes.slots = [] ∧ out.2.panes.metrics.tracked = [] ∧
      out.2.panes.status.entries.map (·.key) = [.pane 2, .path "/work"] ∧
      (r.shutdown 7).1 = [{ session := 1, closed := [1, 4] }, { session := 2, closed := [2] }] := by
  intro spawn now acts r a b out
  have hsessions : r.sessions = [a, b] := by decide
  obtain ⟨hclosing, hdown, -⟩ := closing_cascades {} acts 7
  obtain ⟨hreport, -, -, hrest, hshed, -⟩ := hclosing a (hsessions ▸ List.mem_cons_self)
  refine ⟨hsessions, by decide, by decide, by decide, hreport, ?_, ?_, ?_, ?_, ?_⟩
  · rw [hrest, hsessions]
    decide
  · rw [hshed.resizes]
    decide
  · rw [hshed.metrics]
    decide
  · rw [hshed.status]
    decide
  · rw [hdown, hsessions]
    rfl

end Registry

end PaneMux
