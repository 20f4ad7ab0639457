import Mathlib.Data.List.Induction
import PaneMux.Proofs.Registry.Ownership

/-!
# Focusing a Pane while It Is Closed

A pane is focused in three steps and closed in two, each of them atomic, and the steps of one client may
come between those of another. Whatever their order, the registry ends up as if one client had been
served after the other, with one exception. Where the pane is closed, and taken out of its session, just
before the last step of the other client, that step makes a pane active that is gone.

## Architecture

- **§1** the steps of the two tasks (`Race.step`), and the two outcomes in which they do not meet
- **§2** a table of panes from which one is taken that something has just happened in
- **§3** every state that a race can reach (`Race.Reached`), step by step
- **§4** the outcome, for every order of steps
-/

namespace PaneMux

/-! ## §1 Steps -/

/-- How far a task is that focuses a pane. -/
inductive Focusing where
  | begun
  /-- the session of the pane has been found -/
  | found (session : Nat)
  /-- the pane has been told -/
  | touched (session : Nat)
  | answered (answer : Except RequestError Unit)

/-- How far a task is that closes a pane. -/
inductive Closing where
  | begun
  /-- the pane is gone, but its session has not let go of it -/
  | removed (session : Nat)
  | answered (answer : Except RequestError Unit)

/-- A pane that one task focuses and another one closes. -/
structure Race where
  pane : Nat
  now : Time.Instant
  uptime : Nat
  how : Panes.Teardown
  registry : Registry
  focusing : Focusing := .begun
  closing : Closing := .begun

namespace Race

inductive Task where
  | focus
  | close
  deriving DecidableEq, Repr

/-- The next step of the task that focuses the pane. -/
def focus (s : Race) : Option Race :=
  match s.focusing with
  | .begun =>
    match s.registry.panes.sessionOf s.pane with
    | .error e => some { s with focusing := .answered (.error e) }
    | .ok session => some { s with focusing := .found session }
  | .found session =>
    match s.registry.panes.touch s.now s.pane with
    | (.error e, panes) =>
      some { s with registry := { s.registry with panes }, focusing := .answered (.error e) }
    | (.ok (), panes) =>
      some { s with registry := { s.registry with panes }, focusing := .touched session }
  | .touched session =>
    let (answer, registry) := s.registry.activate session s.pane
    some { s with registry, focusing := .answered answer }
  | .answered _ => none

/-- The next step of the task that closes the pane. -/
def close (s : Race) : Option Race :=
  match s.closing with
  | .begun =>
    match s.registry.panes.close s.uptime s.how s.pane with
    | (.error e, panes) =>
      some { s with registry := { s.registry with panes }, closing := .answered (.error e) }
    | (.ok none, panes) =>
      some { s with registry := { s.registry with panes }, closing := .answered (.ok ()) }
    | (.ok (some session), panes) =>
      some { s with registry := { s.registry with panes }, closing := .removed session }
  | .removed session =>
    some { s with registry := s.registry.detach session s.pane, closing := .answered (.ok ()) }
  | .answered _ => none

/-- The next step of a task. There is none once it has been answered. -/
def step (s : Race) : Task → Option Race
  | .focus => s.focus
  | .close => s.close

/-- The race after some steps. -/
def run (s : Race) (order : List Task) : Option Race := order.foldlM step s

/-- Both tasks have been answered. -/
def IsOver (s : Race) : Prop :=
  (∃ a, s.focusing = .answered a) ∧ ∃ a, s.closing = .answered a

/-- As long as a task has not been answered, it has a next step. -/
theorem isOver_iff {s : Race} : s.IsOver ↔ ∀ task, s.step task = none := by
  have hfocus : s.focus = none ↔ ∃ a, s.focusing = .answered a := by
    unfold focus
    cases s.focusing with
    | begun | found => dsimp only; split <;> simp
    | touched | answered => simp
  have hclose : s.close = none ↔ ∃ a, s.closing = .answered a := by
    unfold close
    cases s.closing with
    | begun => dsimp only; split <;> simp
    | removed | answered => simp
  rw [IsOver, ← hfocus, ← hclose]
  exact ⟨fun h task => by cases task; exacts [h.1, h.2], fun h => ⟨h .focus, h .close⟩⟩

/-- The outcome where the pane is focused first. -/
def focusFirst (s : Race) : Race :=
  let (focused, r) := s.registry.focusPane s.now s.pane
  let (closed, r) := r.closePane s.uptime s.how s.pane
  { s with registry := r, focusing := .answered focused, closing := .answered closed }

/-- The outcome where the pane is closed first. -/
def closeFirst (s : Race) : Race :=
  let (closed, r) := s.registry.closePane s.uptime s.how s.pane
  let (focused, r) := r.focusPane s.now s.pane
  { s with registry := r, focusing := .answered focused, closing := .answered closed }

end Race

/-! ## §2 A pane that has been touched -/

namespace Panes

variable {p : Panes} {r : Pane} {id : Nat}

theorem find?_touchRecord (h : p.find? id = some r) (now : Time.Instant) :
    (p.touchRecord now id).find? id = some { r with lastActivity := now } := by
  have hid : r.id = id := (mem_of_find?_eq_some h).2
  have hsame : ((fun r : Pane => decide (r.id = id)) ∘ fun r =>
      if r.id = id then { r with lastActivity := now } else r) = fun r => decide (r.id = id) := by
    funext r
    by_cases hr : r.id = id <;> simp [hr]
  rw [find?] at h
  rw [find?, touchRecord, modify, List.find?_map, hsame, h, Option.map_some, if_pos hid]

/-- Nothing that has happened in a pane is left when it is taken away. -/
theorem erase_touchRecord (p : Panes) (now : Time.Instant) (id : Nat) :
    (p.touchRecord now id).erase id = p.erase id := by
  have hrecords : (p.touchRecord now id).records.filter (·.id ≠ id) =
      p.records.filter (·.id ≠ id) := by
    show (p.records.map _).filter _ = _
    induction p.records with
    | nil => rfl
    | cons r rs ih =>
      rw [List.map_cons, List.filter_cons, List.filter_cons, ih]
      by_cases hr : r.id = id <;> simp [hr]
  unfold erase
  rw [hrecords]
  rfl

theorem close_touchRecord (h : p.find? id = some r) (now : Time.Instant) (uptime : Nat)
    (how : Teardown) :
    (p.touchRecord now id).close uptime how id = p.close uptime how id := by
  unfold close
  rw [find?_touchRecord h, h, erase_touchRecord]

/-- A pane that has been closed is not there. -/
theorem find_close (p : Panes) (uptime : Nat) (how : Teardown) (id : Nat) :
    (p.close uptime how id).2.find id = .error (.paneNotFound id) := by
  have hcloses := p.closes_close uptime how id
  unfold find
  cases hfind : (p.close uptime how id).2.find? id with
  | none => rfl
  | some r =>
    have howner := mem_owners_of_find? hfind
    rw [hcloses.owners_eq] at howner
    simp at howner

end Panes

/-! ## §3 Where a race can be -/

namespace Registry

/-- A session with another active pane. -/
def point (r : Registry) (session pane : Nat) : Registry :=
  r.modifySession session fun t => { t with active := some pane }

theorem map_id_detach (r : Registry) (session pane : Nat) :
    (r.detach session pane).sessions.map (·.id) = r.sessions.map (·.id) := by
  simp only [detach, modifySession, List.map_map]
  refine List.map_congr_left fun t _ => ?_
  by_cases ht : t.id = session <;> simp [ht, Session.detach]

theorem activate_eq {r : Registry} {session : Nat} (h : session ∈ r.sessions.map (·.id)) (pane : Nat) :
    r.activate session pane = (.ok (), r.point session pane) := by
  have hsome : (r.session? session).isSome := Keyed.isSome_find?_iff.mpr h
  obtain ⟨t, ht⟩ := Option.isSome_iff_exists.mp hsome
  simp [activate, Registry.session, ht, point]

theorem focusPane_eq {r : Registry} {id : Nat} {p : Pane} (hp : r.panes.find? id = some p)
    (hsession : p.session ∈ r.sessions.map (·.id)) (now : Time.Instant) :
    r.focusPane now id =
      (.ok (), Registry.point { r with panes := r.panes.touchRecord now id } p.session id) := by
  have hfound : r.panes.find id = .ok p := by simp [Panes.find, hp]
  simp only [focusPane, Panes.sessionOf, Panes.touch, hfound, Except.map]
  exact activate_eq (r := { r with panes := r.panes.touchRecord now id }) hsession id

theorem focusPane_of_error {r : Registry} {id : Nat} {e : RequestError}
    (h : r.panes.find id = .error e) (now : Time.Instant) : r.focusPane now id = (.error e, r) := by
  simp [focusPane, Panes.sessionOf, h, Except.map]

theorem closePane_eq {r : Registry} {id : Nat} {p : Pane} (hp : r.panes.find? id = some p)
    (uptime : Nat) (how : Panes.Teardown) :
    r.closePane uptime how id =
      (.ok (), Registry.detach { r with panes := (r.panes.close uptime how id).2 } p.session id) := by
  simp [closePane, Panes.close, hp]

end Registry

namespace Race

variable {s s' : Race} {p : Pane} {order : List Task}

/-- The same race, some steps later. -/
def moved (s : Race) (registry : Registry) (focusing : Focusing) (closing : Closing) : Race :=
  { s with registry, focusing, closing }

/-- The registry once the pane has been told. -/
def touched (s : Race) : Registry :=
  { s.registry with panes := s.registry.panes.touchRecord s.now s.pane }

/-- The registry once the pane is gone. -/
def emptied (s : Race) : Registry :=
  { s.registry with panes := (s.registry.panes.close s.uptime s.how s.pane).2 }

theorem emptied_touched (hp : s.registry.panes.find? s.pane = some p) :
    { s.touched with panes := (s.touched.panes.close s.uptime s.how s.pane).2 } = s.emptied := by
  rw [touched, emptied, Panes.close_touchRecord hp]

/-- The order of steps in which the pane is closed right before it is made the active one. -/
def lateOrder : List Task := [.focus, .focus, .close, .close, .focus]

/-- **Where a race can be** after some steps, about a pane of some session. -/
inductive Reached (s : Race) (session : Nat) : List Task → Race → Prop where
  | start : Reached s session [] (s.moved s.registry .begun .begun)
  | found : Reached s session [.focus] (s.moved s.registry (.found session) .begun)
  | told : Reached s session [.focus, .focus] (s.moved s.touched (.touched session) .begun)
  | focused {order : List Task} : Reached s session order
      (s.moved (s.touched.point session s.pane) (.answered (.ok ())) .begun)
  /-- the pane is made the active one, and then taken out of its session -/
  | focusedGone {order : List Task} : Reached s session order
      (s.moved (s.emptied.point session s.pane) (.answered (.ok ())) (.removed session))
  | focusFirst {order : List Task} (horder : order ≠ lateOrder) : Reached s session order
      (s.moved ((s.emptied.point session s.pane).detach session s.pane) (.answered (.ok ()))
        (.answered (.ok ())))
  /-- the pane is gone before it could be told anything -/
  | gone {order : List Task} {focusing : Focusing}
      (hfocusing : focusing = .begun ∨ focusing = .found session)
      (horder : order ≠ [.focus, .focus, .close]) : Reached s session order
      (s.moved s.emptied focusing (.removed session))
  | goneDetached {order : List Task} {focusing : Focusing}
      (hfocusing : focusing = .begun ∨ focusing = .found session)
      (horder : order ≠ [.focus, .focus, .close, .close]) : Reached s session order
      (s.moved (s.emptied.detach session s.pane) focusing (.answered (.ok ())))
  | refused {order : List Task} : Reached s session order
      (s.moved s.emptied (.answered (.error (.paneNotFound s.pane))) (.removed session))
  | closeFirst {order : List Task} (horder : order ≠ lateOrder) : Reached s session order
      (s.moved (s.emptied.detach session s.pane) (.answered (.error (.paneNotFound s.pane)))
        (.answered (.ok ())))
  /-- the pane is gone after it has been told, and before it is made the active one -/
  | late : Reached s session [.focus, .focus, .close]
      (s.moved s.emptied (.touched session) (.removed session))
  | tooLate : Reached s session [.focus, .focus, .close, .close]
      (s.moved (s.emptied.detach session s.pane) (.touched session) (.answered (.ok ())))
  | stale : Reached s session lateOrder
      (s.moved ((s.emptied.detach session s.pane).point session s.pane) (.answered (.ok ()))
        (.answered (.ok ())))

section Steps

variable {r : Registry} {focusing : Focusing} {closing : Closing} {session : Nat} {e : RequestError}

theorem focus_begun (h : r.panes.find s.pane = .ok p) :
    (s.moved r .begun closing).focus = some (s.moved r (.found p.session) closing) := by
  simp [focus, moved, Panes.sessionOf, h, Except.map]

theorem focus_found (h : r.panes.find s.pane = .ok p) :
    (s.moved r (.found session) closing).focus =
      some (s.moved { r with panes := r.panes.touchRecord s.now s.pane } (.touched session) closing) := by
  simp [focus, moved, Panes.touch, h]

theorem focus_touched (h : session ∈ r.sessions.map (·.id)) :
    (s.moved r (.touched session) closing).focus =
      some (s.moved (r.point session s.pane) (.answered (.ok ())) closing) := by
  simp only [focus, moved, Registry.activate_eq h]

/-- A pane that is gone is refused. -/
theorem focus_of_error (h : r.panes.find s.pane = .error e)
    (hfocusing : focusing = .begun ∨ focusing = .found session) :
    (s.moved r focusing closing).focus = some (s.moved r (.answered (.error e)) closing) := by
  rcases hfocusing with rfl | rfl
  · simp [focus, moved, Panes.sessionOf, h, Except.map]
  · simp [focus, moved, Panes.touch, h]

theorem close_begun (h : r.panes.find? s.pane = some p) :
    (s.moved r focusing .begun).close =
      some (s.moved { r with panes := (r.panes.close s.uptime s.how s.pane).2 } focusing
        (.removed p.session)) := by
  simp [close, moved, Panes.close, h]

theorem close_removed :
    (s.moved r focusing (.removed session)).close =
      some (s.moved (r.detach session s.pane) focusing (.answered (.ok ()))) := rfl

end Steps

theorem append_ne_of_ne {t t' : Task} (h : t ≠ t') (order order' : List Task) :
    order ++ [t] ≠ order' ++ [t'] := fun heq => h (by simpa using congrArg List.getLast? heq)

theorem append_ne {order order' : List Task} (h : order ≠ order') (t : Task) :
    order ++ [t] ≠ order' ++ [t] := fun heq => h (List.append_cancel_right heq)

/-- **Each step leads to one of them.** -/
theorem Reached.step {x x' : Race} (h : Reached s p.session order x)
    (hp : s.registry.panes.find? s.pane = some p)
    (hsession : p.session ∈ s.registry.sessions.map (·.id)) {task : Task}
    (hstep : x.step task = some x') : Reached s p.session (order ++ [task]) x' := by
  have hfound : s.registry.panes.find s.pane = .ok p := by simp [Panes.find, hp]
  have htold : s.touched.panes.find? s.pane = some { p with lastActivity := s.now } :=
    Panes.find?_touchRecord hp s.now
  have hnone : s.emptied.panes.find s.pane = .error (.paneNotFound s.pane) :=
    s.registry.panes.find_close s.uptime s.how s.pane
  cases h with
  | start =>
    cases task with
    | focus =>
      obtain rfl := Option.some.inj ((focus_begun hfound).symm.trans hstep)
      exact .found
    | close =>
      obtain rfl := Option.some.inj ((close_begun hp).symm.trans hstep)
      exact .gone (.inl rfl) (by decide)
  | found =>
    cases task with
    | focus =>
      obtain rfl := Option.some.inj ((focus_found hfound).symm.trans hstep)
      exact .told
    | close =>
      obtain rfl := Option.some.inj ((close_begun hp).symm.trans hstep)
      exact .gone (.inr rfl) (by decide)
  | told =>
    cases task with
    | focus =>
      obtain rfl := Option.some.inj ((focus_touched (r := s.touched) hsession).symm.trans hstep)
      exact .focused
    | close =>
      obtain rfl := Option.some.inj ((close_begun htold).symm.trans hstep)
      rw [emptied_touched hp]
      exact .late
  | focused =>
    cases task with
    | focus => cases hstep
    | close =>
      have hpointed : (s.touched.point p.session s.pane).panes.find? s.pane = _ := htold
      obtain rfl := Option.some.inj ((close_begun hpointed).symm.trans hstep)
      show Reached s p.session _ (s.moved (Registry.point
        { s.touched with panes := (s.touched.panes.close s.uptime s.how s.pane).2 }
          p.session s.pane) _ _)
      rw [emptied_touched hp]
      exact .focusedGone
  | focusedGone =>
    cases task with
    | focus => cases hstep
    | close =>
      obtain rfl := Option.some.inj (close_removed.symm.trans hstep)
      exact .focusFirst (append_ne_of_ne (by decide) _ [.focus, .focus, .close, .close])
  | focusFirst => cases task <;> cases hstep
  | gone hfocusing horder =>
    cases task with
    | focus =>
      obtain rfl := Option.some.inj ((focus_of_error hnone hfocusing).symm.trans hstep)
      exact .refused
    | close =>
      obtain rfl := Option.some.inj (close_removed.symm.trans hstep)
      exact .goneDetached hfocusing (append_ne horder .close)
  | goneDetached hfocusing horder =>
    cases task with
    | focus =>
      obtain rfl := Option.some.inj
        ((focus_of_error (r := s.emptied.detach p.session s.pane) hnone hfocusing).symm.trans hstep)
      exact .closeFirst (append_ne horder .focus)
    | close => cases hstep
  | refused =>
    cases task with
    | focus => cases hstep
    | close =>
      obtain rfl := Option.some.inj (close_removed.symm.trans hstep)
      exact .closeFirst (append_ne_of_ne (by decide) _ [.focus, .focus, .close, .close])
  | closeFirst => cases task <;> cases hstep
  | late =>
    cases task with
    | focus =>
      obtain rfl := Option.some.inj ((focus_touched (r := s.emptied) hsession).symm.trans hstep)
      exact .focusedGone
    | close =>
      obtain rfl := Option.some.inj (close_removed.symm.trans hstep)
      exact .tooLate
  | tooLate =>
    cases task with
    | focus =>
      have hdetached : p.session ∈ (s.emptied.detach p.session s.pane).sessions.map (·.id) := by
        rw [Registry.map_id_detach]
        exact hsession
      obtain rfl := Option.some.inj ((focus_touched hdetached).symm.trans hstep)
      exact .stale
    | close => cases hstep
  | stale => cases task <;> cases hstep

/-- **Every state of a race** is one of them. -/
theorem reached_run (hbegun : s = s.moved s.registry .begun .begun)
    (hp : s.registry.panes.find? s.pane = some p)
    (hsession : p.session ∈ s.registry.sessions.map (·.id)) {order : List Task} {x : Race}
    (hrun : s.run order = some x) : Reached s p.session order x := by
  induction order using List.reverseRecOn generalizing x with
  | nil =>
    obtain rfl := Option.some.inj (hbegun ▸ hrun)
    exact .start
  | append_singleton order task ih =>
    rw [run, List.foldlM_append] at hrun
    obtain ⟨y, hy, hstep⟩ := Option.bind_eq_some_iff.mp hrun
    have hlast : y.step task = some x := by simpa using hstep
    exact (ih hy).step hp hsession hlast

/-! ## §4 The outcome -/

theorem focusFirst_eq (hp : s.registry.panes.find? s.pane = some p)
    (hsession : p.session ∈ s.registry.sessions.map (·.id)) :
    s.focusFirst = s.moved ((s.emptied.point p.session s.pane).detach p.session s.pane)
      (.answered (.ok ())) (.answered (.ok ())) := by
  have htold : (s.touched.point p.session s.pane).panes.find? s.pane =
      some { p with lastActivity := s.now } := Panes.find?_touchRecord hp s.now
  simp only [focusFirst, Registry.focusPane_eq hp hsession]
  rw [← touched, Registry.closePane_eq htold]
  show s.moved (Registry.detach (Registry.point
    { s.touched with panes := (s.touched.panes.close s.uptime s.how s.pane).2 } _ _) _ _) _ _ = _
  rw [emptied_touched hp]

theorem closeFirst_eq (hp : s.registry.panes.find? s.pane = some p) :
    s.closeFirst = s.moved (s.emptied.detach p.session s.pane)
      (.answered (.error (.paneNotFound s.pane))) (.answered (.ok ())) := by
  have hnone : (s.emptied.detach p.session s.pane).panes.find s.pane =
      .error (.paneNotFound s.pane) := s.registry.panes.find_close s.uptime s.how s.pane
  simp only [closeFirst, Registry.closePane_eq hp]
  rw [← emptied, Registry.focusPane_of_error hnone]
  rfl

end Race

namespace Registry

/-- No session has an active pane that is gone. -/
theorem Consistent.active_ne {r : Registry} (h : r.Consistent) {id : Nat} {e : RequestError}
    (hnone : r.panes.find id = .error e) : ∀ t ∈ r.sessions, t.active ≠ some id := by
  intro t ht hactive
  have hlisted : id ∈ t.panes := (h.focused t ht).2 id hactive
  rw [h.listed t ht, Panes.mem_ownedBy_iff] at hlisted
  obtain ⟨p, hp, howner⟩ := List.mem_map.mp hlisted
  obtain ⟨rfl, -⟩ := Prod.mk.inj howner
  have hfind : r.panes.find? p.id = some p := Keyed.find?_eq_some h.tidy.nodup_records hp
  simp [Panes.find, hfind] at hnone

theorem exists_active_point {r : Registry} {session : Nat} (h : session ∈ r.sessions.map (·.id))
    (pane : Nat) : ∃ t ∈ (r.point session pane).sessions, t.active = some pane := by
  obtain ⟨t, ht, rfl⟩ := List.mem_map.mp h
  exact ⟨_, List.mem_map_of_mem ht, by simp⟩

/-- Two clients that are about to focus and to close a pane. -/
def race (r : Registry) (id : Nat) (now : Time.Instant) (uptime : Nat) (how : Panes.Teardown) : Race :=
  { pane := id, now, uptime, how, registry := r }

/-- **A pane that is focused and closed at the same time**: for every order of steps but one, the outcome
    is one of the two in which one comes after the other. Where the pane is closed just before the last
    step that focuses it, its session is left with an active pane that it does not have, and all else is as
    if the pane had been closed alone. -/
theorem focus_and_close_serial (config : Config) (acts : List Act) (id : Nat) (now : Time.Instant)
    (uptime : Nat) (how : Panes.Teardown) {p : Pane}
    (hlive : ((new config).run acts).panes.find? id = some p) {order : List Race.Task} {final : Race}
    (hrun : (((new config).run acts).race id now uptime how).run order = some final)
    (hover : ∀ task, final.step task = none) :
    (order ≠ Race.lateOrder →
      final = (((new config).run acts).race id now uptime how).focusFirst ∨
        final = (((new config).run acts).race id now uptime how).closeFirst) ∧
    (order = Race.lateOrder →
      final.registry = (((new config).run acts).closePane uptime how id).2.point p.session id) ∧
    ((∀ s ∈ final.registry.sessions, s.active ≠ some id) ↔ order ≠ Race.lateOrder) := by
  have h : ((new config).run acts).Consistent := consistent_run config acts
  have hanswered : final.IsOver := Race.isOver_iff.mpr hover
  generalize (new config).run acts = r at hlive hrun h ⊢
  have hsession : p.session ∈ r.sessions.map (·.id) := by
    obtain ⟨s, hs, hid⟩ := h.owned _ (Panes.mem_owners_of_find? hlive)
    exact List.mem_map.mpr ⟨s, hs, hid⟩
  have hclosed := closePane_eq hlive uptime how
  have hnone : (r.race id now uptime how).emptied.panes.find id = .error (.paneNotFound id) :=
    r.panes.find_close uptime how id
  have hfocusFirst := Race.focusFirst_eq (s := r.race id now uptime how) hlive hsession
  have hcloseFirst := Race.closeFirst_eq (s := r.race id now uptime how) hlive
  cases Race.reached_run (s := r.race id now uptime how) rfl hlive hsession hrun with
  | focusFirst horder =>
    have hkept : (r.race id now uptime how).focusFirst.registry.Consistent :=
      (h.focusPane now id).closePane uptime how id
    rw [hfocusFirst] at hkept
    exact ⟨fun _ => .inl hfocusFirst.symm, fun hlate => absurd hlate horder,
      iff_of_true (hkept.active_ne hnone) horder⟩
  | closeFirst horder =>
    have hkept := h.closePane uptime how id
    rw [hclosed] at hkept
    exact ⟨fun _ => .inr hcloseFirst.symm, fun hlate => absurd hlate horder,
      iff_of_true (hkept.active_ne hnone) horder⟩
  | stale =>
    refine ⟨fun hne => absurd rfl hne, fun _ => by rw [hclosed]; rfl, ?_⟩
    have hdetached : p.session ∈
        ((r.race id now uptime how).emptied.detach p.session id).sessions.map (·.id) := by
      rw [map_id_detach]
      exact hsession
    obtain ⟨t, ht, hactive⟩ := exists_active_point hdetached id
    exact iff_of_false (fun hgone => hgone t ht hactive) fun hne => hne rfl
  | gone hfocusing | goneDetached hfocusing =>
    obtain ⟨⟨a, ha⟩, -⟩ := hanswered
    rcases hfocusing with rfl | rfl <;> cases ha
  | _ => simp [Race.IsOver, Race.moved] at hanswered

/-- The pane is closed just before it is told: it is gone for the one that focuses it. -/
theorem focus_and_close_serial_refused :
    let acts : List Act := [.createSession ⟨0, 0⟩ none, .createPane ⟨⟨0, 0⟩, 0⟩ 1 .editor {},
      .createPane ⟨⟨0, 0⟩, 0⟩ 1 .editor {}]
    let race := ((new {}).run acts).race 1 ⟨9, 0⟩ 9 .graceful
    ∃ final, race.run [.focus, .close, .focus, .close] = some final ∧
      (∀ task, final.step task = none) ∧ (final = race.focusFirst ∨ final = race.closeFirst) ∧
      ∀ s ∈ final.registry.sessions, s.active ≠ some 1 := by
  intro acts race
  obtain ⟨final, hrun, hanswered⟩ :
      ∃ final, race.run [.focus, .close, .focus, .close] = some final ∧ final.IsOver :=
    ⟨_, rfl, ⟨_, rfl⟩, ⟨_, rfl⟩⟩
  have hover := Race.isOver_iff.mp hanswered
  obtain ⟨hserial, -, hactive⟩ := focus_and_close_serial {} acts 1 ⟨9, 0⟩ 9 .graceful rfl hrun hover
  exact ⟨final, hrun, hover, hserial (by decide), hactive.mpr (by decide)⟩

/-- A session is left with an active pane that has been closed, and in neither order would it be. -/
theorem closed_pane_active :
    let acts : List Act := [.createSession ⟨0, 0⟩ none, .createPane ⟨⟨0, 0⟩, 0⟩ 1 .editor {},
      .createPane ⟨⟨0, 0⟩, 0⟩ 1 .editor {}]
    let race := ((new {}).run acts).race 1 ⟨9, 0⟩ 9 .graceful
    let shown (s : Race) := s.registry.sessions.map fun t => (t.id, t.panes, t.active)
    ∃ final, race.run [.focus, .focus, .close, .close, .focus] = some final ∧ final.IsOver ∧
      final.registry.panes.records.map (·.id) = [2] ∧ shown final = [(1, [2], some 1)] ∧
      shown race.focusFirst = [(1, [2], some 2)] ∧ shown race.closeFirst = [(1, [2], some 2)] := by
  intro acts race shown
  exact ⟨_, rfl, ⟨⟨_, rfl⟩, ⟨_, rfl⟩⟩, rfl, rfl, rfl, rfl⟩

end Registry

end PaneMux
