import PaneMux.Proofs.History.Lives

/-!
# Replaying the Log

Someone who only reads the log of a registry, from its beginning, can keep a replica of it: which
sessions there are, how they are called, since when, and which panes each of them lists. The replica
never falls out of step, and no entry of the log speaks of a session or a pane that the reader does
not know of at that point.

## Architecture

- **§1** what a reader makes of the log (`Replica.of`)
- **§2** what a log has opened and not closed, and entries that refer to nothing else
  (`LifecycleEvent.Refers`)
- **§3** the replica agrees with a roll (`Roll.Replayed`), kept by every change
- **§4** the log replays to the registry
-/

namespace PaneMux

/-! ## §1 What a reader makes of the log -/

/-- A session as one who reads the log knows it. -/
structure Followed where
  id : Nat
  name : String
  createdAt : Time.Instant
  /-- in order of creation -/
  panes : List Nat
  deriving DecidableEq, Repr

def Session.followed (s : Session) : Followed := ⟨s.id, s.name, s.createdAt, s.panes⟩

namespace Followed

def rename (name : String) (s : Followed) : Followed := { s with name }

def attach (pane : Nat) (s : Followed) : Followed := { s with panes := s.panes ++ [pane] }

def detach (pane : Nat) (s : Followed) : Followed := { s with panes := s.panes.filter (· ≠ pane) }

end Followed

namespace Replica

def change (id : Nat) (f : Followed → Followed) (known : List Followed) : List Followed :=
  known.map fun s => if s.id = id then f s else s

/-- What an entry in the log changes. The end of a process changes nothing. -/
def hear (known : List Followed) : LifecycleEvent → List Followed
  | .sessionCreated s => known ++ [s.followed]
  | .sessionRenamed id name => change id (.rename name) known
  | .sessionClosed id => known.filter (·.id ≠ id)
  | .paneCreated d => change d.session (.attach d.id) known
  | .paneClosed id session => change session (.detach id) known
  | .paneExited .. => known

/-- **The replica** after a log, kept from nothing. -/
def of (events : List LifecycleEvent) : List Followed := events.foldl hear []

theorem of_append_singleton (events : List LifecycleEvent) (e : LifecycleEvent) :
    of (events ++ [e]) = hear (of events) e := by
  simp [of]

theorem of_lifeEvents (events : List LifecycleEvent) : of (lifeEvents events) = of events := by
  -- what has been heard before does not matter
  have hfold : ∀ known, (lifeEvents events).foldl hear known = events.foldl hear known := by
    induction events with
    | nil => exact fun _ => rfl
    | cons e events ih => cases e <;> exact fun known => ih _
  exact hfold []

end Replica

/-! ## §2 What an entry refers to -/

/-- A session that a log has told of, and has not told to be closed. -/
def SessionOpenIn (log : List LifecycleEvent) (id : Nat) : Prop :=
  (∃ s, .sessionCreated s ∈ log ∧ s.id = id) ∧ .sessionClosed id ∉ log

/-- A pane of a session that a log has told of, and has not told to be closed. -/
def PaneOpenIn (log : List LifecycleEvent) (id session : Nat) : Prop :=
  (∃ d, .paneCreated d ∈ log ∧ d.id = id ∧ d.session = session) ∧
    ∀ session', .paneClosed id session' ∉ log

/-- **What an entry may refer to** after a log: what it opens is new, and everything else that it
    names is open. -/
def LifecycleEvent.Refers (log : List LifecycleEvent) : LifecycleEvent → Prop
  | .sessionCreated s => ∀ s', .sessionCreated s' ∈ log → s'.id ≠ s.id
  | .sessionRenamed id _ | .sessionClosed id => SessionOpenIn log id
  | .paneCreated d =>
    SessionOpenIn log d.session ∧ ∀ d', .paneCreated d' ∈ log → d'.id ≠ d.id
  | .paneClosed id session => SessionOpenIn log session ∧ PaneOpenIn log id session
  | .paneExited .. => True

/-- Every entry of a log refers to what the log has opened before it. -/
def Grounded (log : List LifecycleEvent) : Prop :=
  ∀ before e after, log = before ++ e :: after → e.Refers before

section Logs

variable {log : List LifecycleEvent} {e : LifecycleEvent} {id session : Nat}

theorem SessionOpenIn.append (h : SessionOpenIn log id) (he : e ≠ .sessionClosed id) :
    SessionOpenIn (log ++ [e]) id := by
  obtain ⟨⟨s, hs, hsid⟩, hclosed⟩ := h
  exact ⟨⟨s, List.mem_append_left _ hs, hsid⟩, by simp [hclosed, he.symm]⟩

theorem PaneOpenIn.append (h : PaneOpenIn log id session)
    (he : ∀ session', e ≠ .paneClosed id session') : PaneOpenIn (log ++ [e]) id session := by
  obtain ⟨⟨d, hd, hdid⟩, hclosed⟩ := h
  refine ⟨⟨d, List.mem_append_left _ hd, hdid⟩, fun session' => ?_⟩
  simp [hclosed session', (he session').symm]

theorem Grounded.append (h : Grounded log) (he : e.Refers log) : Grounded (log ++ [e]) := by
  intro before e' after hlog
  -- the entry is the new one, or it was there before
  rcases List.eq_nil_or_concat after with rfl | ⟨rest, last, rfl⟩
  · obtain ⟨rfl, hlast⟩ := List.append_inj' hlog rfl
    rw [← List.singleton_inj.mp hlast]
    exact he
  · rw [List.concat_eq_append, ← List.cons_append, ← List.append_assoc] at hlog
    exact h before e' rest (List.append_inj' hlog rfl).1

/-- The ends of processes do not matter for what is open. -/
theorem refers_lifeEvents_iff : e.Refers (lifeEvents log) ↔ e.Refers log := by
  have hsession : ∀ id, SessionOpenIn (lifeEvents log) id ↔ SessionOpenIn log id := by
    intro id
    simp [SessionOpenIn, lifeEvents, LifecycleEvent.isExit]
  have hpane : ∀ id session, PaneOpenIn (lifeEvents log) id session ↔ PaneOpenIn log id session := by
    intro id session
    simp [PaneOpenIn, lifeEvents, LifecycleEvent.isExit]
  cases e <;> simp [LifecycleEvent.Refers, hsession, hpane] <;>
    simp [lifeEvents, LifecycleEvent.isExit]

theorem Grounded.of_lifeEvents (h : Grounded (lifeEvents log)) : Grounded log := by
  rintro before e after rfl
  cases hexit : e.isExit with
  | true => cases e <;> trivial
  | false =>
    refine refers_lifeEvents_iff.mp (h (lifeEvents before) e (lifeEvents after) ?_)
    simp [lifeEvents, hexit]

end Logs

/-! ## §3 The replica and the roll -/

namespace PaneRoll

def listed (v : PaneRoll) (session : Nat) : List Nat :=
  (v.cards.filter (·.session = session)).map (·.id)

theorem listed_add (v : PaneRoll) (c : PaneCard) (session : Nat) :
    (v.add c).listed session = v.listed session ++ if session = c.session then [c.id] else [] := by
  simp only [listed, add, List.filter_append, List.map_append]
  by_cases hs : c.session = session
  · simp [hs]
  · simp [hs, Ne.symm hs]

theorem listed_remove (v : PaneRoll) (id session : Nat) :
    (v.remove id).listed session = (v.listed session).filter (· ≠ id) := by
  simp only [listed, remove, List.filter_map, List.filter_filter]
  exact congrArg _ (List.filter_congr fun c _ => Bool.and_comm _ _)

end PaneRoll

def Roll.followed (v : Roll) : List Followed :=
  v.sessions.map fun c => ⟨c.id, c.name, c.createdAt, v.panes.listed c.id⟩

/-- **The log has been replayed to the roll**, and each of its entries refers to what was open. -/
structure Roll.Replayed (v : Roll) : Prop where
  replica : Replica.of v.panes.told = v.followed
  /-- a pane belongs to a session that there is -/
  housed : ∀ c ∈ v.panes.cards, c.session ∈ v.sessions.map (·.id)
  sessionsOpen : ∀ id ∈ v.sessions.map (·.id), SessionOpenIn v.panes.told id
  panesOpen : ∀ c ∈ v.panes.cards, PaneOpenIn v.panes.told c.id c.session
  grounded : Grounded v.panes.told

namespace Roll

variable {v v' : Roll} {born : List PaneDescriptor} {made? : Option PaneDescriptor}

/-- No two panes on the roll share an identifier. -/
theorem Recounted.nodup_cards (h : v.Recounted born) : (v.panes.cards.map (·.id)).Nodup := by
  have hsub : (v.panes.cards.map (·.id)).Sublist (born.map (·.id)) := by
    rw [← h.panes.opens, ← h.panes.made, List.map_map, Life.openOnes, List.map_map, List.map_map]
    exact List.filter_sublist.map _
  exact (h.panes.ascending.imp Nat.ne_of_lt).sublist hsub

private theorem Replayed.of_tell (h : v.Replayed) {e : LifecycleEvent}
    (htold : v'.panes.told = v.panes.told) (hreplica : Replica.hear v.followed e = v'.followed)
    (hhoused : ∀ c ∈ v'.panes.cards, c.session ∈ v'.sessions.map (·.id))
    (hsessions : ∀ id ∈ v'.sessions.map (·.id), SessionOpenIn (v.panes.told ++ [e]) id)
    (hpanes : ∀ c ∈ v'.panes.cards, PaneOpenIn (v.panes.told ++ [e]) c.id c.session)
    (hrefers : e.Refers v.panes.told) : (v'.tell e).Replayed := by
  have htell : (v'.tell e).panes.told = v.panes.told ++ [e] := congrArg (· ++ [e]) htold
  refine ⟨?_, hhoused, ?_, ?_, ?_⟩
  · rw [htell, Replica.of_append_singleton, h.replica, hreplica]
    rfl
  · rw [htell]
    exact hsessions
  · rw [htell]
    exact hpanes
  · rw [htell]
    exact h.grounded.append hrefers

/-- A new session lists nothing, and the others list what they did. -/
private theorem Replayed.sessionOpened (h : v.Replayed) (hv : v.Recounted born) {s : Session}
    (hid : s.id = v.nextSession) (hpanes : s.panes = []) :
    ((v.openSession s.card).tell (.sessionCreated s)).Replayed := by
  have hfresh : ∀ id ∈ v.sessions.map (·.id), id ≠ s.id := by
    intro id hmem
    have := hv.sessions.lt_next hmem
    omega
  refine h.of_tell rfl ?_ (fun c hc => ?_) (fun id hmem => ?_)
    (fun c hc => (h.panesOpen c hc).append (by simp)) fun s' hs' => ?_
  · have hnone : v.panes.listed s.id = [] := by
      rw [PaneRoll.listed, List.filter_eq_nil_iff.mpr, List.map_nil]
      exact fun c hc => by simpa using hfresh _ (h.housed c hc)
    show v.followed ++ [s.followed] = List.map _ (v.sessions ++ [s.card])
    rw [List.map_append]
    refine congrArg (v.followed ++ [·]) ?_
    simp [Session.followed, Session.card, openSession, hpanes, hnone]
  · show c.session ∈ (v.sessions ++ [s.card]).map (·.id)
    rw [List.map_append]
    exact List.mem_append_left _ (h.housed c hc)
  · change id ∈ (v.sessions ++ [s.card]).map (·.id) at hmem
    rw [List.map_append] at hmem
    rcases List.mem_append.mp hmem with hmem | hmem
    · exact (h.sessionsOpen id hmem).append (by simp)
    · -- an identifier that is still to be given out has not been closed
      rw [List.mem_singleton.mp hmem]
      refine ⟨⟨s, List.mem_append_right _ (List.mem_singleton_self _), rfl⟩, fun hclosed => ?_⟩
      rcases List.mem_append.mp hclosed with hclosed | hclosed
      · have hlt : s.id < v.nextSession := hv.within _ hclosed
        omega
      · cases List.mem_singleton.mp hclosed
  · have hlt : s'.id < v.nextSession := hv.within _ hs'
    omega

private theorem Replayed.sessionRenamed (h : v.Replayed) {id : Nat} (name : String)
    (hid : id ∈ v.sessions.map (·.id)) :
    ((v.renameSession id name).tell (.sessionRenamed id name)).Replayed := by
  -- only a name changes
  have hids : (v.renameSession id name).sessions.map (·.id) = v.sessions.map (·.id) := by
    simp only [renameSession, List.map_map]
    refine List.map_congr_left fun s _ => ?_
    by_cases hs : s.id = id <;> simp [hs]
  refine h.of_tell rfl ?_ ?_ ?_ (fun c hc => (h.panesOpen c hc).append (by simp))
    (h.sessionsOpen id hid)
  · simp only [Replica.hear, Replica.change, followed, renameSession, List.map_map]
    refine List.map_congr_left fun s _ => ?_
    by_cases hs : s.id = id <;> simp [hs, Followed.rename]
  · rw [hids]
    exact h.housed
  · rw [hids]
    exact fun id' hid' => (h.sessionsOpen id' hid').append (by simp)

/-- A session that goes has no panes left, so that none is left without a session. -/
private theorem Replayed.sessionClosed (h : v.Replayed) {id : Nat}
    (hid : id ∈ v.sessions.map (·.id)) (hempty : ∀ c ∈ v.panes.cards, c.session ≠ id) :
    ((v.closeSession id).tell (.sessionClosed id)).Replayed := by
  have hids : ∀ id', id' ∈ (v.closeSession id).sessions.map (·.id) ↔
      id' ∈ v.sessions.map (·.id) ∧ id' ≠ id := by
    intro id'
    simp only [closeSession, List.mem_map, List.mem_filter]
    constructor
    · rintro ⟨s, ⟨hs, hne⟩, rfl⟩
      exact ⟨⟨s, hs, rfl⟩, by simpa using hne⟩
    · rintro ⟨⟨s, hs, rfl⟩, hne⟩
      exact ⟨s, ⟨hs, by simpa using hne⟩, rfl⟩
  refine h.of_tell rfl ?_ (fun c hc => (hids _).mpr ⟨h.housed c hc, hempty c hc⟩)
    (fun id' hid' => ?_) (fun c hc => (h.panesOpen c hc).append (by simp)) (h.sessionsOpen id hid)
  · simp only [Replica.hear, followed, closeSession, List.filter_map]
    rfl
  · obtain ⟨hmem, hne⟩ := (hids id').mp hid'
    exact (h.sessionsOpen id' hmem).append (by simpa using hne.symm)

private theorem Replayed.paneMade (h : v.Replayed) (hv : v.Recounted born) {d : PaneDescriptor}
    (hid : d.id = v.panes.next) (hsession : d.session ∈ v.sessions.map (·.id)) :
    ((v.addPane d.card).tell (.paneCreated d)).Replayed := by
  have hcards : ∀ c ∈ (v.addPane d.card).panes.cards, c ∈ v.panes.cards ∨ c = d.card := by
    simp [addPane, PaneRoll.add]
  refine h.of_tell rfl ?_ (fun c hc => ?_)
    (fun id hmem => (h.sessionsOpen id hmem).append (by simp)) (fun c hc => ?_)
    ⟨h.sessionsOpen _ hsession, fun d' hd' => ?_⟩
  · -- the new pane is the last one of its session
    simp only [Replica.hear, Replica.change, followed, addPane, List.map_map]
    refine List.map_congr_left fun s _ => ?_
    by_cases hs : s.id = d.session <;>
      simp [PaneRoll.listed_add, PaneDescriptor.card, hs, Followed.attach]
  · rcases hcards c hc with hc | rfl
    · exact h.housed c hc
    · exact hsession
  · rcases hcards c hc with hc | rfl
    · exact (h.panesOpen c hc).append (by simp)
    · refine ⟨⟨d, List.mem_append_right _ (List.mem_singleton_self _), rfl, rfl⟩,
        fun session' hclosed => ?_⟩
      rcases List.mem_append.mp hclosed with hclosed | hclosed
      · have hlt : d.id < v.panes.next := hv.within _ hclosed
        omega
      · cases List.mem_singleton.mp hclosed
  · have hlt : d'.id < v.panes.next := hv.within _ hd'
    omega

/-- A pane that goes is taken off the list of its session, and is on no other. -/
private theorem Replayed.paneClosed (h : v.Replayed) (hv : v.Recounted born) {c : PaneCard}
    (hc : c ∈ v.panes.cards) :
    ((v.removePane c.id).tell (.paneClosed c.id c.session)).Replayed := by
  have hcards : ∀ c' ∈ (v.removePane c.id).panes.cards, c' ∈ v.panes.cards ∧ c'.id ≠ c.id := by
    intro c' hc'
    simpa [removePane, PaneRoll.remove] using hc'
  refine h.of_tell rfl ?_ (fun c' hc' => h.housed c' (hcards c' hc').1)
    (fun id hmem => (h.sessionsOpen id hmem).append (by simp)) (fun c' hc' => ?_)
    ⟨h.sessionsOpen _ (h.housed c hc), h.panesOpen c hc⟩
  · simp only [Replica.hear, Replica.change, followed, removePane, List.map_map]
    refine List.map_congr_left fun s _ => ?_
    by_cases hs : s.id = c.session
    · simp [PaneRoll.listed_remove, hs, Followed.detach]
    · -- what has its identifier is the pane itself, which is of another session
      have hnone : ∀ id ∈ v.panes.listed s.id, id ≠ c.id := by
        intro id hmem heq
        obtain ⟨c', hc', hid⟩ := List.mem_map.mp hmem
        obtain ⟨hc', hsession⟩ := List.mem_filter.mp hc'
        have hsame := List.inj_on_of_nodup_map hv.nodup_cards hc' hc (hid.trans heq)
        rw [hsame] at hsession
        exact hs (of_decide_eq_true hsession).symm
      have hkept : (v.panes.remove c.id).listed s.id = v.panes.listed s.id := by
        rw [PaneRoll.listed_remove]
        exact List.filter_eq_self.mpr fun id hmem => decide_eq_true (hnone id hmem)
      simp [hkept, hs]
  · obtain ⟨hc', hne⟩ := hcards c' hc'
    refine (h.panesOpen c' hc').append fun session' heq => ?_
    exact hne (LifecycleEvent.paneClosed.inj heq).1.symm

/-- **Every change is told so that it can be replayed.** -/
theorem Replayed.step (h : v.Replayed) (hv : v.Recounted born) (hstep : Step v made? v') :
    v'.Replayed := by
  cases hstep with
  | sessionOpened s hid hpanes => exact h.sessionOpened hv hid hpanes
  | sessionRenamed id name hid => exact h.sessionRenamed name hid
  | sessionClosed id hid hempty => exact h.sessionClosed hid hempty
  | paneMade d hid hsession => exact h.paneMade hv hid hsession
  | paneClosed c hc => exact h.paneClosed hv hc

theorem Replayed.steps (h : v.Replayed) (hv : v.Recounted born) {born' : List PaneDescriptor}
    (hsteps : Steps v born' v') : v'.Replayed := by
  induction hsteps with
  | refl => exact h
  | tail hbefore hstep ih => exact ih.step (hv.steps hbefore) hstep

end Roll

/-! ## §4 The replica and the registry -/

namespace Registry

theorem replayed_new (config : Config) : (new config).roll.Replayed where
  replica := rfl
  housed _ hc := nomatch hc
  sessionsOpen _ hid := nomatch hid
  panesOpen _ hc := nomatch hc
  grounded _ _ _ hlog := by simp [roll, new, Panes.roll, Panes.new, lifeEvents] at hlog

/-- What the roll tells of a registry is what its sessions list. -/
theorem Consistent.followed_roll {r : Registry} (h : r.Consistent) :
    r.roll.followed = r.sessions.map (·.followed) := by
  simp only [Roll.followed, roll, List.map_map]
  refine List.map_congr_left fun s hs => ?_
  have hlisted : r.panes.roll.listed s.id = s.panes := by
    rw [h.listed s hs, PaneRoll.listed, Panes.roll, Panes.ownedBy, Panes.owners, List.filter_map,
      List.filter_map, List.map_map, List.map_map]
    rfl
  show Followed.mk s.id s.name s.createdAt (r.panes.roll.listed s.id) = s.followed
  rw [hlisted]
  rfl

/-- In every run the log can be replayed to the roll. -/
theorem replayed_run (config : Config) (acts : List Act) :
    ((new config).run acts).roll.Replayed :=
  (replayed_new config).steps (recounted_new config) (steps_run (consistent_new config) acts)

/-- **The log replays to the registry**: after any actions, the replica that is kept from the log
    alone has just the sessions that there are, with their names, their times of creation and the
    panes that they list, in order; and each entry of the log but the ends of processes refers, at
    its place in the log, to a session or a pane that has been told of before and not closed. -/
theorem log_replays (config : Config) (acts : List Act) :
    let r := (new config).run acts
    Replica.of r.events = r.sessions.map (·.followed) ∧
      ∀ before e after, r.events = before ++ e :: after → e.Refers before := by
  intro r
  -- the log replays to the roll, and the roll lists what the sessions list
  have hconsistent : r.Consistent := consistent_run config acts
  have hreplayed : r.roll.Replayed := replayed_run config acts
  refine ⟨?_, hreplayed.grounded.of_lifeEvents⟩
  calc Replica.of r.events
    _ = Replica.of (lifeEvents r.events) := (Replica.of_lifeEvents _).symm
    _ = r.roll.followed := hreplayed.replica
    _ = r.sessions.map (·.followed) := hconsistent.followed_roll

end Registry

end PaneMux
