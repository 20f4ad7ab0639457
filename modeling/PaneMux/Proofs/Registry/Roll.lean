import PaneMux.Proofs.Registry.Ownership

/-!
# The Roll of a Registry

Sessions and panes as others know them: which there are, under which identifiers and names, and what
has been told of their coming and going. Of all that a registry does only five things matter here. A
session is opened, renamed or closed, and a pane is made or closed; each of them is told in the log.

## Architecture

- **§1** cards, and the rolls of panes (`Panes.roll`) and of a registry (`Registry.roll`)
- **§2** the changes of a roll, one at a time (`Roll.Step`) and one after the other (`Roll.Steps`)
- **§3** operations on panes that leave the roll as it is
- **§4** making and closing panes
- **§5** every action is a series of changes (`Registry.steps_perform`)
-/

namespace PaneMux

/-! ## §1 Rolls -/

/-- An entry that tells of the end of a process. -/
def LifecycleEvent.isExit : LifecycleEvent → Bool
  | .paneExited .. => true
  | _ => false

/-- The entries of a log that tell of sessions and panes. The end of a process is none of them: its
    pane stays. -/
def lifeEvents (events : List LifecycleEvent) : List LifecycleEvent := events.filter (!·.isExit)

/-- What identifies a session, and its name. -/
structure SessionCard where
  id : Nat
  name : String
  createdAt : Time.Instant
  deriving DecidableEq, Repr

def Session.card (s : Session) : SessionCard := ⟨s.id, s.name, s.createdAt⟩

/-- What a pane is from its making to its closing. -/
structure PaneCard where
  id : Nat
  session : Nat
  kind : PaneKind
  deriving DecidableEq, Repr

def Pane.card (r : Pane) : PaneCard := ⟨r.id, r.session, r.kind⟩

def PaneDescriptor.card (d : PaneDescriptor) : PaneCard := ⟨d.id, d.session, d.kind⟩

/-- The roll of panes. -/
structure PaneRoll where
  cards : List PaneCard
  /-- the next identifier -/
  next : Nat
  told : List LifecycleEvent

namespace PaneRoll

def tell (v : PaneRoll) (e : LifecycleEvent) : PaneRoll := { v with told := v.told ++ [e] }

/-- One pane more. -/
def add (v : PaneRoll) (card : PaneCard) : PaneRoll :=
  { v with cards := v.cards ++ [card], next := v.next + 1 }

/-- One pane less. -/
def remove (v : PaneRoll) (id : Nat) : PaneRoll := { v with cards := v.cards.filter (·.id ≠ id) }

end PaneRoll

def Panes.roll (p : Panes) : PaneRoll := ⟨p.records.map (·.card), p.nextId, lifeEvents p.events⟩

/-- The roll of sessions and panes. -/
structure Roll where
  sessions : List SessionCard
  /-- the next identifier of a session -/
  nextSession : Nat
  panes : PaneRoll

def Registry.roll (r : Registry) : Roll := ⟨r.sessions.map (·.card), r.nextSession, r.panes.roll⟩

/-! ## §2 Changes -/

namespace Roll

def tell (v : Roll) (e : LifecycleEvent) : Roll := { v with panes := v.panes.tell e }

def openSession (v : Roll) (s : SessionCard) : Roll :=
  { v with sessions := v.sessions ++ [s], nextSession := v.nextSession + 1 }

def renameSession (v : Roll) (id : Nat) (name : String) : Roll :=
  { v with sessions := v.sessions.map fun s => if s.id = id then { s with name } else s }

def closeSession (v : Roll) (id : Nat) : Roll :=
  { v with sessions := v.sessions.filter (·.id ≠ id) }

def addPane (v : Roll) (card : PaneCard) : Roll := { v with panes := v.panes.add card }

def removePane (v : Roll) (id : Nat) : Roll := { v with panes := v.panes.remove id }

/-- **A change of a roll**, with the pane that is made by it, if one is. -/
inductive Step : Roll → Option PaneDescriptor → Roll → Prop where
  | sessionOpened (v : Roll) (s : Session) (hid : s.id = v.nextSession) (hpanes : s.panes = []) :
      Step v none ((v.openSession s.card).tell (.sessionCreated s))
  | sessionRenamed (v : Roll) (id : Nat) (name : String) (hid : id ∈ v.sessions.map (·.id)) :
      Step v none ((v.renameSession id name).tell (.sessionRenamed id name))
  /-- a session goes when its panes have gone -/
  | sessionClosed (v : Roll) (id : Nat) (hid : id ∈ v.sessions.map (·.id))
      (hempty : ∀ c ∈ v.panes.cards, c.session ≠ id) :
      Step v none ((v.closeSession id).tell (.sessionClosed id))
  | paneMade (v : Roll) (d : PaneDescriptor) (hid : d.id = v.panes.next)
      (hsession : d.session ∈ v.sessions.map (·.id)) :
      Step v (some d) ((v.addPane d.card).tell (.paneCreated d))
  | paneClosed (v : Roll) (c : PaneCard) (hc : c ∈ v.panes.cards) :
      Step v none ((v.removePane c.id).tell (.paneClosed c.id c.session))

/-- Changes one after the other, with the panes made by them. -/
inductive Steps : Roll → List PaneDescriptor → Roll → Prop where
  | refl (v : Roll) : Steps v [] v
  | tail {v v' v'' : Roll} {born : List PaneDescriptor} {made? : Option PaneDescriptor}
      (h : Steps v born v') (hstep : Step v' made? v'') : Steps v (born ++ made?.toList) v''

theorem Step.steps {v v' : Roll} {made? : Option PaneDescriptor} (h : Step v made? v') :
    Steps v made?.toList v' := by
  simpa using (Steps.refl v).tail h

theorem Steps.trans {v v' v'' : Roll} {born born' : List PaneDescriptor} (h : Steps v born v')
    (h' : Steps v' born' v'') : Steps v (born ++ born') v'' := by
  induction h' with
  | refl => simpa using h
  | tail _ hstep ih =>
    rw [← List.append_assoc]
    exact ih.tail hstep

/-- Nothing that has been told is taken back. -/
theorem Steps.told_grows {v v' : Roll} {born : List PaneDescriptor} (h : Steps v born v') :
    v.panes.told <+: v'.panes.told := by
  induction h with
  | refl => exact List.prefix_refl _
  | tail _ hstep ih =>
    refine ih.trans ?_
    cases hstep <;> exact List.prefix_append ..

end Roll

/-! ## §3 The roll stays -/

namespace Panes

theorem roll_emit (p : Panes) {e : LifecycleEvent} (he : e.isExit = false) :
    (p.emit e).roll = p.roll.tell e := by
  simp [roll, emit, PaneRoll.tell, lifeEvents, he]

@[simp] theorem roll_emit_paneExited (p : Panes) (id : Nat) (code : Option Int32) (killed : Bool) :
    (p.emit (.paneExited id code killed)).roll = p.roll := by
  simp [roll, emit, lifeEvents, LifecycleEvent.isExit]

@[simp] theorem roll_ask (p : Panes) (rs : List HostRequest) : (p.ask rs).roll = p.roll := rfl

@[simp] theorem roll_modifyTerminal (p : Panes) (id : Nat) (f : Terminal → Terminal) :
    (p.modifyTerminal id f).roll = p.roll := rfl

/-- A record may change as long as its card does not. -/
theorem roll_modify (p : Panes) (id : Nat) {f : Pane → Pane}
    (hf : ∀ r ∈ p.records, r.id = id → (f r).card = r.card) : (p.modify id f).roll = p.roll := by
  have hcards : (p.modify id f).records.map (·.card) = p.records.map (·.card) := by
    simp only [modify, List.map_map]
    refine List.map_congr_left fun r hr => ?_
    by_cases hid : r.id = id
    · simp [hid, hf r hr hid]
    · simp [hid]
  simp only [roll, hcards]
  rfl

@[simp] theorem roll_touchRecord (p : Panes) (now : Time.Instant) (id : Nat) :
    (p.touchRecord now id).roll = p.roll :=
  p.roll_modify id fun _ _ _ => rfl

@[simp] theorem roll_resizeTerminal (p : Panes) (id : Nat) (size : Geometry) :
    (resizeTerminal id size p).2.roll = p.roll := by
  unfold resizeTerminal
  split
  · rfl
  · split
    · simp only [roll_ask, roll_modifyTerminal]
      exact p.roll_modify id fun _ _ _ => rfl
    · simp

@[simp] theorem roll_applySize (p : Panes) (id : Nat) (current wanted : Geometry) :
    (applySize resizeTerminal id current wanted p).2.roll = p.roll := by
  unfold applySize
  split <;> simp

theorem roll_elapse_go (until_ n : Nat) (d : Debouncer Nat) (p : Panes) :
    (Debouncer.elapse.go resizeTerminal until_ n d p).2.roll = p.roll := by
  induction n generalizing d p with
  | zero => rfl
  | succ n ih =>
    unfold Debouncer.elapse.go
    split
    · rfl
    · exact (ih _ _).trans (roll_applySize p _ _ _)

@[simp] theorem roll_applyResizes (p : Panes) (uptime : Nat) :
    (p.applyResizes uptime).roll = p.roll :=
  roll_elapse_go uptime _ p.resizes p

@[simp] theorem roll_killOverdue (p : Panes) (uptime : Nat) : (p.killOverdue uptime).roll = p.roll :=
  rfl

@[simp] theorem roll_resize (p : Panes) (now : Time.Moment) (how : Teardown) (id : Nat)
    (size : Geometry) : (p.resize now how id size).2.roll = p.roll := by
  unfold resize
  split
  · rfl
  · split
    · rfl
    · dsimp only
      split
      · split
        · exact p.roll_touchRecord now.wall id
        · simp
      · refine Eq.trans ?_ (p.roll_touchRecord now.wall id)
        exact roll_modify _ id fun _ _ _ => rfl

@[simp] theorem roll_touch (p : Panes) (now : Time.Instant) (id : Nat) :
    (p.touch now id).2.roll = p.roll := by
  unfold touch
  split <;> simp

/-- A title is no matter of the roll, where no two panes share an identifier. -/
theorem roll_rename {p : Panes} (hids : (p.records.map (·.id)).Nodup) (now : Time.Instant)
    (id : Nat) (title : String) : (p.rename now id title).2.roll = p.roll := by
  unfold rename find
  cases hfind : p.find? id with
  | none => rfl
  | some r =>
    obtain ⟨hr, hrid⟩ := mem_of_find?_eq_some hfind
    refine p.roll_modify id fun r' hr' hid => ?_
    rw [List.inj_on_of_nodup_map hids hr' hr (hid.trans hrid.symm)]
    rfl

@[simp] theorem roll_sendInput (p : Panes) (now : Time.Instant) (id : Nat) (data : Bytes) :
    (p.sendInput now id data).2.roll = p.roll := by
  unfold sendInput
  split
  · rfl
  · dsimp only
    split <;> simp

@[simp] theorem roll_subscribe (p : Panes) (id : Nat) : (p.subscribe id).2.roll = p.roll := by
  unfold subscribe
  split <;> rfl

@[simp] theorem roll_receive (p : Panes) (subscription : Nat) :
    (p.receive subscription).2.roll = p.roll := by
  unfold receive
  split <;> rfl

/-- The end of a process is told, but its pane stays. -/
@[simp] theorem roll_onExit (p : Panes) (now : Time.Moment) (id : Nat) (code : Option Int32) :
    (p.onExit now id code).roll = p.roll := by
  unfold onExit
  split
  · rfl
  · split
    · rfl
    · rw [roll_modifyTerminal, roll_emit_paneExited]
      rfl

@[simp] theorem roll_retire (p : Panes) (uptime : Nat) (how : Teardown) (id : Nat) :
    (p.retire uptime how id).roll = p.roll := by
  unfold retire
  split <;> rfl

/-! ## §4 The roll changes -/

/-- The outcome of making a pane in a session, on the roll: there is one more under the next
    identifier, or all is as before. -/
def Enters (p : Panes) (session : Nat) (outcome : Except RequestError PaneDescriptor × Panes) :
    Prop :=
  match outcome.1 with
  | .ok d => d.id = p.nextId ∧ d.session = session ∧ outcome.2.roll = p.roll.add d.card
  | .error _ => outcome.2.roll = p.roll

/-- A record at the end, under the next identifier, adds its card. -/
private theorem roll_eq_add {p p' : Panes} {r : Pane} {d : PaneDescriptor}
    (hrecords : p'.records = p.records ++ [r]) (hnext : p'.nextId = p.nextId + 1)
    (hevents : p'.events = p.events) (hcard : r.card = d.card) : p'.roll = p.roll.add d.card := by
  simp [roll, PaneRoll.add, hrecords, hnext, hevents, hcard]

theorem enters_createTerminal (p : Panes) (spawn : Spawner) (now : Time.Instant) (session : Nat)
    (o : TerminalOptions) : p.Enters session (p.createTerminal spawn now session o) := by
  unfold createTerminal
  split
  · exact rfl
  · dsimp only [reserve]
    split
    · -- the identifier that was taken is given back
      simp only [Enters, release, if_true]
    · exact ⟨rfl, rfl, roll_eq_add rfl rfl rfl rfl⟩

theorem enters_createPane (p : Panes) (now : Time.Instant) (session : Nat) (kind : PaneKind)
    (o : PaneOptions) : p.Enters session (p.createPane now session kind o) := by
  unfold createPane
  split
  · exact rfl
  · split
    · exact rfl
    · exact ⟨rfl, rfl, roll_eq_add rfl rfl rfl rfl⟩

/-- Closing takes a pane off the roll, if it is there. -/
theorem roll_close (p : Panes) (uptime : Nat) (how : Teardown) (id : Nat) :
    (p.close uptime how id).2.roll = p.roll ∨
      ∃ c ∈ p.roll.cards, (p.close uptime how id).2.roll =
        (p.roll.remove c.id).tell (.paneClosed c.id c.session) := by
  unfold close
  cases hfind : p.find? id with
  | none => exact .inl rfl
  | some r =>
    obtain ⟨hr, rfl⟩ := mem_of_find?_eq_some hfind
    refine .inr ⟨r.card, List.mem_map_of_mem hr, ?_⟩
    have herase : (p.erase r.id).roll = p.roll.remove r.id := by
      simp [roll, erase, PaneRoll.remove, List.filter_map, Function.comp_def, Pane.card]
    rw [roll_emit _ rfl, roll_retire, herase]
    rfl

/-- What is on the roll belongs to the session that it names. -/
theorem mem_owners_of_mem_cards {p : Panes} {c : PaneCard} (h : c ∈ p.roll.cards) :
    (c.id, c.session) ∈ p.owners := by
  obtain ⟨r, hr, rfl⟩ := List.mem_map.mp h
  exact List.mem_map.mpr ⟨r, hr, rfl⟩

end Panes

/-! ## §5 Every action -/

namespace Registry

variable {r : Registry}

theorem roll_emit (r : Registry) {e : LifecycleEvent} (he : e.isExit = false) :
    (r.emit e).roll = r.roll.tell e :=
  congrArg (Roll.mk _ _) (r.panes.roll_emit he)

/-- What is done to a session in place is no matter of the roll unless it gets a new name. -/
theorem roll_modifySession (r : Registry) (id : Nat) {f : Session → Session}
    (hf : ∀ s, (f s).card = s.card) : (r.modifySession id f).roll = r.roll := by
  refine congrArg (Roll.mk · _ _) ?_
  simp only [modifySession, List.map_map]
  refine List.map_congr_left fun s _ => ?_
  by_cases hid : s.id = id <;> simp [hid, hf]

theorem mem_roll_of_session_eq_ok {id : Nat} {s : Session} (h : r.session id = .ok s) :
    id ∈ r.roll.sessions.map (·.id) := by
  obtain ⟨hs, hsid⟩ := mem_of_session_eq_ok h
  exact List.mem_map.mpr ⟨s.card, List.mem_map_of_mem hs, hsid⟩

theorem steps_createSession (r : Registry) (now : Time.Instant) (name : Option String) :
    Roll.Steps r.roll [] (r.createSession now name).2.roll := by
  have hstep := Roll.Step.sessionOpened r.roll (r.createSession now name).1 rfl rfl
  have hroll : (r.createSession now name).2.roll =
      (r.roll.openSession (r.createSession now name).1.card).tell
        (.sessionCreated (r.createSession now name).1) := by
    refine (roll_emit _ rfl).trans ?_
    simp [createSession, roll, Roll.openSession]
  rw [hroll]
  exact hstep.steps

theorem steps_renameSession (h : r.Consistent) (id : Nat) (name : String) :
    Roll.Steps r.roll [] (r.renameSession id name).2.roll := by
  unfold renameSession setName
  cases hfind : r.session id with
  | error e => exact .refl _
  | ok s =>
    obtain ⟨hs, hsid⟩ := mem_of_session_eq_ok hfind
    have hids : (r.sessions.map (·.id)).Nodup := h.ascending.imp Nat.ne_of_lt
    have hcards : (r.modifySession id fun _ => { s with name }).sessions.map (·.card) =
        (r.roll.renameSession id name).sessions := by
      simp only [modifySession, roll, Roll.renameSession, List.map_map]
      refine List.map_congr_left fun s' hs' => ?_
      by_cases hid : s'.id = id
      · -- it is the session that was found
        rw [List.inj_on_of_nodup_map hids hs' hs (hid.trans hsid.symm)]
        simp [hsid, Session.card]
      · simp [hid, Session.card]
    have hroll :
        ((r.modifySession id fun _ => { s with name }).emit (.sessionRenamed id name)).roll =
          (r.roll.renameSession id name).tell (.sessionRenamed id name) := by
      rw [roll_emit _ rfl, roll, hcards]
      rfl
    show Roll.Steps r.roll [] (emit _ _).roll
    rw [hroll]
    exact (Roll.Step.sessionRenamed r.roll id name (mem_roll_of_session_eq_ok hfind)).steps

/-- Panes are closed one after the other, whoever owns them. -/
theorem steps_closePanes (sessions : List SessionCard) (nextSession uptime : Nat) (ids : List Nat)
    (report : CloseReport) (p : Panes) :
    Roll.Steps ⟨sessions, nextSession, p.roll⟩ []
      ⟨sessions, nextSession, (closePanes uptime ids report p).2.roll⟩ := by
  induction ids generalizing report p with
  | nil => exact .refl _
  | cons id ids ih =>
    have hclose : Roll.Steps ⟨sessions, nextSession, p.roll⟩ []
        ⟨sessions, nextSession, (p.close uptime .graceful id).2.roll⟩ := by
      rcases p.roll_close uptime .graceful id with hsame | ⟨c, hc, hroll⟩
      · rw [hsame]
        exact .refl _
      · rw [hroll]
        exact (Roll.Step.paneClosed ⟨sessions, nextSession, p.roll⟩ c hc).steps
    unfold closePanes
    split <;> rename_i hout <;> rw [hout] at hclose <;> exact hclose.trans (ih _ _)

theorem steps_closeSession (h : r.Consistent) (uptime id : Nat) :
    Roll.Steps r.roll [] (r.closeSession uptime id).2.roll := by
  unfold closeSession
  cases hfind : r.session id with
  | error e => exact .refl _
  | ok s =>
    obtain ⟨hs, hsid⟩ := mem_of_session_eq_ok hfind
    have hpanes := steps_closePanes r.roll.sessions r.nextSession uptime s.panes { session := id }
      r.panes
    have hempty : ∀ c ∈ (closePanes uptime s.panes { session := id } r.panes).2.roll.cards,
        c.session ≠ id := by
      intro c hc hsession
      -- all panes of the session have been listed, and so have been closed
      have howner := Panes.mem_owners_of_mem_cards hc
      rw [(closes_closePanes uptime s.panes { session := id } r.panes).owners_eq] at howner
      obtain ⟨howner, hclosed⟩ := List.mem_filter.mp howner
      have hlisted : c.id ∈ s.panes := by
        rw [h.listed s hs, hsid, ← hsession]
        exact Panes.mem_ownedBy_iff.mpr howner
      simp [hlisted] at hclosed
    have hclosed := Roll.Step.sessionClosed ⟨r.roll.sessions, r.nextSession,
      (closePanes uptime s.panes { session := id } r.panes).2.roll⟩ id
      (mem_roll_of_session_eq_ok hfind) hempty
    have hcards : (r.sessions.filter (·.id ≠ id)).map (·.card) =
        r.roll.sessions.filter (·.id ≠ id) := by
      rw [roll, List.filter_map]
      rfl
    have hroll : ∀ panes,
        ({ r with sessions := r.sessions.filter (·.id ≠ id), panes } : Registry).roll =
          Roll.closeSession ⟨r.roll.sessions, r.nextSession, panes.roll⟩ id :=
      fun panes => congrArg (Roll.mk · _ _) hcards
    dsimp only
    rw [roll_emit _ rfl, hroll]
    exact hpanes.trans hclosed.steps

theorem steps_closeAll (h : r.Consistent) (uptime : Nat) (ids : List Nat) :
    Roll.Steps r.roll [] (closeAll uptime ids r).2.roll := by
  induction ids generalizing r with
  | nil => exact .refl _
  | cons id ids ih =>
    have hclose := steps_closeSession h uptime id
    have hclosed := h.closeSession uptime id
    unfold closeAll
    split <;> rename_i hout <;> rw [hout] at hclose hclosed <;> exact hclose.trans (ih hclosed)

/-- A pane that is made is told of at once. -/
theorem steps_create (r : Registry) {uptime session : Nat}
    {make : Panes → Except RequestError PaneDescriptor × Panes}
    (hmake : r.panes.Enters session (make r.panes)) :
    Roll.Steps r.roll (r.create uptime session make).1.toOption.toList
      (r.create uptime session make).2.roll := by
  unfold create
  cases hfind : r.session session with
  | error e => exact .refl _
  | ok s =>
    cases hout : make r.panes with
    | mk outcome panes =>
      rw [hout] at hmake
      cases outcome with
      | error e =>
        have hroll : ({ r with panes } : Registry).roll = r.roll := by
          simp only [roll]
          rw [show panes.roll = r.panes.roll from hmake]
        show Roll.Steps r.roll [] ({ r with panes } : Registry).roll
        rw [hroll]
        exact .refl _
      | ok d =>
        obtain ⟨hid, hsession, hroll⟩ := hmake
        have hfind' : ({ r with panes } : Registry).session d.session = .ok s := by
          rw [hsession]
          exact hfind
        have hadded : ({ r with panes } : Registry).roll = r.roll.addPane d.card :=
          congrArg (Roll.mk _ _) hroll
        simp only [attach, hfind']
        rw [roll_emit _ rfl, roll_modifySession, hadded]
        · refine (Roll.Step.paneMade r.roll d hid ?_).steps
          rw [hsession]
          exact mem_roll_of_session_eq_ok hfind
        · exact fun _ => rfl

theorem steps_closePane (r : Registry) (uptime : Nat) (how : Panes.Teardown) (id : Nat) :
    Roll.Steps r.roll [] (r.closePane uptime how id).2.roll := by
  have hpanes : (r.closePane uptime how id).2.roll =
      ⟨r.roll.sessions, r.nextSession, (r.panes.close uptime how id).2.roll⟩ := by
    unfold closePane
    split
    · rename_i hout
      rw [hout]
      rfl
    · rename_i hout
      rw [hout]
      rfl
    · rename_i hout
      rw [hout]
      exact roll_modifySession _ _ fun _ => rfl
  rw [hpanes]
  rcases r.panes.roll_close uptime how id with hsame | ⟨c, hc, hroll⟩
  · rw [hsame]
    exact .refl _
  · rw [hroll]
    exact (Roll.Step.paneClosed r.roll c hc).steps

theorem roll_activate (r : Registry) (session pane : Nat) :
    (r.activate session pane).2.roll = r.roll := by
  unfold activate
  split
  · rfl
  · exact roll_modifySession _ _ fun _ => rfl

theorem roll_focusPane (r : Registry) (now : Time.Instant) (id : Nat) :
    (r.focusPane now id).2.roll = r.roll := by
  have htouch := r.panes.roll_touch now id
  unfold focusPane
  split
  · rfl
  · split <;> rename_i hout <;> rw [hout] at htouch
    · exact congrArg (Roll.mk _ _) htouch
    · exact (roll_activate _ _ _).trans (congrArg (Roll.mk _ _) htouch)

theorem roll_elapse (r : Registry) (probe : Probe) (clock : Clock) (uptime : Nat) :
    (r.elapse probe clock uptime).roll = r.roll := by
  have hpanes : ((r.panes.applyResizes uptime).killOverdue uptime).roll = r.panes.roll := by simp
  unfold elapse sampleDue
  dsimp only
  split
  · exact congrArg (Roll.mk _ _) hpanes
  · split <;> exact congrArg (Roll.mk _ _) hpanes

/-- The pane that is made by an action, as it is shown to whoever asked for it. -/
def born? (r : Registry) : Act → Option PaneDescriptor
  | .createTerminal spawn now session o => (r.createTerminal spawn now session o).1.toOption
  | .createPane now session kind o => (r.createPane now session kind o).1.toOption
  | _ => none

/-- The panes made by actions, in order of creation. -/
def births (r : Registry) : List Act → List PaneDescriptor
  | [] => []
  | act :: acts => (r.born? act).toList ++ (r.perform act).births acts

/-- **Every action is a series of changes of the roll.** -/
theorem steps_perform (h : r.Consistent) (act : Act) :
    Roll.Steps r.roll (r.born? act).toList (r.perform act).roll := by
  -- for most actions the roll stays
  have hstays : ∀ panes : Panes, panes.roll = r.panes.roll →
      Roll.Steps r.roll [] ({ r with panes } : Registry).roll := by
    intro panes hpanes
    have hroll : ({ r with panes } : Registry).roll = r.roll := congrArg (Roll.mk _ _) hpanes
    rw [hroll]
    exact .refl _
  cases act with
  | createSession now name => exact r.steps_createSession now name
  | renameSession id name => exact steps_renameSession h id name
  | closeSession uptime id => exact steps_closeSession h uptime id
  | createTerminal spawn now session o =>
    exact r.steps_create (r.panes.enters_createTerminal spawn now.wall session o)
  | createPane now session kind o =>
    exact r.steps_create (r.panes.enters_createPane now.wall session kind o)
  | closePane uptime how id => exact r.steps_closePane uptime how id
  | focusPane now id =>
    show Roll.Steps r.roll [] (r.focusPane now id).2.roll
    rw [roll_focusPane]
    exact .refl _
  | renamePane now id title => exact hstays _ (Panes.roll_rename h.tidy.nodup_records now id title)
  | resizePane now how id size => exact hstays _ (r.panes.roll_resize now how id size)
  | sendInput now id data => exact hstays _ (r.panes.roll_sendInput now id data)
  | subscribe id => exact hstays _ (r.panes.roll_subscribe id)
  | receive subscription => exact hstays _ (r.panes.roll_receive subscription)
  | setAgentStatus now key status =>
    simp only [perform, setAgentStatus, born?]
    split <;> exact .refl _
  | startMetrics uptime =>
    simp only [perform, startMetrics, born?]
    split <;> exact .refl _
  | shutdown uptime =>
    have hstopped : ({ r with sampling := none } : Registry).Consistent :=
      h.of_keeps rfl rfl (.refl _)
    exact steps_closeAll hstopped uptime _
  | ended now pane code => exact hstays _ (r.panes.roll_onExit now pane code)
  | elapse probe clock uptime =>
    show Roll.Steps r.roll [] (r.elapse probe clock uptime).roll
    rw [roll_elapse]
    exact .refl _
  | dropSubscription _ | output _ _ _ | handOver => exact .refl _

/-- **Every run is a series of changes of the roll.** -/
theorem steps_run (h : r.Consistent) (acts : List Act) :
    Roll.Steps r.roll (r.births acts) (r.run acts).roll := by
  induction acts generalizing r with
  | nil => exact .refl _
  | cons act acts ih => exact (steps_perform h act).trans (ih (h.perform act))

end Registry

end PaneMux
