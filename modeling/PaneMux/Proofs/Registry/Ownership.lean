import PaneMux.Proofs.Pane.Lifecycle
import PaneMux.Proofs.Registry.Action

/-!
# Ownership

A registry keeps its panes in one place and its sessions in another, and every operation that makes
or closes a pane has to write to both. They agree after every action: each session lists just the
panes whose records name it, in the order in which they were made.

## Architecture

- **§1** one session: `Session.Focused`, kept when a pane comes and when one goes
- **§2** what a session owns (`Panes.ownedBy`), and the log of panes made (`Panes.Chronicled`)
- **§3** `Registry.Consistent`, with a lemma for each kind of change: none to either store, one to
  the sessions in place, and one that takes a session away
- **§4** every action keeps it
- **§5** ownership, in every run
-/

namespace PaneMux

/-! ## §1 One session -/

/-- A session has an active pane exactly if it has any, and that is one of its own. -/
def Session.Focused (s : Session) : Prop :=
  (s.active = none ↔ s.panes = []) ∧ ∀ id ∈ s.active, id ∈ s.panes

namespace Session

variable {s : Session}

theorem Focused.attach (h : s.Focused) (pane : Nat) : (s.attach pane).Focused := by
  refine ⟨by simp [Session.attach], fun id hid => ?_⟩
  -- the first pane becomes active; later ones leave the active one as it is
  cases hactive : s.active with
  | none => simp_all [Session.attach]
  | some a =>
    have hmem := h.2 a hactive
    simp_all [Session.attach]

/-- When the active pane goes another one takes its place, if there is any. -/
theorem Focused.detach (h : s.Focused) (pane : Nat) : (s.detach pane).Focused := by
  by_cases hactive : s.active = some pane
  · constructor
    · simp [Session.detach, hactive]
    · intro id hid
      simp only [Session.detach, hactive, if_true] at hid ⊢
      exact List.mem_of_getLast? hid
  · -- another pane is active, and that one stays
    have hstays : ∀ id ∈ s.active, id ∈ s.panes.filter (· ≠ pane) := by
      intro id hid
      refine List.mem_filter.mpr ⟨h.2 id hid, ?_⟩
      simpa using fun heq : id = pane => hactive (heq ▸ hid)
    simp only [Focused, Session.detach, hactive, if_false]
    refine ⟨⟨fun hnone => by simp [h.1.mp hnone], fun hempty => ?_⟩, hstays⟩
    cases hsome : s.active with
    | none => rfl
    | some a =>
      have hmem := hstays a hsome
      rw [hempty] at hmem
      cases hmem

end Session

/-! ## §2 One table -/

namespace Panes

/-- The panes of a session, in order of creation. -/
def ownedBy (p : Panes) (session : Nat) : List Nat :=
  (p.owners.filter (·.2 = session)).map Prod.fst

/-- The log tells of every pane, in order of creation, and never twice of one. -/
structure Chronicled (p : Panes) : Prop where
  complete : (p.owners.map Prod.fst).Sublist (createdPanes p.events)
  ascending : (createdPanes p.events).Pairwise (· < ·)
  fresh : ∀ id ∈ createdPanes p.events, id < p.nextId

variable {p p' : Panes}

theorem mem_ownedBy_iff {id session : Nat} :
    id ∈ p.ownedBy session ↔ (id, session) ∈ p.owners := by
  simp [ownedBy]

/-- What is left of the panes of a session when some panes are closed. -/
theorem Closes.ownedBy_eq {ids : List Nat} (h : p.Closes p' ids) (session : Nat) :
    p'.ownedBy session = (p.ownedBy session).filter (· ∉ ids) := by
  rw [ownedBy, ownedBy, h.owners_eq, List.filter_filter, List.filter_map, List.filter_filter]
  congr 1
  exact List.filter_congr fun x _ => by simp [Bool.and_comm]

theorem Chronicled.of_closes (h : p.Chronicled) {ids : List Nat} (hcloses : p.Closes p' ids) :
    p'.Chronicled where
  complete := by
    rw [hcloses.owners_eq, hcloses.created_eq]
    exact (List.filter_sublist.map _).trans h.complete
  ascending := by rw [hcloses.created_eq]; exact h.ascending
  fresh := by rw [hcloses.created_eq, hcloses.nextId_eq]; exact h.fresh

theorem Chronicled.of_keeps (h : p.Chronicled) (hkeeps : p.Keeps p') : p'.Chronicled :=
  h.of_closes (.nil hkeeps)

/-- A pane that is made is made known. -/
theorem Chronicled.of_makes (h : p.Chronicled) {session : Nat} {d : PaneDescriptor}
    (hmakes : p.Makes p' session d) : (p'.emit (.paneCreated d)).Chronicled := by
  have hcreated : createdPanes (p'.emit (.paneCreated d)).events =
      createdPanes p.events ++ [p.nextId] := by
    rw [← hmakes.created_eq, ← hmakes.id_eq]
    simp [createdPanes, Panes.emit, LifecycleEvent.created?]
  have howners : (p'.emit (.paneCreated d)).owners = p.owners ++ [(p.nextId, session)] :=
    hmakes.owners_eq
  constructor
  case complete =>
    rw [hcreated, howners, List.map_append]
    exact h.complete.append (List.Sublist.refl _)
  case ascending =>
    rw [hcreated, List.pairwise_append]
    refine ⟨h.ascending, List.pairwise_singleton _ _, fun id hid id' hid' => ?_⟩
    rw [List.mem_singleton.mp hid']
    exact h.fresh id hid
  case fresh =>
    intro id hid
    rw [hcreated] at hid
    show id < p'.nextId
    rw [hmakes.nextId_eq]
    rcases List.mem_append.mp hid with hid | hid
    · exact Nat.lt_succ_of_lt (h.fresh id hid)
    · rw [List.mem_singleton.mp hid]
      exact Nat.lt_succ_self _

end Panes

namespace Registry

/-! ## §3 Both stores -/

/-- **Sessions and panes agree.** -/
structure Consistent (r : Registry) : Prop where
  tidy : r.panes.Tidy
  chronicled : r.panes.Chronicled
  ascending : (r.sessions.map (·.id)).Pairwise (· < ·)
  fresh : ∀ s ∈ r.sessions, s.id < r.nextSession
  focused : ∀ s ∈ r.sessions, s.Focused
  /-- a session lists the panes that belong to it -/
  listed : ∀ s ∈ r.sessions, s.panes = r.panes.ownedBy s.id
  /-- a pane belongs to a session that there is -/
  owned : ∀ x ∈ r.panes.owners, ∃ s ∈ r.sessions, s.id = x.2

theorem consistent_new (config : Config) : (new config).Consistent where
  tidy := Panes.tidy_new config
  chronicled := ⟨List.Sublist.refl _, List.Pairwise.nil, fun _ hid => nomatch hid⟩
  ascending := List.Pairwise.nil
  fresh _ hs := nomatch hs
  focused _ hs := nomatch hs
  listed _ hs := nomatch hs
  owned _ hx := nomatch hx

variable {r r' : Registry}

/-- The sessions are changed in place, in agreement with what becomes of the panes. -/
theorem Consistent.of_map (h : r.Consistent) {f : Session → Session} (hid : ∀ s, (f s).id = s.id)
    (hsessions : r'.sessions = r.sessions.map f) (hnext : r'.nextSession = r.nextSession)
    (htidy : r'.panes.Tidy) (hchronicled : r'.panes.Chronicled)
    (hlisted : ∀ s ∈ r.sessions, (f s).Focused ∧ (f s).panes = r'.panes.ownedBy s.id)
    (howned : ∀ x ∈ r'.panes.owners, ∃ s ∈ r.sessions, s.id = x.2) : r'.Consistent := by
  have hmem : ∀ s ∈ r'.sessions, ∃ s₀ ∈ r.sessions, s = f s₀ := by
    intro s hs
    rw [hsessions] at hs
    obtain ⟨s₀, hs₀, rfl⟩ := List.mem_map.mp hs
    exact ⟨s₀, hs₀, rfl⟩
  constructor
  case tidy => exact htidy
  case chronicled => exact hchronicled
  case ascending =>
    -- the identifiers are the same ones in the same order
    have hids : r'.sessions.map (·.id) = r.sessions.map (·.id) := by
      simp [hsessions, Function.comp_def, hid]
    rw [hids]
    exact h.ascending
  case fresh =>
    intro s hs
    obtain ⟨s₀, hs₀, rfl⟩ := hmem s hs
    rw [hid, hnext]
    exact h.fresh s₀ hs₀
  case focused =>
    intro s hs
    obtain ⟨s₀, hs₀, rfl⟩ := hmem s hs
    exact (hlisted s₀ hs₀).1
  case listed =>
    intro s hs
    obtain ⟨s₀, hs₀, rfl⟩ := hmem s hs
    rw [hid]
    exact (hlisted s₀ hs₀).2
  case owned =>
    intro x hx
    obtain ⟨s, hs, hsid⟩ := howned x hx
    exact ⟨f s, by rw [hsessions]; exact List.mem_map_of_mem hs, by rw [hid, hsid]⟩

/-- The sessions stay, and so do the panes. -/
theorem Consistent.of_keeps (h : r.Consistent) (hsessions : r'.sessions = r.sessions)
    (hnext : r'.nextSession = r.nextSession) (hkeeps : r.panes.Keeps r'.panes) :
    r'.Consistent := by
  have howned : r'.panes.ownedBy = r.panes.ownedBy := by
    unfold Panes.ownedBy
    rw [hkeeps.owners_eq]
  refine h.of_map (f := fun s => s) (fun _ => rfl) (by simpa using hsessions) hnext
    (h.tidy.of_keeps hkeeps) (h.chronicled.of_keeps hkeeps) (fun s hs => ?_) ?_
  · rw [howned]
    exact ⟨h.focused s hs, h.listed s hs⟩
  · rw [hkeeps.owners_eq]
    exact h.owned

/-- **One session is changed**, in agreement with what becomes of its panes, and those of the others
    stay. -/
theorem Consistent.of_modify (h : r.Consistent) {id : Nat} {g : Session → Session}
    (hsessions : r'.sessions = (r.modifySession id g).sessions)
    (hnext : r'.nextSession = r.nextSession) (htidy : r'.panes.Tidy)
    (hchronicled : r'.panes.Chronicled) (hid : ∀ s, s.id = id → (g s).id = id)
    (hchanged : ∀ s ∈ r.sessions, s.id = id → (g s).Focused ∧ (g s).panes = r'.panes.ownedBy id)
    (hothers : ∀ i, i ≠ id → r'.panes.ownedBy i = r.panes.ownedBy i)
    (howned : ∀ x ∈ r'.panes.owners, ∃ s ∈ r.sessions, s.id = x.2) : r'.Consistent := by
  refine h.of_map (f := fun s => if s.id = id then g s else s) (fun s => ?_) hsessions hnext htidy
    hchronicled (fun s hs => ?_) howned
  · by_cases hs : s.id = id
    · simp [hs, hid s hs]
    · simp [hs]
  · by_cases hsid : s.id = id
    · simpa [hsid] using hchanged s hs hsid
    · simpa [hsid, hothers s.id hsid] using ⟨h.focused s hs, h.listed s hs⟩

/-- A session that is found is the one asked for. -/
theorem mem_of_session_eq_ok {id : Nat} {s : Session} (hs : r.session id = .ok s) :
    s ∈ r.sessions ∧ s.id = id := by
  unfold session at hs
  split at hs
  · rename_i s' hfind
    rw [← Except.ok.inj hs]
    exact Keyed.mem_of_find? hfind
  · cases hs

/-! ## §4 Every action -/

/-- A new session owns nothing yet. -/
theorem Consistent.createSession (h : r.Consistent) (now : Time.Instant) (name : Option String) :
    (r.createSession now name).2.Consistent := by
  have hkeeps : r.panes.Keeps (r.createSession now name).2.panes := .emit _ rfl
  -- every pane belongs to an older session
  have hnone : ∀ x ∈ r.panes.owners, x.2 ≠ r.nextSession := by
    intro x hx heq
    obtain ⟨s, hs, hid⟩ := h.owned x hx
    have := h.fresh s hs
    omega
  obtain ⟨s, hsessions, hid, hpanes, hactive⟩ : ∃ s : Session,
      (r.createSession now name).2.sessions = r.sessions ++ [s] ∧
        s.id = r.nextSession ∧ s.panes = [] ∧ s.active = none :=
    ⟨_, rfl, rfl, rfl, rfl⟩
  have hold : ∀ s' ∈ (r.createSession now name).2.sessions, s' ∈ r.sessions ∨ s' = s := by
    simp [hsessions]
  constructor
  case tidy => exact h.tidy.of_keeps hkeeps
  case chronicled => exact h.chronicled.of_keeps hkeeps
  case ascending =>
    rw [hsessions, List.map_append, List.pairwise_append]
    refine ⟨h.ascending, List.pairwise_singleton _ _, fun id hid' id' hid'' => ?_⟩
    obtain ⟨s', hs', rfl⟩ := List.mem_map.mp hid'
    rw [List.mem_singleton.mp hid'']
    show s'.id < s.id
    rw [hid]
    exact h.fresh s' hs'
  case fresh =>
    intro s' hs'
    show s'.id < r.nextSession + 1
    rcases hold s' hs' with hs' | rfl
    · exact Nat.lt_succ_of_lt (h.fresh s' hs')
    · omega
  case focused =>
    intro s' hs'
    rcases hold s' hs' with hs' | rfl
    · exact h.focused s' hs'
    · simp [Session.Focused, hactive, hpanes]
  case listed =>
    intro s' hs'
    show s'.panes = r.panes.ownedBy s'.id
    rcases hold s' hs' with hs' | rfl
    · exact h.listed s' hs'
    · rw [hpanes, Panes.ownedBy, List.filter_eq_nil_iff.mpr]
      · rfl
      · simpa [hid] using hnone
  case owned =>
    intro x hx
    obtain ⟨s', hs', hid'⟩ := h.owned x hx
    exact ⟨s', by simp [hsessions, hs'], hid'⟩

/-- A name is no matter of the panes. -/
theorem Consistent.renameSession (h : r.Consistent) (id : Nat) (name : String) :
    (r.renameSession id name).2.Consistent := by
  unfold Registry.renameSession setName
  cases hfind : r.session id with
  | error e => exact h
  | ok s =>
    obtain ⟨hs, hsid⟩ := mem_of_session_eq_ok hfind
    have hkeeps : r.panes.Keeps (r.panes.emit (.sessionRenamed id name)) := .emit _ rfl
    refine h.of_modify rfl rfl (h.tidy.of_keeps hkeeps) (h.chronicled.of_keeps hkeeps)
      (fun _ _ => hsid) (fun s' _ _ => ⟨h.focused s hs, ?_⟩) (fun _ _ => rfl) h.owned
    exact hsid ▸ h.listed s hs

/-- Another one of its panes becomes the active one of a session. -/
theorem Consistent.activate (h : r.Consistent) {id session : Nat}
    (howner : (id, session) ∈ r.panes.owners) : (r.activate session id).2.Consistent := by
  unfold Registry.activate
  cases hfind : r.session session with
  | error e => exact h
  | ok s =>
    refine h.of_modify rfl rfl h.tidy h.chronicled (fun _ hid => hid) (fun s' hs' hid => ?_)
      (fun _ _ => rfl) h.owned
    have hlisted : s'.panes = r.panes.ownedBy session := hid ▸ h.listed s' hs'
    have hmem : id ∈ s'.panes := hlisted ▸ Panes.mem_ownedBy_iff.mpr howner
    exact ⟨by simp [Session.Focused, hmem, List.ne_nil_of_mem hmem], hlisted⟩

/-- A pane that is made goes to the end of the list of its session. -/
theorem Consistent.attach (h : r.Consistent) {panes : Panes} {d : PaneDescriptor} {session : Nat}
    (hmakes : r.panes.Makes panes session d) {s : Session} (hs : r.session session = .ok s)
    (uptime : Nat) : ({ r with panes }.attach uptime d).2.Consistent := by
  have hfind : ({ r with panes } : Registry).session d.session = .ok s := by
    rw [hmakes.session_eq]
    exact hs
  have howners : (panes.emit (.paneCreated d)).owners = r.panes.owners ++ [(d.id, d.session)] := by
    rw [hmakes.id_eq, hmakes.session_eq]
    exact hmakes.owners_eq
  -- the new pane is the last of its session, and no other session gains one
  have howned : ∀ i, (panes.emit (.paneCreated d)).ownedBy i =
      r.panes.ownedBy i ++ if i = d.session then [d.id] else [] := by
    intro i
    rw [Panes.ownedBy, Panes.ownedBy, howners, List.filter_append, List.map_append]
    split <;> simp_all [eq_comm]
  simp only [Registry.attach, hfind]
  refine h.of_modify rfl rfl ((h.tidy.of_makes hmakes).emit _) (h.chronicled.of_makes hmakes)
    (fun _ hid => hid) (fun s' hs' hid => ⟨(h.focused s' hs').attach d.id, ?_⟩) (fun i hi => ?_)
    fun x hx => ?_
  · refine Eq.trans ?_ (howned d.session).symm
    simp [Session.attach, h.listed s' hs', hid]
  · exact (howned i).trans (by simp [hi])
  · change x ∈ (panes.emit (.paneCreated d)).owners at hx
    rw [howners] at hx
    rcases List.mem_append.mp hx with hx | hx
    · exact h.owned x hx
    · obtain ⟨hmem, hid⟩ := mem_of_session_eq_ok hs
      rw [List.mem_singleton.mp hx]
      exact ⟨s, hmem, hid.trans hmakes.session_eq.symm⟩

/-- Whether a pane can be made or not. -/
theorem Consistent.create (h : r.Consistent) {uptime session : Nat}
    {make : Panes → Except RequestError PaneDescriptor × Panes}
    (hmake : r.panes.Attempts session (make r.panes)) :
    (r.create uptime session make).2.Consistent := by
  unfold Registry.create
  cases hfind : r.session session with
  | error e => exact h
  | ok s =>
    cases hout : make r.panes with
    | mk outcome panes =>
      rw [hout] at hmake
      cases outcome with
      | error e => exact h.of_keeps rfl rfl hmake
      | ok d => exact h.attach hmake hfind uptime

/-- A pane that is closed leaves the list of its session. -/
theorem Consistent.detach (h : r.Consistent) {panes : Panes} {id session : Nat}
    (howner : (id, session) ∈ r.panes.owners) (hcloses : r.panes.Closes panes [id]) :
    ({ r with panes }.detach session id).Consistent := by
  refine h.of_modify rfl rfl (h.tidy.of_closes hcloses) (h.chronicled.of_closes hcloses)
    (fun _ hid => hid) (fun s hs hid => ⟨(h.focused s hs).detach id, ?_⟩) (fun i hi => ?_)
    fun x hx => ?_
  · refine Eq.trans ?_ (hcloses.ownedBy_eq session).symm
    simp [Session.detach, h.listed s hs, hid]
  · -- the pane belongs to one session alone, so that no other one listed it
    refine (hcloses.ownedBy_eq i).trans (List.filter_eq_self.mpr fun id' hid' => ?_)
    have hne : id' ≠ id := by
      rintro rfl
      exact hi (h.tidy.session_unique (Panes.mem_ownedBy_iff.mp hid') howner)
    simpa using hne
  · change x ∈ panes.owners at hx
    rw [hcloses.owners_eq] at hx
    exact h.owned x (List.mem_filter.mp hx).1

/-- Whether there is a pane to be closed or not. -/
theorem Consistent.closePane (h : r.Consistent) (uptime : Nat) (how : Panes.Teardown) (id : Nat) :
    (r.closePane uptime how id).2.Consistent := by
  have hcloses := r.panes.closes_close uptime how id
  unfold Registry.closePane
  cases hclose : r.panes.close uptime how id with
  | mk result panes =>
    rw [hclose] at hcloses
    match result with
    | .ok (some session) => exact h.detach (Panes.mem_owners_of_close hclose) hcloses
    | .ok none | .error e =>
      have hsame : panes = r.panes := Panes.eq_of_close hclose (by simp)
      exact h.of_keeps rfl rfl (hsame ▸ .refl panes)

/-- Closing several panes, one after the other. -/
theorem closes_closePanes (uptime : Nat) (ids : List Nat) (report : CloseReport) (p : Panes) :
    p.Closes (closePanes uptime ids report p).2 ids := by
  induction ids generalizing report p with
  | nil => exact .of_keeps (.refl p) (by simp)
  | cons id ids ih =>
    -- whether this one can be closed or not, the others are closed after it
    have hclose := p.closes_close uptime .graceful id
    unfold closePanes
    split <;> rename_i hout <;> rw [hout] at hclose <;> exact hclose.trans (ih _ _)

/-- A session goes with all its panes. -/
theorem Consistent.closeSession (h : r.Consistent) (uptime id : Nat) :
    (r.closeSession uptime id).2.Consistent := by
  unfold Registry.closeSession
  cases hfind : r.session id with
  | error e => exact h
  | ok s =>
    obtain ⟨hs, hsid⟩ := mem_of_session_eq_ok hfind
    have hcloses := (closes_closePanes uptime s.panes { session := id } r.panes).trans_keeps
      (.emit _ (e := .sessionClosed id) rfl)
    -- the panes listed are just those that belong to the session
    have hmine : ∀ x ∈ r.panes.owners, x.1 ∈ s.panes ↔ x.2 = id := by
      intro x hx
      rw [h.listed s hs, hsid, Panes.mem_ownedBy_iff]
      exact ⟨fun hx' => h.tidy.session_unique hx hx', fun heq => heq ▸ hx⟩
    constructor
    case tidy => exact h.tidy.of_closes hcloses
    case chronicled => exact h.chronicled.of_closes hcloses
    case ascending => exact h.ascending.sublist (List.filter_sublist.map _)
    case fresh => exact fun s' hs' => h.fresh s' (List.mem_filter.mp hs').1
    case focused => exact fun s' hs' => h.focused s' (List.mem_filter.mp hs').1
    case listed =>
      intro s' hs'
      obtain ⟨hs', hne⟩ := List.mem_filter.mp hs'
      refine (h.listed s' hs').trans (Eq.trans ?_ (hcloses.ownedBy_eq s'.id).symm)
      -- none of the panes of another session has been closed
      refine (List.filter_eq_self.mpr fun id' hid' => ?_).symm
      have hx := Panes.mem_ownedBy_iff.mp hid'
      have := (hmine _ hx).not
      simp_all
    case owned =>
      intro x hx
      have hx' : x ∈ r.panes.owners.filter (·.1 ∉ s.panes) := by
        rw [← hcloses.owners_eq]
        exact hx
      obtain ⟨hx', hnot⟩ := List.mem_filter.mp hx'
      obtain ⟨s', hs', hid⟩ := h.owned x hx'
      refine ⟨s', List.mem_filter.mpr ⟨hs', ?_⟩, hid⟩
      have := (hmine x hx').not
      simp_all

/-- Closing several sessions, one after the other. -/
theorem Consistent.closeAll (h : r.Consistent) (uptime : Nat) (ids : List Nat) :
    (closeAll uptime ids r).2.Consistent := by
  induction ids generalizing r with
  | nil => exact h
  | cons id ids ih =>
    -- a session that is gone by now is passed over
    have hclose := h.closeSession uptime id
    unfold Registry.closeAll
    split <;> rename_i hout <;> rw [hout] at hclose <;> exact ih hclose

/-- A pane that is focused becomes the active one. -/
theorem Consistent.focusPane (h : r.Consistent) (now : Time.Instant) (id : Nat) :
    (r.focusPane now id).2.Consistent := by
  have hkeeps := r.panes.keeps_touch now id
  unfold Registry.focusPane
  split
  · exact h
  · rename_i session hsession
    have htouched : ∀ panes, r.panes.Keeps panes → ({ r with panes } : Registry).Consistent :=
      fun panes hkeeps => h.of_keeps rfl rfl hkeeps
    split <;> rename_i hout <;> rw [hout] at hkeeps
    · exact htouched _ hkeeps
    · refine (htouched _ hkeeps).activate ?_
      show (id, session) ∈ Panes.owners _
      rw [hkeeps.owners_eq]
      exact Panes.mem_owners_of_sessionOf hsession

/-- Sizes and processes are seen to when they are due. -/
theorem Consistent.keeps_due (h : r.Consistent) (uptime : Nat) :
    r.panes.Keeps ((r.panes.applyResizes uptime).killOverdue uptime) :=
  (Panes.keeps_applyResizes h.tidy.sized uptime).trans (.of_eq rfl rfl rfl rfl)

/-- Time passes, for resizes, for processes, and for measurements. -/
theorem Consistent.elapse (h : r.Consistent) (probe : Probe) (clock : Clock) (uptime : Nat) :
    (r.elapse probe clock uptime).Consistent := by
  have hkeeps := h.keeps_due uptime
  unfold Registry.elapse sampleDue
  dsimp only
  split
  · exact h.of_keeps rfl rfl hkeeps
  · split
    · exact h.of_keeps rfl rfl (hkeeps.trans (.of_eq rfl rfl rfl rfl))
    · exact h.of_keeps rfl rfl hkeeps

/-- **Each action keeps sessions and panes in agreement.** -/
theorem Consistent.perform (h : r.Consistent) (act : Act) : (r.perform act).Consistent := by
  cases act with
  | createSession now name => exact h.createSession now name
  | renameSession id name => exact h.renameSession id name
  | closeSession uptime id => exact h.closeSession uptime id
  | createTerminal spawn now session o =>
    exact h.create (r.panes.attempts_createTerminal spawn now.wall session o)
  | createPane now session kind o =>
    exact h.create (r.panes.attempts_createPane now.wall session kind o)
  | closePane uptime how id => exact h.closePane uptime how id
  | focusPane now id => exact h.focusPane now id
  | renamePane now id title =>
    exact h.of_keeps rfl rfl (Panes.keeps_rename h.tidy.nodup_records now id title)
  | resizePane now how id size => exact h.of_keeps rfl rfl (r.panes.keeps_resize now how id size)
  | sendInput now id data => exact h.of_keeps rfl rfl (r.panes.keeps_sendInput now id data)
  | subscribe id => exact h.of_keeps rfl rfl (r.panes.keeps_subscribe id)
  | receive subscription => exact h.of_keeps rfl rfl (r.panes.keeps_receive subscription)
  | setAgentStatus now key status =>
    simp only [Registry.perform, Registry.setAgentStatus]
    split
    · exact h
    · exact h.of_keeps rfl rfl (.of_eq rfl rfl rfl rfl)
  | startMetrics uptime =>
    simp only [Registry.perform, Registry.startMetrics]
    split
    · exact h
    · exact h.of_keeps rfl rfl (.refl _)
  | shutdown uptime =>
    have hstopped : ({ r with sampling := none } : Registry).Consistent :=
      h.of_keeps rfl rfl (.refl _)
    exact hstopped.closeAll uptime _
  | ended now pane code => exact h.of_keeps rfl rfl (r.panes.keeps_onExit now pane code)
  | elapse probe clock uptime => exact h.elapse probe clock uptime
  | dropSubscription _ | output _ _ _ | handOver =>
    exact h.of_keeps rfl rfl (.of_eq rfl rfl rfl rfl)

/-- Sessions and panes agree in every run. -/
theorem consistent_run (config : Config) (acts : List Act) :
    ((new config).run acts).Consistent :=
  run_induction (fun _ act h => h.perform act) (consistent_new config) acts

/-! ## §5 Ownership -/

/-- No pane is listed twice, by one session or by two. -/
theorem Consistent.nodup_flatMap_panes (h : r.Consistent) :
    (r.sessions.flatMap (·.panes)).Nodup := by
  refine List.nodup_flatMap.mpr ⟨fun s hs => ?_, ?_⟩
  · rw [h.listed s hs]
    exact h.tidy.nodup.sublist (List.filter_sublist.map _)
  · refine (List.pairwise_map.mp h.ascending).imp_of_mem fun {s s'} hs hs' hlt id hid hid' => ?_
    simp only [h.listed s hs, Panes.mem_ownedBy_iff] at hid
    simp only [h.listed s' hs', Panes.mem_ownedBy_iff] at hid'
    exact absurd (h.tidy.session_unique hid hid') (Nat.ne_of_lt hlt)

/-- **Sessions own panes**: after any actions, every listed pane is live and of the session that
    lists it; every live pane is listed once, by its session; lists are in the order in which the
    panes were made known; a session has an active pane exactly if it lists any, and it is one of
    those; and every live pane has between 1 and 1000 rows and columns. -/
theorem sessions_own_panes (config : Config) (acts : List Act) :
    let r := (new config).run acts
    (∀ s ∈ r.sessions, ∀ id ∈ s.panes, ∃ p, r.panes.find? id = some p ∧ p.session = s.id) ∧
    (∀ id p, r.panes.find? id = some p →
      (r.sessions.flatMap (·.panes)).count id = 1 ∧
        ∃ s ∈ r.sessions, s.id = p.session ∧ id ∈ s.panes) ∧
    (∀ s ∈ r.sessions, s.panes.Sublist (createdPanes r.events)) ∧
    (createdPanes r.events).Nodup ∧
    (∀ s ∈ r.sessions, (s.active = none ↔ s.panes = []) ∧ ∀ id ∈ s.active, id ∈ s.panes) ∧
    ∀ id p, r.panes.find? id = some p →
      1 ≤ p.size.rows ∧ p.size.rows ≤ 1000 ∧ 1 ≤ p.size.cols ∧ p.size.cols ≤ 1000 := by
  intro r
  -- everything is read off the agreement of the two stores
  have h : r.Consistent := consistent_run config acts
  have hlisted : ∀ s ∈ r.sessions, ∀ id, id ∈ s.panes ↔ (id, s.id) ∈ r.panes.owners := by
    intro s hs id
    rw [h.listed s hs, Panes.mem_ownedBy_iff]
  refine ⟨fun s hs id hid => ?_, fun id p hp => ?_, fun s hs => ?_, ?_, h.focused, fun id p hp => ?_⟩
  · obtain ⟨p, hp, howner⟩ := List.mem_map.mp ((hlisted s hs id).mp hid)
    obtain ⟨rfl, hsession⟩ := Prod.mk.inj howner
    exact ⟨p, Keyed.find?_eq_some h.tidy.nodup_records hp, hsession⟩
  · have howner := Panes.mem_owners_of_find? hp
    obtain ⟨s, hs, hsid⟩ := h.owned _ howner
    have hid : id ∈ s.panes := by
      rw [hlisted s hs, hsid]
      exact howner
    exact ⟨List.count_eq_one_of_mem h.nodup_flatMap_panes (List.mem_flatMap.mpr ⟨s, hs, hid⟩),
      s, hs, hsid, hid⟩
  · rw [h.listed s hs]
    exact (List.filter_sublist.map _).trans h.chronicled.complete
  · exact h.chronicled.ascending.imp Nat.ne_of_lt
  · exact h.tidy.sized.records p (Panes.mem_of_find?_eq_some hp).1

/-- Of two sessions with three panes between them, one loses the pane that was active. -/
theorem sessions_own_panes_after_closing :
    let acts : List Act := [.createSession ⟨0, 0⟩ none, .createSession ⟨0, 0⟩ none,
      .createPane ⟨⟨0, 0⟩, 0⟩ 1 .editor {}, .createPane ⟨⟨0, 0⟩, 0⟩ 2 .editor {},
      .createPane ⟨⟨0, 0⟩, 0⟩ 1 .editor {}, .closePane 0 .graceful 1]
    let r := (new {}).run acts
    r.sessions.map (fun s => (s.id, s.panes, s.active)) = [(1, [3], some 3), (2, [2], some 2)] ∧
      (∃ p, r.panes.find? 3 = some p ∧ p.session = 1) ∧
      (r.sessions.flatMap (·.panes)).count 3 = 1 := by
  intro acts r
  obtain ⟨hlive, honce, -⟩ := sessions_own_panes {} acts
  obtain ⟨p, hp, hsession⟩ := hlive (r.sessions.head (by decide)) (List.head_mem _) 3 (by decide)
  exact ⟨rfl, ⟨p, hp, hsession⟩, (honce 3 p hp).1⟩

end Registry

end PaneMux
