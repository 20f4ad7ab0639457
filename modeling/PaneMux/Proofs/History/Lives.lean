import PaneMux.Proofs.Registry.Roll

/-!
# Lives

The log of a registry, read from its beginning, tells the life of every session and of every pane
that there has been: how it was called, what it was when it was made, and whether it has been closed.
What is open by this account is what the registry has.

## Architecture

- **§1** lives, and the ones that are not over (`Life.openOnes`)
- **§2** what an entry in the log adds (`Lives.hear`), and what a log tells (`Lives.of`)
- **§3** `Roll.Recounted`: the lives told agree with the roll, kept by every change
-/

namespace PaneMux

/-! ## §1 Lives -/

/-- The life of a session or of a pane. -/
structure Life (α : Type) where
  subject : α
  closed : Bool := false
  deriving DecidableEq, Repr

namespace Life

variable {α β κ : Type} [DecidableEq κ]

def close (x : Life α) : Life α := { x with closed := true }

/-- The same life, told of by other facts. -/
def map (f : α → β) (x : Life α) : Life β := ⟨f x.subject, x.closed⟩

/-- What is not over. -/
def openOnes (xs : List (Life α)) : List α := (xs.filter (!·.closed)).map (·.subject)

/-- What there is under an identifier is closed. -/
def closeAll (key : α → κ) (id : κ) (xs : List (Life α)) : List (Life α) :=
  xs.map fun x => if key x.subject = id then x.close else x

/-- What is open under an identifier changes. -/
def changeOpen (key : α → κ) (id : κ) (f : α → α) (xs : List (Life α)) : List (Life α) :=
  xs.map fun x =>
    if key x.subject = id ∧ x.closed = false then { x with subject := f x.subject } else x

theorem openOnes_append (xs ys : List (Life α)) :
    openOnes (xs ++ ys) = openOnes xs ++ openOnes ys := by
  simp [openOnes]

theorem openOnes_map (f : α → β) (xs : List (Life α)) :
    openOnes (xs.map (map f)) = (openOnes xs).map f := by
  simp [openOnes, List.filter_map, Function.comp_def, map]

theorem openOnes_eq_nil {xs : List (Life α)} (h : ∀ x ∈ xs, x.closed = true) :
    openOnes xs = [] := by
  rw [openOnes, List.filter_eq_nil_iff.mpr fun x hx => by simp [h x hx], List.map_nil]

theorem openOnes_closeAll (key : α → κ) (id : κ) (xs : List (Life α)) :
    openOnes (closeAll key id xs) = (openOnes xs).filter (key · ≠ id) := by
  induction xs with
  | nil => rfl
  | cons x xs ih =>
    simp only [openOnes, closeAll, List.map_cons] at ih ⊢
    by_cases hid : key x.subject = id <;> cases hclosed : x.closed <;>
      simpa [hid, hclosed, close] using ih

theorem openOnes_changeOpen (key : α → κ) (id : κ) (f : α → α) (xs : List (Life α)) :
    openOnes (changeOpen key id f xs) =
      (openOnes xs).map fun a => if key a = id then f a else a := by
  induction xs with
  | nil => rfl
  | cons x xs ih =>
    simp only [openOnes, changeOpen, List.map_cons] at ih ⊢
    by_cases hid : key x.subject = id <;> cases hclosed : x.closed <;>
      simpa [hid, hclosed] using ih

theorem map_subject_closeAll (key : α → κ) (id : κ) (f : α → β) (xs : List (Life α)) :
    (closeAll key id xs).map (f ·.subject) = xs.map (f ·.subject) := by
  simp only [closeAll, List.map_map]
  refine List.map_congr_left fun x _ => ?_
  by_cases hid : key x.subject = id <;> simp [hid, close]

theorem map_key_changeOpen (key : α → κ) (id : κ) {f : α → α} (hf : ∀ a, key (f a) = key a)
    (xs : List (Life α)) :
    (changeOpen key id f xs).map (key ·.subject) = xs.map (key ·.subject) := by
  simp only [changeOpen, List.map_map]
  refine List.map_congr_left fun x _ => ?_
  by_cases hopen : key x.subject = id ∧ x.closed = false
  · simp [hopen, hf]
  · simp [hopen]

/-- What is closed is not closed again. -/
theorem closeAll_of_closed {xs : List (Life α)} (h : ∀ x ∈ xs, x.closed = true) (key : α → κ)
    (id : κ) : closeAll key id xs = xs := by
  refine (List.map_congr_left fun x hx => ?_).trans (List.map_id xs)
  split
  · obtain ⟨subject, closed⟩ := x
    have hclosed : closed = true := h _ hx
    rw [hclosed]
    rfl
  · rfl

theorem changeOpen_of_closed {xs : List (Life α)} (h : ∀ x ∈ xs, x.closed = true) (key : α → κ)
    (id : κ) (f : α → α) : changeOpen key id f xs = xs :=
  (List.map_congr_left fun x hx => by simp [h x hx]).trans (List.map_id xs)

end Life

/-! ## §2 What a log tells -/

/-- The lives of sessions and panes, in order of creation. A pane is remembered as it was made. -/
structure Lives where
  sessions : List (Life SessionCard) := []
  panes : List (Life PaneDescriptor) := []

namespace Lives

/-- What an entry in the log adds. -/
def hear (l : Lives) : LifecycleEvent → Lives
  | .sessionCreated s => { l with sessions := l.sessions ++ [⟨s.card, false⟩] }
  | .sessionRenamed id name =>
    { l with sessions := Life.changeOpen (·.id) id (fun s => { s with name }) l.sessions }
  | .sessionClosed id => { l with sessions := Life.closeAll (·.id) id l.sessions }
  | .paneCreated d => { l with panes := l.panes ++ [⟨d, false⟩] }
  | .paneClosed id _ => { l with panes := Life.closeAll (·.id) id l.panes }
  | .paneExited .. => l

/-- What a log tells. -/
def of (events : List LifecycleEvent) : Lives := events.foldl hear {}

theorem of_append_singleton (events : List LifecycleEvent) (e : LifecycleEvent) :
    of (events ++ [e]) = (of events).hear e := by
  simp [of]

/-- The ends of processes tell nothing of lives. -/
theorem of_lifeEvents (events : List LifecycleEvent) : of (lifeEvents events) = of events := by
  -- what has been heard before does not matter
  have hfold : ∀ l, (lifeEvents events).foldl hear l = events.foldl hear l := by
    induction events with
    | nil => exact fun _ => rfl
    | cons e events ih => cases e <;> exact fun l => ih _
  exact hfold {}

end Lives

/-- The identifiers in an entry have been given out. -/
def LifecycleEvent.Within (nextSession nextPane : Nat) : LifecycleEvent → Prop
  | .sessionCreated s => s.id < nextSession
  | .sessionRenamed id _ | .sessionClosed id => id < nextSession
  | .paneCreated d => d.id < nextPane
  | .paneClosed id _ => id < nextPane
  | .paneExited .. => True

theorem LifecycleEvent.Within.mono {e : LifecycleEvent} {m m' n n' : Nat} (h : e.Within m n)
    (hm : m ≤ m') (hn : n ≤ n') : e.Within m' n' := by
  cases e with
  | sessionCreated | sessionRenamed | sessionClosed => exact Nat.lt_of_lt_of_le h hm
  | paneCreated | paneClosed => exact Nat.lt_of_lt_of_le h hn
  | paneExited => trivial

theorem LifecycleEvent.Within.of_isExit {e : LifecycleEvent} (h : e.isExit = true) {m n : Nat} :
    e.Within m n := by
  cases e with
  | paneExited => trivial
  | _ => cases h

/-! ## §3 Lives and the roll -/

/-- The lives of sessions agree with those that there are: there has been one under every identifier
    given out, and what is open is what there is. -/
structure SessionsRecounted (lives : List (Life SessionCard)) (sessions : List SessionCard)
    (next : Nat) : Prop where
  positive : 1 ≤ next
  ids : lives.map (·.subject.id) = List.range' 1 (next - 1)
  opens : Life.openOnes lives = sessions

namespace SessionsRecounted

variable {lives : List (Life SessionCard)} {sessions : List SessionCard} {next : Nat}

theorem opened (h : SessionsRecounted lives sessions next) {c : SessionCard} (hid : c.id = next) :
    SessionsRecounted (lives ++ [⟨c, false⟩]) (sessions ++ [c]) (next + 1) := by
  constructor
  case positive => omega
  case ids =>
    -- the numbers from 1 to the next one, and that one at the end
    obtain ⟨n, rfl⟩ : ∃ n, next = n + 1 := ⟨next - 1, (Nat.sub_add_cancel h.positive).symm⟩
    have hids := h.ids
    rw [Nat.add_sub_cancel] at hids ⊢
    rw [List.map_append, hids, List.range'_1_concat, List.map_cons, hid, Nat.add_comm 1 n]
    rfl
  case opens =>
    rw [Life.openOnes_append, h.opens]
    rfl

theorem renamed (h : SessionsRecounted lives sessions next) (id : Nat) (name : String) :
    SessionsRecounted (Life.changeOpen (·.id) id (fun s => { s with name }) lives)
      (sessions.map fun s => if s.id = id then { s with name } else s) next where
  positive := h.positive
  ids := by
    rw [Life.map_key_changeOpen, h.ids]
    exact fun _ => rfl
  opens := by rw [Life.openOnes_changeOpen, h.opens]

theorem closed (h : SessionsRecounted lives sessions next) (id : Nat) :
    SessionsRecounted (Life.closeAll (·.id) id lives) (sessions.filter (·.id ≠ id)) next where
  positive := h.positive
  ids := (Life.map_subject_closeAll _ id _ lives).trans h.ids
  opens := by rw [Life.openOnes_closeAll, h.opens]

/-- What there is has a life. -/
theorem mem_ids (h : SessionsRecounted lives sessions next) {id : Nat}
    (hid : id ∈ sessions.map (·.id)) : id ∈ lives.map (·.subject.id) := by
  rw [← h.opens, Life.openOnes, List.map_map] at hid
  obtain ⟨x, hx, rfl⟩ := List.mem_map.mp hid
  exact List.mem_map_of_mem (List.mem_filter.mp hx).1

theorem lt_next (h : SessionsRecounted lives sessions next) {id : Nat}
    (hid : id ∈ sessions.map (·.id)) : id < next := by
  have hmem := h.mem_ids hid
  rw [h.ids, List.mem_range'_1] at hmem
  have hpositive := h.positive
  omega

end SessionsRecounted

/-- The lives of panes agree with those that there are: they are the lives of the panes that were
    made, under identifiers that rise, and what is open is what there is. -/
structure PanesRecounted (lives : List (Life PaneDescriptor)) (born : List PaneDescriptor)
    (cards : List PaneCard) (next : Nat) : Prop where
  made : lives.map (·.subject) = born
  opens : (Life.openOnes lives).map (·.card) = cards
  ascending : (born.map (·.id)).Pairwise (· < ·)
  fresh : ∀ d ∈ born, d.id < next

namespace PanesRecounted

variable {lives : List (Life PaneDescriptor)} {born : List PaneDescriptor} {cards : List PaneCard}
  {next : Nat}

theorem added (h : PanesRecounted lives born cards next) {d : PaneDescriptor} (hid : d.id = next) :
    PanesRecounted (lives ++ [⟨d, false⟩]) (born ++ [d]) (cards ++ [d.card]) (next + 1) := by
  constructor
  case made => simp [h.made]
  case opens =>
    rw [Life.openOnes_append, List.map_append, h.opens]
    rfl
  case ascending =>
    rw [List.map_append, List.pairwise_append]
    refine ⟨h.ascending, List.pairwise_singleton _ _, fun id hmem id' hid' => ?_⟩
    -- the new identifier is the next one, which is above all that were given out
    obtain ⟨d', hd', rfl⟩ := List.mem_map.mp hmem
    rw [List.mem_singleton.mp hid']
    show d'.id < d.id
    rw [hid]
    exact h.fresh d' hd'
  case fresh =>
    intro d' hd'
    rcases List.mem_append.mp hd' with hd' | hd'
    · exact Nat.lt_succ_of_lt (h.fresh d' hd')
    · rw [List.mem_singleton.mp hd', hid]
      exact Nat.lt_succ_self next

theorem removed (h : PanesRecounted lives born cards next) (id : Nat) :
    PanesRecounted (Life.closeAll (·.id) id lives) born (cards.filter (·.id ≠ id)) next where
  made := (Life.map_subject_closeAll _ id (fun d => d) lives).trans h.made
  opens := by
    rw [Life.openOnes_closeAll, ← h.opens, List.filter_map]
    rfl
  ascending := h.ascending
  fresh := h.fresh

theorem mem_ids (h : PanesRecounted lives born cards next) {id : Nat}
    (hid : id ∈ cards.map (·.id)) : id ∈ lives.map (·.subject.id) := by
  rw [← h.opens, Life.openOnes, List.map_map, List.map_map] at hid
  obtain ⟨x, hx, rfl⟩ := List.mem_map.mp hid
  exact List.mem_map_of_mem (List.mem_filter.mp hx).1

theorem lt_next (h : PanesRecounted lives born cards next) {id : Nat}
    (hid : id ∈ cards.map (·.id)) : id < next := by
  obtain ⟨x, hx, rfl⟩ := List.mem_map.mp (h.mem_ids hid)
  exact h.fresh x.subject (h.made ▸ List.mem_map_of_mem hx)

end PanesRecounted

/-- **The lives that are told agree with the roll**, and no entry tells of anything else. -/
structure Roll.Recounted (v : Roll) (born : List PaneDescriptor) : Prop where
  sessions : SessionsRecounted (Lives.of v.panes.told).sessions v.sessions v.nextSession
  panes : PanesRecounted (Lives.of v.panes.told).panes born v.panes.cards v.panes.next
  within : ∀ e ∈ v.panes.told, e.Within v.nextSession v.panes.next

namespace Roll

variable {v v' : Roll} {born : List PaneDescriptor} {made? : Option PaneDescriptor}

/-- A change is told by one more entry, within the bounds. -/
private theorem Recounted.of_tell (h : v.Recounted born) {born' : List PaneDescriptor}
    {e : LifecycleEvent} (htold : v'.panes.told = v.panes.told)
    (hsessions : SessionsRecounted ((Lives.of v.panes.told).hear e).sessions v'.sessions
      v'.nextSession)
    (hpanes : PanesRecounted ((Lives.of v.panes.told).hear e).panes born' v'.panes.cards
      v'.panes.next)
    (hwithin : e.Within v'.nextSession v'.panes.next) (hm : v.nextSession ≤ v'.nextSession)
    (hn : v.panes.next ≤ v'.panes.next) : (v'.tell e).Recounted born' := by
  have hlives : Lives.of (v'.tell e).panes.told = (Lives.of v.panes.told).hear e := by
    rw [← Lives.of_append_singleton, ← htold]
    rfl
  refine ⟨hlives ▸ hsessions, hlives ▸ hpanes, fun e' he' => ?_⟩
  change e' ∈ v'.panes.told ++ [e] at he'
  rw [htold] at he'
  rcases List.mem_append.mp he' with he' | he'
  · exact (h.within e' he').mono hm hn
  · rw [List.mem_singleton.mp he']
    exact hwithin

/-- **Every change is told as it is.** -/
theorem Recounted.step (h : v.Recounted born) (hstep : Step v made? v') :
    v'.Recounted (born ++ made?.toList) := by
  -- only the making of a pane adds to those that were made
  cases hstep with
  | sessionOpened s hid =>
    rw [Option.toList_none, List.append_nil]
    exact h.of_tell rfl (h.sessions.opened hid) h.panes (Nat.lt_succ_of_le (Nat.le_of_eq hid))
      (Nat.le_succ _) (Nat.le_refl _)
  | sessionRenamed id name hid =>
    rw [Option.toList_none, List.append_nil]
    exact h.of_tell rfl (h.sessions.renamed id name) h.panes (h.sessions.lt_next hid)
      (Nat.le_refl _) (Nat.le_refl _)
  | sessionClosed id hid =>
    rw [Option.toList_none, List.append_nil]
    exact h.of_tell rfl (h.sessions.closed id) h.panes (h.sessions.lt_next hid) (Nat.le_refl _)
      (Nat.le_refl _)
  | paneMade d hid =>
    exact h.of_tell rfl h.sessions (h.panes.added hid) (Nat.lt_succ_of_le (Nat.le_of_eq hid))
      (Nat.le_refl _) (Nat.le_succ _)
  | paneClosed c hc =>
    rw [Option.toList_none, List.append_nil]
    have hid : c.id ∈ v.panes.cards.map (·.id) := List.mem_map_of_mem hc
    exact h.of_tell rfl h.sessions (h.panes.removed c.id) (h.panes.lt_next hid) (Nat.le_refl _)
      (Nat.le_refl _)

theorem Recounted.steps (h : v.Recounted born) {born' : List PaneDescriptor}
    (hsteps : Steps v born' v') : v'.Recounted (born ++ born') := by
  induction hsteps with
  | refl => simpa using h
  | tail _ hstep ih =>
    rw [← List.append_assoc]
    exact ih.step hstep

end Roll

/-- A new registry has nothing to tell. -/
theorem Registry.recounted_new (config : Config) : (new config).roll.Recounted [] where
  sessions := ⟨Nat.le_refl 1, rfl, rfl⟩
  panes := ⟨rfl, rfl, List.Pairwise.nil, fun _ hd => nomatch hd⟩
  within _ he := nomatch he

/-- **The lives that the log tells agree with the registry**, in every run. -/
theorem Registry.recounted_run (config : Config) (acts : List Act) :
    ((new config).run acts).roll.Recounted ((new config).births acts) := by
  have hsteps := steps_run (consistent_new config) acts
  simpa using (recounted_new config).steps hsteps

end PaneMux
