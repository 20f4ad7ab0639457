import PaneMux.Proofs.Registry.Replay

/-!
# The Order of the Log

What is told in the log of a registry is told in order. Sessions and panes carry the time at which
they were made, and as long as the clock does not go back, these times do not go back along the log
either. A session is told before its panes, and no pane of a session is told once the session has been
closed.

## Architecture

- **§1** times of creation, along the changes of a roll and along the actions of a run
- **§2** which entry may come before which (`LifecycleEvent.MayPrecede`), and that all do so in the log
  of a run
-/

namespace PaneMux

/-! ## §1 Times of creation -/

/-- When something was made, as an entry of the log tells of it. -/
def LifecycleEvent.madeAt? : LifecycleEvent → Option Time.Instant
  | .sessionCreated s => some s.createdAt
  | .paneCreated d => some d.createdAt
  | _ => none

def creationTimes (events : List LifecycleEvent) : List Time.Instant :=
  events.filterMap (·.madeAt?)

theorem creationTimes_append (events more : List LifecycleEvent) :
    creationTimes (events ++ more) = creationTimes events ++ creationTimes more :=
  List.filterMap_append

/-- As long as no session is opened, what is made are panes. -/
theorem Roll.Steps.creationTimes_told {v v' : Roll} {born : List PaneDescriptor}
    (h : Steps v born v') :
    v.nextSession ≤ v'.nextSession ∧ (v'.nextSession = v.nextSession →
      creationTimes v'.panes.told = creationTimes v.panes.told ++ born.map (·.createdAt)) := by
  induction h with
  | refl => exact ⟨Nat.le_refl _, fun _ => by simp⟩
  | @tail v' v'' born made? _ hstep ih =>
    obtain ⟨hle, htimes⟩ := ih
    have htell : ∀ e, creationTimes (v'.panes.told ++ [e]) =
        creationTimes v'.panes.told ++ e.madeAt?.toList := by
      intro e
      rw [creationTimes_append]
      cases e <;> rfl
    cases hstep with
    | sessionOpened s =>
      refine ⟨Nat.le_succ_of_le hle, fun hsame => ?_⟩
      exact absurd hsame (Nat.ne_of_gt (Nat.lt_succ_of_le hle))
    | paneMade d =>
      refine ⟨hle, fun hsame => (htell _).trans ?_⟩
      rw [htimes hsame, List.append_assoc, List.map_append]
      rfl
    | sessionRenamed | sessionClosed | paneClosed =>
      refine ⟨hle, fun hsame => (htell _).trans ?_⟩
      rw [htimes hsame, Option.toList_none, List.append_nil]
      exact List.append_nil _

namespace Registry

def Act.madeAt? : Act → Option Time.Instant
  | .createSession now _ => some now
  | .createTerminal _ now _ _ | .createPane now _ _ _ => some now.wall
  | _ => none

variable {r : Registry}

/-- Whatever is done to panes, no session is opened by it. -/
theorem nextSession_perform (r : Registry) {act : Act}
    (h : ∀ now name, act ≠ .createSession now name) :
    (r.perform act).nextSession = r.nextSession := by
  have hcreate : ∀ uptime session make,
      (r.create uptime session make).2.nextSession = r.nextSession := by
    intro uptime session make
    unfold create attach
    split
    · rfl
    · split
      · rfl
      · dsimp only
        split <;> rfl
  have hclose : ∀ (r : Registry) uptime id,
      (r.closeSession uptime id).2.nextSession = r.nextSession := by
    intro r uptime id
    unfold closeSession
    split <;> rfl
  cases act with
  | createSession now name => exact absurd rfl (h now name)
  | createTerminal spawn now session o => exact hcreate _ _ _
  | createPane now session kind o => exact hcreate _ _ _
  | closeSession uptime id => exact hclose r uptime id
  | shutdown uptime =>
    have hall : ∀ ids (r : Registry), (closeAll uptime ids r).2.nextSession = r.nextSession := by
      intro ids
      induction ids with
      | nil => exact fun _ => rfl
      | cons id ids ih =>
        intro r
        have hnext := hclose r uptime id
        unfold closeAll
        split <;> rename_i hout <;> rw [hout] at hnext <;> exact (ih _).trans hnext
    exact hall _ _
  | renameSession id name =>
    simp only [perform, renameSession, setName]
    cases r.session id <;> rfl
  | closePane uptime how id =>
    simp only [perform, closePane]
    split <;> rfl
  | focusPane now id =>
    simp only [perform, focusPane, activate]
    split
    · rfl
    · split
      · rfl
      · split <;> rfl
  | setAgentStatus now key status =>
    simp only [perform, setAgentStatus]
    split <;> rfl
  | startMetrics uptime =>
    simp only [perform, startMetrics]
    split <;> rfl
  | elapse probe clock uptime =>
    simp only [perform, elapse, sampleDue]
    split
    · rfl
    · split <;> rfl
  | _ => rfl

/-- What is made is made now. -/
theorem createdAt_of_born? {act : Act} {d : PaneDescriptor} (h : r.born? act = some d) :
    act.madeAt? = some d.createdAt := by
  -- a pane is handed on as it has been made
  have hcreate : ∀ {uptime session now} {make : Panes → Except RequestError PaneDescriptor × Panes},
      (∀ d, (make r.panes).1 = .ok d → d.createdAt = now) →
      (r.create uptime session make).1.toOption = some d → d.createdAt = now := by
    intro uptime session now make hmake h
    unfold create attach at h
    split at h
    · cases h
    · split at h
      · cases h
      · rename_i hout
        split at h
        · cases h
        · cases h
          exact hmake _ (congrArg Prod.fst hout)
  cases act with
  | createTerminal spawn now session o =>
    refine congrArg some (hcreate (fun d hd => ?_) h).symm
    unfold Panes.createTerminal at hd
    split at hd
    · cases hd
    · dsimp only at hd
      split at hd
      · cases hd
      · cases hd
        rfl
  | createPane now session kind o =>
    refine congrArg some (hcreate (fun d hd => ?_) h).symm
    unfold Panes.createPane at hd
    split at hd
    · cases hd
    · split at hd
      · cases hd
      · cases hd
        rfl
  | _ => cases h

/-- **An action tells of no other time of creation than its own.** -/
theorem creationTimes_perform (h : r.Consistent) (act : Act) :
    ∃ times,
      creationTimes (r.perform act).roll.panes.told = creationTimes r.roll.panes.told ++ times ∧
      times.Sublist act.madeAt?.toList := by
  -- apart from opening a session, whatever tells a time makes a pane
  by_cases hopen : ∃ now name, act = .createSession now name
  · obtain ⟨now, name, rfl⟩ := hopen
    refine ⟨[now], ?_, List.Sublist.refl _⟩
    have hroll : (r.createSession now name).2.roll.panes.told =
        r.roll.panes.told ++ [.sessionCreated (r.createSession now name).1] :=
      congrArg (·.panes.told) (roll_emit _ rfl)
    rw [perform, hroll, creationTimes_append]
    rfl
  · have hnext : (r.perform act).roll.nextSession = r.roll.nextSession :=
      r.nextSession_perform fun now name hact => hopen ⟨now, name, hact⟩
    refine ⟨_, (steps_perform h act).creationTimes_told.2 hnext, ?_⟩
    cases hborn : r.born? act with
    | none => exact List.nil_sublist _
    | some d =>
      rw [createdAt_of_born? hborn]
      exact List.Sublist.refl _

/-- The times that the log of a run tells are those of its actions, in order. -/
theorem creationTimes_run (h : r.Consistent) (acts : List Act) :
    ∃ times, creationTimes (r.run acts).roll.panes.told = creationTimes r.roll.panes.told ++ times ∧
      times.Sublist (acts.filterMap (·.madeAt?)) := by
  induction acts generalizing r with
  | nil => exact ⟨[], (List.append_nil _).symm, List.Sublist.refl _⟩
  | cons act acts ih =>
    obtain ⟨times, heq, hsub⟩ := creationTimes_perform h act
    obtain ⟨times', heq', hsub'⟩ := ih (h.perform act)
    refine ⟨times ++ times', ?_, ?_⟩
    · rw [run_cons, heq', heq, List.append_assoc]
    · have hcons : (act :: acts).filterMap (·.madeAt?) =
          act.madeAt?.toList ++ acts.filterMap (·.madeAt?) := by
        cases hact : act.madeAt? <;> simp [hact]
      rw [hcons]
      exact hsub.append hsub'

end Registry

/-! ## §2 What comes before what -/

/-- **An entry may come before another one** in the log of a run on a clock that does not go back. -/
structure LifecycleEvent.MayPrecede (e e' : LifecycleEvent) : Prop where
  times : ∀ t ∈ e.madeAt?, ∀ t' ∈ e'.madeAt?, ¬ t'.before t
  /-- a session is not told after one of its panes -/
  session_first : ∀ d s, e = .paneCreated d → e' = .sessionCreated s → s.id ≠ d.session
  /-- nor a pane after its session was closed -/
  closed_last : ∀ id d, e = .sessionClosed id → e' = .paneCreated d → d.session ≠ id

/-- The end of a process may come anywhere. -/
theorem LifecycleEvent.MayPrecede.of_isExit {e e' : LifecycleEvent}
    (h : e.isExit = true ∨ e'.isExit = true) : e.MayPrecede e' := by
  have hnone : ∀ e : LifecycleEvent, e.isExit = true → e.madeAt? = none := by
    intro e he
    cases e with
    | paneExited => rfl
    | _ => cases he
  constructor
  case times =>
    intro t ht t' ht'
    rcases h with h | h
    · rw [hnone e h] at ht
      cases ht
    · rw [hnone e' h] at ht'
      cases ht'
  case session_first =>
    rintro d s rfl rfl
    rcases h with h | h <;> cases h
  case closed_last =>
    rintro id d rfl rfl
    rcases h with h | h <;> cases h

/-- What refers to what is open is told in order. -/
theorem Grounded.pairwise {log : List LifecycleEvent} (h : Grounded log)
    (hclock : (creationTimes log).Pairwise fun a b => ¬ b.before a) :
    log.Pairwise LifecycleEvent.MayPrecede := by
  have htimes := List.pairwise_filterMap.mp hclock
  refine List.pairwise_iff_getElem.mpr fun i j hi hj hij => ?_
  have hat : ∀ k (hk : k < log.length), log[k].Refers (log.take k) := fun k hk =>
    h (log.take k) log[k] (log.drop (k + 1)) (by simp)
  have hmem : log[i] ∈ log.take j := List.mem_take_iff_getElem.mpr ⟨i, by omega, rfl⟩
  constructor
  case times => exact List.pairwise_iff_getElem.mp htimes i j hi hj hij
  case session_first =>
    intro d s hd hs
    have hrefers := hat j hj
    have hrefers' := hat i hi
    rw [hs] at hrefers
    rw [hd] at hrefers'
    -- the pane has a session that was told before, and is not told again
    obtain ⟨⟨s', hs', hid⟩, -⟩ := hrefers'.1
    have hearlier : .sessionCreated s' ∈ log.take j :=
      (List.take_subset_take_left log (by omega)) hs'
    exact fun hsame => hrefers s' hearlier (hid.trans hsame.symm)
  case closed_last =>
    intro id d hid hd
    have hrefers := hat j hj
    rw [hd] at hrefers
    rw [hid] at hmem
    rintro rfl
    exact hrefers.1.2 hmem

/-- **The log of a run is in order.** -/
theorem Registry.pairwise_lifeEvents (config : Config) {acts : List Act}
    (hclock : (acts.filterMap (·.madeAt?)).Pairwise fun a b => ¬ b.before a) :
    (lifeEvents ((new config).run acts).events).Pairwise LifecycleEvent.MayPrecede := by
  obtain ⟨times, htimes, hsub⟩ := creationTimes_run (consistent_new config) acts
  refine (replayed_run config acts).grounded.pairwise ?_
  rw [htimes]
  exact hclock.sublist hsub

end PaneMux
