import Mathlib.Data.List.Induction
import PaneMux.Proofs.History.Mirror
import PaneMux.Proofs.Registry.Cascade

/-!
# Renaming a Session by Several Clients at Once

A session is renamed in two steps, each of them atomic: it gets its name, and then the name is made known.
The steps of one client may come between those of another, so that names need not be made known in the
order in which they were given. The registry keeps the name that was given last, and the history the one
that was made known last.

## Architecture

- **§1** calls and their steps (`Renames.step`)
- **§2** the order in which calls take their turns, and what becomes of the registry by it
  (`Registry.renamed`)
- **§3** every state that the calls can reach (`Renames.run_eq`)
- **§4** the open row of a session
- **§5** the registry and the history in the end (`Store.last_names_kept`)
-/

namespace PaneMux

/-! ## §1 Steps -/

/-- How far a call is that renames a session. -/
inductive Renaming where
  | begun
  /-- the session has its name, but that has not been made known -/
  | named (session : Session)
  | answered (answer : Except RequestError Session)

def Renaming.isAnswered : Renaming → Bool
  | .answered _ => true
  | _ => false

/-- A call that renames a session. -/
structure RenameCall where
  name : String
  stage : Renaming := .begun

/-- Calls that rename one session at the same time. -/
structure Renames where
  session : Nat
  registry : Registry
  calls : List RenameCall

namespace Renames

/-- A call gets as far as this. -/
def moved (x : Renames) (i : Nat) (name : String) (registry : Registry) (stage : Renaming) : Renames :=
  { x with registry, calls := x.calls.set i ⟨name, stage⟩ }

/-- The next step of a call. There is none once it has been answered. -/
def step (x : Renames) (i : Nat) : Option Renames :=
  match x.calls[i]? with
  | none => none
  | some ⟨name, .begun⟩ =>
    match x.registry.setName x.session name with
    | (.error e, r) => some (x.moved i name r (.answered (.error e)))
    | (.ok t, r) => some (x.moved i name r (.named t))
  | some ⟨name, .named t⟩ =>
    some (x.moved i name (x.registry.emit (.sessionRenamed x.session name)) (.answered (.ok t)))
  | some ⟨_, .answered _⟩ => none

/-- The calls after some steps. -/
def run (x : Renames) (order : List Nat) : Option Renames := order.foldlM step x

/-- All calls have been answered. -/
def IsOver (x : Renames) : Prop := ∀ c ∈ x.calls, c.stage.isAnswered

instance (x : Renames) : Decidable x.IsOver :=
  inferInstanceAs (Decidable (∀ c ∈ x.calls, c.stage.isAnswered))

variable {x : Renames} {i : Nat} {name : String} {t : Session} {r : Registry}

theorem step_begun (hcall : x.calls[i]? = some ⟨name, .begun⟩)
    (hset : x.registry.setName x.session name = (.ok t, r)) :
    x.step i = some (x.moved i name r (.named t)) := by
  simp only [step, hcall, hset]

theorem step_named (hcall : x.calls[i]? = some ⟨name, .named t⟩) :
    x.step i =
      some (x.moved i name (x.registry.emit (.sessionRenamed x.session name)) (.answered (.ok t))) := by
  simp only [step, hcall]

theorem step_answered {a : Except RequestError Session} (hcall : x.calls[i]? = some ⟨name, .answered a⟩) :
    x.step i = none := by
  simp only [step, hcall]

/-- As long as a call has not been answered, it has a next step. -/
theorem isOver_iff : x.IsOver ↔ ∀ i, x.step i = none := by
  have hstep : ∀ i, x.step i = none ↔ ∀ c ∈ x.calls[i]?, c.stage.isAnswered := by
    intro i
    unfold step
    split
    case h_1 hcall => simp [hcall]
    case h_2 hcall => split <;> simp [hcall, Renaming.isAnswered]
    case h_3 hcall => simp [hcall, Renaming.isAnswered]
    case h_4 hcall => simp [hcall, Renaming.isAnswered]
  simp only [IsOver, hstep, List.mem_iff_getElem?, Option.mem_def]
  exact ⟨fun h i c hc => h c ⟨i, hc⟩, fun h c ⟨i, hc⟩ => h i c hc⟩

/-- **Both steps of a call in a row rename the session.** -/
theorem run_both (hcall : x.calls[i]? = some ⟨name, .begun⟩)
    (hok : x.registry.renameSession x.session name = (.ok t, r)) :
    x.run [i, i] = some (x.moved i name r (.answered (.ok t))) := by
  have hi : i < x.calls.length := (List.getElem?_eq_some_iff.mp hcall).1
  rw [Registry.renameSession] at hok
  split at hok
  case h_1 => cases hok
  case h_2 t' r' hset =>
    obtain ⟨h, rfl⟩ := Prod.mk.inj hok
    obtain rfl := Except.ok.inj h
    have hnamed : (x.moved i name r' (.named t')).calls[i]? = some ⟨name, .named t'⟩ := by
      simp [moved, hi]
    show (x.step i).bind (fun y => (y.step i).bind some) = _
    rw [step_begun hcall hset, Option.bind_some, step_named hnamed]
    simp [moved]

end Renames

/-- Some clients are about to rename a session. -/
def Registry.renames (r : Registry) (id : Nat) (names : List String) : Renames :=
  { session := id, registry := r, calls := names.map (⟨·, .begun⟩) }

/-! ## §2 Turns -/

/-- The order in which calls have taken their turns: the first turn of a call gives the name, and the
    second one makes it known. -/
structure Turns where
  named : List Nat := []
  told : List Nat := []

namespace Turns

/-- A call takes its next turn. -/
def take (t : Turns) (i : Nat) : Turns :=
  if i ∈ t.named then { t with told := t.told ++ [i] } else { t with named := t.named ++ [i] }

/-- What turns were taken in some steps. -/
def of (order : List Nat) : Turns := order.foldl take {}

theorem of_append_singleton (order : List Nat) (i : Nat) : of (order ++ [i]) = (of order).take i := by
  rw [of, List.foldl_append]
  rfl

/-- How far a call is that has taken its turns. -/
def stage (t : Turns) (session : Session) (i : Nat) : Renaming :=
  if i ∈ t.told then .answered (.ok session) else if i ∈ t.named then .named session else .begun

end Turns

/-- The names that calls give, in the order of their turns. -/
def namesAt (names : List String) (turns : List Nat) : List String := turns.filterMap (names[·]?)

theorem namesAt_append_singleton {names : List String} {i : Nat} {name : String}
    (h : names[i]? = some name) (turns : List Nat) :
    namesAt names (turns ++ [i]) = namesAt names turns ++ [name] := by
  simp [namesAt, h]

namespace Registry

/-- The registry after a session was given names, one after the other, and names were made known. -/
def renamed (r : Registry) (id : Nat) (given told : List String) : Registry :=
  { r with
    sessions := r.sessions.map fun s =>
      if s.id = id then { s with name := given.getLast?.getD s.name } else s
    panes := { r.panes with events := r.panes.events ++ told.map (.sessionRenamed id) } }

variable {r : Registry} {id : Nat} {t : Session}

theorem renamed_nil (r : Registry) (id : Nat) : r.renamed id [] [] = r := by
  simp [renamed]

/-- The session with the name that it was given last. -/
theorem session?_renamed (h : r.session? id = some t) (given told : List String) :
    (r.renamed id given told).session? id =
      some { t with name := given.getLast?.getD t.name } := by
  have hid : t.id = id := (Keyed.mem_of_find? h).2
  have hsame : ((fun s : Session => decide (s.id = id)) ∘ fun s =>
      if s.id = id then { s with name := given.getLast?.getD s.name } else s) =
        fun s => decide (s.id = id) := by
    funext s
    by_cases hs : s.id = id <;> simp [hs]
  rw [session?] at h
  rw [session?, renamed, List.find?_map, hsame, h, Option.map_some, if_pos hid]

/-- **A session is given one more name.** -/
theorem setName_renamed (hids : (r.sessions.map (·.id)).Nodup) (h : r.session? id = some t)
    (given told : List String) (name : String) :
    (r.renamed id given told).setName id name =
      (.ok { t with name }, r.renamed id (given ++ [name]) told) := by
  have hid : t.id = id := (Keyed.mem_of_find? h).2
  have hmodified : (r.renamed id given told).modifySession id (fun _ => { t with name }) =
      r.renamed id (given ++ [name]) told := by
    simp only [modifySession, renamed, List.map_map, List.getLast?_append, List.getLast?_singleton,
      Option.some_or, Option.getD_some]
    congr 1
    refine List.map_congr_left fun s hs => ?_
    by_cases hsid : s.id = id
    · -- it is the session that was found
      obtain rfl : s = t :=
        List.inj_on_of_nodup_map hids hs (Keyed.mem_of_find? h).1 (hsid.trans hid.symm)
      simp [hsid]
    · simp [hsid]
  rw [setName, session, session?_renamed h]
  exact congrArg (Prod.mk _) hmodified

/-- **One more name is made known.** -/
theorem emit_renamed (r : Registry) (id : Nat) (given told : List String) (name : String) :
    (r.renamed id given told).emit (.sessionRenamed id name) =
      r.renamed id given (told ++ [name]) := by
  simp [renamed, emit, Panes.emit]

/-- **Calls that come one after the other** make names known as they are given. -/
theorem run_renameSession (hids : (r.sessions.map (·.id)).Nodup) (h : r.session? id = some t)
    (names : List String) :
    r.run (names.map (.renameSession id)) = r.renamed id names names := by
  -- from the end, since a name is given when all those before it have been made known
  induction names using List.reverseRecOn with
  | nil => exact (renamed_nil r id).symm
  | append_singleton names name ih =>
    rw [List.map_append, run, List.foldl_append]
    show ((r.run _).renameSession id name).2 = _
    rw [ih, renameSession, setName_renamed hids h]
    exact emit_renamed r id (names ++ [name]) names name

end Registry

/-! ## §3 Where calls can be -/

namespace Renames

variable {r : Registry} {id : Nat} {t : Session} {names : List String} {turns : Turns} {x : Renames}

/-- The calls, after they have taken some turns. -/
def after (r : Registry) (id : Nat) (t : Session) (names : List String) (turns : Turns) : Renames where
  session := id
  registry := r.renamed id (namesAt names turns.named) (namesAt names turns.told)
  calls := names.mapIdx fun i name => ⟨name, turns.stage { t with name } i⟩

theorem calls_after (i : Nat) :
    (after r id t names turns).calls[i]? =
      names[i]?.map fun name => ⟨name, turns.stage { t with name } i⟩ := by
  simp [after]

/-- Only the call whose turn it is gets any further. -/
theorem moved_after (turns' : Turns) {i : Nat} {name : String} {stage : Renaming}
    (hname : names[i]? = some name) (hstage : turns'.stage { t with name } i = stage)
    (hothers : ∀ j, j ≠ i → ∀ s, turns'.stage s j = turns.stage s j) :
    (after r id t names turns).moved i name
        (r.renamed id (namesAt names turns'.named) (namesAt names turns'.told)) stage =
      after r id t names turns' := by
  have hcalls : (after r id t names turns).calls.set i ⟨name, stage⟩ =
      (after r id t names turns').calls := by
    refine List.ext_getElem? fun j => ?_
    rw [List.getElem?_set, calls_after, calls_after]
    by_cases hj : i = j
    · subst hj
      have hlength : i < (after r id t names turns).calls.length := by
        simp [after, (List.getElem?_eq_some_iff.mp hname).1]
      rw [if_pos rfl, if_pos hlength, hname, Option.map_some, hstage]
    · rw [if_neg hj]
      simp only [hothers j (Ne.symm hj)]
  rw [moved, hcalls]
  rfl

/-- **A step is the next turn of a call.** -/
theorem step_after (hids : (r.sessions.map (·.id)).Nodup) (h : r.session? id = some t) {i : Nat}
    (hstep : (after r id t names turns).step i = some x) :
    x = after r id t names (turns.take i) := by
  have hcall := (calls_after i : (after r id t names turns).calls[i]? = _)
  cases hname : names[i]? with
  | none =>
    -- there is no such call
    rw [hname, Option.map_none] at hcall
    simp only [step, hcall] at hstep
    cases hstep
  | some name =>
    rw [hname, Option.map_some] at hcall
    by_cases htold : i ∈ turns.told
    · -- it has been answered
      rw [Turns.stage, if_pos htold] at hcall
      rw [step_answered hcall] at hstep
      cases hstep
    · by_cases hnamed : i ∈ turns.named
      · -- its name is made known
        have htell : (after r id t names turns).registry.emit (.sessionRenamed id name) =
            r.renamed id (namesAt names turns.named) (namesAt names (turns.told ++ [i])) := by
          rw [namesAt_append_singleton hname]
          exact r.emit_renamed ..
        rw [Turns.stage, if_neg htold, if_pos hnamed] at hcall
        obtain rfl := Option.some.inj ((step_named hcall).symm.trans hstep)
        rw [Turns.take, if_pos hnamed]
        refine (congrArg (moved _ i name · _) htell).trans ?_
        apply moved_after { turns with told := turns.told ++ [i] } hname
        case hstage => simp [Turns.stage]
        case hothers => exact fun j hj s => by simp [Turns.stage, hj]
      · -- the session gets its name
        have hset : (after r id t names turns).registry.setName id name =
            (.ok { t with name },
              r.renamed id (namesAt names (turns.named ++ [i])) (namesAt names turns.told)) := by
          rw [namesAt_append_singleton hname]
          exact Registry.setName_renamed hids h ..
        rw [Turns.stage, if_neg htold, if_neg hnamed] at hcall
        obtain rfl := Option.some.inj ((step_begun hcall hset).symm.trans hstep)
        rw [Turns.take, if_neg hnamed]
        apply moved_after { turns with named := turns.named ++ [i] } hname
        case hstage => simp [Turns.stage, htold]
        case hothers => exact fun j hj s => by simp [Turns.stage, hj]

theorem after_nil (r : Registry) (id : Nat) (t : Session) (names : List String) :
    after r id t names {} = r.renames id names := by
  have hcalls : (after r id t names {}).calls = (r.renames id names).calls := by
    refine List.ext_getElem? fun i => ?_
    rw [calls_after, Registry.renames, List.getElem?_map]
    rfl
  rw [after, Registry.renames, Renames.mk.injEq]
  exact ⟨rfl, r.renamed_nil id, hcalls⟩

/-- **Every state that the calls can reach** is known from the turns that they have taken. -/
theorem run_eq (hids : (r.sessions.map (·.id)).Nodup) (h : r.session? id = some t) {order : List Nat}
    (hrun : (r.renames id names).run order = some x) :
    x = after r id t names (.of order) := by
  -- from the end, since what a step does depends on the turns before it
  induction order using List.reverseRecOn generalizing x with
  | nil =>
    obtain rfl := Option.some.inj hrun
    exact (after_nil r id t names).symm
  | append_singleton order i ih =>
    rw [run, List.foldlM_append] at hrun
    obtain ⟨y, hy, hstep⟩ := Option.bind_eq_some_iff.mp hrun
    have hlast : y.step i = some x := by simpa using hstep
    rw [ih hy] at hlast
    rw [Turns.of_append_singleton]
    exact step_after hids h hlast

end Renames

/-! ## §4 The open row of a session -/

/-- The open rows of a session. -/
def Store.openRows (s : Store) (id : Nat) : List SessionRow :=
  s.sessionRows.filter fun r => r.session = rowId id ∧ r.closedAt.isNone

/-- **A session that there is has one open row**, which tells of it as it is. -/
theorem DaemonRun.Mirrored.exists_openRow {d : DaemonRun} {before after : Store}
    (h : d.Mirrored before after) (hfit : d.registry.nextSession ≤ 2 ^ 64) {id : Nat} {t : Session}
    (ht : d.registry.session? id = some t) :
    ∃ row, after.openRows id = [row] ∧ row.facts = t.card.facts := by
  obtain ⟨hmem, rfl⟩ := Keyed.mem_of_find? ht
  have hconsistent : d.registry.Consistent := Registry.consistent_run d.config d.acts
  have hlt : ∀ s ∈ d.registry.sessions, s.id < 2 ^ 64 :=
    fun s hs => Nat.lt_of_lt_of_le (hconsistent.fresh s hs) hfit
  -- an identifier finds the rows of the sessions that have it, of which there is one
  have hkeys : ∀ s ∈ d.registry.sessions, s.card.facts.session = rowId t.id ↔ s.id = t.id :=
    fun s hs => by rw [SessionCard.session_facts]; exact rowId_eq_iff (hlt s hs) (hlt t hmem)
  rw [Store.openRows]
  generalize rowId t.id = key at hkeys ⊢
  have hfacts : (after.sessionRows.filter fun r => r.session = key ∧ r.closedAt.isNone).map (·.facts) =
      [t.card.facts] :=
    calc
      _ = ((after.sessionRows.filter (·.closedAt.isNone)).map (·.facts)).filter (·.session = key) := by
        rw [List.filter_map, List.filter_filter]
        refine congrArg _ (List.filter_congr fun r _ => ?_)
        cases r.closedAt <;> simp [SessionRow.facts]
      _ = (d.registry.sessions.filter (·.id = t.id)).map (·.card.facts) := by
        rw [h.open_sessions, List.filter_map]
        refine congrArg _ (List.filter_congr fun s hs => ?_)
        rw [Function.comp_apply, decide_eq_decide]
        exact hkeys s hs
      _ = [t.card.facts] := by
        rw [Keyed.filter_eq_singleton hconsistent.nodup_sessions hmem]
        rfl
  obtain ⟨row, hrow, hrowFacts⟩ := List.map_eq_singleton_iff.mp hfacts
  exact ⟨row, hrow, hrowFacts⟩

/-! ## §5 In the end -/

namespace Turns

/-- What is made known has been given before. -/
theorem told_subset_named (order : List Nat) : (of order).told ⊆ (of order).named := by
  induction order using List.reverseRecOn with
  | nil => exact List.nil_subset _
  | append_singleton order i ih =>
    rw [of_append_singleton, take]
    split
    case isTrue hnamed =>
      exact List.append_subset.mpr ⟨ih, List.cons_subset.mpr ⟨hnamed, List.nil_subset _⟩⟩
    case isFalse => exact List.Subset.trans ih (List.subset_append_left ..)

theorem named_subset (order : List Nat) : (of order).named ⊆ order := by
  induction order using List.reverseRecOn with
  | nil => exact List.nil_subset _
  | append_singleton order i ih =>
    rw [of_append_singleton, take]
    split
    case isTrue => exact List.Subset.trans ih (List.subset_append_left ..)
    case isFalse =>
      exact List.append_subset.mpr
        ⟨List.Subset.trans ih (List.subset_append_left ..), List.subset_append_right ..⟩

end Turns

/-- The name of the call that took the last one of some turns. -/
def lastName (names : List String) (turns : List Nat) : Option String := turns.getLast?.bind (names[·]?)

section LastName

variable {names : List String} {turns turns' : List Nat}

theorem getLast?_namesAt (h : ∀ i ∈ turns, i < names.length) :
    (namesAt names turns).getLast? = lastName names turns := by
  rcases List.eq_nil_or_concat' turns with rfl | ⟨earlier, last, rfl⟩
  · rfl
  · obtain ⟨name, hname⟩ : ∃ name, names[last]? = some name :=
      ⟨_, List.getElem?_eq_getElem (h last (by simp))⟩
    simp [namesAt_append_singleton hname, lastName, hname]

/-- When every call has taken its turn, there is a last name just if there are calls. -/
theorem isSome_lastName (h : ∀ i, i ∈ turns ↔ i < names.length) :
    (lastName names turns).isSome ↔ names ≠ [] := by
  rw [← getLast?_namesAt fun i => (h i).mp, List.getLast?_isSome, not_iff_not]
  constructor
  case mp =>
    intro hnone
    by_contra hnames
    have hpos : 0 < names.length := List.length_pos_iff.mpr hnames
    have hfirst : names[0] ∈ namesAt names turns :=
      List.mem_filterMap.mpr ⟨0, (h 0).mpr hpos, List.getElem?_eq_getElem hpos⟩
    rw [hnone] at hfirst
    cases hfirst
  case mpr =>
    rintro rfl
    simp [namesAt]

/-- Names that are kept are the same just if the last names are, also where there are no calls. -/
theorem getD_lastName_eq_iff (h : ∀ i, i ∈ turns ↔ i < names.length)
    (h' : ∀ i, i ∈ turns' ↔ i < names.length) (old : String) :
    (lastName names turns).getD old = (lastName names turns').getD old ↔
      lastName names turns = lastName names turns' := by
  have hsome := (isSome_lastName h).trans (isSome_lastName h').symm
  cases hlast : lastName names turns <;> cases hlast' : lastName names turns' <;> simp_all

end LastName

namespace Renames

variable {r : Registry} {id : Nat} {t : Session} {names : List String} {order : List Nat}
  {turns : Turns} {x : Renames}

/-- Only calls that there are take a step. -/
theorem length_calls_step {i : Nat} {y : Renames} (h : x.step i = some y) :
    i < x.calls.length ∧ y.calls.length = x.calls.length := by
  unfold step at h
  split at h
  case h_1 => cases h
  case h_2 hcall =>
    refine ⟨(List.getElem?_eq_some_iff.mp hcall).1, ?_⟩
    split at h <;> obtain rfl := Option.some.inj h <;> simp [moved]
  case h_3 hcall =>
    obtain rfl := Option.some.inj h
    exact ⟨(List.getElem?_eq_some_iff.mp hcall).1, by simp [moved]⟩
  case h_4 => cases h

theorem lt_length_of_run {y : Renames} (h : x.run order = some y) : ∀ i ∈ order, i < x.calls.length := by
  induction order generalizing x with
  | nil => exact fun i hi => nomatch hi
  | cons i order ih =>
    rw [run, List.foldlM_cons] at h
    obtain ⟨z, hz, hrun⟩ := Option.bind_eq_some_iff.mp h
    obtain ⟨hi, hlength⟩ := length_calls_step hz
    exact List.forall_mem_cons.mpr ⟨hi, hlength ▸ ih hrun⟩

/-- Every call that has been answered has made its name known. -/
theorem mem_told_of_isOver (hover : (after r id t names turns).IsOver) {i : Nat}
    (hi : i < names.length) : i ∈ turns.told := by
  have hcall : (after r id t names turns).calls[i]? =
      some ⟨names[i], turns.stage { t with name := names[i] } i⟩ := by
    rw [calls_after, List.getElem?_eq_getElem hi]
    rfl
  have hanswered := hover _ (List.mem_of_getElem? hcall)
  by_contra htold
  simp only [Turns.stage, if_neg htold] at hanswered
  split at hanswered <;> cases hanswered

/-- The recorder has handled every event, in the order in which they were made known. -/
structure Heard (x : Renames) (log : List (Time.Instant × LifecycleEvent)) : Prop where
  heard : lifeEvents (log.map (·.2)) = lifeEvents x.registry.events
  sessions_fit : x.registry.nextSession ≤ 2 ^ 64
  panes_fit : x.registry.panes.nextId ≤ 2 ^ 64

/-- The recorder has handled everything as soon as it was made known. -/
theorem heard_at_once (now : Time.Instant) (hsessions : x.registry.nextSession ≤ 2 ^ 64)
    (hpanes : x.registry.panes.nextId ≤ 2 ^ 64) : x.Heard (x.registry.events.map (now, ·)) where
  heard := by
    rw [List.map_map]
    exact congrArg lifeEvents (List.map_id _)
  sessions_fit := hsessions
  panes_fit := hpanes

/-- In the end every call has taken both turns. -/
theorem mem_turns_iff {y : Renames} (hids : (r.sessions.map (·.id)).Nodup) (h : r.session? id = some t)
    (hrun : (r.renames id names).run order = some y) (hover : y.IsOver) :
    (∀ i, i ∈ (Turns.of order).named ↔ i < names.length) ∧
      ∀ i, i ∈ (Turns.of order).told ↔ i < names.length := by
  have hlt : ∀ i ∈ (Turns.of order).named, i < names.length := fun i hi => by
    simpa [Registry.renames] using lt_length_of_run hrun i (Turns.named_subset order hi)
  have hsubset := Turns.told_subset_named order
  obtain rfl := run_eq hids h hrun
  have htold : ∀ i < names.length, i ∈ (Turns.of order).told := fun i => mem_told_of_isOver hover
  constructor
  case left => exact fun i => ⟨hlt i, fun hi => hsubset (htold i hi)⟩
  case right => exact fun i => ⟨fun hi => hlt i (hsubset hi), htold i⟩

/-- What the recorder has heard it would also have heard from calls that come one after the other, in the
    order in which names were made known. -/
theorem Heard.caughtUp {d : DaemonRun} (hlive : d.registry.session? id = some t)
    (h : (after d.registry id t names turns).Heard d.log) :
    let d' : DaemonRun :=
      { d with acts := d.acts ++ (namesAt names turns.told).map (.renameSession id) }
    d'.CaughtUp ∧
      d'.registry = d.registry.renamed id (namesAt names turns.told) (namesAt names turns.told) := by
  intro d'
  have hconsistent : d.registry.Consistent := Registry.consistent_run d.config d.acts
  have hregistry : d'.registry =
      d.registry.renamed id (namesAt names turns.told) (namesAt names turns.told) :=
    calc
      _ = d.registry.run ((namesAt names turns.told).map (.renameSession id)) := List.foldl_append
      _ = _ := Registry.run_renameSession hconsistent.nodup_sessions hlive _
  -- names that were given make no difference to events and identifiers
  refine ⟨⟨?heard, ?sessions, ?panes⟩, hregistry⟩
  case heard =>
    rw [hregistry]
    exact h.heard
  case sessions =>
    rw [hregistry]
    exact h.sessions_fit
  case panes =>
    rw [hregistry]
    exact h.panes_fit

end Renames

/-- **What the registry and the history have in the end**, in whatever order calls that rename a session
    take their steps: the registry has the name of the call that gave its name last, and the open row of
    the session has the name of the call that made its name known last. They are the same exactly if these
    calls give one name. -/
theorem Store.last_names_kept {s : Store} (hs : s.Sound) (earlier : List DaemonRun) {d : DaemonRun}
    {id : Nat} {old : Session} (hlive : d.registry.session? id = some old) (names : List String)
    {order : List Nat} {final : Renames} (hrun : (d.registry.renames id names).run order = some final)
    (hover : final.IsOver) (hheard : final.Heard d.log) :
    ∃ before after row now, s.afterRuns earlier = .ok before ∧ before.afterRun d = .ok after ∧
      final.registry.session? id = some now ∧ after.openRows id = [row] ∧
      now.name = (lastName names (Turns.of order).named).getD old.name ∧
      row.name = (lastName names (Turns.of order).told).getD old.name ∧
      (row.name = now.name ↔
        lastName names (Turns.of order).told = lastName names (Turns.of order).named) := by
  have hconsistent : d.registry.Consistent := Registry.consistent_run d.config d.acts
  obtain ⟨hnamed, htold⟩ := Renames.mem_turns_iff hconsistent.nodup_sessions hlive hrun hover
  obtain rfl := Renames.run_eq hconsistent.nodup_sessions hlive hrun
  -- the rows are those of a run in which names are given in the order in which they were made known
  obtain ⟨hcaught, hregistry⟩ := hheard.caughtUp hlive
  obtain ⟨before, hbefore, hsound⟩ := hs.afterRuns earlier
  obtain ⟨after, hafter, htells⟩ := hcaught.tells hsound
  obtain ⟨row, hrow, hfacts⟩ := (hcaught.mirrored htells).exists_openRow hcaught.sessions_fit
    (hregistry ▸ Registry.session?_renamed hlive _ _)
  have hrowName : row.name = (lastName names (Turns.of order).told).getD old.name := by
    rw [← getLast?_namesAt fun i => (htold i).mp]
    exact congrArg SessionFacts.name hfacts
  have hname : (namesAt names (Turns.of order).named).getLast?.getD old.name =
      (lastName names (Turns.of order).named).getD old.name := by
    rw [getLast?_namesAt fun i => (hnamed i).mp]
  refine ⟨before, after, row, _, hbefore, hafter, Registry.session?_renamed hlive _ _, hrow, hname,
    hrowName, ?_⟩
  rw [hrowName, hname]
  exact getD_lastName_eq_iff htold hnamed old.name

/-- Three calls that overlap, of which one does both last. -/
theorem Store.last_names_kept_overlapping :
    let acts : List Registry.Act := [.createSession ⟨0, 0⟩ (some "first")]
    let calls := ((Registry.new {}).run acts).renames 1 ["a", "b", "c"]
    ∃ final, calls.run [0, 1, 2, 1, 0, 2] = some final ∧ final.IsOver ∧
      let d : DaemonRun := ⟨{}, ⟨0, 0⟩, acts, final.registry.events.map (⟨0, 0⟩, ·)⟩
      fresh.Sound ∧ (d.registry.session? 1).isSome ∧ final.Heard d.log ∧
        ∃ after row now, fresh.afterRun d = .ok after ∧ final.registry.session? 1 = some now ∧
          after.openRows 1 = [row] ∧ row.name = "c" ∧ now.name = "c" := by
  intro acts calls
  obtain ⟨final, hrun, hover, hsessions, hpanes⟩ :
      ∃ final, calls.run [0, 1, 2, 1, 0, 2] = some final ∧ final.IsOver ∧
        final.registry.nextSession ≤ 2 ^ 64 ∧ final.registry.panes.nextId ≤ 2 ^ 64 :=
    ⟨_, rfl, by decide, by decide, by decide⟩
  refine ⟨final, hrun, hover, ?_⟩
  intro d
  have hheard : final.Heard d.log := Renames.heard_at_once ⟨0, 0⟩ hsessions hpanes
  obtain ⟨_, after, row, now, hnone, hafter, hnow, hrow, hname, hrowName, -⟩ :=
    last_names_kept sound_fresh [] (d := d) rfl ["a", "b", "c"] hrun hover hheard
  cases hnone
  exact ⟨sound_fresh, rfl, hheard, after, row, now, hafter, hnow, hrow, hrowName, hname⟩

/-- The registry and the history are left with different names, when names are made known in another
    order than they were given in. -/
theorem Store.last_names_differ :
    let acts : List Registry.Act := [.createSession ⟨0, 0⟩ (some "first")]
    let calls := ((Registry.new {}).run acts).renames 1 ["a", "b"]
    ∃ final, calls.run [0, 1, 1, 0] = some final ∧ final.IsOver ∧
      let d : DaemonRun := ⟨{}, ⟨0, 0⟩, acts, final.registry.events.map (⟨0, 0⟩, ·)⟩
      fresh.Sound ∧ (d.registry.session? 1).isSome ∧ final.Heard d.log ∧
        ∃ after, fresh.afterRun d = .ok after ∧
          (final.registry.session? 1).map (·.name) = some "b" ∧
          (after.openRows 1).map (·.name) = ["a"] := by
  intro acts calls
  refine ⟨_, rfl, by decide, ?_⟩
  intro d
  exact ⟨sound_fresh, rfl, Renames.heard_at_once ⟨0, 0⟩ (by decide) (by decide), _, rfl, rfl,
    by decide +kernel⟩

end PaneMux
