import PaneMux.Pane.Table
import PaneMux.Proofs.Keyed

/-!
# What Operations on Panes Leave Alone

Only making and closing panes changes which panes there are and to whom they belong. This file states
what all the others keep, once, as a relation between two tables, and proves it of each of them.

## Architecture

- **§1** the parts of a table that tell which panes there are: `Panes.owners`, `createdPanes`, and
  the sizes, of panes and of those that wait to be applied (`Panes.Sized`)
- **§2** `Panes.Keeps`, for changes of a terminal, of a record, and of everything else
- **§3** resizes, at once and after a pause
- **§4** the rest of the operations
-/

namespace PaneMux

/-! ## §1 Owners and sizes -/

/-- The pane that an entry in the log tells the making of. -/
def LifecycleEvent.created? : LifecycleEvent → Option Nat
  | .paneCreated d => some d.id
  | _ => none

/-- The panes made, in the order in which that was made known. -/
def createdPanes (events : List LifecycleEvent) : List Nat :=
  events.filterMap LifecycleEvent.created?

/-- Every size that waits is one a terminal can have. -/
def Debouncer.Sized {τ : Type} (d : Debouncer τ) : Prop :=
  ∀ slot ∈ d.slots, ∀ q ∈ slot.pending, q.size.IsValid

namespace Panes

/-- The panes there are, each with its session, in order of creation. -/
def owners (p : Panes) : List (Nat × Nat) := p.records.map fun r => (r.id, r.session)

/-- Every pane has a size that a terminal can have, and never waits for another one. -/
structure Sized (p : Panes) : Prop where
  records : ∀ r ∈ p.records, r.size.IsValid
  waiting : p.resizes.Sized

/-! ## §2 The frame -/

/-- **The panes stay the same ones**: nothing is made or closed, no identifier is given out, and no
    size gets out of bounds. -/
structure Keeps (p p' : Panes) : Prop where
  owners_eq : p'.owners = p.owners
  nextId_eq : p'.nextId = p.nextId
  created_eq : createdPanes p'.events = createdPanes p.events
  sized : p.Sized → p'.Sized

namespace Keeps

variable {p p' p'' : Panes}

theorem refl (p : Panes) : p.Keeps p := ⟨rfl, rfl, rfl, id⟩

theorem trans (h : p.Keeps p') (h' : p'.Keeps p'') : p.Keeps p'' where
  owners_eq := h'.owners_eq.trans h.owners_eq
  nextId_eq := h'.nextId_eq.trans h.nextId_eq
  created_eq := h'.created_eq.trans h.created_eq
  sized hp := h'.sized (h.sized hp)

/-- What has no part in the matter may change. -/
theorem of_eq (hrecords : p'.records = p.records) (hnext : p'.nextId = p.nextId)
    (hevents : p'.events = p.events) (hresizes : p'.resizes = p.resizes) : p.Keeps p' where
  owners_eq := by rw [owners, hrecords]; rfl
  nextId_eq := hnext
  created_eq := by rw [hevents]
  sized hp := ⟨by rw [hrecords]; exact hp.records, by rw [hresizes]; exact hp.waiting⟩

/-- Entries in the log that do not tell of a new pane. -/
theorem emit (p : Panes) {e : LifecycleEvent} (he : e.created? = none) : p.Keeps (p.emit e) where
  owners_eq := rfl
  nextId_eq := rfl
  created_eq := by simp [createdPanes, Panes.emit, he]
  sized hp := ⟨hp.records, hp.waiting⟩

theorem ask (p : Panes) (rs : List HostRequest) : p.Keeps (p.ask rs) := of_eq rfl rfl rfl rfl

theorem modifyTerminal (p : Panes) (id : Nat) (f : Terminal → Terminal) :
    p.Keeps (p.modifyTerminal id f) := of_eq rfl rfl rfl rfl

/-- A change of the record of a pane which stays that pane, in the same session and of a size that a
    terminal can have. -/
theorem modify (p : Panes) (id : Nat) {f : Pane → Pane}
    (howner : ∀ r ∈ p.records, r.id = id → (f r).id = r.id ∧ (f r).session = r.session)
    (hsize : ∀ r ∈ p.records, r.id = id → r.size.IsValid → (f r).size.IsValid) :
    p.Keeps (p.modify id f) where
  owners_eq := by
    simp only [owners, Panes.modify, List.map_map]
    -- record by record: the one that changes keeps its identifier and its session
    refine List.map_congr_left fun r hr => ?_
    by_cases hid : r.id = id
    · obtain ⟨hid', hsession⟩ := howner r hr hid
      simp [hid, hid', hsession]
    · simp [hid]
  nextId_eq := rfl
  created_eq := rfl
  sized hp := by
    refine ⟨fun r hr => ?_, hp.waiting⟩
    obtain ⟨r, hmem, rfl⟩ := List.mem_map.mp hr
    split
    · rename_i hid
      exact hsize r hmem hid (hp.records r hmem)
    · exact hp.records r hmem

/-- Activity in a pane. -/
theorem touchRecord (p : Panes) (now : Time.Instant) (id : Nat) :
    p.Keeps (p.touchRecord now id) :=
  modify p id (fun _ _ _ => ⟨rfl, rfl⟩) fun _ _ _ h => h

end Keeps

/-! ## §3 Resizes -/

/-- A size that passes the check is one a terminal can have. -/
theorem checkSize_eq_ok_iff {size : Geometry} : checkSize size = .ok () ↔ size.IsValid := by
  unfold checkSize
  split <;> simp [*]

/-- A size taken by a terminal is the size of its pane. -/
theorem keeps_resizeTerminal {size : Geometry} (hsize : size.IsValid) (id : Nat) (p : Panes) :
    p.Keeps (resizeTerminal id size p).2 := by
  unfold resizeTerminal
  split
  · exact .refl p
  · split
    · have hmodify : p.Keeps (p.modify id fun r => { r with size }) :=
        .modify p id (fun _ _ _ => ⟨rfl, rfl⟩) fun _ _ _ _ => hsize
      exact hmodify.trans (.trans (.modifyTerminal _ id _) (.ask _ _))
    · exact .modifyTerminal p id _

/-- A size that is due. -/
theorem keeps_applySize {size : Geometry} (hsize : size.IsValid) (id : Nat) (current : Geometry)
    (p : Panes) : p.Keeps (applySize resizeTerminal id current size p).2 := by
  unfold applySize
  split
  · exact .refl p
  · exact keeps_resizeTerminal hsize id p

end Panes

namespace Debouncer

variable {τ : Type} {d : Debouncer τ}

/-- The earliest of several sizes is one of them. -/
private theorem mem_of_foldl_earlier {xs : List (ResizeSlot τ × PendingResize)}
    {best : Option (ResizeSlot τ × PendingResize)} {x : ResizeSlot τ × PendingResize}
    (h : xs.foldl earlier best = some x) : x ∈ xs ∨ best = some x := by
  induction xs generalizing best with
  | nil => exact .inr h
  | cons y ys ih =>
    rcases ih h with hmem | hnext
    · exact .inl (List.mem_cons_of_mem y hmem)
    · -- it is the earlier of `y` and the best one so far
      unfold earlier at hnext
      split at hnext
      · split at hnext
        · exact .inl (by simp [Option.some.inj hnext])
        · exact .inr hnext
      · exact .inl (by simp [Option.some.inj hnext])

/-- What is due first is one of those that are due. -/
theorem mem_of_due? {until_ : Nat} {x : ResizeSlot τ × PendingResize} (h : d.due? until_ = some x) :
    x ∈ d.waiting.filter (·.2.due ≤ until_) := by
  rcases mem_of_foldl_earlier h with hmem | hnone
  · exact hmem
  · cases hnone

theorem mem_waiting_of_due? {until_ : Nat} {x : ResizeSlot τ × PendingResize}
    (h : d.due? until_ = some x) : x ∈ d.waiting :=
  (List.mem_filter.mp (mem_of_due? h)).1

/-- What has been waiting is a size that a terminal can have. -/
theorem Sized.of_waiting (h : d.Sized) {x : ResizeSlot τ × PendingResize} (hx : x ∈ d.waiting) :
    x.2.size.IsValid := by
  obtain ⟨slot, hslot, hpending⟩ := List.mem_filterMap.mp hx
  obtain ⟨q, hq, rfl⟩ := Option.map_eq_some_iff.mp hpending
  exact h slot hslot q hq

theorem Sized.modify (h : d.Sized) (pane : Nat) {f : ResizeSlot τ → ResizeSlot τ}
    (hf : ∀ slot, ∀ q ∈ (f slot).pending, q.size.IsValid) : (d.modify pane f).Sized := by
  intro slot hslot
  obtain ⟨slot, hmem, rfl⟩ := List.mem_map.mp hslot
  split
  · exact hf slot
  · exact h slot hmem

theorem Sized.settle (h : d.Sized) (pane : Nat) (size : Geometry) (taken : Bool) :
    (d.settle pane size taken).Sized :=
  h.modify pane fun _ _ hq => nomatch hq

theorem Sized.forget (h : d.Sized) (pane : Nat) : (d.forget pane).Sized :=
  fun slot hslot => h slot (List.mem_filter.mp hslot).1

theorem Sized.request (h : d.Sized) {wanted : Geometry} (hwanted : wanted.IsValid)
    (now pane : Nat) (target : τ) (applied : Geometry) :
    (d.request now pane target applied wanted).Sized := by
  unfold Debouncer.request
  split
  · refine h.modify pane fun slot q hq => ?_
    rw [← Option.some.inj hq]
    exact hwanted
  · intro slot hslot q hq
    rcases List.mem_append.mp hslot with hslot | hslot
    · exact h slot hslot q hq
    · rw [List.mem_singleton.mp hslot] at hq
      rw [← Option.some.inj hq]
      exact hwanted

/-- **However many sizes fall due**, the panes stay the same ones, and so do the bounds on what is
    still waiting. -/
theorem keeps_elapse_go {d : Debouncer Nat} (h : d.Sized) (until_ n : Nat) (p : Panes) :
    (elapse.go Panes.resizeTerminal until_ n d p).1.Sized ∧
      p.Keeps (elapse.go Panes.resizeTerminal until_ n d p).2 := by
  -- one size falls due in each round, and its slot waits for nothing afterwards
  induction n generalizing d p with
  | zero => exact ⟨h, .refl p⟩
  | succ n ih =>
    unfold elapse.go
    split
    · exact ⟨h, .refl p⟩
    · rename_i slot q hdue
      have hsize := h.of_waiting (mem_waiting_of_due? hdue)
      obtain ⟨hsized, hkeeps⟩ := ih (h.settle slot.pane q.size _)
        (applySize Panes.resizeTerminal slot.target slot.applied q.size p).2
      exact ⟨hsized, .trans (Panes.keeps_applySize hsize slot.target slot.applied p) hkeeps⟩

end Debouncer

namespace Panes

/-- Sizes that have waited long enough. -/
theorem keeps_applyResizes {p : Panes} (h : p.Sized) (uptime : Nat) :
    p.Keeps (p.applyResizes uptime) := by
  obtain ⟨hsized, hkeeps⟩ := Debouncer.keeps_elapse_go h.waiting uptime p.resizes.slots.length p
  exact ⟨hkeeps.owners_eq, hkeeps.nextId_eq, hkeeps.created_eq,
    fun hp => ⟨(hkeeps.sized hp).records, hsized⟩⟩

/-- A size that is asked for is taken at once, waits, or is refused. -/
theorem keeps_resize (p : Panes) (now : Time.Moment) (how : Teardown) (id : Nat)
    (size : Geometry) : p.Keeps (p.resize now how id size).2 := by
  unfold resize
  split
  · exact .refl p
  · rename_i hcheck
    have hsize : size.IsValid := checkSize_eq_ok_iff.mp hcheck
    split
    · exact .refl p
    · -- being asked counts as activity, whatever becomes of the size
      refine .trans (.touchRecord p now.wall id) ?_
      dsimp only
      split
      · split
        · -- the request waits
          exact ⟨rfl, rfl, rfl, fun hp => ⟨hp.records, hp.waiting.request hsize _ _ _ _⟩⟩
        · exact keeps_applySize hsize _ _ _
      · exact .modify _ id (fun _ _ _ => ⟨rfl, rfl⟩) fun _ _ _ _ => hsize

/-! ## §4 Everything else -/

/-- A record that is found is that of the pane. -/
theorem mem_of_find?_eq_some {p : Panes} {id : Nat} {r : Pane} (h : p.find? id = some r) :
    r ∈ p.records ∧ r.id = id :=
  Keyed.mem_of_find? h

/-- A pane belongs to the session that its record names. -/
theorem mem_owners_of_find? {p : Panes} {id : Nat} {r : Pane} (h : p.find? id = some r) :
    (id, r.session) ∈ p.owners := by
  obtain ⟨hr, hid⟩ := mem_of_find?_eq_some h
  exact List.mem_map.mpr ⟨r, hr, by rw [hid]⟩

theorem keeps_touch (p : Panes) (now : Time.Instant) (id : Nat) :
    p.Keeps (p.touch now id).2 := by
  unfold touch
  split
  · exact .refl p
  · exact .touchRecord p now id

/-- A new title, where no two panes share an identifier. -/
theorem keeps_rename {p : Panes} (hids : (p.records.map (·.id)).Nodup) (now : Time.Instant)
    (id : Nat) (title : String) : p.Keeps (p.rename now id title).2 := by
  unfold rename find
  cases hfind : p.find? id with
  | none => exact .refl p
  | some r =>
    obtain ⟨hr, hrid⟩ := mem_of_find?_eq_some hfind
    have hsame : ∀ r' ∈ p.records, r'.id = id → r' = r := fun r' hr' hid =>
      List.inj_on_of_nodup_map hids hr' hr (hid.trans hrid.symm)
    refine .modify p id (fun r' hr' hid => ?_) fun r' hr' hid hvalid => ?_
    · rw [hsame r' hr' hid]
      exact ⟨rfl, rfl⟩
    · rwa [hsame r' hr' hid] at hvalid

theorem keeps_sendInput (p : Panes) (now : Time.Instant) (id : Nat) (data : Bytes) :
    p.Keeps (p.sendInput now id data).2 := by
  unfold sendInput
  split
  · exact .refl p
  · dsimp only
    split
    · exact .trans (.touchRecord p now id) (.ask _ _)
    · exact .touchRecord p now id

theorem keeps_subscribe (p : Panes) (id : Nat) : p.Keeps (p.subscribe id).2 := by
  unfold subscribe
  split
  · exact .refl p
  · exact .of_eq rfl rfl rfl rfl

theorem keeps_receive (p : Panes) (subscription : Nat) :
    p.Keeps (p.receive subscription).2 := by
  unfold receive
  split
  · exact .refl p
  · exact .of_eq rfl rfl rfl rfl

/-- The end of a process is made known; its pane stays. -/
theorem keeps_onExit (p : Panes) (now : Time.Moment) (id : Nat) (code : Option Int32) :
    p.Keeps (p.onExit now id code) := by
  unfold onExit
  split
  · exact .refl p
  · split
    · exact .refl p
    · -- measurements and status first, then the log, then the terminal itself
      refine .trans ?_ (.trans (.emit _ rfl) (.modifyTerminal _ id _))
      exact .of_eq rfl rfl rfl rfl

end Panes

end PaneMux
