import PaneMux.Proofs.Pane.Frame

/-!
# Making and Closing Panes

What making a pane adds to a table, and what closing panes takes away, as relations between two
tables. A pane that is made gets the next identifier; one that is closed is gone at once, whatever
its process does.

## Architecture

- **§1** `Panes.Makes`: one pane more, or no change at all when it is refused
- **§2** `Panes.Closes`: some panes less, with closing one after the other
- **§3** `Panes.Tidy`: identifiers rise in order of creation and none is left to be given out twice;
  kept by each of the two, and by what keeps the panes
-/

namespace PaneMux

namespace Panes

/-! ## §1 Making -/

/-- **A pane has been made** in a session, under the next identifier, and nothing else has. -/
structure Makes (p p' : Panes) (session : Nat) (d : PaneDescriptor) : Prop where
  id_eq : d.id = p.nextId
  session_eq : d.session = session
  owners_eq : p'.owners = p.owners ++ [(p.nextId, session)]
  nextId_eq : p'.nextId = p.nextId + 1
  created_eq : createdPanes p'.events = createdPanes p.events
  sized : p.Sized → p'.Sized

/-- The outcome of making a pane in a session: it is there, or everything is as before. -/
def Attempts (p : Panes) (session : Nat) (outcome : Except RequestError PaneDescriptor × Panes) :
    Prop :=
  match outcome.1 with
  | .ok d => p.Makes outcome.2 session d
  | .error _ => p.Keeps outcome.2

/-- A record at the end, under the next identifier, makes a pane. -/
theorem Makes.of_append {p p' : Panes} {session : Nat} {r : Pane} {d : PaneDescriptor}
    (hrecords : p'.records = p.records ++ [r]) (hsize : r.size.IsValid)
    (howner : r.id = p.nextId ∧ r.session = session) (hd : d.id = r.id ∧ d.session = r.session)
    (hnext : p'.nextId = p.nextId + 1) (hevents : p'.events = p.events)
    (hresizes : p'.resizes = p.resizes) : p.Makes p' session d where
  id_eq := hd.1.trans howner.1
  session_eq := hd.2.trans howner.2
  owners_eq := by simp [owners, hrecords, howner]
  nextId_eq := hnext
  created_eq := by rw [hevents]
  sized hp := by
    refine ⟨fun r' hr' => ?_, by rw [hresizes]; exact hp.waiting⟩
    rw [hrecords] at hr'
    rcases List.mem_append.mp hr' with hr' | hr'
    · exact hp.records r' hr'
    · rw [List.mem_singleton.mp hr']
      exact hsize

/-- An identifier is free again where nobody else has taken one since. -/
theorem release_reserve (p : Panes) : p.reserve.2.release p.reserve.1 = p := by
  simp [reserve, release]

/-- Without its process a terminal is not made, and its identifier is free again. -/
theorem attempts_createTerminal (p : Panes) (spawn : Spawner) (now : Time.Instant) (session : Nat)
    (o : TerminalOptions) : p.Attempts session (p.createTerminal spawn now session o) := by
  unfold createTerminal
  split
  · exact Keeps.refl p
  · rename_i hcheck
    have hsize : o.size.IsValid := checkSize_eq_ok_iff.mp hcheck
    dsimp only
    split
    · rw [release_reserve]
      exact Keeps.refl p
    · show p.Makes _ session _
      exact .of_append rfl hsize ⟨rfl, rfl⟩ ⟨rfl, rfl⟩ rfl rfl rfl

/-- A pane without a process is made unless it is refused. -/
theorem attempts_createPane (p : Panes) (now : Time.Instant) (session : Nat) (kind : PaneKind)
    (o : PaneOptions) : p.Attempts session (p.createPane now session kind o) := by
  unfold createPane
  split
  · exact Keeps.refl p
  · split
    · exact Keeps.refl p
    · rename_i hcheck
      have hsize : o.size.IsValid := checkSize_eq_ok_iff.mp hcheck
      show p.Makes _ session _
      exact .of_append rfl hsize ⟨rfl, rfl⟩ ⟨rfl, rfl⟩ rfl rfl rfl

/-! ## §2 Closing -/

/-- **Some panes have been closed**, and nothing else has happened to the rest. -/
structure Closes (p p' : Panes) (ids : List Nat) : Prop where
  owners_eq : p'.owners = p.owners.filter (·.1 ∉ ids)
  nextId_eq : p'.nextId = p.nextId
  created_eq : createdPanes p'.events = createdPanes p.events
  sized : p.Sized → p'.Sized

namespace Closes

variable {p p' p'' : Panes}

/-- What keeps the panes closes none of them, and whatever else is not there. -/
theorem of_keeps (h : p.Keeps p') {ids : List Nat} (hnone : ∀ x ∈ p.owners, x.1 ∉ ids) :
    p.Closes p' ids where
  owners_eq := by
    rw [h.owners_eq]
    exact (List.filter_eq_self.mpr fun x hx => by simpa using hnone x hx).symm
  nextId_eq := h.nextId_eq
  created_eq := h.created_eq
  sized := h.sized

/-- Nothing is closed. -/
theorem nil (h : p.Keeps p') : p.Closes p' [] := of_keeps h fun _ _ => List.not_mem_nil

/-- Closing goes on. -/
theorem trans {ids ids' : List Nat} (h : p.Closes p' ids) (h' : p'.Closes p'' ids') :
    p.Closes p'' (ids ++ ids') where
  owners_eq := by
    rw [h'.owners_eq, h.owners_eq, List.filter_filter]
    exact List.filter_congr fun x _ => by simp [not_or, Bool.and_comm]
  nextId_eq := h'.nextId_eq.trans h.nextId_eq
  created_eq := h'.created_eq.trans h.created_eq
  sized hp := h'.sized (h.sized hp)

theorem trans_keeps {ids : List Nat} (h : p.Closes p' ids) (h' : p'.Keeps p'') :
    p.Closes p'' ids := by
  simpa using h.trans (nil h')

/-- Taking away the record of a pane. -/
theorem erase (p : Panes) (id : Nat) : p.Closes (p.erase id) [id] where
  owners_eq := by simp [owners, Panes.erase, List.filter_map, Function.comp_def]
  nextId_eq := rfl
  created_eq := rfl
  sized hp := ⟨fun r hr => hp.records r (List.mem_filter.mp hr).1, hp.waiting.forget id⟩

end Closes

/-- What becomes of the process of a closed pane is no matter of the panes. -/
theorem keeps_retire (p : Panes) (uptime : Nat) (how : Teardown) (id : Nat) :
    p.Keeps (p.retire uptime how id) := by
  unfold retire
  split
  · exact .refl p
  · exact .trans (.modifyTerminal p id _) (.ask _ _)

/-- A pane belongs to the session that closing it tells. -/
theorem mem_owners_of_close {p p' : Panes} {uptime : Nat} {how : Teardown} {id session : Nat}
    (h : p.close uptime how id = (.ok (some session), p')) : (id, session) ∈ p.owners := by
  unfold close at h
  split at h
  · obtain ⟨hresult, -⟩ := Prod.mk.inj h
    split at hresult <;> simp at hresult
  · rename_i r hfind
    obtain ⟨hresult, -⟩ := Prod.mk.inj h
    simp only [Except.ok.injEq, Option.some.injEq] at hresult
    exact hresult ▸ mem_owners_of_find? hfind

/-- Where no session is told nothing has happened. -/
theorem eq_of_close {p p' : Panes} {uptime : Nat} {how : Teardown} {id : Nat}
    {result : Except RequestError (Option Nat)} (h : p.close uptime how id = (result, p'))
    (hresult : ∀ session, result ≠ .ok (some session)) : p' = p := by
  unfold close at h
  split at h
  · exact (Prod.mk.inj h).2.symm
  · exact absurd (Prod.mk.inj h).1.symm (hresult _)

/-- **Closing takes away the pane** and no other, if there is one. -/
theorem closes_close (p : Panes) (uptime : Nat) (how : Teardown) (id : Nat) :
    p.Closes (p.close uptime how id).2 [id] := by
  cases hfind : p.find? id with
  | none =>
    have hclose : (p.close uptime how id).2 = p := by simp [close, hfind]
    rw [hclose]
    refine .of_keeps (.refl p) fun x hx => ?_
    obtain ⟨r, hr, rfl⟩ := List.mem_map.mp hx
    have := List.find?_eq_none.mp hfind r hr
    simpa using this
  | some r =>
    have hclose : (p.close uptime how id).2 =
        ((p.erase id).retire uptime how id).emit (.paneClosed id r.session) := by
      simp [close, hfind]
    rw [hclose]
    exact (Closes.erase p id).trans_keeps ((keeps_retire _ uptime how id).trans (.emit _ rfl))

/-- A pane belongs to the session it names. -/
theorem mem_owners_of_sessionOf {p : Panes} {id session : Nat}
    (h : p.sessionOf id = .ok session) : (id, session) ∈ p.owners := by
  unfold sessionOf find at h
  split at h
  · rename_i r hfind
    have hsession : r.session = session := Except.ok.inj h
    exact hsession ▸ mem_owners_of_find? hfind
  · cases h

/-! ## §3 Identifiers -/

/-- **Identifiers rise** in order of creation, and the next one is new. No size is out of bounds. -/
structure Tidy (p : Panes) : Prop where
  ascending : (p.owners.map Prod.fst).Pairwise (· < ·)
  fresh : ∀ x ∈ p.owners, x.1 < p.nextId
  sized : p.Sized

theorem tidy_new (config : Config) : (new config).Tidy where
  ascending := List.Pairwise.nil
  fresh _ hx := nomatch hx
  sized := ⟨fun _ hr => (nomatch hr), fun _ hslot => (nomatch hslot)⟩

namespace Tidy

variable {p p' : Panes}

theorem of_closes (h : p.Tidy) {ids : List Nat} (hcloses : p.Closes p' ids) : p'.Tidy where
  ascending := by
    rw [hcloses.owners_eq]
    exact h.ascending.sublist (List.filter_sublist.map _)
  fresh x hx := by
    rw [hcloses.owners_eq] at hx
    rw [hcloses.nextId_eq]
    exact h.fresh x (List.mem_filter.mp hx).1
  sized := hcloses.sized h.sized

theorem of_keeps (h : p.Tidy) (hkeeps : p.Keeps p') : p'.Tidy := h.of_closes (.nil hkeeps)

/-- The log is no matter of identifiers. -/
theorem emit (h : p.Tidy) (e : LifecycleEvent) : (p.emit e).Tidy :=
  ⟨h.ascending, h.fresh, h.sized.records, h.sized.waiting⟩

theorem of_makes (h : p.Tidy) {session : Nat} {d : PaneDescriptor}
    (hmakes : p.Makes p' session d) : p'.Tidy where
  ascending := by
    rw [hmakes.owners_eq, List.map_append, List.pairwise_append]
    -- the next identifier is above all that have been given out
    refine ⟨h.ascending, List.pairwise_singleton _ _, fun id hid id' hid' => ?_⟩
    obtain ⟨x, hx, rfl⟩ := List.mem_map.mp hid
    rw [List.mem_singleton.mp hid']
    exact h.fresh x hx
  fresh x hx := by
    rw [hmakes.owners_eq] at hx
    rw [hmakes.nextId_eq]
    rcases List.mem_append.mp hx with hx | hx
    · exact Nat.lt_succ_of_lt (h.fresh x hx)
    · rw [List.mem_singleton.mp hx]
      exact Nat.lt_succ_self _
  sized := hmakes.sized h.sized

/-- No two panes share an identifier. -/
theorem nodup (h : p.Tidy) : (p.owners.map Prod.fst).Nodup :=
  h.ascending.imp Nat.ne_of_lt

theorem nodup_records (h : p.Tidy) : (p.records.map (·.id)).Nodup := by
  have hnodup := h.nodup
  rwa [owners, List.map_map] at hnodup

/-- A pane has one session. -/
theorem session_unique (h : p.Tidy) {id s s' : Nat} (hs : (id, s) ∈ p.owners)
    (hs' : (id, s') ∈ p.owners) : s = s' :=
  congrArg Prod.snd (List.inj_on_of_nodup_map h.nodup hs hs' rfl)

end Tidy

end Panes

end PaneMux
