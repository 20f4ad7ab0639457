import PaneMux.Proofs.Agent.Occurrences
import PaneMux.Proofs.Agent.Writes

/-!
# Scanning Output

What the output of a pane says of its status is the marker that begins last among those whose word
names a status; other words are not heard, wherever they stand. Output that arrives in pieces says the
same as output that arrives at once, unless it is cut inside a marker.

## Architecture

- **§1** reports in a byte string (`Marker.Reports`), and the one that begins last
- **§2** reports in two pieces
- **§3** what a tracker keeps of a pane whose output it scans
-/

namespace PaneMux

/-- The word that names a status, byte by byte. -/
def AgentStatus.word : AgentStatus → Bytes
  | .idle => [105, 100, 108, 101]
  | .running => [114, 117, 110, 110, 105, 110, 103]
  | .warning => [119, 97, 114, 110, 105, 110, 103]
  | .error => [101, 114, 114, 111, 114]

theorem AgentStatus.encode_text (s : AgentStatus) : Utf8.encode s.text = s.word := by
  cases s <;> decide +kernel

/-- **A word in bytes names a status** if it is the word for that. -/
theorem AgentStatus.ofBytes?_eq_some_iff {word : Bytes} {s : AgentStatus} :
    ofBytes? word = some s ↔ word = s.word := by
  rw [← s.encode_text]
  constructor
  · intro h
    rw [ofBytes?] at h
    simpa [eq_comm] using List.find?_some h
  · rintro rfl
    cases s <;> decide +kernel

namespace Marker

variable {a b data : Bytes} {place place' : Nat} {s s' : AgentStatus}

/-! ## §1 Reports -/

/-- **A marker that names a status stands at a place.** -/
def Reports (data : Bytes) (place : Nat) (s : AgentStatus) : Prop :=
  ∃ m text, Stands m data place s.word text

theorem mem_reports_iff : (place, s) ∈ reports builtIn data ↔ Reports data place s := by
  simp only [reports, List.mem_flatMap, List.mem_filterMap, Option.map_eq_some_iff, Prod.mk.injEq]
  constructor
  · rintro ⟨m, hm, o, ho, s', hs, rfl, rfl⟩
    obtain ⟨word, text, hstands, -, hword⟩ := (mem_occurrences_iff hm).mp ho
    rw [Occurrence.status?, hword, Option.bind_some, AgentStatus.ofBytes?_eq_some_iff] at hs
    exact ⟨m, text, hs ▸ hstands⟩
  · rintro ⟨m, text, hstands⟩
    have hm := hstands.written.mem_builtIn
    refine ⟨m, hm, ⟨place, text.length, some s.word⟩,
      (mem_occurrences_iff hm).mpr ⟨_, text, hstands, rfl, rfl⟩, s, ?_, rfl, rfl⟩
    exact AgentStatus.ofBytes?_eq_some_iff.mpr rfl

/-- **One status is reported at a place.** -/
theorem Reports.unique (h : Reports data place s) (h' : Reports data place s') : s = s' := by
  obtain ⟨m, text, hstands⟩ := h
  obtain ⟨m', text', hstands'⟩ := h'
  obtain rfl := hstands.written.marker_unique hstands'.written hstands.here hstands'.here
  have hword := (hstands.written.unique hstands'.written hstands.here hstands'.here).2
  exact Option.some.inj <| (AgentStatus.ofBytes?_eq_some_iff.mpr rfl).symm.trans
    (AgentStatus.ofBytes?_eq_some_iff.mpr hword)

theorem latest_append_singleton (rs : List (Nat × AgentStatus)) (r : Nat × AgentStatus) :
    latest (rs ++ [r]) =
      match latest rs with
      | some b => if b.1 ≤ r.1 then some r else some b
      | none => some r := by
  rw [latest, List.foldl_append]
  rfl

/-- **The latest report is one of the reports, and none begins behind it.** -/
theorem latest_spec (rs : List (Nat × AgentStatus)) :
    (latest rs = none ∧ rs = []) ∨
      ∃ r, latest rs = some r ∧ r ∈ rs ∧ ∀ r' ∈ rs, r'.1 ≤ r.1 := by
  induction rs using List.reverseRecOn with
  | nil => exact .inl ⟨rfl, rfl⟩
  | append_singleton rs r ih =>
    rw [latest_append_singleton]
    rcases ih with ⟨hnone, rfl⟩ | ⟨b, hsome, hmem, hmax⟩
    · exact .inr ⟨r, by rw [hnone], by simp, by simp⟩
    · rw [hsome]
      dsimp only
      split
      case isTrue hle =>
        refine .inr ⟨r, rfl, by simp, fun r' hr' => ?_⟩
        rcases List.mem_append.mp hr' with hr' | hr'
        · exact (hmax r' hr').trans hle
        · rw [List.mem_singleton.mp hr']
      case isFalse hlt =>
        refine .inr ⟨b, rfl, List.mem_append_left _ hmem, fun r' hr' => ?_⟩
        rcases List.mem_append.mp hr' with hr' | hr'
        · exact hmax r' hr'
        · rw [List.mem_singleton.mp hr']
          exact (Nat.lt_of_not_le hlt).le

/-- **What the output says** is the report that begins last, if there is any. -/
theorem report?_cases (data : Bytes) :
    (report? builtIn data = none ∧ ∀ place s, ¬Reports data place s) ∨
      ∃ place s, report? builtIn data = some s ∧ Reports data place s ∧
        ∀ place' s', Reports data place' s' → place' ≤ place := by
  rcases latest_spec (reports builtIn data) with ⟨hnone, hnil⟩ | ⟨⟨place, s⟩, hsome, hmem, hmax⟩
  · refine .inl ⟨by rw [report?, hnone, Option.map_none], fun place s hreports => ?_⟩
    rw [← mem_reports_iff, hnil] at hreports
    cases hreports
  · exact .inr ⟨place, s, by rw [report?, hsome, Option.map_some], mem_reports_iff.mp hmem,
      fun place' s' hreports => hmax _ (mem_reports_iff.mpr hreports)⟩

theorem report?_eq_some_iff :
    report? builtIn data = some s ↔
      ∃ place, Reports data place s ∧ ∀ place' s', Reports data place' s' → place' ≤ place := by
  rcases report?_cases data with ⟨hnone, hno⟩ | ⟨last, s', hsome, hlast, hmax⟩
  · rw [hnone]
    exact ⟨nofun, fun ⟨place, hreports, _⟩ => absurd hreports (hno place s)⟩
  · rw [hsome, Option.some.injEq]
    constructor
    · rintro rfl
      exact ⟨last, hlast, hmax⟩
    · rintro ⟨place, hreports, hmax'⟩
      obtain rfl : last = place := le_antisymm (hmax' _ _ hlast) (hmax _ _ hreports)
      exact hlast.unique hreports

theorem report?_eq_none_iff :
    report? builtIn data = none ↔ ∀ place s, ¬Reports data place s := by
  rcases report?_cases data with ⟨hnone, hno⟩ | ⟨place, s, hsome, hreports, -⟩
  · exact ⟨fun _ => hno, fun _ => hnone⟩
  · rw [hsome]
    exact ⟨nofun, fun hno => absurd hreports (hno place s)⟩

/-! ## §2 Two pieces -/

/-- **No marker that names a status is cut** where one piece ends and the other begins. One with another
    word may be. -/
def Uncut (a b : Bytes) : Prop :=
  ∀ m place s text, Stands m (a ++ b) place (AgentStatus.word s) text →
    place + text.length ≤ a.length ∨ a.length ≤ place

/-- Whether a marker is cut can be told from the matches in the whole. -/
theorem uncut_iff :
    Uncut a b ↔ ∀ m ∈ builtIn, ∀ o ∈ m.occurrences (a ++ b), o.status? ≠ none →
      o.start + o.length ≤ a.length ∨ a.length ≤ o.start := by
  constructor
  · intro h m hm o ho hstatus
    obtain ⟨word, text, hstands, hlength, hword⟩ := (mem_occurrences_iff hm).mp ho
    obtain ⟨s, hs⟩ := Option.ne_none_iff_exists'.mp hstatus
    rw [Occurrence.status?, hword, Option.bind_some, AgentStatus.ofBytes?_eq_some_iff] at hs
    rw [hlength]
    exact h m o.start s text (hs ▸ hstands)
  · intro h m place s text hstands
    have hm := hstands.written.mem_builtIn
    have hnamed : AgentStatus.ofBytes? s.word = some s :=
      AgentStatus.ofBytes?_eq_some_iff.mpr rfl
    refine h m hm ⟨place, text.length, some s.word⟩
      ((mem_occurrences_iff hm).mpr ⟨_, text, hstands, rfl, rfl⟩) ?_
    simp [Occurrence.status?, hnamed]

instance (a b : Bytes) : Decidable (Uncut a b) := decidable_of_iff _ uncut_iff.symm

theorem stands_append_left {m : Marker} {word text : Bytes} (h : m.Stands a place word text) :
    m.Stands (a ++ b) place word text := by
  refine ⟨h.written, h.here.trans ?_⟩
  rw [List.drop_append]
  exact List.prefix_append _ _

theorem stands_append_right_iff {m : Marker} {word text : Bytes} (h : a.length ≤ place) :
    m.Stands (a ++ b) place word text ↔ m.Stands b (place - a.length) word text := by
  have hdrop : (a ++ b).drop place = b.drop (place - a.length) := by
    rw [List.drop_append, List.drop_of_length_le h, List.nil_append]
  exact ⟨fun ⟨hwritten, hhere⟩ => ⟨hwritten, hdrop ▸ hhere⟩,
    fun ⟨hwritten, hhere⟩ => ⟨hwritten, hdrop ▸ hhere⟩⟩

/-- A marker that ends in the first piece stands there. -/
theorem Stands.of_append {m : Marker} {word text : Bytes} (h : m.Stands (a ++ b) place word text)
    (hle : place + text.length ≤ a.length) : m.Stands a place word text := by
  refine ⟨h.written, ?_⟩
  have hhere := h.here
  rw [List.drop_append] at hhere
  refine List.prefix_of_prefix_length_le hhere (List.prefix_append _ _) ?_
  rw [List.length_drop]
  omega

/-- **Pieces that cut no marker have the reports of the whole.** -/
theorem reports_append_iff (h : Uncut a b) :
    Reports (a ++ b) place s ↔
      Reports a place s ∨ a.length ≤ place ∧ Reports b (place - a.length) s := by
  constructor
  · rintro ⟨m, text, hstands⟩
    rcases h m place _ text hstands with hle | hle
    · exact .inl ⟨m, text, hstands.of_append hle⟩
    · exact .inr ⟨hle, m, text, (stands_append_right_iff hle).mp hstands⟩
  · rintro (⟨m, text, hstands⟩ | ⟨hle, m, text, hstands⟩)
    · exact ⟨m, text, stands_append_left hstands⟩
    · exact ⟨m, text, (stands_append_right_iff hle).mpr hstands⟩

theorem Reports.lt_length (h : Reports data place s) : place < data.length := by
  obtain ⟨m, text, hwritten, hhere⟩ := h
  have hlength := hhere.length_le
  have hpos := hwritten.length_pos
  rw [List.length_drop] at hlength
  omega

/-- **The second piece has the last word**, if it says anything. -/
theorem report?_append (h : Uncut a b) :
    report? builtIn (a ++ b) = (report? builtIn b).or (report? builtIn a) := by
  rcases report?_cases b with ⟨hnone, hno⟩ | ⟨last, s, hsome, hlast, hmax⟩
  · have hsame (place : Nat) (s : AgentStatus) : Reports (a ++ b) place s ↔ Reports a place s := by
      rw [reports_append_iff h]
      exact or_iff_left fun hb => hno _ _ hb.2
    rw [hnone, Option.none_or]
    ext s
    simp only [report?_eq_some_iff, hsame]
  · rw [hsome, Option.some_or, report?_eq_some_iff]
    refine ⟨a.length + last, ?_, fun place' s' hreports => ?_⟩
    · rw [reports_append_iff h]
      exact .inr ⟨Nat.le_add_right _ _, by rwa [Nat.add_sub_cancel_left]⟩
    · rcases (reports_append_iff h).mp hreports with ha | ⟨hle, hb⟩
      · exact ha.lt_length.le.trans (Nat.le_add_right _ _)
      · have hlast' := hmax _ _ hb
        omega

end Marker

/-! ## §3 A pane whose output is scanned -/

namespace Tracker

/-- The status that is kept for a key, whether it is believed or not. -/
def stored? (t : Tracker) (key : StatusKey) : Option AgentStatus := (t.kept? key).map (·.1)

/-- **What is kept of a pane is what its output said last**, and what was kept if it says nothing. -/
theorem stored?_scan (t : Tracker) (now : Time.Moment) (pane : Nat) (data : Bytes) :
    (t.scan now pane data).2.stored? (.pane pane) =
      (Marker.report? t.markers data).or (t.stored? (.pane pane)) := by
  unfold scan
  cases Marker.report? t.markers data with
  | none => rfl
  | some s => simp [stored?, kept?_set]

theorem markers_scan (t : Tracker) (now : Time.Moment) (pane : Nat) (data : Bytes) :
    (t.scan now pane data).2.markers = t.markers :=
  (t.expiry_markers_perform (.scan now pane data)).2

/-- **The last marker that names a status is what is heard.** -/
theorem scan_exact (t : Tracker) (h : t.markers = Marker.builtIn) (now : Time.Moment) (pane : Nat)
    (data : Bytes) :
    (∀ s, (t.scan now pane data).1 = some s ↔
      ∃ place, Marker.Reports data place s ∧
        ∀ place' s', Marker.Reports data place' s' → place' ≤ place) ∧
    (∀ s, (t.scan now pane data).1 = some s →
      (t.scan now pane data).2 = (t.set now (.pane pane) s).2) ∧
    ((∀ place s, ¬Marker.Reports data place s) → t.scan now pane data = (none, t)) ∧
    ∀ a b, data = a ++ b → Marker.Uncut a b → ∀ before behind : Time.Moment,
      ((t.scan before pane a).2.scan behind pane b).2.stored? (.pane pane) =
        (t.scan now pane data).2.stored? (.pane pane) := by
  have hfirst : (t.scan now pane data).1 = Marker.report? Marker.builtIn data := by
    rw [← h, scan]
    cases Marker.report? t.markers data <;> rfl
  refine ⟨fun s => ?_, fun s hs => ?_, fun hno => ?_, ?_⟩
  · rw [hfirst]
    exact Marker.report?_eq_some_iff
  · rw [hfirst] at hs
    rw [scan, h, hs]
  · rw [scan, h, Marker.report?_eq_none_iff.mpr hno]
  · rintro a b rfl huncut before behind
    rw [stored?_scan, stored?_scan, stored?_scan, markers_scan, h, Marker.report?_append huncut,
      Option.or_assoc]

/-- An opening that is opened again, a control sequence that does not end, and one that `BEL` ends. Then one
    that is cut and names no status, one that `ESC \` ends, and a tag without a word. -/
theorem scan_exact_nested :
    let t : Tracker := {}
    let now : Time.Moment := ⟨⟨0, 0⟩, 0⟩
    let a := Utf8.encode
      "[agent:[agent:error]\x1b]7770;status=idle\x1b]7770;status=warning\x07\x1b]7770;status=bu"
    let b := Utf8.encode "sy\x1b\\[agent:running \x1b]7770;status=running\x1b\\[agent:]"
    (∃ place, Marker.Reports a place .warning ∧
      ∀ place' s', Marker.Reports a place' s' → place' ≤ place) ∧
    (∃ place, Marker.Reports (a ++ b) place .running ∧
      ∀ place' s', Marker.Reports (a ++ b) place' s' → place' ≤ place) ∧
    ((t.scan now 1 a).2.scan now 1 b).2.stored? (.pane 1) = some .running := by
  intro t now a b
  have huncut : Marker.Uncut a b := by decide +kernel
  obtain ⟨hfirst, -, -, -⟩ := scan_exact t rfl now 1 a
  obtain ⟨hheard, -, -, hpieces⟩ := scan_exact t rfl now 1 (a ++ b)
  have hscan : (t.scan now 1 a).1 = some .warning ∧ (t.scan now 1 (a ++ b)).1 = some .running := by
    decide +kernel
  refine ⟨(hfirst .warning).mp hscan.1, (hheard .running).mp hscan.2, ?_⟩
  rw [hpieces a b rfl huncut]
  decide +kernel

end Tracker

end PaneMux
