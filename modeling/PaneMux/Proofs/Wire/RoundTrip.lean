import PaneMux.Proofs.Json.Decoding
import PaneMux.Proofs.Json.Reading
import PaneMux.Wire.Forms

/-!
# Round trips over the wire

What the daemon tells its clients about panes, sessions and statuses arrives as it was sent: encoding
a value and decoding the result gives the value again. This holds of the JSON value itself, of its
canonical form, in which members are sorted, and of the texts of both.

A value can be sent (`IsSendable`) when its numbers have the width of their fields, its times have
years of four digits, and its notes are sorted by key. Texts, paths, byte strings, exit codes and
sizes are not restricted.

## Architecture

- **§1** what a round trip is (`RoundTrips`), and that reading a form in every view is enough
- **§2** events of a pane
- **§3** statuses
- **§4** panes: a state whose members lie among those of its pane
- **§5** sessions, and changes in the life of sessions and panes
- **§6** all of them together
-/

namespace PaneMux

open Decoder Record Variant
open Json (Readable Shows maxDepth)

/-! ## §1 Round trips -/

/-- The form of a value is decoded as the value: as it was written or sorted, and as a value or as a
    text. -/
structure RoundTrips {α : Type} [JsonForm α] (v : α) : Prop where
  value : JsonForm.decode (JsonForm.toJson v) = .ok v
  sorted : JsonForm.decode (JsonForm.toJson v).canonical = .ok v
  text : (Json.parse? (JsonForm.toJson v).compact).map JsonForm.decode = some (.ok v)
  sortedText :
    (Json.parse? (JsonForm.toJson v).canonical.compact).map JsonForm.decode = some (.ok v)

/-- **A form that is read in every view goes round**, when it is one that the reader of texts takes. -/
theorem RoundTrips.of_reads {α : Type} [JsonForm α] {v : α}
    (hreads : Reads JsonForm.decode (JsonForm.toJson v) v)
    (hreadable : Readable maxDepth (JsonForm.toJson v)) : RoundTrips v := by
  have hvalue := hreads _ .id
  have hsorted := hreads _ .canonical
  refine ⟨hvalue, hsorted, ?_, ?_⟩
  · rw [Json.parse?_compact hreadable, Option.map_some, hvalue]
  · rw [Json.parse?_compact hreadable.canonical, Option.map_some, hsorted]

variable {n : Nat}

theorem readable_u16 (i : UInt16) : Readable n (.nat i.toNat) :=
  .nat (i.toNat_lt.trans (by norm_num))

theorem readable_bytesJson (b : Bytes) : Readable (n + 1) (bytesJson b) :=
  .list fun i _ => .nat (i.toNat_lt.trans (by norm_num))

theorem readable_stringMapJson (t : List (String × String)) : Readable (n + 1) (stringMapJson t) := by
  refine .obj fun m hm => ?_
  obtain ⟨e, -, rfl⟩ := List.mem_map.mp hm
  exact .str _

theorem readable_exitCodeJson (code : Option Int32) : Readable n (exitCodeJson code) :=
  .opt fun c _ => .int ⟨by have := c.le_toInt; omega, by have := c.toInt_lt; omega⟩

/-- An exit code is read off a number or null. -/
theorem reads_exitCode {name : String} {ms : List (String × Json)} {code : Option Int32}
    (hmem : (name, exitCodeJson code) ∈ ms) : (Record.optional name i32).Reads ms code :=
  reads_optional hmem (by rintro a ⟨⟩) fun c _ => reads_i32 c

/-! ## §2 Events -/

theorem Geometry.reads_decode (g : Geometry) : Geometry.decode.Reads g.toJson g :=
  reads_decoder (by simp [Json.keys])
    ((reads_pure _).and (reads_field (by simp) (reads_u16 _))
      |>.and (reads_field (by simp) (reads_u16 _))) _

theorem Geometry.readable_toJson (g : Geometry) : Readable (n + 1) g.toJson :=
  .obj_cons (readable_u16 _) <| .obj_cons (readable_u16 _) .obj_nil

namespace StreamFault

def IsSendable : StreamFault → Prop
  | .truncated dropped => dropped < 2 ^ 64
  | .readFailed _ | .resizeFailed .. => True

theorem reads_decode {f : StreamFault} (h : f.IsSendable) :
    StreamFault.decode.Reads f.toJson f := by
  cases f with
  | truncated dropped =>
    exact reads_tagged rfl (by simp [Json.keys])
      ((reads_field (by simp) (reads_u64 h)).map _) _
  | readFailed message =>
    exact reads_tagged rfl (by simp [Json.keys])
      ((reads_field (by simp) (reads_string _)).map _) _
  | resizeFailed rows cols message =>
    exact reads_tagged rfl (by simp [Json.keys])
      ((reads_pure _).and (reads_field (by simp) (reads_u16 _))
        |>.and (reads_field (by simp) (reads_u16 _))
        |>.and (reads_field (by simp) (reads_string _))) _

theorem readable_toJson {f : StreamFault} (h : f.IsSendable) : Readable (n + 1) f.toJson := by
  cases f with
  | truncated dropped => exact .obj_cons (.str _) <| .obj_cons (.nat h) .obj_nil
  | readFailed message => exact .obj_cons (.str _) <| .obj_cons (.str _) .obj_nil
  | resizeFailed rows cols message =>
    exact .obj_cons (.str _) <| .obj_cons (readable_u16 _) <| .obj_cons (readable_u16 _) <|
      .obj_cons (.str _) .obj_nil

end StreamFault

/-- The fields of a chunk are read wherever its members are. -/
theorem Chunk.reads_fields {c : Chunk} {ms : List (String × Json)} (hmem : c.members ⊆ ms)
    (hpane : c.pane < 2 ^ 64) (hseq : c.seq < 2 ^ 64) : Chunk.fields.Reads ms c :=
  (reads_pure _).and (reads_field (hmem (by simp [Chunk.members])) (reads_u64 hpane))
    |>.and (reads_field (hmem (by simp [Chunk.members])) (reads_u64 hseq))
    |>.and (reads_field (hmem (by simp [Chunk.members])) (reads_bytes _))

namespace Event

def IsSendable : Event → Prop
  | .output chunk => chunk.pane < 2 ^ 64 ∧ chunk.seq < 2 ^ 64
  | .exit pane seq _ _ => pane < 2 ^ 64 ∧ seq < 2 ^ 64
  | .fault pane f => pane < 2 ^ 64 ∧ f.IsSendable
  | .resized pane _ => pane < 2 ^ 64

theorem reads_decode {e : Event} (h : e.IsSendable) : Event.decode.Reads e.toJson e := by
  cases e with
  | output chunk =>
    exact reads_tagged rfl (by simp [Json.keys, Chunk.members])
      -- the members beside the tag are those of the chunk
      ((Chunk.reads_fields (List.Subset.refl _) h.1 h.2).map _) _
  | exit pane seq code killed =>
    exact reads_tagged rfl (by simp [Json.keys])
      ((reads_pure _).and (reads_field (by simp) (reads_u64 h.1))
        |>.and (reads_field (by simp) (reads_u64 h.2)) |>.and (reads_exitCode (by simp))
        |>.and (reads_field (by simp) (reads_bool _))) _
  | fault pane fault =>
    exact reads_tagged rfl (by simp [Json.keys])
      ((reads_pure _).and (reads_field (by simp) (reads_u64 h.1))
        |>.and (reads_field (by simp) (StreamFault.reads_decode h.2))) _
  | resized pane size =>
    exact reads_tagged rfl (by simp [Json.keys])
      ((reads_pure _).and (reads_field (by simp) (reads_u64 h))
        |>.and (reads_field (by simp) (reads_u16 _))
        |>.and (reads_field (by simp) (reads_u16 _))) _

theorem readable_toJson {e : Event} (h : e.IsSendable) : Readable (n + 2) e.toJson := by
  cases e with
  | output chunk =>
    exact .obj_cons (.str _) <| .obj_cons (.nat h.1) <| .obj_cons (.nat h.2) <|
      .obj_cons (readable_bytesJson _) .obj_nil
  | exit pane seq code killed =>
    exact .obj_cons (.str _) <| .obj_cons (.nat h.1) <| .obj_cons (.nat h.2) <|
      .obj_cons (readable_exitCodeJson _) <| .obj_cons (.bool _) .obj_nil
  | fault pane fault =>
    exact .obj_cons (.str _) <| .obj_cons (.nat h.1) <|
      .obj_cons (StreamFault.readable_toJson h.2) .obj_nil
  | resized pane size =>
    exact .obj_cons (.str _) <| .obj_cons (.nat h) <| .obj_cons (readable_u16 _) <|
      .obj_cons (readable_u16 _) .obj_nil

end Event

/-! ## §3 Statuses -/

theorem AgentStatus.reads_decode (s : AgentStatus) : AgentStatus.decode.Reads s.toJson s :=
  reads_external_bare (by cases s <;> rfl)

namespace StatusKey

def IsSendable : StatusKey → Prop
  | .pane id => id < 2 ^ 64
  | .path _ => True

theorem reads_decode {k : StatusKey} (h : k.IsSendable) : StatusKey.decode.Reads k.toJson k := by
  cases k with
  | pane id => exact reads_external_wrapping rfl ((reads_u64 h).map _)
  | path path => exact reads_external_wrapping rfl ((reads_path _).map _)

theorem readable_toJson {k : StatusKey} (h : k.IsSendable) : Readable (n + 1) k.toJson := by
  cases k with
  | pane id => exact .obj_cons (.nat h) .obj_nil
  | path path => exact .obj_cons (.str _) .obj_nil

end StatusKey

namespace StatusEntry

structure IsSendable (e : StatusEntry) : Prop where
  key : e.key.IsSendable
  updatedAt : e.updatedAt.IsWritten

theorem reads_decode {e : StatusEntry} (h : e.IsSendable) : StatusEntry.decode.Reads e.toJson e :=
  reads_decoder (by simp [Json.keys])
    ((reads_pure _).and (reads_field (by simp) (StatusKey.reads_decode h.key))
      |>.and (reads_field (by simp) (AgentStatus.reads_decode _))
      |>.and (reads_field (by simp) (reads_instant h.updatedAt))) _

theorem readable_toJson {e : StatusEntry} (h : e.IsSendable) : Readable (n + 2) e.toJson :=
  .obj_cons (StatusKey.readable_toJson h.key) <| .obj_cons (.str _) <| .obj_cons (.str _) .obj_nil

end StatusEntry

namespace StatusChange

theorem reads_decode {c : StatusChange} (h : c.key.IsSendable) :
    StatusChange.decode.Reads c.toJson c :=
  reads_decoder (by simp [Json.keys])
    ((reads_pure _).and (reads_field (by simp) (StatusKey.reads_decode h))
      |>.and (reads_field (by simp) (AgentStatus.reads_decode _))
      |>.and (reads_optional (by simp) (by rintro a ⟨⟩) fun s _ => s.reads_decode)) _

theorem readable_toJson {c : StatusChange} (h : c.key.IsSendable) : Readable (n + 2) c.toJson :=
  .obj_cons (StatusKey.readable_toJson h) <| .obj_cons (.str _) <|
    .obj_cons (.opt fun _ _ => .str _) .obj_nil

end StatusChange

/-! ## §4 Panes -/

namespace PaneKind

theorem reads_decode (k : PaneKind) : PaneKind.decode.Reads k.toJson k := by
  cases k with
  | terminal | editor | fileTree | dashboard => exact reads_external_bare rfl
  | custom name => exact reads_external_wrapping rfl ((reads_string _).map _)

theorem readable_toJson (k : PaneKind) : Readable (n + 1) k.toJson := by
  cases k with
  | terminal | editor | fileTree | dashboard => exact .str _
  | custom name => exact .obj_cons (.str _) .obj_nil

end PaneKind

namespace PaneState

theorem nodup_members (s : PaneState) : (Json.keys s.members).Nodup := by
  cases s <;> simp [Json.keys, members]

/-- **A state is read off its members**, alone or left over by the pane they belong to. -/
theorem ofMembers_members (s : PaneState) (byIndex : Bool) {f : Json → Json}
    {ms : List (String × Json)} (h : Shows f s.members ms) :
    Variant.ofMembers "state" variants byIndex ms = .ok s := by
  cases s with
  | running | opened => exact ofMembers_of_shows rfl (by simp [Json.keys]) (reads_pure _) _ h
  | exited code | killed code =>
    exact ofMembers_of_shows rfl (by simp [Json.keys]) ((reads_exitCode (by simp)).map _) _ h

theorem reads_decode (s : PaneState) : PaneState.decode.Reads s.toJson s := by
  intro f hf
  obtain ⟨ms, hobj, hperm⟩ := hf.obj s.members s.nodup_members
  rw [toJson, hobj]
  exact s.ofMembers_members false ⟨hf, s.nodup_members, hperm⟩

theorem readable_toJson (s : PaneState) : Readable (n + 1) s.toJson := by
  cases s with
  | running | opened => exact .obj_cons (.str _) .obj_nil
  | exited code | killed code =>
    exact .obj_cons (.str _) <| .obj_cons (readable_exitCodeJson _) .obj_nil

end PaneState

namespace ProcessSummary

structure IsSendable (p : ProcessSummary) : Prop where
  pid : ∀ pid, p.pid = some pid → pid < 2 ^ 32
  spawnedAt : p.spawnedAt.IsWritten

theorem reads_decode {p : ProcessSummary} (h : p.IsSendable) :
    ProcessSummary.decode.Reads p.toJson p :=
  reads_decoder (by simp [Json.keys])
    ((reads_pure _).and
        (reads_optional (by simp) (by rintro a ⟨⟩) fun pid hpid => reads_u32 (h.pid pid hpid))
      |>.and (reads_field (by simp) (reads_string _))
      |>.and (reads_field (by simp) (reads_list fun s _ => reads_string s))
      |>.and (reads_field (by simp) (reads_path _))
      |>.and (reads_field (by simp) (reads_instant h.spawnedAt))) _

theorem readable_toJson {p : ProcessSummary} (h : p.IsSendable) : Readable (n + 2) p.toJson :=
  .obj_cons (.opt fun pid hpid => .nat ((h.pid pid hpid).trans (by norm_num))) <|
    .obj_cons (.str _) <| .obj_cons (.list fun _ _ => .str _) <| .obj_cons (.str _) <|
    .obj_cons (.str _) .obj_nil

end ProcessSummary

namespace PaneDescriptor

structure IsSendable (d : PaneDescriptor) : Prop where
  id : d.id < 2 ^ 64
  session : d.session < 2 ^ 64
  createdAt : d.createdAt.IsWritten
  lastActivity : d.lastActivity.IsWritten
  metadata : Entries.Sorted d.metadata
  process : ∀ p, d.process = some p → p.IsSendable

/-- The members of a pane, with those that tell its state in the middle. -/
def members (d : PaneDescriptor) : List (String × Json) :=
  [("id", .nat d.id), ("session_id", .nat d.session), ("pane_type", d.kind.toJson),
    ("title", .str d.title), ("working_dir", .opt .str d.workingDir),
    ("rows", .nat d.size.rows.toNat), ("cols", .nat d.size.cols.toNat)] ++
  d.state.members ++
  [("created_at", .str d.createdAt.text), ("last_activity", .str d.lastActivity.text),
    ("metadata", stringMapJson d.metadata), ("process", .opt ProcessSummary.toJson d.process)]

theorem toJson_eq (d : PaneDescriptor) : d.toJson = .obj d.members := rfl

theorem nodup_members (d : PaneDescriptor) : (Json.keys d.members).Nodup := by
  unfold members PaneState.members
  cases d.state <;> simp [Json.keys]

/-- What the fields of a pane leave are the members of its state. -/
theorem filter_members (d : PaneDescriptor) :
    (d.members.filter fun m => !fields.names.contains m.1) = d.state.members := by
  unfold members PaneState.members
  cases d.state <;> rfl

theorem reads_fields {d : PaneDescriptor} (h : d.IsSendable) :
    fields.Reads d.members fun s => { d with state := s } :=
  (reads_pure _).and (reads_field (by simp [members]) (reads_u64 h.id))
    |>.and (reads_field (by simp [members]) (reads_u64 h.session))
    |>.and (reads_field (by simp [members]) (PaneKind.reads_decode _))
    |>.and (reads_field (by simp [members]) (reads_string _))
    |>.and (reads_optional (by simp [members]) (by rintro a ⟨⟩) fun p _ => reads_path p)
    |>.and (reads_field (by simp [members]) (reads_u16 _))
    |>.and (reads_field (by simp [members]) (reads_u16 _))
    |>.and (reads_field (by simp [members]) (reads_instant h.createdAt))
    |>.and (reads_field (by simp [members]) (reads_instant h.lastActivity))
    |>.and (reads_field (by simp [members]) (reads_stringMap h.metadata))
    |>.and (reads_optional (by simp [members]) (by rintro a ⟨⟩) fun p hp =>
      ProcessSummary.reads_decode (h.process p hp))

/-- **A pane is read back**, with its state out of the members among its own. -/
theorem reads_decode {d : PaneDescriptor} (h : d.IsSendable) :
    PaneDescriptor.decode.Reads d.toJson d :=
  reads_decoderWith d.nodup_members (reads_fields h)
    (fun hshows => d.state.ofMembers_members true (d.filter_members ▸ hshows)) _ _

theorem readable_toJson {d : PaneDescriptor} (h : d.IsSendable) : Readable (n + 3) d.toJson := by
  rw [toJson_eq, members]
  refine (Readable.obj_append ?_ d.state.readable_toJson).obj_append ?_
  · exact .obj_cons (.nat h.id) <| .obj_cons (.nat h.session) <| .obj_cons d.kind.readable_toJson <|
      .obj_cons (.str _) <| .obj_cons (.opt fun _ _ => .str _) <| .obj_cons (readable_u16 _) <|
      .obj_cons (readable_u16 _) .obj_nil
  · exact .obj_cons (.str _) <| .obj_cons (.str _) <| .obj_cons (readable_stringMapJson _) <|
      .obj_cons (.opt fun p hp => ProcessSummary.readable_toJson (h.process p hp)) .obj_nil

end PaneDescriptor

/-! ## §5 Sessions -/

namespace Session

structure IsSendable (s : Session) : Prop where
  id : s.id < 2 ^ 64
  createdAt : s.createdAt.IsWritten
  panes : ∀ p ∈ s.panes, p < 2 ^ 64
  active : ∀ p, s.active = some p → p < 2 ^ 64

theorem reads_decode {s : Session} (h : s.IsSendable) : Session.decode.Reads s.toJson s :=
  reads_decoder (by simp [Json.keys])
    ((reads_pure _).and (reads_field (by simp) (reads_u64 h.id))
      |>.and (reads_field (by simp) (reads_string _))
      |>.and (reads_field (by simp) (reads_instant h.createdAt))
      |>.and (reads_field (by simp) (reads_list fun p hp => reads_u64 (h.panes p hp)))
      |>.and (reads_optional (by simp) (by rintro a ⟨⟩) fun p hp => reads_u64 (h.active p hp))) _

theorem readable_toJson {s : Session} (h : s.IsSendable) : Readable (n + 2) s.toJson :=
  .obj_cons (.nat h.id) <| .obj_cons (.str _) <| .obj_cons (.str _) <|
    .obj_cons (.list fun p hp => .nat (h.panes p hp)) <|
    .obj_cons (.opt fun p hp => .nat (h.active p hp)) .obj_nil

end Session

theorem ErrorCode.reads_decode (c : ErrorCode) : ErrorCode.decode.Reads c.toJson c :=
  reads_external_bare (by cases c <;> rfl)

namespace CloseFailure

theorem reads_decode {f : CloseFailure} (h : f.pane < 2 ^ 64) :
    CloseFailure.decode.Reads f.toJson f :=
  reads_decoder (by simp [Json.keys])
    ((reads_pure _).and (reads_field (by simp) (reads_u64 h))
      |>.and (reads_field (by simp) (ErrorCode.reads_decode _))
      |>.and (reads_field (by simp) (reads_string _))) _

theorem readable_toJson {f : CloseFailure} (h : f.pane < 2 ^ 64) : Readable (n + 1) f.toJson :=
  .obj_cons (.nat h) <| .obj_cons (.str _) <| .obj_cons (.str _) .obj_nil

end CloseFailure

namespace CloseReport

structure IsSendable (r : CloseReport) : Prop where
  session : r.session < 2 ^ 64
  closed : ∀ p ∈ r.closed, p < 2 ^ 64
  failed : ∀ f ∈ r.failed, f.pane < 2 ^ 64

theorem reads_decode {r : CloseReport} (h : r.IsSendable) : CloseReport.decode.Reads r.toJson r :=
  reads_decoder (by simp [Json.keys])
    ((reads_pure _).and (reads_field (by simp) (reads_u64 h.session))
      |>.and (reads_field (by simp) (reads_list fun p hp => reads_u64 (h.closed p hp)))
      |>.and (reads_field (by simp)
        (reads_list fun f hf => CloseFailure.reads_decode (h.failed f hf)))) _

theorem readable_toJson {r : CloseReport} (h : r.IsSendable) : Readable (n + 3) r.toJson :=
  .obj_cons (.nat h.session) <| .obj_cons (.list fun p hp => .nat (h.closed p hp)) <|
    .obj_cons (.list fun f hf => CloseFailure.readable_toJson (h.failed f hf)) .obj_nil

end CloseReport

namespace LifecycleEvent

def IsSendable : LifecycleEvent → Prop
  | .sessionCreated session => session.IsSendable
  | .sessionRenamed session _ => session < 2 ^ 64
  | .sessionClosed session => session < 2 ^ 64
  | .paneCreated pane => pane.IsSendable
  | .paneClosed pane session => pane < 2 ^ 64 ∧ session < 2 ^ 64
  | .paneExited pane _ _ => pane < 2 ^ 64

theorem reads_decode {e : LifecycleEvent} (h : e.IsSendable) :
    LifecycleEvent.decode.Reads e.toJson e := by
  cases e with
  | sessionCreated session =>
    exact reads_tagged rfl (by simp [Json.keys])
      ((reads_field (by simp) (Session.reads_decode h)).map _) _
  | sessionRenamed session name =>
    exact reads_tagged rfl (by simp [Json.keys])
      ((reads_pure _).and (reads_field (by simp) (reads_u64 h))
        |>.and (reads_field (by simp) (reads_string _))) _
  | sessionClosed session =>
    exact reads_tagged rfl (by simp [Json.keys])
      ((reads_field (by simp) (reads_u64 h)).map _) _
  | paneCreated pane =>
    exact reads_tagged rfl (by simp [Json.keys])
      ((reads_field (by simp) (PaneDescriptor.reads_decode h)).map _) _
  | paneClosed pane session =>
    exact reads_tagged rfl (by simp [Json.keys])
      ((reads_pure _).and (reads_field (by simp) (reads_u64 h.1))
        |>.and (reads_field (by simp) (reads_u64 h.2))) _
  | paneExited pane code killed =>
    exact reads_tagged rfl (by simp [Json.keys])
      ((reads_pure _).and (reads_field (by simp) (reads_u64 h))
        |>.and (reads_exitCode (by simp)) |>.and (reads_field (by simp) (reads_bool _))) _

theorem readable_toJson {e : LifecycleEvent} (h : e.IsSendable) : Readable (n + 4) e.toJson := by
  cases e with
  | sessionCreated session =>
    exact .obj_cons (.str _) <| .obj_cons (Session.readable_toJson h) .obj_nil
  | sessionRenamed session name =>
    exact .obj_cons (.str _) <| .obj_cons (.nat h) <| .obj_cons (.str _) .obj_nil
  | sessionClosed session => exact .obj_cons (.str _) <| .obj_cons (.nat h) .obj_nil
  | paneCreated pane =>
    exact .obj_cons (.str _) <| .obj_cons (PaneDescriptor.readable_toJson h) .obj_nil
  | paneClosed pane session =>
    exact .obj_cons (.str _) <| .obj_cons (.nat h.1) <| .obj_cons (.nat h.2) .obj_nil
  | paneExited pane code killed =>
    exact .obj_cons (.str _) <| .obj_cons (.nat h) <| .obj_cons (readable_exitCodeJson _) <|
      .obj_cons (.bool _) .obj_nil

end LifecycleEvent

/-! ## §6 Everything that is sent -/

namespace Wire

/-- **What is sent arrives.** Decoding the form of an event, a fault, a change in the life of sessions
    and panes, a pane, its kind, state and size, a session, a status with its key and its changes, or
    the report of a closed session gives what was encoded, whether the form is taken as it was written
    or in canonical form, and whether as a value or as a text. -/
theorem round_trip :
    (∀ e : Event, e.IsSendable → RoundTrips e) ∧
    (∀ f : StreamFault, f.IsSendable → RoundTrips f) ∧
    (∀ e : LifecycleEvent, e.IsSendable → RoundTrips e) ∧
    (∀ d : PaneDescriptor, d.IsSendable → RoundTrips d) ∧
    (∀ s : Session, s.IsSendable → RoundTrips s) ∧
    (∀ k : PaneKind, RoundTrips k) ∧
    (∀ s : PaneState, RoundTrips s) ∧
    (∀ k : StatusKey, k.IsSendable → RoundTrips k) ∧
    (∀ e : StatusEntry, e.IsSendable → RoundTrips e) ∧
    (∀ c : StatusChange, c.key.IsSendable → RoundTrips c) ∧
    (∀ r : CloseReport, r.IsSendable → RoundTrips r) ∧
    (∀ g : Geometry, RoundTrips g) :=
  ⟨fun _ h => .of_reads (Event.reads_decode h) (Event.readable_toJson h),
    fun _ h => .of_reads (StreamFault.reads_decode h) (StreamFault.readable_toJson h),
    fun _ h => .of_reads (LifecycleEvent.reads_decode h) (LifecycleEvent.readable_toJson h),
    fun _ h => .of_reads (PaneDescriptor.reads_decode h) (PaneDescriptor.readable_toJson h),
    fun _ h => .of_reads (Session.reads_decode h) (Session.readable_toJson h),
    fun k => .of_reads k.reads_decode k.readable_toJson,
    fun s => .of_reads s.reads_decode s.readable_toJson,
    fun _ h => .of_reads (StatusKey.reads_decode h) (StatusKey.readable_toJson h),
    fun _ h => .of_reads (StatusEntry.reads_decode h) (StatusEntry.readable_toJson h),
    fun _ h => .of_reads (StatusChange.reads_decode h) (StatusChange.readable_toJson h),
    fun _ h => .of_reads (CloseReport.reads_decode h) (CloseReport.readable_toJson h),
    fun g => .of_reads g.reads_decode g.readable_toJson⟩

/-- The last instant that is sent, inside a leap second at the end of year 9999. -/
def lastInstant : Time.Instant := ⟨253402300799, 1999999999⟩

/-- A pane at the ends of the ranges of its fields: created with year 0, killed with the least exit
    code, titled in quotes and controls. -/
def extremePane : PaneDescriptor where
  id := 18446744073709551615
  session := 18446744073709551615
  kind := .custom "λ"
  title := "\"\\\n\x01"
  workingDir := some "/"
  size := ⟨0, 65535⟩
  state := .killed (some (-2147483648))
  createdAt := ⟨-62167219200, 0⟩
  lastActivity := lastInstant
  metadata := [("", "first"), ("branch", "")]
  process := some ⟨some 4294967295, "/bin/sh", ["-c", ""], "/", ⟨0, 1000⟩⟩

theorem lastInstant_isWritten : lastInstant.IsWritten :=
  ⟨by decide +kernel, by decide⟩

theorem extremePane_isSendable : extremePane.IsSendable where
  id := by decide
  session := by decide
  createdAt := ⟨by decide +kernel, by decide⟩
  lastActivity := lastInstant_isWritten
  metadata := show ["", "branch"].Pairwise (· < ·) by decide
  process := by
    rintro p ⟨⟩
    refine ⟨?_, ⟨by decide +kernel, by decide⟩⟩
    rintro pid ⟨⟩
    decide

/-- Values at the ends of their ranges go round: an exit with the least exit code, a loss of as many
    events as can be counted, a new pane and its session, a status at the last instant, and the report
    of a session whose pane could not be closed. -/
theorem round_trip_extremes :
    let exit := Event.exit 18446744073709551615 18446744073709551615 (some (-2147483648)) true
    let fault := StreamFault.truncated 18446744073709551615
    let created := LifecycleEvent.paneCreated extremePane
    let session : Session := ⟨18446744073709551615, "é", lastInstant, [1], some 1⟩
    let key := StatusKey.pane 18446744073709551615
    let entry : StatusEntry := ⟨key, .warning, lastInstant⟩
    let change : StatusChange := ⟨key, .error, none⟩
    let report : CloseReport := ⟨1, [2], [⟨18446744073709551615, .timeout, "\n"⟩]⟩
    (exit.IsSendable ∧ RoundTrips exit) ∧ (fault.IsSendable ∧ RoundTrips fault) ∧
    (created.IsSendable ∧ RoundTrips created) ∧
    (extremePane.IsSendable ∧ RoundTrips extremePane) ∧
    (session.IsSendable ∧ RoundTrips session) ∧ (key.IsSendable ∧ RoundTrips key) ∧
    (entry.IsSendable ∧ RoundTrips entry) ∧ (change.key.IsSendable ∧ RoundTrips change) ∧
    (report.IsSendable ∧ RoundTrips report) := by
  obtain ⟨events, faults, lifecycle, panes, sessions, -, -, keys, entries, changes, reports, -⟩ :=
    round_trip
  intro exit fault created session key entry change report
  have hkey : key.IsSendable := show 18446744073709551615 < 2 ^ 64 by decide
  have hexit : exit.IsSendable := ⟨hkey, hkey⟩
  have hcreated : created.IsSendable := extremePane_isSendable
  have hsession : session.IsSendable := ⟨by decide, lastInstant_isWritten, by decide, by decide⟩
  have hentry : entry.IsSendable := ⟨hkey, lastInstant_isWritten⟩
  have hreport : report.IsSendable := ⟨by decide, by decide, by decide⟩
  exact ⟨⟨hexit, events _ hexit⟩, ⟨hkey, faults fault hkey⟩, ⟨hcreated, lifecycle _ hcreated⟩,
    ⟨extremePane_isSendable, panes _ extremePane_isSendable⟩, ⟨hsession, sessions _ hsession⟩,
    ⟨hkey, keys _ hkey⟩, ⟨hentry, entries _ hentry⟩, ⟨hkey, changes change hkey⟩,
    ⟨hreport, reports _ hreport⟩⟩

end Wire

end PaneMux
