import PaneMux.Agent.Status
import PaneMux.Config.Settings
import PaneMux.Json.Form
import PaneMux.Metrics.Sample
import PaneMux.Session.Basic
import PaneMux.Store.History
import PaneMux.Wire.Message

/-!
# What crosses the wire

The JSON forms of everything that the daemon tells its clients or is told by them.
-/

namespace PaneMux

instance : JsonForm AgentStatus := ⟨AgentStatus.toJson, AgentStatus.decode⟩
instance : JsonForm Chunk := ⟨Chunk.toJson, Chunk.decode⟩
instance : JsonForm CloseFailure := ⟨CloseFailure.toJson, CloseFailure.decode⟩
instance : JsonForm CloseReport := ⟨CloseReport.toJson, CloseReport.decode⟩
instance : JsonForm Config := ⟨Config.toJson, Config.decode⟩
instance : JsonForm ErrorCode := ⟨ErrorCode.toJson, ErrorCode.decode⟩
instance : JsonForm Event := ⟨Event.toJson, Event.decode⟩
instance : JsonForm Geometry := ⟨Geometry.toJson, Geometry.decode⟩
instance : JsonForm HostMetrics := ⟨HostMetrics.toJson, HostMetrics.decode⟩
instance : JsonForm LifecycleEvent := ⟨LifecycleEvent.toJson, LifecycleEvent.decode⟩
instance : JsonForm Limits := ⟨Limits.toJson, Limits.decode⟩
instance : JsonForm LineMatch := ⟨LineMatch.toJson, LineMatch.decode⟩
instance : JsonForm PaneDescriptor := ⟨PaneDescriptor.toJson, PaneDescriptor.decode⟩
instance : JsonForm PaneEntry := ⟨PaneEntry.toJson, PaneEntry.decode⟩
instance : JsonForm PaneKind := ⟨PaneKind.toJson, PaneKind.decode⟩
instance : JsonForm PaneOptions := ⟨PaneOptions.toJson, PaneOptions.decode⟩
instance : JsonForm PaneState := ⟨PaneState.toJson, PaneState.decode⟩
instance : JsonForm ProcessExit := ⟨ProcessExit.toJson, ProcessExit.decode⟩
instance : JsonForm ProcessInfo := ⟨ProcessInfo.toJson, ProcessInfo.decode⟩
instance : JsonForm ProcessSummary := ⟨ProcessSummary.toJson, ProcessSummary.decode⟩
instance : JsonForm ProcessUsage := ⟨ProcessUsage.toJson, ProcessUsage.decode⟩
instance : JsonForm Response := ⟨Response.toJson, Response.decode⟩
instance : JsonForm Sample := ⟨Sample.toJson, Sample.decode⟩
instance : JsonForm Session := ⟨Session.toJson, Session.decode⟩
instance : JsonForm SessionRow := ⟨SessionRow.toJson, SessionRow.decode⟩
instance : JsonForm StatusChange := ⟨StatusChange.toJson, StatusChange.decode⟩
instance : JsonForm StatusEntry := ⟨StatusEntry.toJson, StatusEntry.decode⟩
instance : JsonForm StatusKey := ⟨StatusKey.toJson, StatusKey.decode⟩
instance : JsonForm StreamFault := ⟨StreamFault.toJson, StreamFault.decode⟩
instance : JsonForm TerminalOptions := ⟨TerminalOptions.toJson, TerminalOptions.decode⟩
instance : JsonForm Truncation := ⟨Truncation.toJson, Truncation.decode⟩
instance : JsonForm Usage := ⟨Usage.toJson, Usage.decode⟩
instance : JsonForm WireError := ⟨WireError.toJson, WireError.decode⟩

/-! ## Forms by name -/

/-- What a form makes of a value: it reads it and writes what it has read. -/
abbrev Form := Json → Except DecodeError Json

/-- The form of a type. -/
def Form.of (α : Type) [JsonForm α] : Form := fun j =>
  (JsonForm.decode j).map (JsonForm.toJson : α → Json)

/-- The forms by the names of their types. -/
def Form.all : List (String × Form) :=
  [("AgentStatus", .of AgentStatus), ("Chunk", .of Chunk), ("CloseFailure", .of CloseFailure),
    ("CloseReport", .of CloseReport), ("Config", .of Config), ("ErrorCode", .of ErrorCode),
    ("Event", .of Event), ("Geometry", .of Geometry), ("HostMetrics", .of HostMetrics),
    ("LifecycleEvent", .of LifecycleEvent), ("Limits", .of Limits), ("LineMatch", .of LineMatch),
    ("PaneDescriptor", .of PaneDescriptor), ("PaneEntry", .of PaneEntry), ("PaneKind", .of PaneKind),
    ("PaneOptions", .of PaneOptions), ("PaneState", .of PaneState),
    ("ProcessExit", .of ProcessExit), ("ProcessInfo", .of ProcessInfo),
    ("ProcessSummary", .of ProcessSummary), ("ProcessUsage", .of ProcessUsage),
    ("Response", .of Response), ("Sample", .of Sample), ("Session", .of Session),
    ("SessionRow", .of SessionRow), ("StatusChange", .of StatusChange),
    ("StatusEntry", .of StatusEntry), ("StatusKey", .of StatusKey),
    ("StreamFault", .of StreamFault), ("TerminalOptions", .of TerminalOptions),
    ("Truncation", .of Truncation), ("Usage", .of Usage), ("WireError", .of WireError)]

/-- The form with a name. -/
def Form.named? (name : String) : Option Form := Form.all.lookup name

end PaneMux
