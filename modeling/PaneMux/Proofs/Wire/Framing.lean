import PaneMux.Proofs.Text.Utf8
import PaneMux.Proofs.Wire.RoundTrip
import PaneMux.Wire.Message

/-!
# Framing

Messages go to a client one after the other, each on a line of its own. The client finds the lines by
their ends alone. No message can break a line, as every control character in it is escaped, and the
bytes of no other character are taken for a line end.

## Architecture

- **§1** the text of a value has no control characters
- **§2** messages that can be sent (`Outbound.IsSendable`)
- **§3** the bytes of a list of messages, and what is made of them
-/

namespace PaneMux

open Json (Readable maxDepth)

/-! ## §1 Control characters -/

namespace Json

variable {c d : Char}

theorem le_toNat_digitChar : ∀ n < 16, 32 ≤ n.digitChar.toNat := by
  decide

/-- An escape is spelled without control characters. -/
theorem le_of_mem_escapeChar (h : d ∈ escapeChar c) : 32 ≤ d.toNat := by
  unfold escapeChar at h
  split at h
  case h_1 | h_2 | h_3 | h_4 | h_5 =>
    simp only [List.mem_cons, List.not_mem_nil, or_false] at h
    rcases h with rfl | rfl <;> decide
  case h_6 =>
    split at h
    case isTrue =>
      simp only [List.mem_cons, List.not_mem_nil, or_false] at h
      rcases h with rfl | rfl <;> decide
    case isFalse =>
      split at h
      case isTrue =>
        simp only [List.mem_cons, List.not_mem_nil, or_false] at h
        rcases h with rfl | rfl <;> decide
      case isFalse =>
        split at h
        case isTrue hcontrol =>
          rw [controlEscape_eq _ hcontrol] at h
          simp only [List.mem_cons, List.not_mem_nil, or_false] at h
          rcases h with rfl | rfl | rfl | rfl | rfl | rfl
          iterate 4 decide
          · exact le_toNat_digitChar _ (by omega)
          · exact le_toNat_digitChar _ (by omega)
        case isFalse hplain =>
          rw [List.mem_singleton.mp h]
          omega

theorem le_of_isDigit (h : c.isDigit = true) : 32 ≤ c.toNat := by
  have hlow : 48 ≤ c.toNat := (Char.isDigit_iff_toNat.mp h).1
  omega

theorem le_of_isNumberChar (h : isNumberChar c = true) : 32 ≤ c.toNat := by
  simp only [isNumberChar, Bool.or_eq_true, beq_iff_eq] at h
  rcases h with ((((h | rfl) | rfl) | rfl) | rfl) | rfl
  · exact le_of_isDigit h
  iterate 5 decide

theorem le_of_isWordChar (h : isWordChar c = true) : 32 ≤ c.toNat := by
  simp only [isWordChar, Bool.and_eq_true, decide_eq_true_eq] at h
  have hlow : 97 ≤ c.toNat := h.1
  omega

theorem Token.IsSpelled.le_of_mem {t : Token} (h : t.IsSpelled) (hc : c ∈ t.spell) :
    32 ≤ c.toNat := by
  cases t with
  | number cs =>
    obtain ⟨first, rest, rfl, hfirst, hrest⟩ := h
    rcases List.mem_cons.mp hc with rfl | hc
    · exact le_of_isNumberChar (by simp [isNumberChar, hfirst])
    · exact le_of_isNumberChar (hrest c hc)
  | word cs =>
    obtain ⟨first, rest, rfl, hfirst, hrest⟩ := h
    rcases List.mem_cons.mp hc with rfl | hc
    · exact le_of_isWordChar hfirst
    · exact le_of_isWordChar (hrest c hc)
  | str s =>
    rcases List.mem_cons.mp hc with rfl | hc
    · decide
    · rcases List.mem_append.mp hc with hc | hc
      · obtain ⟨d, -, hd⟩ := List.mem_flatMap.mp hc
        exact le_of_mem_escapeChar hd
      · rw [List.mem_singleton.mp hc]
        decide
  | openArr | closeArr | openObj | closeObj | comma | colon =>
    rw [List.mem_singleton.mp hc]
    decide

/-- **The text of a value has no control characters**, whatever its strings hold. -/
theorem Readable.le_of_mem_compact {n : Nat} {j : Json} (h : Readable n j)
    (hc : c ∈ j.compact.toList) : 32 ≤ c.toNat := by
  rw [compact, String.toList_ofList] at hc
  obtain ⟨t, ht, hc⟩ := List.mem_flatMap.mp hc
  exact (h.printable.spelled t ht).le_of_mem hc

end Json

/-! ## §2 Messages -/

/-- A response whose number has the width of its field, and whose result is nested no deeper than the
    reader takes inside of a message. -/
structure Response.IsSendable (r : Response) : Prop where
  id : r.id < 2 ^ 64
  result : ∀ j, r.result = some j → Readable (maxDepth - 1) j

def Outbound.IsSendable : Outbound → Prop
  | .response r => r.IsSendable
  | .event subscription e => subscription < 2 ^ 64 ∧ e.IsSendable

theorem WireError.readable_toJson {n : Nat} (e : WireError) : Readable (n + 1) e.toJson :=
  .obj_cons (.str _) <| .obj_cons (.str _) .obj_nil

/-- A member that may be missing. -/
theorem Response.readable_present {α : Type} {n : Nat} {key : String} {encode : α → Json}
    {o : Option α} (h : ∀ a, o = some a → Readable n (encode a)) :
    Readable (n + 1) (.obj (present key encode o)) := by
  cases o with
  | none => exact .obj_nil
  | some a => exact .obj_cons (h a rfl) .obj_nil

theorem Response.readable_members {r : Response} (h : r.IsSendable) :
    Readable maxDepth (.obj r.members) := by
  have hhead : Readable maxDepth (.obj [("id", .nat r.id), ("ok", .bool r.ok)]) :=
    .obj_cons (.nat h.id) <| .obj_cons (.bool _) .obj_nil
  exact (hhead.obj_append (readable_present h.result)).obj_append
    (readable_present fun e _ => e.readable_toJson)

theorem Outbound.readable_toJson {m : Outbound} (h : m.IsSendable) :
    Readable maxDepth m.toJson := by
  cases m with
  | response r => exact .obj_cons (.str _) (Response.readable_members h)
  | event subscription e =>
    exact .obj_cons (.str _) <| .obj_cons (.nat h.1) <|
      .obj_cons (Event.readable_toJson h.2) .obj_nil

/-! ## §3 Lines -/

namespace Wire

/-- What is written to a client: each message as a line, with the line end. -/
def written (ms : List Outbound) : Bytes := ms.flatMap fun m => Utf8.encode m.line ++ [newline]

/-- What stands between the line ends, read as values. After the last line end nothing has come
    yet. -/
def received (bytes : Bytes) : List (Option Json) :=
  (bytes.splitOn newline).dropLast.map fun piece => (Utf8.decode? piece).bind Json.parse?

theorem newline_not_mem_line {m : Outbound} (h : m.IsSendable) :
    newline ∉ Utf8.encode m.line := by
  refine Utf8.newline_not_mem_encode fun hmem => ?_
  exact absurd ((Outbound.readable_toJson h).le_of_mem_compact hmem) (by decide)

theorem splitOn_written {ms : List Outbound} (h : ∀ m ∈ ms, m.IsSendable) :
    (written ms).splitOn newline = (ms.map fun m => Utf8.encode m.line) ++ [[]] := by
  induction ms with
  | nil => rfl
  | cons m ms ih =>
    obtain ⟨hm, hms⟩ := List.forall_mem_cons.mp h
    -- the first line end is the one after the first message
    rw [written, List.flatMap_cons, List.append_assoc, List.singleton_append,
      List.splitOn_append_cons_self_of_not_mem (newline_not_mem_line hm)]
    exact congrArg _ (ih hms)

/-- **Framing is unambiguous.** What is written for any messages that can be sent is split at the
    line ends into just their lines, with nothing left over, and each line is read as the JSON form
    of its message. -/
theorem framing_unambiguous (ms : List Outbound) (h : ∀ m ∈ ms, m.IsSendable) :
    (written ms).splitOn newline = (ms.map fun m => Utf8.encode m.line) ++ [[]] ∧
      received (written ms) = ms.map fun m => some m.toJson := by
  have hsplit := splitOn_written h
  have hread : ∀ m ∈ ms, (Utf8.decode? (Utf8.encode m.line)).bind Json.parse? = some m.toJson := by
    intro m hm
    rw [Utf8.decode?_encode, Option.bind_some]
    exact Json.parse?_compact (Outbound.readable_toJson (h m hm))
  refine ⟨hsplit, ?_⟩
  rw [received, hsplit, List.dropLast_concat, List.map_map, Function.comp_def]
  exact List.map_congr_left hread

/-- A result with line feeds, quotes, backslashes, controls and characters beyond the first plane, a
    refusal, and the output of a pane. -/
theorem framing_unambiguous_controls :
    let result : Json := .obj [("a\nb", .arr [.str "\"\\\r\x00\x1f", .str "é\u2028😀"])]
    let ms : List Outbound := [.response { id := 1, ok := true, result := some result },
      .response (.failure 18446744073709551615 ⟨.notFound, "no\nsuch\tpane"⟩),
      .event 7 (.output ⟨5, 1, [104, 105, 10]⟩)]
    (∀ m ∈ ms, m.IsSendable) ∧ received (written ms) = ms.map fun m => some m.toJson := by
  intro result ms
  have hresult : Readable (maxDepth - 1) result :=
    .obj_cons (.arr (by simpa using ⟨.str _, .str _⟩)) .obj_nil
  have hms : ∀ m ∈ ms, m.IsSendable := by
    simp only [ms, List.forall_mem_cons]
    refine ⟨⟨by decide, ?_⟩, ⟨by decide, by rintro j ⟨⟩⟩, ⟨by decide, by decide, by decide⟩, nofun⟩
    rintro j ⟨⟩
    exact hresult
  exact ⟨hms, (framing_unambiguous ms hms).2⟩

end Wire

end PaneMux
