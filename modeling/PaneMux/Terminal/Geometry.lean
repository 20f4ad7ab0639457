import PaneMux.Json.Decode

/-!
# Geometry

The size of a terminal in rows and columns. Any two 16-bit numbers can be asked for; a terminal
only ever has a size between 1x1 and 1000x1000.
-/

namespace PaneMux

/-- Rows and columns. -/
structure Geometry where
  rows : UInt16 := 24
  cols : UInt16 := 80
  deriving DecidableEq, Repr, Inhabited

namespace Geometry

/-- The most rows or columns a terminal can have. -/
def maxSide : UInt16 := 1000

/-- A size a terminal can have. -/
def IsValid (g : Geometry) : Prop :=
  1 ≤ g.rows ∧ g.rows ≤ maxSide ∧ 1 ≤ g.cols ∧ g.cols ≤ maxSide

instance (g : Geometry) : Decidable g.IsValid := by unfold IsValid; infer_instance

/-- Rows by columns, as messages name a size. -/
def text (g : Geometry) : String := toString g.rows ++ "x" ++ toString g.cols

/-- The size as JSON. -/
def toJson (g : Geometry) : Json :=
  .obj [("rows", .nat g.rows.toNat), ("cols", .nat g.cols.toNat)]

/-- The fields of a size. -/
def fields : Record Geometry :=
  (Record.pure Geometry.mk).and (.field "rows" Decoder.u16) |>.and (.field "cols" Decoder.u16)

/-- Reads a size. -/
def decode : Decoder Geometry := fields.decoder "struct Geometry"

end Geometry

end PaneMux
