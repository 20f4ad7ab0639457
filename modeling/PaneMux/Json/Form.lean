import PaneMux.Json.Decode

/-!
# JSON forms

A type that has a JSON form is written as a value and read back from one.
-/

namespace PaneMux

/-- A type whose values have a JSON form. -/
class JsonForm (α : Type) where
  toJson : α → Json
  decode : Decoder α

end PaneMux
