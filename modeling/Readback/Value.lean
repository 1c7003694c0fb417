import Readback.Json.Basic
import Readback.Text.Numeral

/-!
# Values

What can be written to a target and read back: anything that has a text for reports and a JSON form.
-/

namespace Readback

/-- A type of values that reports can show. -/
class Value (V : Type) where
  /-- The value in reports and log lines. -/
  text : V → String
  /-- The value in JSON. -/
  json : V → Json

instance : Value Int64 where
  text v := Numeral.intText v.toInt
  json v := .int v.toInt

instance : Value String where
  text s := s
  json := .str

end Readback
