import SwapLedger.Json.Basic
import SwapLedger.Log

/-!
# Log entries in JSON
-/

namespace SwapLedger

namespace LogEntry

/-- Writes the level and the fields of an entry; the message is a field too. -/
def toJson (entry : LogEntry) : Json :=
  let fields := entry.fields.map fun (name, value) => (name, Json.string value.text)
  .object [("level", .string entry.level.label),
    ("fields", .object (("message", .string entry.message) :: fields))]

end LogEntry

end SwapLedger
