import Tabletop.Identifier
import Tabletop.Json.Decode
import Tabletop.Time.Rfc3339

/-!
# Forms of identifiers and times

How identifiers and instants stand in a saved sheet: as strings in their written forms.
-/

namespace Tabletop

/-- The form of an identifier. -/
def Id.toJson {sort : IdSort} (id : Id sort) : Json :=
  .str id.text

/-- Reads an identifier. -/
def Id.ofJson? {sort : IdSort} : Json → Option (Id sort)
  | .str s => (Uuid.parse? s).map Id.mk
  | _ => none

/-- The form of an instant. -/
def Time.Instant.toJson (t : Time.Instant) : Json :=
  .str t.text

/-- Reads an instant. -/
def Time.Instant.ofJson? : Json → Option Time.Instant
  | .str s => Time.Instant.parse? s
  | _ => none

end Tabletop
