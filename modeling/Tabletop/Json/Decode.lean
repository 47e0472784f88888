import Tabletop.Json.Value

/-!
# Reading records from JSON

The forms of the data types are records: objects with known names, where a value that is missing may
have a default, names that are not known are passed over, and a known name may occur only once.  A
record may also be written as an array of its fields in order; trailing fields with a default may
then be left out.

`record?` gives the fields of a record as `Slot`s, and the readers on slots say what an absent field
means.  `tagged?` reads a record whose variant is named by one of its members.
-/

namespace Tabletop.Json

/-- A field of a record that is read. -/
inductive Slot
  /-- The field has a value. -/
  | given (j : Json)
  /-- An object leaves the field out. -/
  | omitted
  /-- An array ends before the field. -/
  | cut
deriving Repr

namespace Slot

/-- A field that has to be given. -/
def required {α : Type} (read : Json → Option α) : Slot → Option α
  | .given j => read j
  | _ => none

/-- A field that has a default. -/
def withDefault {α : Type} (default : α) (read : Json → Option α) : Slot → Option α
  | .given j => read j
  | _ => some default

end Slot

/-- A value that may be `null`. -/
def nullable {α : Type} (read : Json → Option α) : Json → Option (Option α)
  | .null => some none
  | j => (read j).map some

namespace Slot

/-- A field that may be `null` and that an object may leave out. -/
def optional {α : Type} (read : Json → Option α) : Slot → Option (Option α)
  | .given j => nullable read j
  | .omitted => some none
  | .cut => none

end Slot

/-- The number of members with a name. -/
def occurrences (name : String) (members : List (String × Json)) : Nat :=
  members.countP fun member => member.1 == name

/-- The field of an object with a name. -/
def memberSlot (members : List (String × Json)) (name : String) : Slot :=
  match members.find? fun member => member.1 == name with
  | some member => .given member.2
  | none => .omitted

/-- The field of an array that belongs to a name. -/
def itemSlot (names : List String) (items : List Json) (name : String) : Slot :=
  match items[names.idxOf name]? with
  | some item => .given item
  | none => .cut

/-- The fields of a record with the given names. -/
def record? (names : List String) : Json → Option (String → Slot)
  | .obj members =>
    if names.all fun name => occurrences name members ≤ 1 then some (memberSlot members) else none
  | .arr items => if items.length ≤ names.length then some (itemSlot names items) else none
  | _ => none

/-- The variant and the other fields of a record whose variant is named by a member, or by the first
element if it is an array.  The whole record has to be readable, and the name may occur only
once. -/
def tagged? (tag : String) : Json → Option (String × Json)
  | .obj members =>
    let others := members.filter fun member => member.1 != tag
    if occurrences tag members = 1 && haveReadable others then
      match memberSlot members tag with
      | .given (.str variant) => some (variant, .obj others)
      | _ => none
    else none
  | .arr (.str variant :: items) => if areReadable items then some (variant, .arr items) else none
  | _ => none

/-- The members of a variant, with the member that names it in front. -/
def tag (name variant : String) (members : List (String × Json)) : Json :=
  .obj ((name, .str variant) :: members)

/-! ## Simple values -/

/-- A string. -/
def str? : Json → Option String
  | .str s => some s
  | _ => none

/-- A truth value. -/
def bool? : Json → Option Bool
  | .bool b => some b
  | _ => none

/-- A natural number below a bound. -/
def natBelow? (bound : Nat) : Json → Option Nat
  | .int n => if 0 ≤ n ∧ n < bound then some n.toNat else none
  | _ => none

/-- An unsigned number of eight bits. -/
def uint8? (j : Json) : Option UInt8 :=
  (natBelow? 256 j).map UInt8.ofNat

/-- An unsigned number of 32 bits. -/
def uint32? (j : Json) : Option UInt32 :=
  (natBelow? 4294967296 j).map UInt32.ofNat

/-- An unsigned number of 64 bits. -/
def uint64? (j : Json) : Option UInt64 :=
  (natBelow? 18446744073709551616 j).map UInt64.ofNat

/-- A signed number of 32 bits. -/
def int32? : Json → Option Int32
  | .int n => if -2147483648 ≤ n ∧ n ≤ 2147483647 then some (Int32.ofInt n) else none
  | _ => none

/-- An array of values of one type. -/
def list? {α : Type} (read : Json → Option α) : Json → Option (List α)
  | .arr items => items.mapM read
  | _ => none

/-- A value of an enumeration: its name, or an object that gives `null` under its name. -/
def enum? {α : Type} (values : List α) (name : α → String) : Json → Option α
  | .str s => values.find? fun a => name a == s
  | .obj [(s, .null)] => values.find? fun a => name a == s
  | _ => none

/-- A value of an enumeration inside a record whose variant is named by a member.  There an empty
object may take the place of `null`. -/
def innerEnum? {α : Type} (values : List α) (name : α → String) : Json → Option α
  | .obj [(s, .obj [])] => values.find? fun a => name a == s
  | j => enum? values name j

/-! ## Writing simple values -/

/-- An unsigned number of eight bits as a value. -/
def ofUInt8 (n : UInt8) : Json :=
  .int n.toNat

/-- An unsigned number of 32 bits as a value. -/
def ofUInt32 (n : UInt32) : Json :=
  .int n.toNat

/-- An unsigned number of 64 bits as a value. -/
def ofUInt64 (n : UInt64) : Json :=
  .int n.toNat

/-- A signed number of 32 bits as a value. -/
def ofInt32 (n : Int32) : Json :=
  .int n.toInt

/-- A value or `null`. -/
def ofOption {α : Type} (write : α → Json) : Option α → Json
  | none => .null
  | some a => write a

/-- An array of values of one type. -/
def ofList {α : Type} (write : α → Json) (as : List α) : Json :=
  .arr (as.map write)

end Tabletop.Json
