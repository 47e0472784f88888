/-!
# JSON values

The data of a JSON document.  Objects keep their members in the order of the document, repeated
names included, so that a reader can refuse repetitions.  Integers are kept apart from numbers with
a fraction or an exponent, which nothing in a saved sheet uses.

Some well-formed documents contain parts that have no value: a string with half of a surrogate pair,
a number too large for a double, an object with a name that is no text, an array or object nested
too deeply.  Such a part is `unreadable`: it may stand where nobody looks at it.
-/

namespace Tabletop

/-- A JSON value. -/
inductive Json
  | null
  | bool (b : Bool)
  | int (n : Int)
  /-- A number with a fraction or an exponent, as it was written. -/
  | real (literal : String)
  | str (s : String)
  | arr (items : List Json)
  | obj (members : List (String × Json))
  /-- A well-formed part of a document without a value. -/
  | unreadable
deriving Repr, Inhabited

namespace Json

mutual

/-- Whether a value has no unreadable part. -/
def isReadable : Json → Bool
  | .arr items => areReadable items
  | .obj members => haveReadable members
  | .unreadable => false
  | _ => true

/-- Whether a list of values has no unreadable part. -/
def areReadable : List Json → Bool
  | [] => true
  | item :: items => isReadable item && areReadable items

/-- Whether the members of an object have no unreadable part. -/
def haveReadable : List (String × Json) → Bool
  | [] => true
  | member :: members => isReadable member.2 && haveReadable members

end

end Json

end Tabletop
