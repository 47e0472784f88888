/-!
# Tags

Abilities name the actions they apply to by tags.  A tag with dots is a path, such as
`weapon.sword.longsword`, and stands for each of its segments: it matches a plain tag that is one of
them, and a plain tag matches it.  Two paths match only when they are equal.
-/

namespace Tabletop.Rules

/-- The segments of a tag between its dots. -/
def segmentsOf : List Char → List (List Char)
  | [] => [[]]
  | c :: cs =>
    if c = '.' then [] :: segmentsOf cs
    else
      match segmentsOf cs with
      | [] => [[c]]
      | segment :: segments => (c :: segment) :: segments

/-- Whether a tag is a path that has the given text among its segments. -/
def hasSegment (path segment : List Char) : Bool :=
  path.contains '.' && (segmentsOf path).contains segment

/-- Whether a tag matches a trigger: they are equal, or one is a segment of the other. -/
def tagMatches (tag trigger : String) : Bool :=
  tag == trigger || hasSegment tag.toList trigger.toList || hasSegment trigger.toList tag.toList

/-- Whether one of the tags matches a trigger. -/
def matchesTag (tags : List String) (trigger : String) : Bool :=
  tags.any fun tag => tagMatches tag trigger

/-- Whether one of the tags matches one of the triggers. -/
def matchesAnyTrigger (tags triggers : List String) : Bool :=
  triggers.any (matchesTag tags)

end Tabletop.Rules
