/-!
# Grouping by key

`groupInOrder` collects the elements of a list by a key.  Groups stand in the order in which their
keys first appear, and elements within a group keep the order of the list.
-/

namespace Tabletop

/-- The groups with one more element: at the end of the group of its key, or in a new last group. -/
def addToGroup {κ α : Type} [DecidableEq κ] (key : κ) (a : α) :
    List (κ × List α) → List (κ × List α)
  | [] => [(key, [a])]
  | (k, members) :: groups =>
    if k = key then (k, members ++ [a]) :: groups else (k, members) :: addToGroup key a groups

/-- The elements of a list by key, in order of first appearance. -/
def groupInOrder {κ α : Type} [DecidableEq κ] (key : α → κ) (xs : List α) : List (κ × List α) :=
  xs.foldl (fun groups a => addToGroup (key a) a groups) []

end Tabletop
