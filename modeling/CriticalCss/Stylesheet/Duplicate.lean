import CriticalCss.Stylesheet.Content

/-!
# Duplicate rules

Two rules are duplicates if they are of one kind and say the same, where the order of a rule's
own declarations does not count, but their number does. Inside a group, rules are compared as
they stand.
-/

namespace CriticalCss

/-- The two lists hold the same elements equally often. -/
def sameCounts {α : Type} [DecidableEq α] (as bs : List α) : Bool :=
  (as ++ bs).all fun a => as.count a == bs.count a

namespace Json

/-- A member of an object, and the other members. -/
def splitMember (name : String) : Json → Option Json × Json
  | obj members => (members.lookup name, obj (members.filter fun m => m.1 ≠ name))
  | j => (none, j)

/-- The items of an array; none of anything else. -/
def items : Json → List Json
  | arr items => items
  | _ => []

end Json

/-- The two rules are of one kind and say the same apart from the excluded members. Where they
were read never counts. -/
def Rule.isDuplicate (excluded : List String) (a b : Rule) : Bool :=
  let excluded := positionMembers ++ excluded
  let (own, restA) := (a.content excluded).splitMember "declarations"
  let (other, restB) := (b.content excluded).splitMember "declarations"
  a.kind = b.kind && restA = restB &&
    sameCounts (own.elim [] Json.items) (other.elim [] Json.items)

end CriticalCss
