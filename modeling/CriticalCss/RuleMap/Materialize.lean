import CriticalCss.RuleMap.Basic

/-!
# From a rule map back to a stylesheet

The rules of a map in the order of its keys, those under the key of a group inside one group.
Rules with an empty list of declarations are left out, and groups that would be empty with them.
-/

namespace CriticalCss

/-- The rule is worth writing: if its kind has declarations, it has one. -/
def Rule.isEmittable (r : Rule) : Bool :=
  r.declarations? != some []

namespace RuleMap

/-- The rules that one key gives. -/
def rulesOf (key : String) (entries : List RuleMapEntry) : List Rule :=
  match (entries.map (·.rule)).filter Rule.isEmittable with
  | [] => []
  | rules =>
    match groupOfKey? key with
    | some (kind, condition) => [.group kind condition rules none]
    | none => rules

/-- The stylesheet of a map. -/
def toSheet (m : RuleMap) : Stylesheet :=
  m.flatMap fun (key, entries) => rulesOf key entries

end RuleMap

end CriticalCss
