import CriticalCss.Stylesheet.Duplicate
import CriticalCss.Stylesheet.Key

/-!
# Merging stylesheets rule by rule

A rule joins a list of rules unless a duplicate of it is there. A media rule joins the first media
rule with the same condition, to which its own rules are merged.
-/

namespace CriticalCss

namespace Merge

/-- The rules, with `r` behind them unless they hold a duplicate. -/
def addPlain (r : Rule) (target : List Rule) : List Rule :=
  if target.any fun known => known.isDuplicate positionMembers r then target else target ++ [r]

/-- Changes the rules of the first media rule with the condition; none if there is no such rule. -/
def updateMedia? (condition : String) (f : List Rule → List Rule) : List Rule → Option (List Rule)
  | [] => none
  | r :: rest =>
    match r with
    | .group .media known inner position =>
      if sameMedia known condition then some (.group .media known (f inner) position :: rest)
      else (updateMedia? condition f rest).map (r :: ·)
    | _ => (updateMedia? condition f rest).map (r :: ·)

/-- Merges a rule into a list of rules. -/
def addRule : Rule → List Rule → List Rule
  | .group .media condition inner position, target =>
    (updateMedia? condition (addRules inner) target).getD
      (target ++ [.group .media condition inner position])
  | r, target => addPlain r target
where
  addRules : List Rule → List Rule → List Rule
    | [], target => target
    | r :: rest, target => addRules rest (addRule r target)

end Merge

/-- One stylesheet with the rules of all, comments left out. -/
def Stylesheet.merge (sheets : List Stylesheet) : Stylesheet :=
  sheets.foldl (fun merged sheet =>
    (sheet.filter fun r => r.kind ≠ .comment).foldl (fun merged r => Merge.addRule r merged)
      merged) []

end CriticalCss
