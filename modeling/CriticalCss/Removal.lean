import CriticalCss.Selector.Pattern
import CriticalCss.Stylesheet.Rule

/-!
# Removing selectors

A stylesheet without the selectors that match one of some patterns. A style rule that loses all
its selectors goes, and with it a group that is left empty. Nothing happens without patterns.
-/

namespace CriticalCss

open Selector

namespace Rule

/-- What is left of a rule; `none` if it goes. -/
def removeSelectors? (patterns : List String) : Rule → Option Rule
  | style r =>
    let selectors := r.selectors.filter fun s => !matchesAny patterns s
    if selectors.length = r.selectors.length then some (style r)
    else if selectors.isEmpty then none
    else some (style { r with selectors })
  | group kind condition inner position =>
    match removeAll inner with
    | [] => none
    | first :: others => some (group kind condition (first :: others) position)
  | r => some r
where
  removeAll : List Rule → List Rule
    | [] => []
    | r :: rest => (r.removeSelectors? patterns).toList ++ removeAll rest

end Rule

/-- The stylesheet without the selectors that match one of the patterns. -/
def Stylesheet.removeSelectors (patterns : List String) (sheet : Stylesheet) : Stylesheet :=
  if patterns.isEmpty then sheet else Rule.removeSelectors?.removeAll patterns sheet

end CriticalCss
