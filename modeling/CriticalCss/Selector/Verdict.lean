import CriticalCss.Selector.Pattern
import CriticalCss.Selector.Pseudo

/-!
# Verdicts on selectors

Whether a selector is critical is decided by the wishes of the user, by its form, or by the page,
in this order; the wish to remove a selector wins over the wish to keep it.
-/

namespace CriticalCss.Selector

/-- How a selector is handled. -/
inductive Verdict where
  /-- Never critical. -/
  | excluded
  /-- Always critical by wish. -/
  | included
  /-- Always critical by its form. -/
  | purePseudo
  /-- Critical if the page says so. -/
  | probe
deriving DecidableEq, Repr

def Verdict.name : Verdict → String
  | excluded => "excluded"
  | included => "included"
  | purePseudo => "pure_pseudo"
  | probe => "probe"

/-- The selectors that the user wants to be critical, and those that must not be. -/
structure Wishes where
  keep : List String
  remove : List String
deriving DecidableEq, Repr

def Wishes.classify (wishes : Wishes) (selector : String) : Verdict :=
  if matchesAny wishes.remove selector then .excluded
  else if matchesAny wishes.keep selector then .included
  else if isPurePseudo selector then .purePseudo
  else .probe

end CriticalCss.Selector
