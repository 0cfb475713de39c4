import CriticalCss.Finalize
import CriticalCss.Removal
import CriticalCss.RuleMap.Materialize
import CriticalCss.RuleMap.Subtract

/-!
# Putting the pages together

The critical parts of all pages make one rule map, the rests another, from which everything is
taken away that the first one holds. Both maps are written, minified and sorted.
-/

namespace CriticalCss

/-- A page that was evaluated, with the critical part of the stylesheet and the rest. -/
structure PageResult where
  url : String
  critical : Stylesheet
  rest : Stylesheet
deriving DecidableEq, Repr

/-- The finished texts of a run. -/
structure Output where
  critical : String
  rest : String
deriving DecidableEq, Repr

/-- What has to be known for putting pages together. -/
structure AssemblyOptions where
  /-- Patterns of selectors that must not be in the critical part. -/
  remove : List String
  /-- Whether the rest is wanted. -/
  withRest : Bool
deriving DecidableEq, Repr

/-- Why pages cannot be put together. -/
inductive AssemblyError where
  | fold (cause : FoldError)
  | oversized (cause : Stylesheet.Oversized)
deriving DecidableEq, Repr

def AssemblyError.message : AssemblyError → String
  | fold cause => cause.message
  | oversized cause => cause.message

namespace Assembly

/-- The rule map of the critical parts of all pages. -/
def criticalMap (pages : List PageResult) : Except FoldError RuleMap :=
  RuleMap.ofSheets (pages.map (·.critical))

/-- The rule map of what the rests of all pages hold beyond the critical map. -/
def restMap (pages : List PageResult) (critical : RuleMap) : Except FoldError RuleMap :=
  (RuleMap.ofSheets (pages.map (·.rest))).map (·.subtract critical)

/-- The finished text of a stylesheet, given as rules. -/
def finished (sheet : Stylesheet) : Except AssemblyError String :=
  (Stylesheet.finalize .mobileFirst (sheet.print .pretty)).mapError .oversized

end Assembly

open Assembly in
/-- The finished texts of the pages. -/
def assemble (options : AssemblyOptions) (pages : List PageResult) :
    Except AssemblyError Output := do
  let critical ← (criticalMap pages).mapError AssemblyError.fold
  let criticalText ← finished (critical.toSheet.removeSelectors options.remove)
  if options.withRest then
    let rest ← (restMap pages critical).mapError AssemblyError.fold
    return ⟨criticalText, ← finished rest.toSheet⟩
  else return ⟨criticalText, ""⟩

end CriticalCss
