import CriticalCss.Partition
import CriticalCss.Selector.Verdict

/-!
# Finding the critical selectors

Every selector of a stylesheet gets its verdict; those that the page has to decide are asked about
in one batch, each text once. From the answers the selector map is built: under the key of each
style rule its critical selectors. An answer that is missing counts as no.
-/

namespace CriticalCss

namespace Extraction

open Selector

/-- A style rule with the key of the group around it and, inside a media rule, its condition. -/
structure Site where
  rule : StyleRule
  group : String
  media : Option String
deriving DecidableEq, Repr

/-- The style rules that are looked at: those at the top level and directly inside its groups. -/
def sites (sheet : Stylesheet) : List Site :=
  sheet.flatMap fun
    | .style r => [⟨r, "", none⟩]
    | .group kind condition inner _ =>
      inner.filterMap fun
        | .style r => some ⟨r, kind.key condition, if kind = .media then some condition else none⟩
        | _ => none
    | _ => []

/-- The texts that the page has to be asked about, each once, in the order of the source. -/
def questions (wishes : Wishes) (sheet : Stylesheet) : List String :=
  let asked := (sites sheet).flatMap fun site =>
    (site.rule.selectors.filter fun s => wishes.classify s = .probe).map query
  asked.eraseDups

/-- A selector is critical, given the answers to the questions. -/
def isCritical (wishes : Wishes) (answers : List (String × Bool)) (selector : String) : Bool :=
  match wishes.classify selector with
  | .excluded => false
  | .included | .purePseudo => true
  | .probe => (answers.lookup (query selector)).getD false

/-- Adds a critical selector of a site under a key. -/
def addSelector (site : Site) (key selector : String) : SelectorMap → SelectorMap
  | [] => [(key, ⟨[selector], site.media, some site.rule⟩)]
  | (known, entry) :: rest =>
    if known = key then
      if selector ∈ entry.selectors then (known, entry) :: rest
      else (known, { entry with selectors := entry.selectors ++ [selector] }) :: rest
    else (known, entry) :: addSelector site key selector rest

/-- Adds the critical selectors of a site. -/
def addSite (wishes : Wishes) (answers : List (String × Bool)) (map : SelectorMap) (site : Site) :
    SelectorMap :=
  match site.rule.key? site.group with
  | none => map
  | some key =>
    (site.rule.selectors.filter (isCritical wishes answers)).foldl
      (fun map selector => addSelector site key selector map) map

/-- The selector map of a stylesheet, given the answers to the questions. -/
def selectorMap (wishes : Wishes) (answers : List (String × Bool)) (sheet : Stylesheet) :
    SelectorMap :=
  (sites sheet).foldl (addSite wishes answers) []

end Extraction

/-- The selector map of a stylesheet on a page that `probe` asks; without a question the page is
not asked. -/
def extract {m : Type → Type} [Monad m] (wishes : Selector.Wishes)
    (probe : List String → m (List Bool)) (sheet : Stylesheet) : m SelectorMap := do
  let questions := Extraction.questions wishes sheet
  let answers ← if questions.isEmpty then pure [] else probe questions
  return Extraction.selectorMap wishes (questions.zip answers) sheet

end CriticalCss
