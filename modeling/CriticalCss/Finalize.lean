import CriticalCss.MediaOrder
import CriticalCss.Minify.Basic
import CriticalCss.Stylesheet.Key
import CriticalCss.Stylesheet.Printer
import CriticalCss.Stylesheet.Reader

/-!
# The last step before output

Media rules are moved behind all other rules, those with the same condition are joined, and they
are sorted. A stylesheet is finished by minifying its text and sorting its media rules.
-/

namespace CriticalCss

/-- A media rule: its condition, its rules and its place. -/
structure MediaGroup where
  media : String
  rules : List Rule
  position : Option Position
deriving DecidableEq, Repr

def MediaGroup.toRule (g : MediaGroup) : Rule :=
  .group .media g.media g.rules g.position

/-- Adds a group: its rules join the first group with the same condition, or it stands last. -/
def MediaGroup.join (g : MediaGroup) : List MediaGroup → List MediaGroup
  | [] => [g]
  | first :: rest =>
    if sameMedia first.media g.media then { first with rules := first.rules ++ g.rules } :: rest
    else first :: join g rest

/-- The rule is a media rule. -/
def Rule.mediaGroup? : Rule → Option MediaGroup
  | .group .media condition inner position => some ⟨condition, inner, position⟩
  | _ => none

namespace Stylesheet

/-- The media rules of a stylesheet, those with the same condition joined. -/
def mediaGroups (sheet : Stylesheet) : List MediaGroup :=
  (sheet.filterMap Rule.mediaGroup?).foldl (fun groups g => g.join groups) []

/-- The stylesheet with its media rules joined and sorted behind all other rules. -/
def sortMedia (order : MediaOrder) (sheet : Stylesheet) : Stylesheet :=
  let sorted := (mediaGroups sheet).mergeSort fun a b =>
    (MediaCondition.key order a.media).le (MediaCondition.key order b.media)
  sheet.filter (fun r => r.mediaGroup?.isNone) ++ sorted.map MediaGroup.toRule

/-- Sorts the media rules of a text; the result is compressed. -/
def sortMediaText (order : MediaOrder) (css : String) : Except Oversized String :=
  (parse css).map fun sheet => (sheet.sortMedia order).print .compressed

/-- The finished text of a stylesheet. -/
def finalize (order : MediaOrder) (css : String) : Except Oversized String :=
  if Text.isBlankText css.toList then .ok "" else sortMediaText order (minify css)

end Stylesheet

end CriticalCss
