import CriticalCss.Stylesheet.Reader
import Mathlib.Control.Monad.Basic
import Mathlib.Data.Option.Basic

/-!
# The shape of a stylesheet that was read

`Stylesheet.parse` puts style rules and verbatim at-rules only into groups, puts no keyframe at
the top level, and gives every style rule selectors none of which is empty. So a stylesheet that
was read can be folded into a rule map.
-/

namespace CriticalCss

/-- A style rule has selectors, and none of them is empty. -/
def StyleRule.HasSelectors (r : StyleRule) : Prop :=
  r.selectors ≠ [] ∧ ∀ s ∈ r.selectors, s ≠ ""

namespace Rule

/-- A rule that a group may hold: a style rule with selectors, or a verbatim at-rule. -/
inductive IsGrouped : Rule → Prop
  | style {r : StyleRule} : r.HasSelectors → IsGrouped (style r)
  | atRule (r : AtRule) : IsGrouped (atRule r)

/-- The shape of a rule at the top level. -/
inductive IsRead : Rule → Prop
  | style {r : StyleRule} : r.HasSelectors → IsRead (style r)
  | atRule (r : AtRule) : IsRead (atRule r)
  | group {kind : GroupKind} {condition : String} {inner : List Rule}
      {position : Option Position} :
    (∀ r ∈ inner, r.IsGrouped) → IsRead (group kind condition inner position)
  | fontFace (ds : List Declaration) (position : Option Position) : IsRead (fontFace ds position)
  | charset (c : String) (position : Option Position) : IsRead (charset c position)
  | keyframes (name vendor : String) (frames : List Keyframe) (position : Option Position) :
    IsRead (keyframes name vendor frames position)
  | comment (text : String) (position : Option Position) : IsRead (comment text position)

end Rule

/-- Every rule of the stylesheet has the shape that reading gives it. -/
def Stylesheet.IsRead (sheet : Stylesheet) : Prop :=
  ∀ r ∈ sheet, r.IsRead

theorem Findings.mem_collect {α β : Type} {f : α → Findings (Option β)} {items : List α} {b : β}
    (found : b ∈ (collect f items).value) : ∃ a ∈ items, (f a).value = some b := by
  induction items with
  | nil => cases found
  | cons a items ih =>
    rcases List.mem_append.1 found with here | later
    · exact ⟨a, List.mem_cons_self, by simpa using here⟩
    · obtain ⟨a', mem, value⟩ := ih later
      exact ⟨a', List.mem_cons_of_mem _ mem, value⟩

namespace Stylesheet

theorem ne_empty_of_mem_selectorTexts {prelude : List Css.Component} {s : String}
    (h : s ∈ selectorTexts prelude) : s ≠ "" := by
  have := (List.mem_filter.1 h).2
  simpa using this

theorem hasSelectors_of_readStyle {position : Position} {prelude content : List Css.Component}
    {r : StyleRule} (h : (readStyle position prelude content).value = some r) :
    r.HasSelectors := by
  unfold readStyle at h
  split at h
  · cases h
  · rename_i selectors some
    cases h
    exact ⟨some, fun s mem => ne_empty_of_mem_selectorTexts mem⟩

theorem isGrouped_of_readGrouped {node : Css.Node} {r : Rule}
    (h : (readGrouped node).value = some r) : r.IsGrouped := by
  cases node with
  | qualified position prelude content =>
    obtain ⟨q, value, rfl⟩ := Option.map_eq_some_iff.1 h
    exact .style (hasSelectors_of_readStyle value)
  | atRule position keyword prelude content =>
    cases h
    exact .atRule _
  | comment | invalid => cases h

theorem isRead_readGroup (kind : GroupKind) (position : Position) (prelude : List Css.Component)
    (content : Option (List Css.Component)) :
    (readGroup kind position prelude content).value.IsRead := by
  refine .group fun r mem => ?_
  obtain ⟨node, -, value⟩ := Findings.mem_collect mem
  exact isGrouped_of_readGrouped value

theorem isRead_readAtRule (position : Position) (keyword : List Char)
    (prelude : List Css.Component) (content : Option (List Css.Component)) :
    (readAtRule position keyword prelude content).value.IsRead := by
  unfold readAtRule
  simp only
  split
  · exact isRead_readGroup _ _ _ _
  split
  · exact isRead_readGroup _ _ _ _
  split
  · exact .fontFace _ _
  split
  · exact .charset _ _
  split
  · exact .keyframes _ _ _ _
  · exact .atRule _

theorem isRead_of_readNode {node : Css.Node} {r : Rule} (h : (readNode node).value = some r) :
    r.IsRead := by
  cases node with
  | comment position text =>
    cases h
    exact .comment _ _
  | qualified position prelude content =>
    obtain ⟨q, value, rfl⟩ := Option.map_eq_some_iff.1 h
    exact .style (hasSelectors_of_readStyle value)
  | atRule position keyword prelude content =>
    cases h
    exact isRead_readAtRule _ _ _ _
  | invalid => cases h

theorem maxDigits_lt_of_oversized? {l : Css.Lexeme} {e : Oversized}
    (found : oversized? l = some e) : maxDigits < e.digits := by
  cases l with
  | token t =>
    simp only [oversized?, Option.bind_eq_bind, Option.bind_eq_some_iff] at found
    obtain ⟨digits, -, _, -, _, large, same⟩ := found
    cases same
    exact (Option.guard_eq_some' _).1 large
  | opening | closing | functionOpening => cases found

/-- A text is refused only for an integer with too many digits. -/
theorem maxDigits_lt_of_parse {css : String} {e : Oversized} (refused : parse css = .error e) :
    maxDigits < e.digits := by
  unfold parse read at refused
  split at refused
  · rename_i found
    obtain ⟨item, -, large⟩ := List.exists_of_findSome?_eq_some found
    cases refused
    exact maxDigits_lt_of_oversized? large
  · cases refused

/-- **What is read has the shape of a stylesheet.** -/
theorem isRead_of_parse {css : String} {sheet : Stylesheet} (h : parse css = .ok sheet) :
    sheet.IsRead := by
  unfold parse read at h
  split at h
  · cases h
  · cases h
    intro r mem
    obtain ⟨node, -, value⟩ := Findings.mem_collect mem
    exact isRead_of_readNode value

end Stylesheet

end CriticalCss
