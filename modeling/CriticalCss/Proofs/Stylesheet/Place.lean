import CriticalCss.Proofs.Css.Place
import CriticalCss.Stylesheet.Reader

/-!
# Places do not matter to the reader

Components that differ only in their places are read as rules that differ only in their
positions, with findings that differ only in their places (`placeless_readSheet`).
`Findings.placeless` drops both.
-/

namespace CriticalCss

open Css

/-- The finding with the start of the text as its place. -/
def Css.Diagnostic.bare : Diagnostic → Diagnostic
  | invalid _ fault => invalid .start fault
  | missingSelector _ => missingSelector .start

/-- The style rule without its position. -/
def StyleRule.erase (r : StyleRule) : StyleRule :=
  { r with position := none }

/-- The keyframe without its position. -/
def Keyframe.erase (f : Keyframe) : Keyframe :=
  { f with position := none }

theorem Rule.erase_style (r : StyleRule) : (Rule.style r).erase = .style r.erase := by
  rw [Rule.erase, StyleRule.erase]

theorem Rule.eraseAll_eq (rules : List Rule) : Rule.erase.eraseAll rules = rules.map erase := by
  induction rules with
  | nil => rfl
  | cons r rest ih => rw [Rule.erase.eraseAll, ih, List.map_cons]

namespace Findings

variable {α β γ δ : Type}

/-- The findings without their places, of a value from which `drop` takes the positions. -/
def placeless (drop : α → β) (x : Findings α) : Findings β :=
  ⟨drop x.value, x.diagnostics.map Diagnostic.bare⟩

theorem placeless_map (f : α → β) (drop : β → γ) (x : Findings α) :
    (x.map f).placeless drop = x.placeless (drop ∘ f) := rfl

/-- Mapping the value in a way that `drop` does not see through. -/
theorem placeless_map_congr {f : α → β} {g : α → γ} {drop : β → δ} {drop' : γ → δ}
    {keep : α → α} (same : ∀ a b, keep a = keep b → drop (f a) = drop' (g b))
    {x y : Findings α} (h : x.placeless keep = y.placeless keep) :
    (x.map f).placeless drop = (y.map g).placeless drop' := by
  obtain ⟨value, diagnostics⟩ := Findings.mk.injEq .. ▸ h
  exact congr (congrArg Findings.mk (same _ _ value)) diagnostics

/-- Items that are read alike one by one are read alike together. -/
theorem placeless_collect {f : α → Findings (Option β)} {shift : α → α} {drop : β → γ}
    (same : ∀ a, (f (shift a)).placeless (Option.map drop) = (f a).placeless (Option.map drop))
    (items : List α) :
    (collect f (items.map shift)).placeless (List.map drop) =
      (collect f items).placeless (List.map drop) := by
  induction items with
  | nil => rfl
  | cons a rest ih =>
    obtain ⟨value, diagnostics⟩ := Findings.mk.injEq .. ▸ same a
    obtain ⟨values, later⟩ := Findings.mk.injEq .. ▸ ih
    have first : (f (shift a)).value.toList.map drop = (f a).value.toList.map drop := by
      rw [← Option.toList_map, value, Option.toList_map]
    simp only [List.map_cons, collect, placeless, List.map_append, first, values, diagnostics,
      later]

end Findings

namespace Stylesheet

/-! ## Texts -/

theorem pieces_map {α β : Type} (p : β → Bool) (f : α → β) (as : List α) :
    Text.pieces p (as.map f) = (Text.pieces (p ∘ f) as).map (List.map f) := by
  induction as with
  | nil => rfl
  | cons a rest ih =>
    rw [List.map_cons, Text.pieces, Text.pieces, ih]
    simp only [Function.comp_apply]
    split
    · rfl
    · cases Text.pieces (p ∘ f) rest <;> rfl

theorem conditionText_bare (cs : List Component) :
    conditionText (cs.map Component.bare) = conditionText cs := by
  rw [conditionText, conditionText, textApart_map_bare]

theorem selectorTexts_bare (cs : List Component) :
    selectorTexts (cs.map Component.bare) = selectorTexts cs := by
  have cut : (fun c : Component => c.isLiteral [',']) ∘ Component.bare =
      fun c => c.isLiteral [','] := by
    funext c
    rw [Function.comp_apply, Component.isLiteral_bare]
  have one : conditionText ∘ List.map Component.bare = conditionText := by
    funext piece
    rw [Function.comp_apply, conditionText_bare]
  rw [selectorTexts, selectorTexts, splitCommas, splitCommas, pieces_map, cut, List.map_map, one]

theorem valueText_bare (value : List Component) (important : Bool) :
    valueText (value.map Component.bare) important = valueText value important := by
  rw [valueText, valueText, text_map_bare]

/-! ## Rules -/

theorem placeless_readEntry (entry : Entry) :
    (readEntry entry.bare).placeless (Option.map id) =
      (readEntry entry).placeless (Option.map id) := by
  cases entry with
  | declaration position name value important =>
    rw [Entry.bare, readEntry, readEntry, valueText_bare]
  | atRule | invalid => rfl

theorem placeless_readDeclarations (content : List Component) :
    (readDeclarations (content.map Component.bare)).placeless (List.map id) =
      (readDeclarations content).placeless (List.map id) := by
  rw [readDeclarations, readDeclarations, Entry.ofBlock_bare]
  exact Findings.placeless_collect placeless_readEntry _

theorem placeless_readStyle (p q : Position) (prelude content : List Component) :
    (readStyle p (prelude.map Component.bare) (content.map Component.bare)).placeless
        (Option.map StyleRule.erase) =
      (readStyle q prelude content).placeless (Option.map StyleRule.erase) := by
  rw [readStyle, readStyle, selectorTexts_bare]
  cases selectorTexts prelude with
  | nil => rfl
  | cons first others =>
    refine Findings.placeless_map_congr (fun ds ds' same => ?_)
      (placeless_readDeclarations content)
    rw [List.map_id, List.map_id] at same
    rw [same]
    rfl

theorem readVerbatim_bare (p q : Position) (keyword : List Char) (prelude : List Component)
    (content : Option (List Component)) :
    (Rule.atRule (readVerbatim p keyword (prelude.map Component.bare)
        (content.map (·.map Component.bare)))).erase =
      (Rule.atRule (readVerbatim q keyword prelude content)).erase := by
  cases content <;>
    simp only [readVerbatim, Rule.erase, conditionText_bare, Option.map_none, Option.map_some,
      text_map_bare]

/-- What holds of a style rule holds of the rule that it is. -/
theorem placeless_style {p q : Position} (prelude content : List Component) :
    ((readStyle p (prelude.map Component.bare) (content.map Component.bare)).map
        (·.map Rule.style)).placeless (Option.map Rule.erase) =
      ((readStyle q prelude content).map (·.map Rule.style)).placeless
        (Option.map Rule.erase) := by
  refine Findings.placeless_map_congr (fun r r' same => ?_) (placeless_readStyle p q _ _)
  have shown (r : Option StyleRule) :
      (r.map Rule.style).map Rule.erase = (r.map StyleRule.erase).map Rule.style := by
    cases r with
    | none => rfl
    | some r => exact congrArg some (Rule.erase_style r)
  rw [shown, shown, same]

theorem placeless_readGrouped (node : Node) :
    (readGrouped node.bare).placeless (Option.map Rule.erase) =
      (readGrouped node).placeless (Option.map Rule.erase) := by
  cases node with
  | qualified position prelude content => exact placeless_style prelude content
  | atRule position keyword prelude content =>
    have same := readVerbatim_bare .start position keyword prelude content
    simp only [Node.bare, readGrouped, Findings.placeless, Option.map_some, same]
  | comment | invalid => rfl

theorem placeless_readFrame (node : Node) :
    (readFrame node.bare).placeless (Option.map Keyframe.erase) =
      (readFrame node).placeless (Option.map Keyframe.erase) := by
  cases node with
  | qualified position prelude content =>
    rw [Node.bare, readFrame, readFrame, selectorTexts_bare]
    refine Findings.placeless_map_congr (fun ds ds' same => ?_)
      (placeless_readDeclarations content)
    rw [List.map_id, List.map_id] at same
    rw [same]
    rfl
  | comment | atRule | invalid => rfl

theorem content_bare (content : Option (List Component)) :
    (content.map (·.map Component.bare)).getD [] = (content.getD []).map Component.bare := by
  cases content <;> rfl

theorem placeless_readGroup (kind : GroupKind) (p q : Position) (prelude : List Component)
    (content : Option (List Component)) :
    (readGroup kind p (prelude.map Component.bare)
        (content.map (·.map Component.bare))).placeless Rule.erase =
      (readGroup kind q prelude content).placeless Rule.erase := by
  rw [readGroup, readGroup, conditionText_bare, content_bare, Node.ofBlock_bare]
  refine Findings.placeless_map_congr (fun inner inner' same => ?_)
    (Findings.placeless_collect placeless_readGrouped _)
  rw [Rule.erase, Rule.erase, Rule.eraseAll_eq, Rule.eraseAll_eq, same]

theorem placeless_readAtRule (p q : Position) (keyword : List Char) (prelude : List Component)
    (content : Option (List Component)) :
    (readAtRule p keyword (prelude.map Component.bare)
        (content.map (·.map Component.bare))).placeless Rule.erase =
      (readAtRule q keyword prelude content).placeless Rule.erase := by
  unfold readAtRule
  simp only
  split
  · exact placeless_readGroup _ _ _ _ _
  split
  · exact placeless_readGroup _ _ _ _ _
  split
  · rw [content_bare]
    refine Findings.placeless_map_congr (fun ds ds' same => ?_) (placeless_readDeclarations _)
    rw [List.map_id, List.map_id] at same
    rw [same, Rule.erase, Rule.erase]
  split
  · rw [conditionText_bare]
    rfl
  split
  · rw [content_bare, conditionText_bare, Node.ofBlock_bare]
    refine Findings.placeless_map_congr (fun frames frames' same => ?_)
      (Findings.placeless_collect placeless_readFrame _)
    rw [Rule.erase, Rule.erase]
    exact congrArg (Rule.keyframes _ _ · none) same
  · have same := readVerbatim_bare p q keyword prelude content
    exact congrArg (Findings.mk · []) same

theorem placeless_readNode (node : Node) :
    (readNode node.bare).placeless (Option.map Rule.erase) =
      (readNode node).placeless (Option.map Rule.erase) := by
  cases node with
  | comment | invalid => rfl
  | qualified position prelude content => exact placeless_style prelude content
  | atRule position keyword prelude content =>
    refine Findings.placeless_map_congr (fun r r' same => ?_)
      (placeless_readAtRule .start position keyword prelude content)
    exact congrArg some same

/-- **Places do not matter to the reader.** -/
theorem placeless_readSheet (cs : List Component) :
    (Findings.collect readNode (Node.ofSheet (cs.map Component.bare))).placeless
        (List.map Rule.erase) =
      (Findings.collect readNode (Node.ofSheet cs)).placeless (List.map Rule.erase) := by
  rw [Node.ofSheet_bare]
  exact Findings.placeless_collect placeless_readNode _

end Stylesheet

end CriticalCss
