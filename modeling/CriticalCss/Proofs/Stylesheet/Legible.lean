import CriticalCss.Proofs.Css.Text
import CriticalCss.Proofs.Stylesheet.ReadsAs
import CriticalCss.Stylesheet.Printer

/-!
# Rules whose texts read as themselves

`Rule.IsLegible` says of a rule that each of its names, selectors, conditions, values and blocks
reads as itself where the printer puts it. Declarations and lists of selectors that are legible
read as themselves as a whole (`isBlockOf_declarations`, `readsAs_selectors`).
-/

namespace CriticalCss

open Css

theorem isSpaces_indentation (level : Nat) : IsSpaces (indentation level) := by
  intro c mem
  rw [List.eq_of_mem_replicate mem]
  rfl

namespace Stylesheet

/-! ## Declarations -/

/-- The value that the components behind the colon of a declaration are read as, unless a block
is among them. -/
def valueOf? (value : List Component) : Option String :=
  if (Entry.Progress.ofValue value).block then none
  else
    match (Entry.Progress.ofValue value).importance with
    | .important before => some (valueText (value.take before) true)
    | _ => some (valueText value false)

theorem readEntry_ofParts {name : List Char} {value : List Component} {v : String}
    (given : valueOf? value = some v) :
    readEntry (Entry.ofParts (.token .start (.ident name))
      (.token .start (.literal [':']) :: value)) = ⟨some ⟨String.ofList name, v⟩, []⟩ := by
  unfold valueOf? at given
  split at given
  · cases given
  · rename_i unblocked
    rw [Bool.not_eq_true] at unblocked
    have colon : (List.dropWhile (fun c => !Component.isSignificant c)
        (.token .start (.literal [':']) :: value)) = .token .start (.literal [':']) :: value :=
      rfl
    rw [Entry.ofParts, colon]
    cases importance : (Entry.Progress.ofValue value).importance <;>
    · rw [importance] at given
      cases given
      simp only [unblocked, importance]
      rfl

end Stylesheet

/-- A declaration whose name and value read as themselves behind and before what is printed
there. -/
structure Declaration.IsLegible (d : Declaration) : Prop where
  property : IsPlainName d.property.toList
  value : ReadsAs (some .curly) d.value.toList fun cs =>
    Stylesheet.valueOf? cs = some d.value ∧ ∀ c ∈ cs, c.isLiteral [';'] = false

namespace Stylesheet

theorem readDeclarations_blank (w : List Char) (rest : List Component) :
    readDeclarations (blank w ++ rest) = readDeclarations rest := by
  rw [readDeclarations, Entry.ofBlock_blank, readDeclarations]

theorem readDeclarations_nil : readDeclarations [] = ⟨[], []⟩ := by
  rw [readDeclarations, Entry.ofBlock, Findings.collect]

/-- A declaration without what ends it. -/
theorem spells_declaration {d : Declaration} (legible : d.IsLegible) {u v w : List Char}
    (before : IsSpaces u) (left : IsSpaces v) (right : IsSpaces w) :
    ∃ cs, Spells (some .curly) Ends
        (u ++ (d.property.toList ++ ':' :: (v ++ d.value.toList ++ w)))
        (blank u ++ Entry.opening d.property.toList ++ cs) ∧
      valueOf? cs = some d.value ∧ ∀ c ∈ cs, c.isLiteral [';'] = false := by
  obtain ⟨cs, spelled, given, free⟩ := legible.value v w left right
  have colon : Spells (some .curly) Ends (':' :: (v ++ d.value.toList ++ w))
      (.token .start (.literal [':']) :: cs) :=
    (spells_mark (c := ':') (by simp)).append_any spelled
  have name : Spells (some .curly) Stops d.property.toList
      [.token .start (.ident d.property.toList)] := spells_name legible.property
  have named := name.append colon fun k _ c first => by
    cases first
    simp
  have blank : Spells (some .curly) Unspaced u (blank u) := spells_blank before
  have whole := blank.append named fun k _ => by
    rw [List.append_assoc]
    exact legible.property.unspaced_append _
  refine ⟨cs, ?_, given, free⟩
  simpa [Entry.opening] using whole

theorem adds_declaration {d : Declaration} {w : List Char} {cs : List Component}
    (given : valueOf? cs = some d.value) (free : ∀ c ∈ cs, c.isLiteral [';'] = false) :
    Adds readDeclarations d
      (blank w ++ Entry.opening d.property.toList ++ cs ++ [.token .start (.literal [';'])]) := by
  intro rest
  rw [List.append_assoc _ _ rest, List.singleton_append, readDeclarations,
    Entry.ofBlock_declaration _ free, Findings.collect, readEntry_ofParts given,
    String.ofList_toList]
  rfl

theorem readDeclarations_last {d : Declaration} {w : List Char} {cs : List Component}
    (given : valueOf? cs = some d.value) (free : ∀ c ∈ cs, c.isLiteral [';'] = false) :
    readDeclarations (blank w ++ Entry.opening d.property.toList ++ cs) = ⟨[d], []⟩ := by
  rw [readDeclarations, Entry.ofBlock_last _ free, Findings.collect, readEntry_ofParts given,
    String.ofList_toList]
  rfl

/-- One line of a pretty block. -/
theorem readsBefore_declaration {d : Declaration} (legible : d.IsLegible) (level : Nat) :
    ReadsBefore (some .curly) (Layout.pretty.declaration level d) (Adds readDeclarations d) := by
  intro v left
  obtain ⟨cs, spelled, given, free⟩ := spells_declaration legible
    (left.append (isSpaces_indentation (level + 1))) .space .nil
  refine ⟨_, ?_, adds_declaration (w := v ++ indentation (level + 1)) given free⟩
  have ended := spelled.append (spells_mark (c := ';') (by simp)) fun k _ c first => by
    cases first
    simp
  simpa [Layout.declaration] using ended

/-- The declarations of a compressed block. -/
theorem readsAs_declarations {ds : List Declaration} (legible : ∀ d ∈ ds, d.IsLegible)
    (level : Nat) :
    ReadsAs (some .curly) ([';'].intercalate (ds.map (Layout.compressed.declaration level)))
      fun cs => readDeclarations cs = ⟨ds, []⟩ := by
  induction ds with
  | nil =>
    intro v w left right
    refine ⟨blank (v ++ w), ?_, ?_⟩
    · have spelled : Spells (some .curly) Unspaced (v ++ w) (blank (v ++ w)) :=
        spells_blank (left.append right)
      simpa [List.intercalate] using spelled.mono fun k => Ends.unspaced
    · have passed := readDeclarations_blank (v ++ w) []
      rwa [List.append_nil, readDeclarations_nil] at passed
  | cons d ds ih =>
    intro v w left right
    have first : d.IsLegible := legible d List.mem_cons_self
    cases ds with
    | nil =>
      obtain ⟨cs, spelled, given, free⟩ := spells_declaration first left .nil right
      refine ⟨_, ?_, readDeclarations_last (w := v) given free⟩
      simpa [List.intercalate, Layout.declaration] using spelled
    | cons e ds =>
      obtain ⟨cs, spelled, given, free⟩ := spells_declaration first left .nil .nil
      obtain ⟨rest, spelledRest, readRest⟩ :=
        ih (fun e mem => legible e (List.mem_cons_of_mem _ mem)) [] w .nil right
      have ended := spelled.append (spells_mark (c := ';') (by simp)) fun k _ c first => by
        cases first
        simp
      have joined := ended.append_any spelledRest
      have added := adds_declaration (w := v) given free rest
      rw [readRest] at added
      refine ⟨_, ?_, added⟩
      rw [List.map_cons, intercalate_cons]
      simpa [Layout.declaration] using joined

/-- The block of the declarations of a rule. -/
theorem isBlockOf_declarations {ds : List Declaration} (legible : ∀ d ∈ ds, d.IsLegible)
    (layout : Layout) (level : Nat) :
    IsBlockOf (layout.declarations level ds) fun cs => readDeclarations cs = ⟨ds, []⟩ := by
  cases layout with
  | pretty =>
    have lines := readsAs_intercalate readDeclarations_blank readDeclarations_nil .newline
      fun d mem => readsBefore_declaration (legible d mem) level
    have block := lines.isBlockOf .space .newline
      (IsSpaces.newline.append (isSpaces_indentation level))
    simpa [Layout.declarations] using block
  | compressed =>
    have block := (readsAs_declarations legible level).isBlockOf .nil .nil .nil
    simpa [Layout.declarations] using block

/-! ## Selectors -/

theorem selectorTexts_append (left right : List Component) :
    selectorTexts (left ++ .token .start (.literal [',']) :: right) =
      selectorTexts left ++ selectorTexts right := by
  rw [selectorTexts, splitCommas, Text.pieces_append rfl, List.map_append, List.filter_append,
    selectorTexts, selectorTexts, splitCommas, splitCommas]

theorem selectorTexts_eq_singleton {cs : List Component} {s : String}
    (shown : conditionText cs = s) (nonempty : s ≠ "")
    (whole : ∀ c ∈ cs, c.isLiteral [','] = false) : selectorTexts cs = [s] := by
  rw [selectorTexts, splitCommas, Text.pieces_eq_singleton whole, List.map_singleton, shown]
  simpa using nonempty

theorem selectorTexts_cons_of_isWhitespace {c : Component} (space : c.isWhitespace = true)
    (cs : List Component) : selectorTexts (c :: cs) = selectorTexts cs := by
  have inside : c.isLiteral [','] = false := by
    cases c with
    | token p t => cases t <;> first | rfl | cases space
    | block | function => rfl
  rw [selectorTexts, splitCommas, Text.pieces, inside, if_neg Bool.false_ne_true, selectorTexts,
    splitCommas]
  cases shape : Text.pieces (fun c => Component.isLiteral [','] c) cs with
  | nil => exact (Text.pieces_ne_nil _ _ shape).elim
  | cons piece others =>
    rw [List.map_cons, List.map_cons, conditionText, textApart_cons_of_isWhitespace space,
      conditionText]

theorem selectorTexts_dropWhile (cs : List Component) :
    selectorTexts (cs.dropWhile Component.isWhitespace) = selectorTexts cs := by
  induction cs with
  | nil => rfl
  | cons c cs ih =>
    by_cases space : c.isWhitespace = true
    · rw [List.dropWhile_cons_of_pos space, ih, selectorTexts_cons_of_isWhitespace space]
    · rw [List.dropWhile_cons_of_neg space]

/-- The text reads as one selector, and `begins` holds of its first component. -/
structure IsSelector (closer : Option Bracket) (begins : Component → Prop) (s : String) :
    Prop where
  nonempty : s ≠ ""
  reads : ReadsAs closer s.toList fun cs =>
    conditionText cs = s ∧ (∀ c ∈ cs, c.curly? = none ∧ c.isLiteral [','] = false) ∧
      ∃ c, Node.leading? cs = some c ∧ begins c

/-- The components read as the selectors, and `begins` holds of the first component. -/
def IsSelectorList (begins : Component → Prop) (selectors : List String)
    (cs : List Component) : Prop :=
  selectorTexts cs = selectors ∧ (∀ c ∈ cs, c.curly? = none) ∧
    ∃ c, Node.leading? cs = some c ∧ begins c

theorem leading?_append {cs : List Component} {c : Component} (leads : Node.leading? cs = some c)
    (rest : List Component) : Node.leading? (cs ++ rest) = some c := by
  induction cs with
  | nil => cases leads
  | cons d cs ih =>
    by_cases space : d.isWhitespace = true
    · rw [Node.leading?, List.dropWhile_cons_of_pos space] at leads
      rw [Node.leading?, List.cons_append, List.dropWhile_cons_of_pos space]
      exact ih leads
    · rw [Node.leading?, List.dropWhile_cons_of_neg space] at leads
      rw [Node.leading?, List.cons_append, List.dropWhile_cons_of_neg space]
      exact leads

/-- Selectors with commas between them, and white space behind the commas. -/
theorem readsAs_selectors {closer : Option Bracket} {gap : List Char} (spaces : IsSpaces gap)
    {begins : Component → Prop} {first : String} {others : List String}
    (one : IsSelector closer begins first)
    (each : ∀ s ∈ others, IsSelector closer (fun _ => True) s) :
    ReadsAs closer ((',' :: gap).intercalate ((first :: others).map String.toList))
      (IsSelectorList begins (first :: others)) := by
  induction others generalizing first begins with
  | nil =>
    intro v w left right
    obtain ⟨cs, spelled, shown, free, leads⟩ := one.reads v w left right
    refine ⟨cs, ?_, ?_, fun c mem => (free c mem).1, leads⟩
    · simpa [List.intercalate] using spelled
    · exact selectorTexts_eq_singleton shown one.nonempty fun c mem => (free c mem).2
  | cons second others ih =>
    intro v w left right
    have next : IsSelector closer (fun _ => True) second := each second List.mem_cons_self
    obtain ⟨cs, spelled, shown, free, c, leads, begin⟩ := one.reads v [] left .nil
    obtain ⟨rest, spelledRest, listed, curlyless, -⟩ :=
      ih next (fun s mem => each s (List.mem_cons_of_mem _ mem)) gap w spaces right
    have comma : Spells closer Anything [','] [.token .start (.literal [','])] :=
      spells_mark (by simp)
    have joined := spelled.append (comma.append_any spelledRest) fun k _ c first => by
      cases first
      simp
    refine ⟨cs ++ .token .start (.literal [',']) :: rest, ?_, ?_, ?_, c, leading?_append leads _,
      begin⟩
    · rw [List.map_cons, intercalate_cons]
      simpa using joined
    · rw [selectorTexts_append, listed,
        selectorTexts_eq_singleton shown one.nonempty fun c mem => (free c mem).2]
      rfl
    · refine List.forall_mem_append.2 ⟨fun c mem => (free c mem).1, ?_⟩
      exact List.forall_mem_cons.2 ⟨rfl, curlyless⟩

/-! ## Legible rules -/

/-- What may stand between an at-keyword and the end of the at-rule, and reads as `p`. -/
def IsPrelude (p : String) (cs : List Component) : Prop :=
  conditionText cs = p ∧ ∀ c ∈ cs, c.curly? = none ∧ c.isLiteral [';'] = false

/-- The condition of an at-rule, or its name: a text that reads as itself. -/
def IsCondition (closer : Option Bracket) (p : String) : Prop :=
  ReadsAs closer p.toList (IsPrelude p)

/-- The content of a verbatim block: a text that reads as itself. -/
def IsVerbatim (b : String) : Prop :=
  ReadsAs (some .curly) b.toList fun cs => String.ofList (Text.trim (Css.text cs)) = b

/-- No kind of rules of its own has the name as its keyword. -/
def IsVerbatimName (name : List Char) : Prop :=
  lowerText name ∉ ["media", "supports", "font-face", "charset"] ∧
    keyframesVendors.lookup (lowerText name) = none

end Stylesheet

open Stylesheet

/-- A style rule whose selectors and declarations read as themselves. -/
structure StyleRule.IsLegible (closer : Option Bracket) (r : StyleRule) : Prop where
  selectors : ∃ first others, r.selectors = first :: others ∧
    IsSelector closer (Node.CanBegin closer) first ∧
      ∀ s ∈ others, IsSelector closer (fun _ => True) s
  declarations : ∀ d ∈ r.declarations, d.IsLegible

/-- A keyframe whose moments and declarations read as themselves. -/
structure Keyframe.IsLegible (f : Keyframe) : Prop where
  values : f.values = [] ∨ ∃ first others, f.values = first :: others ∧
    IsSelector (some .curly) (Node.CanBegin (some .curly)) first ∧
      ∀ s ∈ others, IsSelector (some .curly) (fun _ => True) s
  declarations : ∀ d ∈ f.declarations, d.IsLegible

/-- A verbatim at-rule whose parts read as themselves. -/
structure AtRule.IsLegible (closer : Option Bracket) (r : AtRule) : Prop where
  name : IsPlainName r.name.toList
  verbatim : closer = none → IsVerbatimName r.name.toList
  prelude : IsCondition closer r.prelude
  block : ∀ b ∈ r.block, IsVerbatim b

/-- A rule whose texts read as themselves where they are printed: at the top level if `closer` is
`none`, or else in a group. -/
inductive Rule.IsLegible : Option Bracket → Rule → Prop
  | style {closer : Option Bracket} {r : StyleRule} :
    r.IsLegible closer → IsLegible closer (style r)
  | atRule {closer : Option Bracket} {r : AtRule} :
    r.IsLegible closer → IsLegible closer (atRule r)
  | group {kind : GroupKind} {condition : String} {inner : List Rule}
      {position : Option Position} :
    IsCondition none condition → (∀ r ∈ inner, IsLegible (some .curly) r) →
      IsLegible none (group kind condition inner position)
  | fontFace {ds : List Declaration} {position : Option Position} :
    (∀ d ∈ ds, d.IsLegible) → IsLegible none (fontFace ds position)
  | charset {c : String} {position : Option Position} :
    IsCondition none c → IsLegible none (charset c position)
  | keyframes {name vendor : String} {frames : List Keyframe} {position : Option Position} :
    IsCondition none name → vendor ∈ keyframesVendors.map Prod.snd →
      (∀ f ∈ frames, f.IsLegible) → IsLegible none (keyframes name vendor frames position)
  | comment {text : String} {position : Option Position} :
    readComment (text.toList ++ ['*', '/']) = (text.toList, []) →
      (∀ c ∈ text.toList, isUniform c = true) → IsLegible none (comment text position)

end CriticalCss
