import CriticalCss.Proofs.Stylesheet.Legible

/-!
# Reading back what was printed

A legible rule, printed in either layout, adds itself to the stylesheet that is read, one lemma
for each kind of rules. So a stylesheet of legible rules is read back without a finding, and only
the positions are new (`parseStrict_print_of_legible`).
-/

namespace CriticalCss

open Css

theorem isSpaces_indent (layout : Layout) (level : Nat) : IsSpaces (layout.indent level) := by
  cases layout with
  | pretty => exact isSpaces_indentation level
  | compressed => exact .nil

/-- Indentation is white space before the text. -/
theorem ReadsBefore.indent {closer : Option Bracket} {s : List Char}
    {good : List Component → Prop} (reads : ReadsBefore closer s good) (layout : Layout)
    (level : Nat) : ReadsBefore closer (layout.indent level ++ s) good := by
  intro v left
  obtain ⟨cs, spelled, holds⟩ := reads _ (left.append (isSpaces_indent layout level))
  rw [List.append_assoc] at spelled
  exact ⟨cs, spelled, holds⟩

namespace Stylesheet

/-! ## Rules one by one -/

/-- The rules of a stylesheet with their positions dropped. -/
def outerRules (cs : List Component) : Findings (List Rule) :=
  (Findings.collect readNode (Node.ofSheet cs)).placeless (List.map Rule.erase)

/-- The rules of a group with their positions dropped. -/
def innerRules (cs : List Component) : Findings (List Rule) :=
  (Findings.collect readGrouped (Node.ofBlock cs)).placeless (List.map Rule.erase)

/-- The keyframes of a block with their positions dropped. -/
def framesOf (cs : List Component) : Findings (List Keyframe) :=
  (Findings.collect readFrame (Node.ofBlock cs)).placeless (List.map Keyframe.erase)

/-- A node that is read as an item without a finding adds the item. -/
theorem adds_of_node {α β : Type} {f : Node → Findings (Option α)}
    {nodes : List Component → List Node} {drop : α → β} {item : β} {cs : List Component}
    {node : Node} (cut : ∀ rest, nodes (cs ++ rest) = node :: nodes rest)
    (reads : (f node).placeless (Option.map drop) = ⟨some item, []⟩) :
    Adds (fun cs => (Findings.collect f (nodes cs)).placeless (List.map drop)) item cs := by
  intro rest
  have head := cut rest
  obtain ⟨value, faultless⟩ := Findings.mk.injEq .. ▸ reads
  have first : (f node).value.toList.map drop = [item] := by
    rw [← Option.toList_map, value, Option.toList_some]
  simp only [head, Findings.collect, Findings.placeless, List.map_append, first, faultless,
    List.singleton_append, List.nil_append]

/-! ## Style rules and keyframes -/

/-- The components of a style rule. -/
def IsStyle (closer : Option Bracket) (r : StyleRule) (cs : List Component) : Prop :=
  ∃ prelude content, cs = prelude ++ [.block .start .curly content] ∧
    IsSelectorList (Node.CanBegin closer) r.selectors prelude ∧
    readDeclarations content = ⟨r.declarations, []⟩

theorem selectors_eq (layout : Layout) (level : Nat) (texts : List String) :
    ∃ gap, IsSpaces gap ∧
      layout.selectors level texts = (',' :: gap).intercalate (texts.map String.toList) := by
  cases layout with
  | pretty =>
    exact ⟨'\n' :: indentation level, IsSpaces.newline.append (isSpaces_indentation level), rfl⟩
  | compressed => exact ⟨[], .nil, rfl⟩

theorem readsBefore_style {closer : Option Bracket} {r : StyleRule}
    (legible : r.IsLegible closer) (layout : Layout) (level : Nat) :
    ReadsBefore closer ((Rule.style r).text layout level) (IsStyle closer r) := by
  obtain ⟨first, others, selectors, one, each⟩ := legible.selectors
  obtain ⟨gap, spaces, printed⟩ := selectors_eq layout level r.selectors
  have head := readsAs_selectors spaces one each
  rw [← selectors, ← printed] at head
  have body := isBlockOf_declarations legible.declarations layout level
  rw [Rule.text, List.append_assoc]
  refine ReadsBefore.indent (head.block body ?_) layout level
  exact fun prelude content listed read => ⟨prelude, content, rfl, listed, read⟩

theorem placeless_readStyle_eq {r : StyleRule} {p : Position} {prelude content : List Component}
    (listed : selectorTexts prelude = r.selectors) (some : r.selectors ≠ [])
    (read : readDeclarations content = ⟨r.declarations, []⟩) :
    ((readStyle p prelude content).map (·.map Rule.style)).placeless (Option.map Rule.erase) =
      ⟨.some (Rule.style r).erase, []⟩ := by
  rw [readStyle, listed]
  cases shape : r.selectors with
  | nil => exact (some shape).elim
  | cons first others =>
    rw [read, Rule.erase_style, StyleRule.erase, shape]
    simp only [Findings.map, Findings.placeless, Option.map_some, Rule.erase_style,
      StyleRule.erase, List.map_nil]

theorem adds_style {nodes : List Component → List Node} {f : Node → Findings (Option Rule)}
    (reads : ∀ p prelude content,
      f (.qualified p prelude content) = (readStyle p prelude content).map (·.map Rule.style))
    {prelude content : List Component} {p : Position} {r : StyleRule}
    (cut : ∀ rest, nodes (prelude ++ [.block .start .curly content] ++ rest) =
      .qualified p (prelude.dropWhile Component.isWhitespace) content :: nodes rest)
    (listed : selectorTexts prelude = r.selectors) (some : r.selectors ≠ [])
    (read : readDeclarations content = ⟨r.declarations, []⟩) :
    Adds (fun cs => (Findings.collect f (nodes cs)).placeless (List.map Rule.erase))
      (Rule.style r).erase (prelude ++ [.block .start .curly content]) := by
  refine adds_of_node cut ?_
  rw [reads]
  exact placeless_readStyle_eq (by rw [selectorTexts_dropWhile, listed]) some read

theorem adds_innerRules_of_isStyle {closer : Option Bracket} {r : StyleRule}
    {cs : List Component} (style : IsStyle closer r cs) (some : r.selectors ≠ []) :
    Adds innerRules (Rule.style r).erase cs := by
  obtain ⟨prelude, content, rfl, ⟨listed, curlyless, c, leads, begins⟩, read⟩ := style
  refine adds_style (p := c.position) (fun p prelude content => rfl) (fun rest => ?_) listed some
    read
  rw [List.append_assoc, List.singleton_append]
  exact Node.ofBlock_qualified leads begins curlyless _ _ _

theorem adds_outerRules_of_isStyle {r : StyleRule} {cs : List Component}
    (style : IsStyle none r cs) (some : r.selectors ≠ []) :
    Adds outerRules (Rule.style r).erase cs := by
  obtain ⟨prelude, content, rfl, ⟨listed, curlyless, c, leads, begins⟩, read⟩ := style
  refine adds_style (p := c.position) (fun p prelude content => rfl) (fun rest => ?_) listed some
    read
  rw [List.append_assoc, List.singleton_append]
  exact Node.ofSheet_qualified leads begins curlyless _ _ _

/-- A keyframe may stand without a moment. -/
theorem readsBefore_keyframe {f : Keyframe} (legible : f.IsLegible) (layout : Layout)
    (level : Nat) :
    ReadsBefore (some .curly) (layout.keyframe level f) (Adds framesOf f.erase) := by
  have body := isBlockOf_declarations legible.declarations layout level
  have frame {prelude content : List Component} {p : Position}
      (listed : selectorTexts prelude = f.values)
      (read : readDeclarations content = ⟨f.declarations, []⟩) :
      (readFrame (.qualified p prelude content)).placeless (Option.map Keyframe.erase) =
        ⟨some f.erase, []⟩ := by
    rw [readFrame, listed, read]
    rfl
  rw [Layout.keyframe, List.append_assoc]
  rcases legible.values with empty | ⟨first, others, values, one, each⟩
  · have head : ReadsAs (some .curly) ([','].intercalate (f.values.map String.toList))
        fun cs => ∃ w, cs = blank w := by
      intro v w left right
      have spelled : Spells (some .curly) Unspaced (v ++ w) (blank (v ++ w)) :=
        spells_blank (left.append right)
      refine ⟨blank (v ++ w), ?_, v ++ w, rfl⟩
      rw [empty]
      simpa [List.intercalate] using spelled.mono fun k => Ends.unspaced
    refine ReadsBefore.indent (head.block body ?_) layout level
    rintro cs content ⟨w, rfl⟩ read
    have none : selectorTexts [] = f.values := by
      rw [empty]
      rfl
    refine adds_of_node (fun rest => ?_) (frame (p := .start) none read)
    rw [List.append_assoc, List.singleton_append]
    exact Node.ofBlock_block w _ _ _
  · have head := readsAs_selectors .nil one each
    rw [← values] at head
    refine ReadsBefore.indent (head.block body ?_) layout level
    rintro cs content ⟨listed, curlyless, c, leads, begins⟩ read
    have same : selectorTexts (cs.dropWhile Component.isWhitespace) = f.values := by
      rw [selectorTexts_dropWhile, listed]
    refine adds_of_node (fun rest => ?_) (frame (p := c.position) same read)
    rw [List.append_assoc, List.singleton_append]
    exact Node.ofBlock_qualified leads begins curlyless _ _ _

/-! ## At-rules -/

theorem conditionText_cons_of_isWhitespace {c : Component} (space : c.isWhitespace = true)
    (cs : List Component) : conditionText (c :: cs) = conditionText cs := by
  rw [conditionText, textApart_cons_of_isWhitespace space, conditionText]

theorem conditionText_blank (w : List Char) : conditionText (blank w) = "" := by
  unfold blank
  split
  · rfl
  · rw [conditionText_cons_of_isWhitespace rfl]
    rfl

theorem isPrelude_blank (w : List Char) : IsPrelude "" (blank w) := by
  refine ⟨conditionText_blank w, fun c mem => ?_⟩
  obtain ⟨text, rfl⟩ := isWhitespace_of_mem_blank mem
  exact ⟨rfl, rfl⟩

/-- An at-keyword with what stands before the end of the at-rule, if there is anything. -/
theorem readsAs_prelude {closer : Option Bracket} {keyword : List Char}
    (plain : IsPlainName keyword) {p : String} (legible : IsCondition closer p) :
    ReadsAs closer ('@' :: keyword ++ if p = "" then [] else ' ' :: p.toList)
      (IsHead keyword (IsPrelude p)) := by
  by_cases empty : p = ""
  · subst empty
    rw [if_pos rfl, List.append_nil]
    intro v w left right
    obtain ⟨cs, spelled, u, prelude, rfl, t, rfl⟩ := readsAs_keyword plain v w left right
    exact ⟨_, spelled, u, blank t, rfl, isPrelude_blank t⟩
  · rw [if_neg empty]
    exact readsAs_head plain legible

/-- What an at-rule adds to a stylesheet. -/
theorem adds_outerRules_of_head {keyword : List Char} {p : String} {cs : List Component}
    (content : Option (List Component)) {r : Rule} (head : IsHead keyword (IsPrelude p) cs)
    (reads : ∀ prelude, conditionText prelude = p →
      (readAtRule .start keyword prelude content).placeless Rule.erase = ⟨r.erase, []⟩) :
    Adds outerRules r.erase (cs ++ [Node.ending content]) := by
  obtain ⟨v, prelude, rfl, shown, free⟩ := head
  have read : (readNode (.atRule .start keyword prelude content)).placeless
      (Option.map Rule.erase) = ⟨some r.erase, []⟩ := by
    obtain ⟨value, faultless⟩ := Findings.mk.injEq .. ▸ reads prelude shown
    exact congr (congrArg Findings.mk (congrArg some value)) faultless
  exact adds_of_node (Node.ofSheet_atRule keyword free content) read

/-- What an at-rule adds to a group. -/
theorem adds_innerRules_of_head {keyword : List Char} {p : String} {cs : List Component}
    {content : Option (List Component)} {r : AtRule} (head : IsHead keyword (IsPrelude p) cs)
    (reads : ∀ prelude, conditionText prelude = p →
      (Rule.atRule (readVerbatim .start keyword prelude content)).erase = (Rule.atRule r).erase) :
    Adds innerRules (Rule.atRule r).erase (cs ++ [Node.ending content]) := by
  obtain ⟨v, prelude, rfl, shown, free⟩ := head
  have read : (readGrouped (.atRule .start keyword prelude content)).placeless
      (Option.map Rule.erase) = ⟨some (Rule.atRule r).erase, []⟩ := by
    rw [← reads prelude shown]
    rfl
  exact adds_of_node (Node.ofBlock_atRule keyword free content) read

/-- The components of a verbatim at-rule: its head and what ends it. -/
def IsVerbatimRule (name : List Char) (prelude : String) (block : Option String)
    (cs : List Component) : Prop :=
  ∃ head content, cs = head ++ [Node.ending content] ∧ IsHead name (IsPrelude prelude) head ∧
    content.map (fun cs => String.ofList (Text.trim (Css.text cs))) = block

theorem readsBefore_verbatim {closer : Option Bracket} {r : AtRule}
    (legible : r.IsLegible closer) (layout : Layout) (level : Nat) :
    ReadsBefore closer ((Rule.atRule r).text layout level)
      (IsVerbatimRule r.name.toList r.prelude r.block) := by
  have head := readsAs_prelude legible.name legible.prelude
  cases shape : r.block with
  | none =>
    have ended : ReadsBefore closer _ (IsVerbatimRule r.name.toList r.prelude none) :=
      head.semicolon fun cs holds => ⟨cs, none, rfl, holds, rfl⟩
    simpa [Rule.text, Layout.atRule, shape] using ended.indent layout level
  | some b =>
    have verbatim : IsVerbatim b := legible.block b shape
    have ended {body : List Char}
        (block : IsBlockOf body fun cs => String.ofList (Text.trim (Css.text cs)) = b) :
        ReadsBefore closer _ (IsVerbatimRule r.name.toList r.prelude (some b)) :=
      head.block block fun cs content holds same =>
        ⟨cs, some content, rfl, holds, congrArg some same⟩
    cases layout with
    | pretty =>
      have block := verbatim.isBlockOf .space .space .space
      simpa [Rule.text, Layout.atRule, shape] using (ended block).indent .pretty level
    | compressed =>
      have block := verbatim.isBlockOf .nil .nil .nil
      simpa [Rule.text, Layout.atRule, shape] using (ended block).indent .compressed level

theorem erase_readVerbatim {r : AtRule} {p : Position} {prelude : List Component}
    {content : Option (List Component)} (shown : conditionText prelude = r.prelude)
    (same : content.map (fun cs => String.ofList (Text.trim (Css.text cs))) = r.block) :
    (Rule.atRule (readVerbatim p r.name.toList prelude content)).erase =
      (Rule.atRule r).erase := by
  rw [readVerbatim, shown, same, String.ofList_toList, Rule.erase, Rule.erase]

theorem adds_innerRules_of_isVerbatimRule {r : AtRule} {cs : List Component}
    (given : IsVerbatimRule r.name.toList r.prelude r.block cs) :
    Adds innerRules (Rule.atRule r).erase cs := by
  obtain ⟨head, content, rfl, isHead, same⟩ := given
  exact adds_innerRules_of_head isHead fun prelude shown => erase_readVerbatim shown same

theorem adds_outerRules_of_isVerbatimRule {r : AtRule} {cs : List Component}
    (verbatim : IsVerbatimName r.name.toList)
    (given : IsVerbatimRule r.name.toList r.prelude r.block cs) :
    Adds outerRules (Rule.atRule r).erase cs := by
  obtain ⟨head, content, rfl, isHead, same⟩ := given
  obtain ⟨others, noFrames⟩ := verbatim
  simp only [List.mem_cons, List.not_mem_nil, or_false, not_or] at others
  obtain ⟨noMedia, noSupports, noFont, noCharset⟩ := others
  refine adds_outerRules_of_head content isHead fun prelude shown => ?_
  have dispatch : readAtRule .start r.name.toList prelude content =
      ⟨.atRule (readVerbatim .start r.name.toList prelude content), []⟩ := by
    unfold readAtRule
    simp only [if_neg noMedia, if_neg noSupports, if_neg noFont, if_neg noCharset, noFrames]
  rw [dispatch, Findings.placeless, erase_readVerbatim shown same, List.map_nil]

/-! ## Groups, font faces and keyframes -/

theorem innerRules_blank (w : List Char) (rest : List Component) :
    innerRules (blank w ++ rest) = innerRules rest := by
  rw [innerRules, Node.ofBlock_blank, innerRules]

theorem innerRules_nil : innerRules [] = ⟨[], []⟩ := by
  rw [innerRules, Node.ofBlock]
  rfl

theorem framesOf_blank (w : List Char) (rest : List Component) :
    framesOf (blank w ++ rest) = framesOf rest := by
  rw [framesOf, Node.ofBlock_blank, framesOf]

theorem framesOf_nil : framesOf [] = ⟨[], []⟩ := by
  rw [framesOf, Node.ofBlock]
  rfl

theorem outerRules_blank (w : List Char) (rest : List Component) :
    outerRules (blank w ++ rest) = outerRules rest := by
  rw [outerRules, Node.ofSheet_blank, outerRules]

theorem outerRules_nil : outerRules [] = ⟨[], []⟩ := by
  rw [outerRules, Node.ofSheet]
  rfl

/-- A block of rules that add an item each. -/
theorem isBlockOf_rules {α β : Type} {read : List Component → Findings (List β)}
    (skips : ∀ w rest, read (blank w ++ rest) = read rest) (empty : read [] = ⟨[], []⟩)
    {gap : List Char} (spaces : IsSpaces gap) {text : α → List Char} {item : α → β}
    {sources : List α}
    (each : ∀ a ∈ sources, ReadsBefore (some .curly) (text a) (Adds read (item a)))
    (layout : Layout) (level : Nat) :
    IsBlockOf (layout.rules level gap (sources.map text))
      fun cs => read cs = ⟨sources.map item, []⟩ := by
  cases layout with
  | pretty =>
    have lines := readsAs_intercalate skips empty spaces each
    have block := lines.isBlockOf .space .newline
      (IsSpaces.newline.append (isSpaces_indentation level))
    simpa [Layout.rules] using block
  | compressed =>
    have block := (readsAs_intercalate skips empty .nil each).isBlockOf .nil .nil .nil
    simpa [Layout.rules, flatten_eq_intercalate] using block

theorem readsBefore_inner {r : Rule} (legible : r.IsLegible (some .curly)) (layout : Layout)
    (level : Nat) :
    ReadsBefore (some .curly) (r.text layout level) (Adds innerRules r.erase) := by
  cases legible with
  | style legible =>
    obtain ⟨first, others, selectors, -⟩ := legible.selectors
    exact (readsBefore_style legible layout level).mono fun cs style =>
      adds_innerRules_of_isStyle style (by rw [selectors]; nofun)
  | atRule legible =>
    exact (readsBefore_verbatim legible layout level).mono fun cs =>
      adds_innerRules_of_isVerbatimRule

theorem texts_eq (layout : Layout) (level : Nat) (rules : List Rule) :
    Rule.text.texts layout level rules = rules.map (Rule.text layout (level + 1)) := by
  induction rules with
  | nil => rfl
  | cons r rest ih => rw [Rule.text.texts, ih, List.map_cons]

theorem isPlainName_keyword (kind : GroupKind) : IsPlainName kind.keyword.toList := by
  cases kind <;> exact isPlainName_of_all (by decide)

theorem readsBefore_group {kind : GroupKind} {condition : String} {inner : List Rule}
    {position : Option Position} (shown : IsCondition none condition)
    (legible : ∀ r ∈ inner, r.IsLegible (some .curly)) (layout : Layout) (level : Nat) :
    ReadsBefore none ((Rule.group kind condition inner position).text layout level)
      (Adds outerRules (Rule.group kind condition inner position).erase) := by
  have head := readsAs_head (isPlainName_keyword kind) shown
  have line : IsSpaces ['\n', '\n'] := IsSpaces.newline.append .newline
  have body := isBlockOf_rules innerRules_blank innerRules_nil line
    (fun r mem => readsBefore_inner (legible r mem) layout (level + 1)) layout level
  have whole : ReadsBefore none _
      (Adds outerRules (Rule.group kind condition inner position).erase) :=
    head.block body fun cs content isHead read => by
      refine adds_outerRules_of_head (some content) isHead fun prelude same => ?_
      have dispatch : readAtRule .start kind.keyword.toList prelude (some content) =
          readGroup kind .start prelude (some content) := by
        cases kind <;> rfl
      obtain ⟨rules, faultless⟩ := Findings.mk.injEq .. ▸ read
      rw [dispatch, readGroup, same, Findings.placeless_map, Rule.erase, Rule.eraseAll_eq,
        ← rules]
      refine congr (congrArg Findings.mk ?_) faultless
      rw [Function.comp_apply, Rule.erase, Rule.eraseAll_eq]
      rfl
  rw [Rule.text, texts_eq]
  simpa using whole.indent layout level

theorem readsBefore_fontFace {ds : List Declaration} {position : Option Position}
    (legible : ∀ d ∈ ds, d.IsLegible) (layout : Layout) (level : Nat) :
    ReadsBefore none ((Rule.fontFace ds position).text layout level)
      (Adds outerRules (Rule.fontFace ds position).erase) := by
  have plain : IsPlainName "font-face".toList :=
    isPlainName_of_all (by decide)
  have head : ReadsAs none ('@' :: "font-face".toList)
      (IsHead "font-face".toList (IsPrelude "")) := by
    intro v w left right
    obtain ⟨cs, spelled, u, prelude, rfl, t, rfl⟩ := readsAs_keyword plain v w left right
    exact ⟨_, spelled, u, blank t, rfl, isPrelude_blank t⟩
  have body := isBlockOf_declarations legible layout level
  have whole : ReadsBefore none _ (Adds outerRules (Rule.fontFace ds position).erase) :=
    head.block body fun cs content isHead read => by
      refine adds_outerRules_of_head (some content) isHead fun prelude _ => ?_
      have dispatch : readAtRule .start "font-face".toList prelude (some content) =
          (readDeclarations content).map fun ds => .fontFace ds (some .start) := rfl
      simp only [dispatch, read, Findings.map, Findings.placeless, Rule.erase, List.map_nil]
  rw [Rule.text]
  simpa using whole.indent layout level

theorem readsBefore_charset {c : String} {position : Option Position}
    (shown : IsCondition none c) (layout : Layout) (level : Nat) :
    ReadsBefore none ((Rule.charset c position).text layout level)
      (Adds outerRules (Rule.charset c position).erase) := by
  have plain : IsPlainName "charset".toList :=
    isPlainName_of_all (by decide)
  have head := readsAs_head plain shown
  have whole : ReadsBefore none _ (Adds outerRules (Rule.charset c position).erase) :=
    head.semicolon fun cs isHead => by
      refine adds_outerRules_of_head none isHead fun prelude same => ?_
      have dispatch : readAtRule .start "charset".toList prelude none =
          ⟨.charset (conditionText prelude) (some .start), []⟩ := rfl
      rw [dispatch, same, Rule.erase, Findings.placeless, Rule.erase, List.map_nil]
  rw [Rule.text]
  simpa using whole.indent layout level

theorem readsBefore_keyframes {name vendor : String} {frames : List Keyframe}
    {position : Option Position} (shown : IsCondition none name)
    (known : vendor ∈ keyframesVendors.map Prod.snd) (legible : ∀ f ∈ frames, f.IsLegible)
    (layout : Layout) (level : Nat) :
    ReadsBefore none ((Rule.keyframes name vendor frames position).text layout level)
      (Adds outerRules (Rule.keyframes name vendor frames position).erase) := by
  have keyword : IsPlainName (vendor.toList ++ "keyframes".toList) ∧
      ∀ prelude content, readAtRule .start (vendor.toList ++ "keyframes".toList) prelude content =
        (Findings.collect readFrame (Node.ofBlock (content.getD []))).map fun frames =>
          .keyframes (conditionText prelude) vendor frames (some .start) := by
    simp only [keyframesVendors, List.map_cons, List.map_nil, List.mem_cons, List.not_mem_nil,
      or_false] at known
    rcases known with rfl | rfl | rfl | rfl | rfl <;>
    · exact ⟨isPlainName_of_all (by decide), fun prelude content => rfl⟩
  obtain ⟨plain, dispatch⟩ := keyword
  have head := readsAs_head plain shown
  have body := isBlockOf_rules framesOf_blank framesOf_nil .newline
    (fun f mem => readsBefore_keyframe (legible f mem) layout (level + 1)) layout level
  have whole : ReadsBefore none _
      (Adds outerRules (Rule.keyframes name vendor frames position).erase) :=
    head.block body fun cs content isHead read => by
      refine adds_outerRules_of_head (some content) isHead fun prelude same => ?_
      obtain ⟨value, faultless⟩ := Findings.mk.injEq .. ▸ read
      rw [dispatch, same, Findings.placeless_map, Rule.erase]
      refine congr (congrArg Findings.mk ?_) faultless
      rw [Function.comp_apply, Rule.erase]
      exact congrArg (Rule.keyframes name vendor · none) value
  rw [Rule.text]
  simpa using whole.indent layout level

/-- The end of a comment ends it whatever follows. -/
theorem readComment_append {text : List Char}
    (reads : readComment (text ++ ['*', '/']) = (text, [])) (k : List Char) :
    readComment (text ++ '*' :: '/' :: k) = (text, k) := by
  induction text with
  | nil => rfl
  | cons c text ih =>
    have unended (k : List Char) : ∀ rest, c = '*' → text ++ '*' :: '/' :: k ≠ '/' :: rest := by
      rintro rest rfl shape
      rcases text with _ | ⟨d, text⟩
      · cases shape
      · cases (List.cons.inj shape).1
        rw [List.cons_append, List.cons_append, readComment] at reads
        cases (Prod.mk.inj reads).1
    have step (k : List Char) : readComment (c :: (text ++ '*' :: '/' :: k)) =
        (c :: (readComment (text ++ '*' :: '/' :: k)).1,
          (readComment (text ++ '*' :: '/' :: k)).2) := by
      rw [readComment]
      exact unended k
    rw [List.cons_append, step []] at reads
    obtain ⟨inner, after⟩ := Prod.mk.inj reads
    have whole := ih (Prod.ext (List.cons.inj inner).2 after)
    rw [List.cons_append, step k, whole]

theorem readsBefore_comment {text : String} {position : Option Position}
    (reads : readComment (text.toList ++ ['*', '/']) = (text.toList, []))
    (uniform : ∀ c ∈ text.toList, isUniform c = true) (layout : Layout) (level : Nat) :
    ReadsBefore none ((Rule.comment text position).text layout level)
      (Adds outerRules (Rule.comment text position).erase) := by
  have one : ReadsBefore none ('/' :: ('*' :: text.toList ++ ['*', '/']))
      (Adds outerRules (Rule.comment text position).erase) := by
    intro v left
    have comment : Spells none Anything ('/' :: ('*' :: text.toList ++ ['*', '/']))
        [.token .start (.comment text.toList)] := by
      refine Spells.token (fun k _ => ?_) nofun rfl fun c mem => ?_
      · have marked (k : List Char) : readLexeme '/' ('*' :: k) =
            (.token (.comment (readComment k).1), (readComment k).2) := rfl
        have ended := readComment_append reads k
        rw [List.cons_append, List.cons_append, marked, List.append_assoc]
        exact congrArg (fun x => (Lexeme.token (.comment x.1), x.2)) ended
      · simp only [List.cons_append, List.mem_cons, List.mem_append, List.not_mem_nil,
          or_false] at mem
        rcases mem with rfl | rfl | inside | rfl | rfl
        · decide
        · decide
        · exact uniform c inside
        · decide
        · decide
    have before : Spells none Unspaced v (blank v) := spells_blank left
    refine ⟨_, before.append comment fun k _ c first => ?_, ?_⟩
    · cases first
      rfl
    · have cut (rest : List Component) :
          Node.ofSheet (blank v ++ [.token .start (.comment text.toList)] ++ rest) =
            .comment .start text.toList :: Node.ofSheet rest := by
        rw [List.append_assoc, Node.ofSheet_blank, List.singleton_append, Node.ofSheet]
      refine adds_of_node cut ?_
      simp only [readNode, Findings.placeless, Option.map_some, Rule.erase,
        String.ofList_toList, List.map_nil]
  rw [Rule.text]
  simpa using one.indent layout level

theorem readsBefore_outer {r : Rule} (legible : r.IsLegible none) (layout : Layout)
    (level : Nat) : ReadsBefore none (r.text layout level) (Adds outerRules r.erase) := by
  cases legible with
  | style legible =>
    obtain ⟨first, others, selectors, -⟩ := legible.selectors
    exact (readsBefore_style legible layout level).mono fun cs style =>
      adds_outerRules_of_isStyle style (by rw [selectors]; nofun)
  | atRule legible =>
    exact (readsBefore_verbatim legible layout level).mono fun cs =>
      adds_outerRules_of_isVerbatimRule (legible.verbatim rfl)
  | group shown inner => exact readsBefore_group shown inner layout level
  | fontFace legible => exact readsBefore_fontFace legible layout level
  | charset shown => exact readsBefore_charset shown layout level
  | keyframes shown known legible => exact readsBefore_keyframes shown known legible layout level
  | comment reads uniform => exact readsBefore_comment reads uniform layout level

/-! ## Stylesheets -/

/-- A text that adds something to what is read is not empty. -/
theorem ne_nil_of_adds {α : Type} {read : List Component → Findings (List α)} {item : α}
    {s : List Char} (adds : ReadsBefore none s (Adds read item)) : s ≠ [] := by
  rintro rfl
  obtain ⟨cs, spelled, adds⟩ := adds [] .nil
  have none : lexemesOf cs = [] := by
    have reads := spelled.reads [] trivial
    rw [List.append_nil, List.append_nil, lexemes_nil, List.append_nil] at reads
    exact reads.symm
  have empty : cs = [] := eq_nil_of_lexemesOf_eq_nil none
  subst empty
  have values := congrArg (fun x : Findings (List α) => x.value.length) (adds [])
  simp at values

/-- **A stylesheet whose texts read as themselves is read back from either layout.** -/
theorem parseStrict_print_of_legible {sheet : Stylesheet} (legible : ∀ r ∈ sheet, r.IsLegible none)
    (layout : Layout) :
    ∃ sheet', parseStrict (print layout sheet) = .ok sheet' ∧
      sheet'.map Rule.erase = sheet.map Rule.erase := by
  have each : ∀ r ∈ sheet, ReadsBefore none (r.text layout 0) (Adds outerRules r.erase) :=
    fun r mem => readsBefore_outer (legible r mem) layout 0
  have chunks : (sheet.map (Rule.text layout 0)).filter (!·.isEmpty) =
      sheet.map (Rule.text layout 0) := by
    refine List.filter_eq_self.2 fun chunk mem => ?_
    obtain ⟨r, inSheet, rfl⟩ := List.mem_map.1 mem
    simpa using ne_nil_of_adds (each r inSheet)
  have joined : ∃ gap, IsSpaces gap ∧
      text layout sheet = gap.intercalate (sheet.map (Rule.text layout 0)) := by
    unfold text
    simp only [chunks]
    cases layout with
    | pretty => exact ⟨['\n', '\n'], by simp [IsSpaces, isSpace], rfl⟩
    | compressed => exact ⟨[], .nil, flatten_eq_intercalate _⟩
  obtain ⟨gap, spaces, written⟩ := joined
  obtain ⟨cs, spelled, reads⟩ :=
    readsAs_intercalate outerRules_blank outerRules_nil spaces each [] [] .nil .nil
  rw [List.nil_append, List.append_nil, ← written] at spelled
  exact parseStrict_of_spells spelled reads

end Stylesheet

end CriticalCss
