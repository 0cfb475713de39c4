import CriticalCss.Proofs.Stylesheet.Reader

/-!
# What becomes of the pieces of a text

The grammar finds nodes in a text, in the blocks of its groups and keyframes, and entries in its
blocks of declarations: the `Piece`s of the text. A stylesheet says something in each of its
`Part`s: its rules, its keyframes and its declarations. Reading makes the parts of the pieces, in
order, and reports the others (`Stylesheet.read_accounts`). The one kind of piece that neither
becomes a part nor is reported is an at-rule among declarations or keyframes.
-/

namespace CriticalCss

open Css

/-! ## Pieces and parts -/

/-- A node or an entry with the place where the grammar finds it. -/
inductive Piece where
  /-- A node of the stylesheet itself. -/
  | outer (node : Node)
  /-- A node of the block of a media or supports rule. -/
  | grouped (node : Node)
  /-- A node of the block of keyframes. -/
  | frame (node : Node)
  /-- An entry of a block of declarations. -/
  | entry (entry : Entry)

/-- What a stylesheet says in one place: a rule, a keyframe or a declaration, each without what
is inside it. -/
inductive Part where
  | style (selectors : List String) (position : Option Position)
  | atRule (rule : AtRule)
  | group (kind : GroupKind) (condition : String) (position : Option Position)
  | fontFace (position : Option Position)
  | charset (text : String) (position : Option Position)
  | keyframes (name vendor : String) (position : Option Position)
  | keyframe (values : List String) (position : Option Position)
  | declaration (d : Declaration)
  | comment (text : String) (position : Option Position)
deriving DecidableEq, Repr

def StyleRule.parts (r : StyleRule) : List Part :=
  .style r.selectors r.position :: r.declarations.map .declaration

def Keyframe.parts (f : Keyframe) : List Part :=
  .keyframe f.values f.position :: f.declarations.map .declaration

/-- The parts of a rule, those inside it included. -/
def Rule.parts : Rule → List Part
  | style r => r.parts
  | atRule r => [.atRule r]
  | group kind condition inner position => .group kind condition position :: partsAll inner
  | fontFace ds position => .fontFace position :: ds.map .declaration
  | charset text position => [.charset text position]
  | keyframes name vendor frames position =>
    .keyframes name vendor position :: frames.flatMap Keyframe.parts
  | keyframe f => f.parts
  | comment text position => [.comment text position]
where
  /-- The parts of rules in a row. -/
  partsAll : List Rule → List Part
    | [] => []
    | r :: rest => r.parts ++ partsAll rest

theorem Rule.partsAll_eq (rules : List Rule) :
    Rule.parts.partsAll rules = rules.flatMap Rule.parts := by
  induction rules with
  | nil => rfl
  | cons r rest ih => rw [parts.partsAll, ih, List.flatMap_cons]

/-- The parts of a stylesheet. -/
def Stylesheet.parts (sheet : Stylesheet) : List Part :=
  sheet.flatMap Rule.parts

namespace Stylesheet

/-! ## The pieces of a text -/

/-- What an at-rule at the top level is, by its keyword. -/
inductive AtKind where
  | group (kind : GroupKind)
  | fontFace
  | charset
  | keyframes (vendor : String)
  | other
deriving DecidableEq, Repr

/-- The kind of an at-rule; the case of its keyword does not count. -/
def AtKind.ofKeyword (keyword : List Char) : AtKind :=
  let name := lowerText keyword
  if name = "media" then .group .media
  else if name = "supports" then .group .supports
  else if name = "font-face" then .fontFace
  else if name = "charset" then .charset
  else
    match keyframesVendors.lookup name with
    | some vendor => .keyframes vendor
    | none => .other

/-- The pieces of a block of declarations. -/
def entryPieces (content : List Component) : List Piece :=
  (Entry.ofBlock content).map .entry

/-- The pieces inside a rule with selectors; a rule without them is not looked into. -/
def stylePieces (prelude content : List Component) : List Piece :=
  if selectorTexts prelude = [] then [] else entryPieces content

/-- A node of the block of a media or supports rule, and the pieces inside it. -/
def groupedPieces (node : Node) : List Piece :=
  .grouped node ::
    match node with
    | .qualified _ prelude content => stylePieces prelude content
    | _ => []

/-- A node of the block of keyframes, and the pieces inside it. -/
def framePieces (node : Node) : List Piece :=
  .frame node ::
    match node with
    | .qualified _ _ content => entryPieces content
    | _ => []

/-- The pieces inside an at-rule of a kind. -/
def atRulePieces (kind : AtKind) (content : List Component) : List Piece :=
  match kind with
  | .group _ => (Node.ofBlock content).flatMap groupedPieces
  | .fontFace => entryPieces content
  | .keyframes _ => (Node.ofBlock content).flatMap framePieces
  | .charset | .other => []

/-- A node of the stylesheet, and the pieces inside it. -/
def outerPieces (node : Node) : List Piece :=
  .outer node ::
    match node with
    | .qualified _ prelude content => stylePieces prelude content
    | .atRule _ keyword _ content => atRulePieces (.ofKeyword keyword) (content.getD [])
    | _ => []

/-- The pieces of a text, in order. -/
def pieces (css : String) : List Piece :=
  (Node.ofSheet (components css.toList)).flatMap outerPieces

end Stylesheet

/-! ## What a piece becomes -/

namespace Piece

open Stylesheet

/-- The part that a rule with selectors becomes. -/
def stylePart? (position : Position) (prelude : List Component) : Option Part :=
  match selectorTexts prelude with
  | [] => none
  | selectors => some (.style selectors (some position))

/-- What is reported of a rule without selectors. -/
def styleReport? (position : Position) (prelude : List Component) : Option Diagnostic :=
  match selectorTexts prelude with
  | [] => some (.missingSelector position)
  | _ => none

/-- The part that an at-rule at the top level becomes. -/
def atRulePart (position : Position) (keyword : List Char) (prelude : List Component)
    (content : Option (List Component)) : Part :=
  match AtKind.ofKeyword keyword with
  | .group kind => .group kind (conditionText prelude) (some position)
  | .fontFace => .fontFace (some position)
  | .charset => .charset (conditionText prelude) (some position)
  | .keyframes vendor => .keyframes (conditionText prelude) vendor (some position)
  | .other => .atRule (readVerbatim position keyword prelude content)

/-- The part that a piece becomes. -/
def part? : Piece → Option Part
  | outer (.comment position words) => some (.comment (String.ofList words) (some position))
  | outer (.qualified position prelude _) => stylePart? position prelude
  | outer (.atRule position keyword prelude content) =>
    some (atRulePart position keyword prelude content)
  | grouped (.qualified position prelude _) => stylePart? position prelude
  | grouped (.atRule position keyword prelude content) =>
    some (.atRule (readVerbatim position keyword prelude content))
  | frame (.qualified position prelude _) =>
    some (.keyframe (selectorTexts prelude) (some position))
  | entry (.declaration _ name value important) =>
    some (.declaration ⟨String.ofList name, valueText value important⟩)
  | _ => none

/-- What is reported of a piece. -/
def report? : Piece → Option Diagnostic
  | outer (.qualified position prelude _) => styleReport? position prelude
  | grouped (.qualified position prelude _) => styleReport? position prelude
  | outer (.invalid position fault) => some (.invalid position fault)
  | grouped (.invalid position fault) => some (.invalid position fault)
  | frame (.invalid position fault) => some (.invalid position fault)
  | entry (.invalid position fault) => some (.invalid position fault)
  | _ => none

/-- An at-rule among declarations or keyframes. -/
def IsPassedOver : Piece → Prop
  | entry (.atRule _ _) => True
  | frame (.atRule _ _ _ _) => True
  | _ => False

/-- The piece becomes a part and is not reported, or is reported and becomes none. -/
def IsAccountedFor (piece : Piece) : Prop :=
  (piece.part?.isSome = true ∧ piece.report? = none) ∨
    (piece.part? = none ∧ piece.report?.isSome = true)

theorem isAccountedFor_of_style {piece : Piece} {position : Position} {prelude : List Component}
    (becomes : piece.part? = stylePart? position prelude)
    (reports : piece.report? = styleReport? position prelude) : piece.IsAccountedFor := by
  unfold IsAccountedFor
  rw [becomes, reports]
  unfold stylePart? styleReport?
  cases selectorTexts prelude with
  | nil => exact Or.inr ⟨rfl, rfl⟩
  | cons => exact Or.inl ⟨rfl, rfl⟩

end Piece

/-! ## Reading keeps the account -/

/-- What was found accounts for the pieces: its parts are those that they become, and its
findings are their reports, both in order. -/
def Findings.Accounts {α : Type} (parts : α → List Part) (found : Findings α)
    (pieces : List Piece) : Prop :=
  parts found.value = pieces.filterMap Piece.part? ∧
    found.diagnostics = pieces.filterMap Piece.report?

/-- A reader that accounts for every item accounts for all of them in a row. -/
theorem Findings.Accounts.collect {α β : Type} {f : α → Findings (Option β)}
    {parts : β → List Part} {pieces : α → List Piece} {items : List α}
    (each : ∀ a ∈ items, (f a).Accounts (fun b => b.toList.flatMap parts) (pieces a)) :
    (Findings.collect f items).Accounts (fun bs => bs.flatMap parts)
      (items.flatMap pieces) := by
  induction items with
  | nil => exact ⟨rfl, rfl⟩
  | cons a rest ih =>
    obtain ⟨firstParts, firstReports⟩ := each a List.mem_cons_self
    obtain ⟨moreParts, moreReports⟩ := ih fun b mem => each b (List.mem_cons_of_mem _ mem)
    constructor
    · rw [Findings.collect, List.flatMap_cons, List.filterMap_append, ← firstParts, ← moreParts]
      exact List.flatMap_append
    · rw [Findings.collect, List.flatMap_cons, List.filterMap_append, ← firstReports,
        ← moreReports]

/-- What is read of the inside of a piece, and the part that the piece itself becomes. -/
theorem Findings.Accounts.map {α β : Type} {found : Findings α} {parts : α → List Part}
    {whole : β → List Part} {f : α → β} {inside : List Piece}
    (account : found.Accounts parts inside) {piece : Piece} {part : Part}
    (becomes : piece.part? = some part) (silent : piece.report? = none)
    (shape : ∀ a, whole (f a) = part :: parts a) :
    (found.map f).Accounts whole (piece :: inside) := by
  obtain ⟨sameParts, sameReports⟩ := account
  constructor
  · rw [Findings.map, shape, sameParts, List.filterMap_cons, becomes]
  · rw [Findings.map, sameReports, List.filterMap_cons, silent]

namespace Stylesheet

theorem accounts_readDeclarations (content : List Component) :
    (readDeclarations content).Accounts (List.map .declaration) (entryPieces content) := by
  have flat : (List.map Part.declaration) = fun ds => ds.flatMap fun d => [.declaration d] := by
    funext ds
    rw [List.map_eq_flatMap]
  have pieces : entryPieces content = (Entry.ofBlock content).flatMap fun e => [.entry e] := by
    rw [entryPieces, List.map_eq_flatMap]
  rw [flat, pieces]
  refine Findings.Accounts.collect fun e mem => ?_
  cases e <;> exact ⟨rfl, rfl⟩

theorem accounts_readStyle {position : Position} {prelude content : List Component}
    {piece : Piece} (becomes : piece.part? = Piece.stylePart? position prelude)
    (reports : piece.report? = Piece.styleReport? position prelude) :
    ((readStyle position prelude content).map (·.map Rule.style)).Accounts
      (fun r => r.toList.flatMap Rule.parts) (piece :: stylePieces prelude content) := by
  unfold Piece.stylePart? at becomes
  unfold Piece.styleReport? at reports
  unfold readStyle stylePieces
  split
  · rename_i none
    rw [none] at becomes reports
    rw [if_pos none]
    constructor
    · rw [List.filterMap_cons, becomes]
      rfl
    · rw [List.filterMap_cons, reports]
      rfl
  · rename_i some
    rw [if_neg some]
    split at becomes
    · rename_i none
      exact (some none).elim
    split at reports
    · rename_i none
      exact (some none).elim
    exact (accounts_readDeclarations content).map becomes reports fun ds =>
      List.flatMap_singleton _ _

theorem accounts_readGrouped (node : Node) :
    (readGrouped node).Accounts (fun r => r.toList.flatMap Rule.parts) (groupedPieces node) := by
  cases node with
  | qualified position prelude content => exact accounts_readStyle rfl rfl
  | atRule | invalid | comment => exact ⟨rfl, rfl⟩

theorem accounts_readFrame (node : Node) :
    (readFrame node).Accounts (fun f => f.toList.flatMap Keyframe.parts) (framePieces node) := by
  cases node with
  | qualified position prelude content =>
    exact (accounts_readDeclarations content).map rfl rfl fun ds => List.flatMap_singleton _ _
  | atRule | invalid | comment => exact ⟨rfl, rfl⟩

theorem accounts_readGroup {kind : GroupKind} {position : Position} {prelude : List Component}
    {content : Option (List Component)} {piece : Piece}
    (becomes : piece.part? = some (.group kind (conditionText prelude) (some position)))
    (silent : piece.report? = none) :
    (readGroup kind position prelude content).Accounts Rule.parts
      (piece :: atRulePieces (.group kind) (content.getD [])) := by
  refine Findings.Accounts.map (.collect fun node _ => accounts_readGrouped node) becomes silent
    fun rules => ?_
  rw [Rule.parts, Rule.partsAll_eq]

theorem accounts_readAtRule (position : Position) (keyword : List Char)
    (prelude : List Component) (content : Option (List Component)) :
    (readAtRule position keyword prelude content).Accounts Rule.parts
      (outerPieces (.atRule position keyword prelude content)) := by
  have becomes : (Piece.outer (.atRule position keyword prelude content)).part? =
      some (Piece.atRulePart position keyword prelude content) := rfl
  have silent : (Piece.outer (.atRule position keyword prelude content)).report? = none := rfl
  unfold readAtRule outerPieces
  unfold Piece.atRulePart at becomes
  simp only [AtKind.ofKeyword] at becomes ⊢
  split
  · rename_i media
    rw [if_pos media] at becomes
    exact accounts_readGroup becomes silent
  rename_i noMedia
  rw [if_neg noMedia] at becomes
  split
  · rename_i supports
    rw [if_pos supports] at becomes
    exact accounts_readGroup becomes silent
  rename_i noSupports
  rw [if_neg noSupports] at becomes
  split
  · rename_i fontFace
    rw [if_pos fontFace] at becomes
    exact (accounts_readDeclarations _).map becomes silent fun ds => rfl
  rename_i noFontFace
  rw [if_neg noFontFace] at becomes
  split
  · rename_i charset
    rw [if_pos charset] at becomes
    exact ⟨by rw [List.filterMap_cons, becomes]; rfl, rfl⟩
  rename_i noCharset
  rw [if_neg noCharset] at becomes
  cases named : keyframesVendors.lookup (lowerText keyword) with
  | some vendor =>
    rw [named] at becomes
    exact Findings.Accounts.map (.collect fun node _ => accounts_readFrame node) becomes silent
      fun frames => rfl
  | none =>
    rw [named] at becomes
    exact ⟨by rw [List.filterMap_cons, becomes]; rfl, rfl⟩

theorem accounts_readNode (node : Node) :
    (readNode node).Accounts (fun r => r.toList.flatMap Rule.parts) (outerPieces node) := by
  cases node with
  | comment | invalid => exact ⟨rfl, rfl⟩
  | qualified position prelude content => exact accounts_readStyle rfl rfl
  | atRule position keyword prelude content =>
    obtain ⟨sameParts, sameReports⟩ := accounts_readAtRule position keyword prelude content
    exact ⟨by rw [← sameParts]; exact List.flatMap_singleton _ _, sameReports⟩

theorem accounts_read {css : String} {found : Findings Stylesheet}
    (given : read css = .ok found) : found.Accounts parts (pieces css) := by
  unfold read at given
  split at given
  · cases given
  · cases given
    exact Findings.Accounts.collect fun node _ => accounts_readNode node

end Stylesheet

/-! ## No piece is left out -/

/-- A rule is no comment. -/
theorem Css.Node.readRule_ne_comment (first : Component) (rest : List Component)
    (position : Position) (text : List Char) :
    (readRule first rest).1 ≠ .comment position text := by
  unfold readRule
  split
  · exact fun same => by cases same
  · simp only
    split <;> exact fun same => by cases same

/-- Comments inside a block are no nodes. -/
theorem Css.Node.comment_not_mem_ofBlock (cs : List Component) (position : Position)
    (text : List Char) : .comment position text ∉ ofBlock cs := by
  fun_induction ofBlock cs with
  | case1 => exact List.not_mem_nil
  | case2 c rest significant ih =>
    intro mem
    rcases List.mem_cons.1 mem with here | later
    · exact readRule_ne_comment c rest position text here.symm
    · exact ih later
  | case3 c rest insignificant ih => exact ih

namespace Stylesheet

theorem settled_of_mem_entryPieces {content : List Component} {piece : Piece}
    (mem : piece ∈ entryPieces content) : piece.IsPassedOver ∨ piece.IsAccountedFor := by
  obtain ⟨e, -, rfl⟩ := List.mem_map.1 mem
  cases e with
  | declaration => exact Or.inr (Or.inl ⟨rfl, rfl⟩)
  | atRule => exact Or.inl trivial
  | invalid => exact Or.inr (Or.inr ⟨rfl, rfl⟩)

theorem settled_of_mem_stylePieces {prelude content : List Component} {piece : Piece}
    (mem : piece ∈ stylePieces prelude content) : piece.IsPassedOver ∨ piece.IsAccountedFor := by
  unfold stylePieces at mem
  split at mem
  · cases mem
  · exact settled_of_mem_entryPieces mem

theorem settled_of_mem_groupedPieces {node : Node} (silent : ∀ p text, node ≠ .comment p text)
    {piece : Piece} (mem : piece ∈ groupedPieces node) :
    piece.IsPassedOver ∨ piece.IsAccountedFor := by
  unfold groupedPieces at mem
  rcases List.mem_cons.1 mem with rfl | inside
  · cases node with
    | qualified => exact Or.inr (Piece.isAccountedFor_of_style rfl rfl)
    | atRule => exact Or.inr (Or.inl ⟨rfl, rfl⟩)
    | invalid => exact Or.inr (Or.inr ⟨rfl, rfl⟩)
    | comment p text => exact (silent p text rfl).elim
  · cases node with
    | qualified => exact settled_of_mem_stylePieces inside
    | _ => cases inside

theorem settled_of_mem_framePieces {node : Node} (silent : ∀ p text, node ≠ .comment p text)
    {piece : Piece} (mem : piece ∈ framePieces node) :
    piece.IsPassedOver ∨ piece.IsAccountedFor := by
  unfold framePieces at mem
  rcases List.mem_cons.1 mem with rfl | inside
  · cases node with
    | qualified => exact Or.inr (Or.inl ⟨rfl, rfl⟩)
    | atRule => exact Or.inl trivial
    | invalid => exact Or.inr (Or.inr ⟨rfl, rfl⟩)
    | comment p text => exact (silent p text rfl).elim
  · cases node with
    | qualified => exact settled_of_mem_entryPieces inside
    | _ => cases inside

theorem settled_of_mem_atRulePieces {kind : AtKind} {content : List Component} {piece : Piece}
    (mem : piece ∈ atRulePieces kind content) : piece.IsPassedOver ∨ piece.IsAccountedFor := by
  have silent {node : Node} (inBlock : node ∈ Node.ofBlock content) :
      ∀ p text, node ≠ .comment p text := by
    intro p text same
    subst same
    exact Node.comment_not_mem_ofBlock content p text inBlock
  cases kind with
  | group =>
    obtain ⟨node, inBlock, inside⟩ := List.mem_flatMap.1 mem
    exact settled_of_mem_groupedPieces (silent inBlock) inside
  | fontFace => exact settled_of_mem_entryPieces mem
  | keyframes =>
    obtain ⟨node, inBlock, inside⟩ := List.mem_flatMap.1 mem
    exact settled_of_mem_framePieces (silent inBlock) inside
  | charset | other => cases mem

theorem settled_of_mem_outerPieces {node : Node} {piece : Piece}
    (mem : piece ∈ outerPieces node) : piece.IsPassedOver ∨ piece.IsAccountedFor := by
  unfold outerPieces at mem
  rcases List.mem_cons.1 mem with rfl | inside
  · cases node with
    | qualified => exact Or.inr (Piece.isAccountedFor_of_style rfl rfl)
    | atRule | comment => exact Or.inr (Or.inl ⟨rfl, rfl⟩)
    | invalid => exact Or.inr (Or.inr ⟨rfl, rfl⟩)
  · cases node with
    | qualified => exact settled_of_mem_stylePieces inside
    | atRule => exact settled_of_mem_atRulePieces inside
    | _ => cases inside

theorem settled_of_mem_pieces {css : String} {piece : Piece} (mem : piece ∈ pieces css) :
    piece.IsPassedOver ∨ piece.IsAccountedFor := by
  obtain ⟨node, -, inside⟩ := List.mem_flatMap.1 mem
  exact settled_of_mem_outerPieces inside

/-- A text in which nothing was found wrong is one that nothing was reported of. -/
theorem parseStrict_eq_ok_iff {css : String} {sheet : Stylesheet} :
    parseStrict css = .ok sheet ↔ read css = .ok ⟨sheet, []⟩ := by
  unfold parseStrict
  constructor
  · intro given
    split at given
    · cases given
    · rename_i found
      cases given
      exact found
    · cases given
  · intro found
    rw [found]

/-- **Only at-rules among declarations and keyframes are passed over.** Of every text that can be
read, the parts of the stylesheet are those that the pieces of the text become, in order, and the
findings are the reports of the others. A piece other than an at-rule among declarations or
keyframes becomes a part or is reported, and not both. So all of them become parts if the text is
read without a finding. -/
theorem read_accounts {css : String} {found : Findings Stylesheet}
    (given : read css = .ok found) :
    parse css = .ok found.value ∧
      parts found.value = (pieces css).filterMap Piece.part? ∧
      found.diagnostics = (pieces css).filterMap Piece.report? ∧
      (∀ piece ∈ pieces css, piece.IsPassedOver ∨ piece.IsAccountedFor) ∧
      ∀ sheet, parseStrict css = .ok sheet →
        ∀ piece ∈ pieces css, piece.IsPassedOver ∨
          ∃ part ∈ sheet.parts, piece.part? = some part := by
  obtain ⟨sameParts, sameReports⟩ := accounts_read given
  refine ⟨by rw [parse, given]; rfl, sameParts, sameReports, fun piece mem =>
    settled_of_mem_pieces mem, fun sheet strict piece mem => ?_⟩
  rw [parseStrict_eq_ok_iff, given] at strict
  cases strict
  rcases settled_of_mem_pieces mem with passed | ⟨becomes, -⟩ | ⟨-, reported⟩
  · exact Or.inl passed
  · obtain ⟨part, shape⟩ := Option.isSome_iff_exists.1 becomes
    refine Or.inr ⟨part, ?_, shape⟩
    rw [sameParts]
    exact List.mem_filterMap.2 ⟨piece, mem, shape⟩
  · -- a piece that is reported would have left a finding
    obtain ⟨report, shape⟩ := Option.isSome_iff_exists.1 reported
    have left : report ∈ (pieces css).filterMap Piece.report? :=
      List.mem_filterMap.2 ⟨piece, mem, shape⟩
    rw [← sameReports] at left
    cases left

/-- A rule without a selector is reported, a declaration without a colon is, too, and an at-rule
in a group becomes a part. -/
theorem read_accounts_of_group :
    let css := "@media p \x7b , \x7b c: d \x7d @e f; a \x7b b \x7d \x7d"
    let sheet : Stylesheet := [.group .media "p" [.atRule ⟨"e", "f", none, some ⟨1, 23⟩⟩,
      .style ⟨["a"], [], some ⟨1, 29⟩⟩] (some ⟨1, 1⟩)]
    let found : Findings Stylesheet :=
      ⟨sheet, [.missingSelector ⟨1, 12⟩, .invalid ⟨1, 33⟩ .noColon]⟩
    read css = .ok found ∧
      parts sheet = (pieces css).filterMap Piece.part? ∧
      found.diagnostics = (pieces css).filterMap Piece.report? := by
  intro css sheet found
  have given : read css = .ok found := by decide +kernel
  obtain ⟨-, sameParts, sameReports, -⟩ := read_accounts given
  exact ⟨given, sameParts, sameReports⟩

/-- A text that is read without a finding may have a piece that becomes no part. -/
theorem atRule_among_declarations_is_lost :
    let css := "a \x7b @b c; d: e \x7d"
    parseStrict css = .ok [.style ⟨["a"], [⟨"d", "e"⟩], some ⟨1, 1⟩⟩] ∧
      ¬∀ piece ∈ pieces css, piece.part?.isSome = true ∨ piece.report?.isSome = true := by
  exact ⟨by decide +kernel, by decide +kernel⟩

end Stylesheet

end CriticalCss
