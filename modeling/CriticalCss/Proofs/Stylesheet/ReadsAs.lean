import CriticalCss.Proofs.Css.Cut
import CriticalCss.Proofs.Lists
import CriticalCss.Proofs.Stylesheet.Place

/-!
# Reading a text that is put together

What a stylesheet is read as depends only on the components that its text spells
(`parseStrict_of_spells`). The printer puts texts between marks and white space of its own:
`ReadsAs` says what a text spells wherever white space stands around it, `ReadsBefore` what it
spells whatever follows, and the lemmas put heads, blocks and rows of such texts together.
-/

namespace CriticalCss

open Css

namespace Stylesheet

/-! ## From a spelling to a stylesheet -/

/-- What a text is read as depends only on the components that it spells. -/
theorem read_of_spells {s : List Char} {cs : List Component} (spelled : Spells none Ends s cs) :
    ∃ found, read (String.ofList s) = .ok found ∧
      found.placeless (List.map Rule.erase) =
        (Findings.collect readNode (Node.ofSheet cs)).placeless (List.map Rule.erase) := by
  have whole : lexemes s = lexemesOf cs := by
    have reads := spelled.reads [] nofun
    rwa [List.append_nil, lexemes_nil, List.append_nil] at reads
  have lexed : (lex s).map Prod.snd = lexemesOf cs := by
    rw [lex, normalize_eq_self spelled.uniform, ← whole, lexemes]
  have bare : (components s).map Component.bare = cs.map Component.bare := by
    obtain ⟨placeless, -⟩ := Component.nested_unplaced none (lex s)
    obtain ⟨flat, -⟩ := nested_lexemesOf [] cs spelled.balanced
    have done : unplaced [] = [] := rfl
    rw [List.append_nil, done, Component.nested_nil, List.append_nil] at flat
    rw [lexed, flat] at placeless
    exact placeless.symm
  have sized : ((lex s).findSome? fun item => oversized? item.2) = none := by
    rw [List.findSome?_eq_none_iff]
    intro item mem
    refine spelled.sized item.2 ?_
    rw [← lexed]
    exact List.mem_map_of_mem mem
  refine ⟨Findings.collect readNode (Node.ofSheet (components s)), ?_, ?_⟩
  · rw [read, String.toList_ofList, sized]
  · rw [← placeless_readSheet (components s), bare, placeless_readSheet]

/-- A text that spells components without a fault is read as what they say. -/
theorem parseStrict_of_spells {s : List Char} {cs : List Component} {sheet : Stylesheet}
    (spelled : Spells none Ends s cs)
    (reads : (Findings.collect readNode (Node.ofSheet cs)).placeless (List.map Rule.erase) =
      ⟨sheet.map Rule.erase, []⟩) :
    ∃ sheet', parseStrict (String.ofList s) = .ok sheet' ∧
      sheet'.map Rule.erase = sheet.map Rule.erase := by
  obtain ⟨⟨value, diagnostics⟩, found, same⟩ := read_of_spells spelled
  rw [reads] at same
  obtain ⟨values, faultless⟩ := Findings.mk.injEq .. ▸ same
  have none : diagnostics = [] := List.map_eq_nil_iff.1 faultless
  subst none
  refine ⟨value, ?_, values⟩
  rw [parseStrict, found]

end Stylesheet

/-! ## Texts with white space around them -/

/-- With white space around it the text spells components of which `good` holds. -/
def ReadsAs (closer : Option Bracket) (s : List Char) (good : List Component → Prop) : Prop :=
  ∀ v w, IsSpaces v → IsSpaces w → ∃ cs, Spells closer Ends (v ++ s ++ w) cs ∧ good cs

/-- With white space before it the text spells components of which `good` holds, and anything
may follow. -/
def ReadsBefore (closer : Option Bracket) (s : List Char) (good : List Component → Prop) :
    Prop :=
  ∀ v, IsSpaces v → ∃ cs, Spells closer Anything (v ++ s) cs ∧ good cs

theorem ReadsBefore.mono {closer : Option Bracket} {s : List Char}
    {good better : List Component → Prop} (reads : ReadsBefore closer s better)
    (weaker : ∀ cs, better cs → good cs) : ReadsBefore closer s good := by
  intro v left
  obtain ⟨cs, spelled, holds⟩ := reads v left
  exact ⟨cs, spelled, weaker cs holds⟩

/-- The components add one item to what is read from those behind them. -/
def Adds {α : Type} (read : List Component → Findings (List α)) (item : α)
    (cs : List Component) : Prop :=
  ∀ rest, read (cs ++ rest) = ⟨item :: (read rest).value, (read rest).diagnostics⟩

section

variable {closer : Option Bracket} {α β : Type}

/-- Texts that add an item each, with white space between them, read as the items. -/
theorem readsAs_intercalate {read : List Component → Findings (List β)}
    (skips : ∀ w rest, read (blank w ++ rest) = read rest) (empty : read [] = ⟨[], []⟩)
    {gap : List Char} (spaces : IsSpaces gap) {text : α → List Char} {item : α → β}
    {sources : List α}
    (each : ∀ a ∈ sources, ReadsBefore closer (text a) (Adds read (item a))) :
    ReadsAs closer (gap.intercalate (sources.map text))
      fun cs => read cs = ⟨sources.map item, []⟩ := by
  induction sources with
  | nil =>
    intro v w left right
    refine ⟨blank (v ++ w), ?_, ?_⟩
    · have spelled : Spells closer Unspaced (v ++ w) (blank (v ++ w)) :=
        spells_blank (left.append right)
      simpa [List.intercalate] using spelled.mono fun k => Ends.unspaced
    · have passed := skips (v ++ w) []
      rwa [List.append_nil, empty] at passed
  | cons a sources ih =>
    intro v w left right
    have later := ih fun b mem => each b (List.mem_cons_of_mem _ mem)
    have between : IsSpaces (if (sources.map text).isEmpty then [] else gap) := by
      split
      · exact .nil
      · exact spaces
    obtain ⟨first, spelledFirst, adds⟩ := each a List.mem_cons_self v left
    obtain ⟨rest, spelledRest, readRest⟩ := later _ w between right
    refine ⟨first ++ rest, ?_, ?_⟩
    · rw [List.map_cons, intercalate_cons]
      simpa [List.append_assoc] using spelledFirst.append_any spelledRest
    · have added := adds rest
      rwa [readRest] at added

/-- The text is a block in curly brackets behind white space, and `good` holds of its content. -/
def IsBlockOf (s : List Char) (good : List Component → Prop) : Prop :=
  ∃ w inner content, IsSpaces w ∧ s = w ++ '\x7b' :: (inner ++ ['\x7d']) ∧
    Spells (some .curly) Ends inner content ∧ good content

theorem ReadsAs.isBlockOf {s : List Char} {good : List Component → Prop}
    (inner : ReadsAs (some .curly) s good) {u v w : List Char} (before : IsSpaces u)
    (left : IsSpaces v) (right : IsSpaces w) :
    IsBlockOf (u ++ '\x7b' :: (v ++ s ++ w ++ ['\x7d'])) good := by
  obtain ⟨content, spelled, holds⟩ := inner v w left right
  exact ⟨u, v ++ s ++ w, content, before, rfl, spelled, holds⟩

variable {h s : List Char} {goodHead goodBody good : List Component → Prop}

/-- A head with a block behind it. -/
theorem ReadsAs.block (head : ReadsAs closer h goodHead) (body : IsBlockOf s goodBody)
    (whole : ∀ cs content, goodHead cs → goodBody content →
      good (cs ++ [.block .start .curly content])) :
    ReadsBefore closer (h ++ s) good := by
  intro v left
  obtain ⟨w, inner, content, right, rfl, spelled, holds⟩ := body
  obtain ⟨cs, spelledHead, holdsHead⟩ := head v w left right
  have block : Spells closer Anything ('\x7b' :: inner ++ ['\x7d'])
      [.block .start .curly content] :=
    Spells.block (b := .curly) spelled fun k c first => by
      cases first
      simp [Bracket.closing]
  refine ⟨cs ++ [.block .start .curly content], ?_, whole cs content holdsHead holds⟩
  have joined := spelledHead.append block fun k _ c first => by
    cases first
    simp
  simpa [List.append_assoc] using joined

/-- A head with a semicolon behind it. -/
theorem ReadsAs.semicolon (head : ReadsAs closer h goodHead)
    (whole : ∀ cs, goodHead cs → good (cs ++ [.token .start (.literal [';'])])) :
    ReadsBefore closer (h ++ [';']) good := by
  intro v left
  obtain ⟨cs, spelledHead, holdsHead⟩ := head v [] left .nil
  refine ⟨cs ++ [.token .start (.literal [';'])], ?_, whole cs holdsHead⟩
  have joined := spelledHead.append (spells_mark (c := ';') (by simp)) fun k _ c first => by
    cases first
    simp
  simpa [List.append_assoc] using joined

/-- A text that a stop may follow, with white space around it. -/
theorem readsAs_of_spells {cs : List Component} (spelled : Spells closer Stops s cs)
    (begins : ∀ k, Unspaced (s ++ k)) :
    ReadsAs closer s fun ds => ∃ v w, ds = blank v ++ cs ++ blank w ∧ IsSpaces v ∧ IsSpaces w := by
  intro v w left right
  have before : Spells closer Unspaced v (blank v) := spells_blank left
  have after : Spells closer Ends w (blank w) := (spells_blank right).mono fun k => Ends.unspaced
  have inner := before.append spelled fun k _ => begins k
  refine ⟨_, inner.append after fun k ends => right.stops_append ends.stops, v, w, rfl, left, right⟩

/-- The components of an at-rule up to its block or semicolon. -/
def IsHead (keyword : List Char) (good : List Component → Prop) (cs : List Component) : Prop :=
  ∃ v prelude, cs = blank v ++ .token .start (.atKeyword keyword) :: prelude ∧ good prelude

/-- An at-keyword with a condition behind it. -/
theorem readsAs_head {keyword : List Char} (plain : IsPlainName keyword)
    (prelude : ReadsAs closer s good) :
    ReadsAs closer ('@' :: keyword ++ ' ' :: s) (IsHead keyword good) := by
  intro v w left right
  obtain ⟨cs, spelled, holds⟩ := prelude [' '] w .space right
  have marked : Spells closer Stops ('@' :: keyword) [.token .start (.atKeyword keyword)] :=
    spells_atKeyword plain
  have word := marked.append spelled fun k _ c first => by
    cases first
    simp
  refine ⟨blank v ++ .token .start (.atKeyword keyword) :: cs, ?_, v, cs, rfl, holds⟩
  have before : Spells closer Unspaced v (blank v) := spells_blank left
  have joined := before.append word fun k _ c first => by
    cases first
    rfl
  simpa [List.append_assoc] using joined

/-- An at-keyword alone. -/
theorem readsAs_keyword {keyword : List Char} (plain : IsPlainName keyword) :
    ReadsAs closer ('@' :: keyword) (IsHead keyword fun prelude => ∃ w, prelude = blank w) := by
  intro v w left right
  have marked : Spells closer Stops ('@' :: keyword) [.token .start (.atKeyword keyword)] :=
    spells_atKeyword plain
  have after : Spells closer Ends w (blank w) := (spells_blank right).mono fun k => Ends.unspaced
  have word := marked.append after fun k ends => right.stops_append ends.stops
  refine ⟨blank v ++ .token .start (.atKeyword keyword) :: blank w, ?_, v, blank w, rfl, w, rfl⟩
  have before : Spells closer Unspaced v (blank v) := spells_blank left
  have joined := before.append word fun k _ c first => by
    cases first
    rfl
  simpa [List.append_assoc] using joined

end

end CriticalCss
