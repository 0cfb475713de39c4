import CriticalCss.Proofs.Css.Value
import CriticalCss.Proofs.Stylesheet.Account
import CriticalCss.Proofs.Stylesheet.Legible

/-!
# Pieces that can be written

What is kept of a piece of a text can be written if its names need no escapes and its selectors,
conditions, values and blocks are cut into the lexemes that they were written from
(`Piece.IsSteady`). Whether a piece is steady can be computed. What is read of steady pieces is
legible (`Stylesheet.isLegible_of_parse`): the grammar finds the same places in it again, however
it is laid out.
-/

namespace CriticalCss

open Css

/-! ## Texts and their lexemes -/

/-- In front of a semicolon and of a space, the text is cut into the lexemes of the components,
and preparing a text leaves it alone. A semicolon stands for every mark of the layout, and a space
for other white space (`lexemes_append_of_stopAlike`). -/
structure Css.IsCutInto (s : List Char) (cs : List Component) : Prop where
  uniform : ∀ c ∈ s, isUniform c = true
  mark : lexemes (s ++ [';']) = lexemesOf cs ++ lexemes [';']
  space : lexemes (s ++ [' ']) = lexemesOf cs ++ lexemes [' ']

instance (s : List Char) (cs : List Component) : Decidable (IsCutInto s cs) :=
  decidable_of_iff (s.all isUniform = true ∧
      lexemes (s ++ [';']) = lexemesOf cs ++ lexemes [';'] ∧
      lexemes (s ++ [' ']) = lexemesOf cs ++ lexemes [' '])
    ⟨fun ⟨uniform, mark, space⟩ => ⟨List.all_eq_true.1 uniform, mark, space⟩,
      fun cut => ⟨List.all_eq_true.2 cut.uniform, cut.mark, cut.space⟩⟩

namespace Css.IsCutInto

variable {closer : Option Bracket} {s : List Char} {cs : List Component}

theorem lexemes_append (cut : IsCutInto s cs) {k : List Char} (stops : Stops k) :
    lexemes (s ++ k) = lexemesOf cs ++ lexemes k := by
  rcases k with _ | ⟨c, k⟩
  · exact lexemes_append_of_stopAlike (.mark (k := []) nofun) cut.mark
  by_cases space : isSpace c = true
  · exact lexemes_append_of_stopAlike (.space space) cut.space
  · refine lexemes_append_of_stopAlike (.mark fun d head => ?_) cut.mark
    have stop := stops d head
    cases head
    simp only [List.mem_cons, List.not_mem_nil, or_false] at stop ⊢
    rcases stop with rfl | rfl | rfl | stop
    · exact (space rfl).elim
    · exact (space rfl).elim
    · exact (space rfl).elim
    · exact stop

theorem spells (cut : IsCutInto s cs) (balanced : Balanced closer cs)
    (sized : ∀ l ∈ lexemesOf cs, Stylesheet.oversized? l = none) :
    Spells closer Stops s cs where
  reads _ stops := cut.lexemes_append stops
  balanced := balanced
  sized := sized
  uniform := cut.uniform

/-- An empty text is cut into nothing. -/
theorem eq_nil (cut : IsCutInto [] cs) : cs = [] := by
  have none : lexemesOf cs = [] := by
    have reads := cut.lexemes_append (k := []) nofun
    rw [List.append_nil, lexemes_nil, List.append_nil] at reads
    exact reads.symm
  exact eq_nil_of_lexemesOf_eq_nil none

/-- With white space around it, the text spells the components with white space around them. -/
theorem spells_blank (cut : IsCutInto s cs) (balanced : Balanced closer cs)
    (sized : ∀ l ∈ lexemesOf cs, Stylesheet.oversized? l = none)
    (solid : ∀ c ∈ s.head?, Text.isBlank c = false) {v w : List Char} (left : IsSpaces v)
    (right : IsSpaces w) :
    ∃ v' w', IsSpaces v' ∧ IsSpaces w' ∧
      Spells closer (fun k => Unspaced k ∧ Stops (w ++ k)) (v ++ s ++ w)
        (blank v' ++ cs ++ blank w') := by
  rcases s with _ | ⟨c, s⟩
  · cases cut.eq_nil
    refine ⟨v ++ w, [], left.append right, .nil, ?_⟩
    have spelled : Spells closer Unspaced (v ++ w) (blank (v ++ w)) :=
      Css.spells_blank (left.append right)
    simpa [blank] using spelled.mono fun k => And.left
  · refine ⟨v, w, left, right, ?_⟩
    have before : Spells closer Unspaced v (blank v) := Css.spells_blank left
    have after : Spells closer (fun k => Unspaced k ∧ Stops (w ++ k)) w (blank w) :=
      (Css.spells_blank right).mono fun k => And.left
    have inner := before.append (cut.spells balanced sized) fun k _ d head => by
      cases head
      rw [Bool.eq_false_iff]
      intro space
      have blank : Text.isBlank c = true :=
        IsSpaces.isBlank (w := [c]) (List.forall_mem_singleton.2 space) c List.mem_cons_self
      rw [solid c rfl] at blank
      cases blank
    exact inner.append after fun k => And.right

theorem readsAs (cut : IsCutInto s cs) (balanced : Balanced closer cs)
    (sized : ∀ l ∈ lexemesOf cs, Stylesheet.oversized? l = none)
    (solid : ∀ c ∈ s.head?, Text.isBlank c = false) :
    ReadsAs closer s fun ds => ∃ v w, ds = blank v ++ cs ++ blank w ∧ IsSpaces v ∧ IsSpaces w := by
  intro v w left right
  obtain ⟨v', w', left', right', spelled⟩ := cut.spells_blank balanced sized solid left right
  exact ⟨_, spelled.mono fun k ends => ⟨ends.unspaced, right.stops_append ends.stops⟩, v', w',
    rfl, left', right'⟩

end Css.IsCutInto

namespace Stylesheet

/-! ## Values -/

/-- The text of the components in a list is cut into what they are written as. -/
def IsSteadyList (cs : List Component) : Prop :=
  IsCutInto (Text.trim (Css.text cs)) (writtenList none (stripped cs))

instance (cs : List Component) : Decidable (IsSteadyList cs) :=
  inferInstanceAs (Decidable (IsCutInto _ _))

theorem isWrittenFrom_stripped (cs : List Component) :
    IsWrittenFrom cs (writtenList none (stripped cs)) := by
  intro d mem
  rcases isWrittenFrom_writtenList none (stripped cs) d mem with filler | ⟨c, inside, same⟩
  · exact .inl filler
  · obtain ⟨v, w, whole, -⟩ := exists_stripped cs
    refine .inr ⟨c, ?_, same⟩
    rw [whole]
    exact List.mem_append_left _ (List.mem_append_right _ inside)

/-- What is written is free of a literal if the components are. -/
theorem isLiteral_of_isWrittenFrom {cs ds : List Component} (written : IsWrittenFrom cs ds)
    {text : List Char} (free : ∀ c ∈ cs, c.isLiteral text = false) :
    ∀ d ∈ ds, d.isLiteral text = false := by
  intro d mem
  rcases written d mem with filler | ⟨c, inside, rfl⟩
  · cases filler <;> rfl
  · rw [Component.isLiteral_written]
    exact free c inside

theorem isLiteral_of_mem_blank (text w : List Char) :
    ∀ c ∈ blank w, c.isLiteral text = false := by
  intro c mem
  obtain ⟨inner, rfl⟩ := isWhitespace_of_mem_blank mem
  rfl

section

variable {closer : Option Bracket} {value : List Component}

/-- The components that a steady list is read as, between white space. -/
theorem spells_of_isSteadyList (steady : IsSteadyList value) (sound : Sound closer value)
    {v w : List Char} (left : IsSpaces v) (right : IsSpaces w) :
    ∃ v' w', IsSpaces v' ∧ IsSpaces w' ∧
      Spells closer (fun k => Unspaced k ∧ Stops (w ++ k)) (v ++ Text.trim (Css.text value) ++ w)
        (blank v' ++ writtenList none (stripped value) ++ blank w') :=
  steady.spells_blank ((isWrittenFrom_stripped value).balanced sound.balanced)
    (sound.sized (isWrittenFrom_stripped value)) Text.not_isBlank_of_head?_trim left right

/-- A value without a mark of importance is read as itself. -/
theorem valueOf?_plain (isValue : Entry.IsValue value false) {ds : List Component}
    (same : ds.filter Component.isSignificant =
      (value.filter Component.isSignificant).map Component.written) :
    valueOf? ds = some (valueText ds false) := by
  have alike := Entry.Progress.alike_ofValue same
  have unblocked : ¬(Entry.Progress.ofValue ds).block = true := by
    rw [alike.block, isValue.block]
    exact Bool.false_ne_true
  have plain (before : Nat) : (Entry.Progress.ofValue ds).importance ≠ .important before := by
    intro important
    have stage := alike.importance
    rw [important] at stage
    have other := isValue.whole rfl
    cases importance : (Entry.Progress.ofValue value).importance with
    | important before => exact other before importance
    | plain | mark =>
      rw [importance] at stage
      cases stage
  rw [valueOf?, if_neg unblocked]
  split
  · rename_i before important
    exact (plain before important).elim
  · rfl

/-- The mark of `!important`, behind a space. -/
def importantMark : List Component :=
  [.token .start (.literal ['!']), .token .start (.ident "important".toList)]

/-- A value with the mark of importance behind it is read as itself with the mark. -/
theorem valueOf?_important (isValue : Entry.IsValue value true) {ds : List Component}
    (same : ds.filter Component.isSignificant =
      (value.filter Component.isSignificant).map Component.written) (w : List Char) :
    valueOf? (ds ++ importantMark ++ blank w) = some (valueText ds true) := by
  have alike := Entry.Progress.alike_ofValue same
  have unblocked : (Entry.Progress.ofValue ds).block = false := by
    rw [alike.block, isValue.block]
  have plain : (Entry.Progress.ofValue ds).importance = .plain := by
    have stage := alike.importance
    rw [isValue.plain rfl] at stage
    cases importance : (Entry.Progress.ofValue ds).importance with
    | plain => rfl
    | important | mark =>
      rw [importance] at stage
      cases stage
  have count : (Entry.Progress.ofValue ds).count = ds.length := (Entry.Progress.counts ds).count
  have marked : (Entry.Progress.ofValue (ds ++ importantMark)).block = false ∧
      (Entry.Progress.ofValue (ds ++ importantMark)).importance = .important ds.length := by
    have twice : ds ++ importantMark = ds ++ [.token .start (.literal ['!'])] ++
        [.token .start (.ident "important".toList)] := by
      rw [importantMark, List.append_assoc]
      rfl
    rw [twice, Entry.Progress.ofValue_concat, Entry.Progress.ofValue_concat]
    generalize Entry.Progress.ofValue ds = s at unblocked plain count
    obtain ⟨n, importance, occupied, block⟩ := s
    cases plain
    cases unblocked
    cases count
    exact ⟨rfl, rfl⟩
  have whole : (Entry.Progress.ofValue (ds ++ importantMark ++ blank w)).block = false ∧
      (Entry.Progress.ofValue (ds ++ importantMark ++ blank w)).importance =
        .important ds.length := by
    unfold blank
    split
    · rwa [List.append_nil]
    · rw [Entry.Progress.ofValue_concat]
      generalize Entry.Progress.ofValue (ds ++ importantMark) = s at marked
      obtain ⟨n, importance, occupied, block⟩ := s
      obtain ⟨unblocked, important⟩ := marked
      cases unblocked
      cases important
      exact ⟨rfl, rfl⟩
  rw [valueOf?, if_neg (by rw [whole.1]; exact Bool.false_ne_true), whole.2, List.append_assoc]
  simp only [List.take_left]

theorem valueText_written (sound : Sound closer value) {v w : List Char} (left : IsSpaces v)
    (right : IsSpaces w) (important : Bool) :
    valueText (blank v ++ writtenList none (stripped value) ++ blank w) important =
      valueText value important := by
  rw [valueText, valueText, trim_text_written sound left right]

theorem spells_importantMark {w : List Char} (right : IsSpaces w) :
    Spells closer Ends ('!' :: "important".toList ++ w) (importantMark ++ blank w) := by
  have bang : Spells closer Anything ['!'] [.token .start (.literal ['!'])] := by
    refine Spells.token (fun k _ => ?_) nofun rfl (List.forall_mem_singleton.2 rfl)
    have marked : readLexeme '!' k = readMark '!' k := rfl
    rw [List.nil_append, marked]
    unfold readMark
    split <;> simp_all
  have name : Spells closer Stops "important".toList
      [.token .start (.ident "important".toList)] :=
    spells_name (isPlainName_of_all (by decide))
  have after : Spells closer Ends w (blank w) :=
    (Css.spells_blank right).mono fun k => Ends.unspaced
  have joined := bang.append_any (name.append after fun k ends => right.stops_append ends.stops)
  simpa [importantMark] using joined

end

/-- A declaration that was read is legible if its name is plain and its value is steady. -/
theorem isLegible_of_isSteady {p : Position} {name : List Char} {value : List Component}
    {important : Bool} (sound : (Entry.declaration p name value important).IsSound (some .curly))
    (plain : IsPlainName name) (steady : IsSteadyList value) :
    Declaration.IsLegible ⟨String.ofList name, valueText value important⟩ := by
  obtain ⟨sound, free, isValue⟩ := sound
  have written (v w : List Char) :=
    isLiteral_of_isWrittenFrom ((isWrittenFrom_stripped value).blank v w) free
  refine ⟨by rwa [String.toList_ofList], fun v w left right => ?_⟩
  cases important with
  | false =>
    obtain ⟨v', w', left', right', spelled⟩ := spells_of_isSteadyList steady sound left right
    refine ⟨blank v' ++ writtenList none (stripped value) ++ blank w', ?_, ?_, ?_⟩
    · rw [valueText, if_neg Bool.false_ne_true, String.toList_ofList]
      exact spelled.mono fun k ends => ⟨ends.unspaced, right.stops_append ends.stops⟩
    · rw [valueOf?_plain isValue (filter_isSignificant_written value v' w'),
        valueText_written sound left' right']
    · exact written v' w'
  | true =>
    obtain ⟨v', w', left', right', spelled⟩ := spells_of_isSteadyList steady sound left .space
    have marked := spelled.append (spells_importantMark right) fun k _ => ⟨fun c head => by
      cases head
      rfl, fun c head => by
      cases head
      simp⟩
    refine ⟨blank v' ++ writtenList none (stripped value) ++ blank w' ++ importantMark ++ blank w,
      ?_, ?_, ?_⟩
    · have text : " !important".toList = ' ' :: '!' :: "important".toList := rfl
      rw [valueText, if_pos rfl, String.toList_ofList, text]
      simpa using marked
    · rw [valueOf?_important isValue (filter_isSignificant_written value v' w'),
        valueText_written sound left' right']
    · refine List.forall_mem_append.2 ⟨List.forall_mem_append.2 ⟨written v' w', ?_⟩, ?_⟩
      · exact List.forall_mem_cons.2 ⟨rfl, List.forall_mem_singleton.2 rfl⟩
      · exact isLiteral_of_mem_blank _ w

/-! ## Preludes -/

/-- The text of the components one by one is cut into what they are written as. -/
def IsSteadyText (cs : List Component) : Prop :=
  IsCutInto (Text.trim (textApart cs)) (apart cs)

instance (cs : List Component) : Decidable (IsSteadyText cs) :=
  inferInstanceAs (Decidable (IsCutInto _ _))

theorem readsAs_of_isSteadyText {closer : Option Bracket} {cs : List Component}
    (steady : IsSteadyText cs) (sound : Sound closer cs) :
    ReadsAs closer (conditionText cs).toList
      fun ds => ∃ v w, ds = blank v ++ apart cs ++ blank w ∧ IsSpaces v ∧ IsSpaces w := by
  have written := isWrittenFrom_apart cs
  rw [conditionText, String.toList_ofList]
  exact steady.readsAs (written.balanced sound.balanced) (sound.sized written)
    Text.not_isBlank_of_head?_trim

theorem conditionText_apart (cs : List Component) (v w : List Char) :
    conditionText (blank v ++ apart cs ++ blank w) = conditionText cs := by
  rw [conditionText, textApart_blank, textApart_apart, conditionText]

theorem curly?_of_isWrittenFrom {cs ds : List Component} (written : IsWrittenFrom cs ds)
    (free : ∀ c ∈ cs, c.curly? = none) : ∀ d ∈ ds, d.curly? = none := by
  intro d mem
  rcases written d mem with filler | ⟨c, inside, rfl⟩
  · cases filler <;> rfl
  · rw [Component.curly?_written, free c inside]
    rfl

/-- The condition of an at-rule that was read. -/
theorem isCondition_of_isSteadyText {closer : Option Bracket} {prelude : List Component}
    (steady : IsSteadyText prelude) (sound : Sound closer prelude)
    (free : ∀ c ∈ prelude, c.curly? = none ∧ c.isLiteral [';'] = false) :
    IsCondition closer (conditionText prelude) := by
  intro v w left right
  obtain ⟨ds, spelled, v', w', rfl, -, -⟩ := readsAs_of_isSteadyText steady sound v w left right
  have written := (isWrittenFrom_apart prelude).blank v' w'
  exact ⟨_, spelled, conditionText_apart prelude v' w', fun c mem =>
    ⟨curly?_of_isWrittenFrom written (fun c inside => (free c inside).1) c mem,
      isLiteral_of_isWrittenFrom written (fun c inside => (free c inside).2) c mem⟩⟩

/-- The content of a verbatim block that was read. -/
theorem isVerbatim_of_isSteadyList {content : List Component} (steady : IsSteadyList content)
    (sound : Sound (some .curly) content) :
    IsVerbatim (String.ofList (Text.trim (Css.text content))) := by
  intro v w left right
  obtain ⟨v', w', left', right', spelled⟩ := spells_of_isSteadyList steady sound left right
  refine ⟨_, ?_, congrArg String.ofList (trim_text_written sound left' right')⟩
  rw [String.toList_ofList]
  exact spelled.mono fun k ends => ⟨ends.unspaced, right.stops_append ends.stops⟩

/-! ## Selectors -/

/-- The parts of a prelude that are its selectors. -/
def selectorParts (prelude : List Component) : List (List Component) :=
  (splitCommas prelude).filter fun part => conditionText part ≠ ""

theorem selectorTexts_eq (prelude : List Component) :
    selectorTexts prelude = (selectorParts prelude).map conditionText := by
  rw [selectorTexts, List.filter_map, selectorParts]
  rfl

/-- Each selector is cut into what it is written as, and no at-keyword begins the first. At the
top level it does not begin with a mark of HTML comments either. -/
structure IsSteadyPrelude (closer : Option Bracket) (prelude : List Component) : Prop where
  parts : ∀ part ∈ selectorParts prelude, IsSteadyText part
  begins : ∀ part ∈ (selectorParts prelude).head?, ∀ c ∈ (apart part).head?,
    Node.keyword? c = none ∧ (closer = none → Node.isHtmlMark c = false)

instance (closer : Option Bracket) (prelude : List Component) :
    Decidable (IsSteadyPrelude closer prelude) :=
  decidable_of_iff ((∀ part ∈ selectorParts prelude, IsSteadyText part) ∧
      ∀ part ∈ (selectorParts prelude).head?, ∀ c ∈ (apart part).head?,
        Node.keyword? c = none ∧ (closer = none → Node.isHtmlMark c = false))
    ⟨fun ⟨parts, begins⟩ => ⟨parts, begins⟩, fun steady => ⟨steady.parts, steady.begins⟩⟩

theorem significant_of_head?_apart {part : List Component} {c : Component}
    (first : (apart part).head? = some c) : c.isWhitespace = false ∧ c.isComment = false := by
  obtain ⟨d, -, rfl, significant⟩ := isSignificant_of_head?_apart c first
  simpa [Component.isSignificant] using significant

/-- A selector that was read. -/
theorem isSelector_of_isSteadyText {closer : Option Bracket} {prelude part : List Component}
    (sound : Sound closer prelude) (free : ∀ c ∈ prelude, c.curly? = none)
    (mem : part ∈ selectorParts prelude) (steady : IsSteadyText part)
    {begins : Component → Prop} (begin : ∀ c ∈ (apart part).head?, begins c) :
    IsSelector closer begins (conditionText part) := by
  obtain ⟨cut, nonempty⟩ := List.mem_filter.1 mem
  have nonempty : conditionText part ≠ "" := by simpa using nonempty
  have within : ∀ c ∈ part, c ∈ prelude := fun c mem => (Text.mem_of_mem_pieces cut c mem).1
  have whole : ∀ c ∈ part, c.isLiteral [','] = false :=
    fun c mem => (Text.mem_of_mem_pieces cut c mem).2
  refine ⟨nonempty, fun v w left right => ?_⟩
  obtain ⟨ds, spelled, v', w', rfl, -, -⟩ :=
    readsAs_of_isSteadyText steady (sound.of_subset within) v w left right
  have written := (isWrittenFrom_apart part).blank v' w'
  refine ⟨_, spelled, conditionText_apart part v' w', fun c inside => ⟨?_, ?_⟩, ?_⟩
  · exact curly?_of_isWrittenFrom written (fun c inside => free c (within c inside)) c inside
  · exact isLiteral_of_isWrittenFrom written whole c inside
  · cases first : (apart part).head? with
    | none =>
      have empty : apart part = [] := List.head?_eq_none_iff.1 first
      have text := textApart_apart part
      rw [empty] at text
      rw [conditionText, ← text] at nonempty
      exact (nonempty rfl).elim
    | some c =>
      refine ⟨c, ?_, begin c first⟩
      obtain ⟨rest, shape⟩ := List.head?_eq_some_iff.1 first
      obtain ⟨noSpace, -⟩ := significant_of_head?_apart first
      rw [Node.leading?, shape, List.append_assoc, dropWhile_append_of_forall]
      · rfl
      · intro d inside
        obtain ⟨text, rfl⟩ := isWhitespace_of_mem_blank inside
        rfl
      · intro d head
        cases head
        exact noSpace

/-- The selectors of a rule that was read. -/
theorem isLegible_selectorTexts {closer : Option Bracket} {prelude : List Component}
    (sound : Sound closer prelude) (free : ∀ c ∈ prelude, c.curly? = none)
    (steady : IsSteadyPrelude closer prelude) :
    selectorTexts prelude = [] ∨
      ∃ first others, selectorTexts prelude = first :: others ∧
        IsSelector closer (Node.CanBegin closer) first ∧
        ∀ s ∈ others, IsSelector closer (fun _ => True) s := by
  rw [selectorTexts_eq]
  cases shape : selectorParts prelude with
  | nil => exact .inl rfl
  | cons part parts =>
    have here : part ∈ selectorParts prelude := by
      rw [shape]
      exact List.mem_cons_self
    have later : ∀ other ∈ parts, other ∈ selectorParts prelude := by
      rw [shape]
      exact fun other => List.mem_cons_of_mem _
    refine .inr ⟨_, _, rfl, ?_, fun s mem => ?_⟩
    · refine isSelector_of_isSteadyText sound free here (steady.parts part here) fun c first => ?_
      obtain ⟨noKeyword, noMark⟩ := steady.begins part (by rw [shape]; rfl) c first
      exact ⟨(significant_of_head?_apart first).2, noKeyword, noMark⟩
    · obtain ⟨other, inside, rfl⟩ := List.mem_map.1 mem
      exact isSelector_of_isSteadyText sound free (later other inside)
        (steady.parts other (later other inside)) fun _ _ => trivial

/-! ## Pieces -/

/-- The keyword, the prelude and the block of a verbatim at-rule can be written. -/
structure IsSteadyVerbatim (keyword : List Char) (prelude : List Component)
    (content : Option (List Component)) : Prop where
  keyword : IsPlainName keyword
  prelude : IsSteadyText prelude
  content : ∀ cs ∈ content, IsSteadyList cs

instance (keyword : List Char) (prelude : List Component) (content : Option (List Component)) :
    Decidable (IsSteadyVerbatim keyword prelude content) :=
  decidable_of_iff (IsPlainName keyword ∧ IsSteadyText prelude ∧ ∀ cs ∈ content, IsSteadyList cs)
    ⟨fun ⟨keyword, prelude, content⟩ => ⟨keyword, prelude, content⟩,
      fun steady => ⟨steady.keyword, steady.prelude, steady.content⟩⟩

/-- What is kept of an at-rule of the kind can be written. -/
def IsSteadyAtRule (keyword : List Char) (prelude : List Component)
    (content : Option (List Component)) : AtKind → Prop
  | .fontFace => True
  | .group _ | .charset | .keyframes _ => IsSteadyText prelude
  | .other => IsSteadyVerbatim keyword prelude content

instance (keyword : List Char) (prelude : List Component) (content : Option (List Component)) :
    DecidablePred (IsSteadyAtRule keyword prelude content)
  | .fontFace => isTrue trivial
  | .group _ | .charset | .keyframes _ => inferInstanceAs (Decidable (IsSteadyText prelude))
  | .other => inferInstanceAs (Decidable (IsSteadyVerbatim keyword prelude content))

end Stylesheet

open Stylesheet

/-- What is kept of the piece can be written: its names need no escapes, and its texts are cut
into what they were written from. -/
def Piece.IsSteady : Piece → Prop
  | outer (.qualified _ prelude _) => IsSteadyPrelude none prelude
  | outer (.atRule _ keyword prelude content) =>
    IsSteadyAtRule keyword prelude content (.ofKeyword keyword)
  | grouped (.qualified _ prelude _) | frame (.qualified _ prelude _) =>
    IsSteadyPrelude (some .curly) prelude
  | grouped (.atRule _ keyword prelude content) => IsSteadyVerbatim keyword prelude content
  | entry (.declaration _ name value _) => IsPlainName name ∧ IsSteadyList value
  | _ => True

instance : DecidablePred Piece.IsSteady
  | .outer (.qualified _ prelude _) => inferInstanceAs (Decidable (IsSteadyPrelude none prelude))
  | .outer (.atRule _ keyword prelude content) =>
    inferInstanceAs (Decidable (IsSteadyAtRule keyword prelude content (.ofKeyword keyword)))
  | .grouped (.qualified _ prelude _) | .frame (.qualified _ prelude _) =>
    inferInstanceAs (Decidable (IsSteadyPrelude (some .curly) prelude))
  | .grouped (.atRule _ keyword prelude content) =>
    inferInstanceAs (Decidable (IsSteadyVerbatim keyword prelude content))
  | .entry (.declaration _ name value _) =>
    inferInstanceAs (Decidable (IsPlainName name ∧ IsSteadyList value))
  | .outer (.comment _ _) | .outer (.invalid _ _)
  | .grouped (.comment _ _) | .grouped (.invalid _ _)
  | .frame (.comment _ _) | .frame (.invalid _ _) | .frame (.atRule _ _ _ _)
  | .entry (.atRule _ _) | .entry (.invalid _ _) => isTrue trivial

namespace Stylesheet

theorem isLegible_readDeclarations {content : List Component}
    (sound : Sound (some .curly) content)
    (steady : ∀ piece ∈ entryPieces content, piece.IsSteady) :
    ∀ d ∈ (readDeclarations content).value, d.IsLegible := by
  intro d mem
  obtain ⟨e, inside, value⟩ := Findings.mem_collect mem
  have here := steady (.entry e) (List.mem_map_of_mem inside)
  have sound := Entry.isSound_of_mem_ofBlock sound e inside
  cases e with
  | declaration p name components important =>
    cases value
    exact isLegible_of_isSteady sound here.1 here.2
  | atRule | invalid => cases value

theorem isLegible_readStyle {closer : Option Bracket} {position : Position}
    {prelude content : List Component} {r : StyleRule}
    (sound : (Node.qualified position prelude content).IsSound closer)
    (prefixed : IsSteadyPrelude closer prelude)
    (steady : ∀ piece ∈ stylePieces prelude content, piece.IsSteady)
    (read : (readStyle position prelude content).value = some r) : r.IsLegible closer := by
  obtain ⟨soundPrelude, free, soundContent⟩ := sound
  unfold readStyle at read
  split at read
  · cases read
  · rename_i some
    cases read
    rw [stylePieces, if_neg some] at steady
    rcases isLegible_selectorTexts soundPrelude free prefixed with none | legible
    · exact (some none).elim
    · exact ⟨legible, isLegible_readDeclarations soundContent steady⟩

theorem isLegible_readFrame {node : Node} {f : Keyframe} (sound : node.IsSound (some .curly))
    (steady : ∀ piece ∈ framePieces node, piece.IsSteady)
    (read : (readFrame node).value = some f) : f.IsLegible := by
  cases node with
  | qualified position prelude content =>
    cases read
    obtain ⟨soundPrelude, free, soundContent⟩ := sound
    obtain ⟨here, inside⟩ := List.forall_mem_cons.1 steady
    exact ⟨isLegible_selectorTexts soundPrelude free here,
      isLegible_readDeclarations soundContent inside⟩
  | atRule | comment | invalid => cases read

theorem isLegible_readVerbatim {closer : Option Bracket} {position : Position}
    {keyword : List Char} {prelude : List Component} {content : Option (List Component)}
    (sound : (Node.atRule position keyword prelude content).IsSound closer)
    (steady : IsSteadyVerbatim keyword prelude content)
    (verbatim : closer = none → IsVerbatimName keyword) :
    (readVerbatim position keyword prelude content).IsLegible closer := by
  obtain ⟨soundPrelude, free, soundContent⟩ := sound
  have name : (readVerbatim position keyword prelude content).name.toList = keyword :=
    String.toList_ofList
  refine ⟨by rw [name]; exact steady.keyword, fun outer => by rw [name]; exact verbatim outer,
    isCondition_of_isSteadyText steady.prelude soundPrelude free, fun b block => ?_⟩
  obtain ⟨cs, given, rfl⟩ := Option.map_eq_some_iff.1 block
  exact isVerbatim_of_isSteadyList (steady.content cs given) (soundContent cs given)

theorem isLegible_readGrouped {node : Node} {r : Rule} (sound : node.IsSound (some .curly))
    (steady : ∀ piece ∈ groupedPieces node, piece.IsSteady)
    (read : (readGrouped node).value = some r) : r.IsLegible (some .curly) := by
  obtain ⟨here, inside⟩ := List.forall_mem_cons.1 steady
  cases node with
  | qualified position prelude content =>
    obtain ⟨style, given, rfl⟩ := Option.map_eq_some_iff.1 read
    exact .style (isLegible_readStyle sound here inside given)
  | atRule position keyword prelude content =>
    cases read
    exact .atRule (isLegible_readVerbatim sound here nofun)
  | comment | invalid => cases read

theorem sound_getD {content : Option (List Component)}
    (sound : ∀ cs ∈ content, Sound (some .curly) cs) : Sound (some .curly) (content.getD []) := by
  cases content with
  | none => exact .nil
  | some cs => exact sound cs rfl

theorem isLegible_readGroup {kind : GroupKind} {position : Position}
    {prelude : List Component} {content : Option (List Component)}
    (shown : IsCondition none (conditionText prelude))
    (sound : Sound (some .curly) (content.getD []))
    (steady : ∀ piece ∈ atRulePieces (.group kind) (content.getD []), piece.IsSteady) :
    (readGroup kind position prelude content).value.IsLegible none := by
  refine .group shown fun r mem => ?_
  obtain ⟨node, inside, value⟩ := Findings.mem_collect mem
  exact isLegible_readGrouped (Node.isSound_of_mem_ofBlock sound node inside)
    (fun piece within => steady piece (List.mem_flatMap.2 ⟨node, inside, within⟩)) value

theorem isLegible_readAtRule {position : Position} {keyword : List Char}
    {prelude : List Component} {content : Option (List Component)}
    (sound : (Node.atRule position keyword prelude content).IsSound none)
    (steady : ∀ piece ∈ outerPieces (.atRule position keyword prelude content), piece.IsSteady) :
    (readAtRule position keyword prelude content).value.IsLegible none := by
  obtain ⟨here, inside⟩ := List.forall_mem_cons.1 steady
  obtain ⟨soundPrelude, free, soundContent⟩ := id sound
  have shown (steady : IsSteadyText prelude) : IsCondition none (conditionText prelude) :=
    isCondition_of_isSteadyText steady soundPrelude free
  have soundBlock := sound_getD soundContent
  simp only [Piece.IsSteady, AtKind.ofKeyword] at here
  simp only [AtKind.ofKeyword] at inside
  unfold readAtRule
  simp only
  split
  · rename_i media
    rw [if_pos media] at here inside
    exact isLegible_readGroup (shown here) soundBlock inside
  rename_i noMedia
  rw [if_neg noMedia] at here inside
  split
  · rename_i supports
    rw [if_pos supports] at here inside
    exact isLegible_readGroup (shown here) soundBlock inside
  rename_i noSupports
  rw [if_neg noSupports] at here inside
  split
  · rename_i fontFace
    rw [if_pos fontFace] at inside
    exact .fontFace (isLegible_readDeclarations soundBlock inside)
  rename_i noFontFace
  rw [if_neg noFontFace] at here inside
  split
  · rename_i charset
    rw [if_pos charset] at here
    exact .charset (shown here)
  rename_i noCharset
  rw [if_neg noCharset] at here inside
  cases named : keyframesVendors.lookup (lowerText keyword) with
  | some vendor =>
    rw [named] at here inside
    refine .keyframes (shown here) ?_ fun f mem => ?_
    · obtain ⟨before, after, vendors, -⟩ := List.lookup_eq_some_iff.1 named
      rw [vendors, List.map_append]
      exact List.mem_append_right _ List.mem_cons_self
    · obtain ⟨node, within, value⟩ := Findings.mem_collect mem
      exact isLegible_readFrame (Node.isSound_of_mem_ofBlock soundBlock node within)
        (fun piece deeper => inside piece (List.mem_flatMap.2 ⟨node, within, deeper⟩)) value
  | none =>
    rw [named] at here
    refine .atRule (isLegible_readVerbatim sound here fun _ => ⟨?_, named⟩)
    simp [noMedia, noSupports, noFontFace, noCharset]

theorem isLegible_readNode {node : Node} {r : Rule} (sound : node.IsSound none)
    (steady : ∀ piece ∈ outerPieces node, piece.IsSteady)
    (read : (readNode node).value = some r) : r.IsLegible none := by
  obtain ⟨here, inside⟩ := List.forall_mem_cons.1 steady
  cases node with
  | comment position words =>
    cases read
    refine .comment ?_ ?_
    · rw [String.toList_ofList]
      exact sound.closed
    · rw [String.toList_ofList]
      exact sound.uniform
  | qualified position prelude content =>
    obtain ⟨style, given, rfl⟩ := Option.map_eq_some_iff.1 read
    exact .style (isLegible_readStyle sound here inside given)
  | atRule position keyword prelude content =>
    cases read
    exact isLegible_readAtRule sound steady
  | invalid => cases read

/-- What was read of steady pieces is legible. -/
theorem isLegible_of_parse {css : String} {sheet : Stylesheet} (given : parse css = .ok sheet)
    (steady : ∀ piece ∈ pieces css, piece.IsSteady) : ∀ r ∈ sheet, r.IsLegible none := by
  unfold parse read at given
  split at given
  · cases given
  rename_i sized
  cases given
  have sound : Sound none (components css.toList) :=
    sound_components fun x mem => List.findSome?_eq_none_iff.1 sized x mem
  intro r mem
  obtain ⟨node, inside, value⟩ := Findings.mem_collect mem
  exact isLegible_readNode (Node.isSound_of_mem_ofSheet sound node inside)
    (fun piece within => steady piece (List.mem_flatMap.2 ⟨node, inside, within⟩)) value

end Stylesheet

end CriticalCss
