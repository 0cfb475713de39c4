import CriticalCss.Css.Entry
import CriticalCss.Css.Printer
import CriticalCss.Proofs.Css.Nesting

/-!
# Places do not matter to the grammar

Components that differ only in their places have the same text and fall into nodes and entries
that differ only in their places. So a text may be analysed with the start of the text as the
place of everything (`Component.bare`, `Node.bare`, `Entry.bare`).
-/

namespace CriticalCss.Css

/-! ## Components -/

namespace Component

@[simp] theorem isLiteral_bare (text : List Char) (c : Component) :
    c.bare.isLiteral text = c.isLiteral text := by
  cases c with
  | token p t =>
    rw [bare_token]
    cases t <;> rfl
  | block => rw [bare_block]; rfl
  | function => rw [bare_function]; rfl

@[simp] theorem isWhitespace_bare (c : Component) : c.bare.isWhitespace = c.isWhitespace := by
  cases c with
  | token p t =>
    rw [bare_token]
    cases t <;> rfl
  | block => rw [bare_block]; rfl
  | function => rw [bare_function]; rfl

@[simp] theorem isComment_bare (c : Component) : c.bare.isComment = c.isComment := by
  cases c with
  | token p t =>
    rw [bare_token]
    cases t <;> rfl
  | block => rw [bare_block]; rfl
  | function => rw [bare_function]; rfl

@[simp] theorem isSignificant_bare (c : Component) :
    c.bare.isSignificant = c.isSignificant := by
  rw [isSignificant, isSignificant, isWhitespace_bare, isComment_bare]

@[simp] theorem kind_bare (c : Component) : c.bare.kind = c.kind := by
  cases c with
  | token p t => rw [bare_token]; rfl
  | block p b content =>
    rw [bare_block]
    cases b <;> rfl
  | function => rw [bare_function]; rfl

@[simp] theorem position_bare (c : Component) : c.bare.position = .start := by
  cases c with
  | token => rw [bare_token]; rfl
  | block => rw [bare_block]; rfl
  | function => rw [bare_function]; rfl

@[simp] theorem curly?_bare (c : Component) : c.bare.curly? = c.curly?.map (·.map bare) := by
  cases c with
  | token p t => rw [bare_token]; rfl
  | block p b content =>
    rw [bare_block]
    cases b <;> rfl
  | function => rw [bare_function]; rfl

@[simp] theorem contact_bare (c : Component) : c.bare.contact = c.contact := by
  cases c with
  | token p t =>
    rw [bare_token]
    cases t with
    | whitespace text =>
      cases text with
      | nil => rfl
      | cons c rest =>
        by_cases line : c = '\n'
        · subst line
          rfl
        · simp [contact, line]
    | _ => rfl
  | block p b content =>
    rw [bare_block]
    cases b <;> rfl
  | function => rw [bare_function]; rfl

mutual

theorem isCutOff_bare : (c : Component) → c.bare.isCutOff = c.isCutOff
  | token p t => by
    rw [bare_token]
    cases t <;> rfl
  | block p b content => by rw [bare_block]; rfl
  | function p name arguments => by
    rw [bare_function, isCutOff, isCutOff, endsCutOff_bare arguments]

theorem endsCutOff_bare : (cs : List Component) → endsCutOff (cs.map bare) = endsCutOff cs
  | [] => rfl
  | [last] => by
    rw [List.map_cons, List.map_nil, endsCutOff, endsCutOff, isCutOff_bare last]
  | first :: second :: rest => by
    have step := endsCutOff_bare (second :: rest)
    have whole : endsCutOff (first :: second :: rest) = endsCutOff (second :: rest) := by
      rw [endsCutOff]
      nofun
    rw [whole, ← step, List.map_cons, List.map_cons, endsCutOff]
    nofun

end

end Component

open Component

mutual

theorem Component.text_bare : (c : Component) → c.bare.text = c.text
  | .token p t => by
    rw [bare_token]
    rfl
  | .block p b content => by
    rw [bare_block, Component.text, Component.text, textList_bare none content]
  | .function p name arguments => by
    rw [bare_function, Component.text, Component.text, textList_bare none arguments,
      endsCutOff_bare]

theorem textList_bare (left : Option Contact) :
    (cs : List Component) → textList left (cs.map bare) = textList left cs
  | [] => rfl
  | c :: rest => by
    have first := Component.text_bare c
    have later := textList_bare (some c.contact) rest
    cases left <;> simp only [List.map_cons, textList, contact_bare, first, later]

end

theorem text_map_bare (cs : List Component) : text (cs.map bare) = text cs :=
  textList_bare none cs

theorem textApart_map_bare (cs : List Component) : textApart (cs.map bare) = textApart cs := by
  have run (begun space : Bool) :
      textApart.go begun space (cs.map bare) = textApart.go begun space cs := by
    induction cs generalizing begun space with
    | nil => rfl
    | cons c rest ih =>
      simp only [List.map_cons, textApart.go, isComment_bare, isWhitespace_bare,
        Component.text_bare, ih]
  exact run false false

/-! ## Nodes -/

namespace Node

/-- The node with every place the start of the text. -/
def bare : Node → Node
  | comment _ text => comment .start text
  | qualified _ prelude content =>
    qualified .start (prelude.map Component.bare) (content.map Component.bare)
  | atRule _ keyword prelude content =>
    atRule .start keyword (prelude.map Component.bare) (content.map (·.map Component.bare))
  | invalid _ fault => invalid .start fault

theorem spanBlock_bare (cs : List Component) :
    spanBlock (cs.map Component.bare) =
      ((spanBlock cs).1.map Component.bare, (spanBlock cs).2.1.map (·.map Component.bare),
        (spanBlock cs).2.2.map Component.bare) := by
  induction cs with
  | nil => rfl
  | cons c rest ih =>
    rw [List.map_cons, spanBlock, spanBlock, curly?_bare]
    cases c.curly? with
    | none => simp only [Option.map_none, ih, List.map_cons]
    | some content => rfl

theorem spanAtRule_bare (cs : List Component) :
    spanAtRule (cs.map Component.bare) =
      ((spanAtRule cs).1.map Component.bare, (spanAtRule cs).2.1.map (·.map Component.bare),
        (spanAtRule cs).2.2.map Component.bare) := by
  induction cs with
  | nil => rfl
  | cons c rest ih =>
    rw [List.map_cons, spanAtRule, spanAtRule, curly?_bare, isLiteral_bare]
    cases c.curly? with
    | none =>
      simp only [Option.map_none, ih]
      split <;> rfl
    | some content => rfl

/-- The keyword of an at-keyword. -/
def keyword? : Component → Option (List Char)
  | .token _ (.atKeyword keyword) => some keyword
  | _ => none

theorem eq_atKeyword_of_keyword? {c : Component} {keyword : List Char}
    (word : keyword? c = some keyword) : c = .token c.position (.atKeyword keyword) := by
  cases c with
  | token p t => cases t <;> cases word; rfl
  | block | function => cases word

theorem keyword?_bare (c : Component) : keyword? c.bare = keyword? c := by
  cases c with
  | token p t =>
    rw [bare_token]
    cases t <;> rfl
  | block => rw [bare_block]; rfl
  | function => rw [bare_function]; rfl

/-- A rule that no at-keyword begins runs to its block. -/
theorem readRule_of_keyword?_eq_none {first : Component} (plain : keyword? first = none)
    (rest : List Component) :
    readRule first rest =
      match (spanBlock (first :: rest)).2.1 with
      | some content =>
        (.qualified first.position (spanBlock (first :: rest)).1 content,
          (spanBlock (first :: rest)).2.2)
      | none =>
        (.invalid ((spanBlock (first :: rest)).1.getLast?.getD first).position .noBlock,
          (spanBlock (first :: rest)).2.2) := by
  unfold readRule
  split
  · cases plain
  · rfl

theorem readRule_bare (first : Component) (rest : List Component) :
    readRule first.bare (rest.map Component.bare) =
      ((readRule first rest).1.bare, (readRule first rest).2.map Component.bare) := by
  cases word : keyword? first with
  | some keyword =>
    rw [eq_atKeyword_of_keyword? word, bare_token, readRule, readRule, spanAtRule_bare]
    rfl
  | none =>
    have spanned := spanBlock_bare (first :: rest)
    rw [List.map_cons] at spanned
    rw [readRule_of_keyword?_eq_none word,
      readRule_of_keyword?_eq_none (by rw [keyword?_bare, word]), spanned, position_bare]
    cases (spanBlock (first :: rest)).2.1 with
    | some content => rfl
    | none =>
      have place : ((((spanBlock (first :: rest)).1.map Component.bare).getLast?.getD
          first.bare).position) = .start := by
        rw [List.getLast?_map]
        cases (spanBlock (first :: rest)).1.getLast? <;> simp
      simp only [Option.map_none, place, bare]

theorem ofBlock_bare (cs : List Component) :
    ofBlock (cs.map Component.bare) = (ofBlock cs).map bare := by
  fun_induction ofBlock cs with
  | case1 => rw [List.map_nil, ofBlock, List.map_nil]
  | case2 c rest significant ih =>
    rw [List.map_cons, ofBlock, isSignificant_bare, if_pos significant, readRule_bare, ih]
    rfl
  | case3 c rest insignificant ih =>
    rw [List.map_cons, ofBlock, isSignificant_bare, if_neg insignificant, ih]

theorem isHtmlMark_bare (c : Component) : isHtmlMark c.bare = isHtmlMark c := by
  rw [isHtmlMark, isHtmlMark, isLiteral_bare, isLiteral_bare]

theorem isComment_eq_false {c : Component} (other : ∀ p text, c ≠ .token p (.comment text)) :
    c.isComment = false := by
  cases c with
  | token p t =>
    cases t with
    | comment text => exact (other p text rfl).elim
    | _ => rfl
  | block | function => rfl

theorem ofSheet_of_not_isComment {c : Component} (noComment : c.isComment = false)
    (rest : List Component) :
    ofSheet (c :: rest) =
      if c.isWhitespace || isHtmlMark c then ofSheet rest
      else (readRule c rest).1 :: ofSheet (readRule c rest).2 := by
  rw [ofSheet]
  rintro p text rfl
  cases noComment

theorem ofSheet_bare (cs : List Component) :
    ofSheet (cs.map Component.bare) = (ofSheet cs).map bare := by
  fun_induction ofSheet cs with
  | case1 => rw [List.map_nil, ofSheet, List.map_nil]
  | case2 rest p text ih =>
    rw [List.map_cons, bare_token, ofSheet, ih]
    rfl
  | case3 c rest skipped other ih =>
    have noComment := isComment_eq_false other
    rw [List.map_cons, ofSheet_of_not_isComment (by rw [isComment_bare, noComment]),
      isWhitespace_bare, isHtmlMark_bare, if_pos skipped, if_pos skipped, ih]
  | case4 c rest kept other ih =>
    have noComment := isComment_eq_false other
    rw [List.map_cons, ofSheet_of_not_isComment (by rw [isComment_bare, noComment]),
      isWhitespace_bare, isHtmlMark_bare, if_neg kept, if_neg kept, readRule_bare, ih]
    rfl

end Node

/-! ## Entries -/

namespace Entry

/-- The entry with every place the start of the text. -/
def bare : Entry → Entry
  | declaration _ name value important =>
    declaration .start name (value.map Component.bare) important
  | atRule _ keyword => atRule .start keyword
  | invalid _ fault => invalid .start fault

theorem Progress.step_bare (s : Progress) (c : Component) : s.step c.bare = s.step c := by
  have same := isSignificant_bare c
  have curly : c.bare.curly?.isSome = c.curly?.isSome := by
    rw [curly?_bare, Option.isSome_map]
  cases c with
  | token p t =>
    rw [bare_token]
    obtain ⟨count, importance, occupied, block⟩ := s
    cases importance <;> cases t <;> try rfl
    rename_i text
    by_cases mark : text = ['!']
    · subst mark
      rfl
    · simp [step, mark, isSignificant, isWhitespace, isComment, curly?]
  | block p b content =>
    rw [bare_block] at *
    obtain ⟨count, importance, occupied, block⟩ := s
    cases importance <;> simp only [step, same, curly]
  | function p name arguments =>
    rw [bare_function] at *
    obtain ⟨count, importance, occupied, block⟩ := s
    cases importance <;> simp only [step, same, curly]

theorem Progress.ofValue_bare (value : List Component) :
    ofValue (value.map Component.bare) = ofValue value := by
  have run (s : Progress) : (value.map Component.bare).foldl step s = value.foldl step s := by
    induction value generalizing s with
    | nil => rfl
    | cons c rest ih => rw [List.map_cons, List.foldl_cons, List.foldl_cons, step_bare, ih]
  exact run _

theorem spanSemicolon_bare (cs : List Component) :
    spanSemicolon (cs.map Component.bare) =
      ((spanSemicolon cs).1.map Component.bare, (spanSemicolon cs).2.map Component.bare) := by
  induction cs with
  | nil => rfl
  | cons c rest ih =>
    rw [List.map_cons, spanSemicolon, spanSemicolon, isLiteral_bare]
    split
    · rfl
    · rw [ih]
      rfl

theorem dropWhile_map_bare (cs : List Component) :
    (cs.map Component.bare).dropWhile (fun c => !c.isSignificant) =
      (cs.dropWhile fun c => !c.isSignificant).map Component.bare := by
  rw [List.dropWhile_map]
  congr 2
  funext c
  rw [Function.comp_apply, isSignificant_bare]

/-- The name of a token that is one. -/
def name? : Component → Option (List Char)
  | .token _ (.ident name) => some name
  | _ => none

theorem name?_bare (c : Component) : name? c.bare = name? c := by
  cases c with
  | token p t =>
    rw [bare_token]
    cases t <;> rfl
  | block => rw [bare_block]; rfl
  | function => rw [bare_function]; rfl

theorem eq_ident_of_name? {c : Component} {name : List Char} (named : name? c = some name) :
    c = .token c.position (.ident name) := by
  cases c with
  | token p t => cases t <;> cases named; rfl
  | block | function => cases named

theorem ofParts_of_name?_eq_none {first : Component} (nameless : name? first = none)
    (rest : List Component) :
    ofParts first rest = .invalid first.position (.noName first.kind) := by
  unfold ofParts
  split
  · cases nameless
  · rfl

theorem ofParts_bare (first : Component) (rest : List Component) :
    ofParts first.bare (rest.map Component.bare) = (ofParts first rest).bare := by
  cases named : name? first with
  | none =>
    rw [ofParts_of_name?_eq_none named, ofParts_of_name?_eq_none (by rw [name?_bare, named]),
      position_bare, kind_bare]
    rfl
  | some name =>
    rw [eq_ident_of_name? named, bare_token, ofParts, ofParts, dropWhile_map_bare]
    cases rest.dropWhile fun c => !c.isSignificant with
    | nil => rfl
    | cons colon value =>
      simp only [List.map_cons, isLiteral_bare, Progress.ofValue_bare, position_bare]
      split
      · split
        · rfl
        · cases (Progress.ofValue value).importance <;> simp [bare]
      · rfl

theorem ofBlock_of_skipped {c : Component}
    (skipped : (!c.isSignificant || c.isLiteral [';']) = true) (rest : List Component) :
    ofBlock (c :: rest) = ofBlock rest := by
  rw [ofBlock, if_pos skipped]
  rintro p keyword rfl
  cases skipped

theorem ofBlock_of_keyword?_eq_none {c : Component}
    (kept : (!c.isSignificant || c.isLiteral [';']) = false) (plain : Node.keyword? c = none)
    (rest : List Component) :
    ofBlock (c :: rest) =
      ofParts c (spanSemicolon rest).1 :: ofBlock (spanSemicolon rest).2 := by
  rw [ofBlock, kept, if_neg Bool.false_ne_true]
  rintro p keyword rfl
  cases plain

theorem ofBlock_bare (cs : List Component) :
    ofBlock (cs.map Component.bare) = (ofBlock cs).map bare := by
  fun_induction ofBlock cs with
  | case1 => rw [List.map_nil, ofBlock, List.map_nil]
  | case2 c rest skipped ih =>
    rw [List.map_cons, ofBlock_of_skipped (by rw [isSignificant_bare, isLiteral_bare, skipped]),
      ih]
  | case3 rest p keyword kept ih =>
    have still : ¬(!(Component.token .start (.atKeyword keyword)).isSignificant ||
        (Component.token .start (.atKeyword keyword)).isLiteral [';']) = true :=
      Bool.false_ne_true
    rw [List.map_cons, bare_token, ofBlock, if_neg still, Node.spanAtRule_bare]
    simp only [ih]
    rfl
  | case4 c rest kept other ih =>
    have plain : Node.keyword? c = none := by
      cases word : Node.keyword? c with
      | none => rfl
      | some keyword => exact (other _ _ (Node.eq_atKeyword_of_keyword? word)).elim
    rw [Bool.not_eq_true] at kept
    rw [List.map_cons,
      ofBlock_of_keyword?_eq_none (by rw [isSignificant_bare, isLiteral_bare, kept])
        (by rw [Node.keyword?_bare, plain]), spanSemicolon_bare, ofParts_bare, ih]
    rfl

end Entry

end CriticalCss.Css
