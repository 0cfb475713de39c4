import CriticalCss.Proofs.Css.Spelling

/-!
# Where nodes and entries end

What a list of components is cut into when a part of it is known: white space belongs to no node
and no entry, a rule ends with its block, an at-rule with its block or at a semicolon, and a
declaration at a semicolon or with the list.
-/

namespace CriticalCss.Css

variable {cs prelude : List Component} {w : List Char}

/-! ## Entries -/

namespace Entry

theorem ofBlock_blank (w : List Char) (rest : List Component) :
    ofBlock (blank w ++ rest) = ofBlock rest := by
  unfold blank
  split
  · rfl
  · exact ofBlock_of_skipped rfl rest

theorem spanSemicolon_append (free : ∀ c ∈ cs, c.isLiteral [';'] = false)
    (rest : List Component) :
    spanSemicolon (cs ++ rest) = (cs ++ (spanSemicolon rest).1, (spanSemicolon rest).2) := by
  induction cs with
  | nil => rfl
  | cons c cs ih =>
    have here : c.isLiteral [';'] = false := free c List.mem_cons_self
    rw [List.cons_append, spanSemicolon, here, if_neg Bool.false_ne_true,
      ih fun d mem => free d (List.mem_cons_of_mem _ mem)]
    rfl

/-- The components of a declaration up to its value. -/
def opening (name : List Char) : List Component :=
  [.token .start (.ident name), .token .start (.literal [':'])]

/-- A declaration behind white space that a semicolon ends. -/
theorem ofBlock_declaration (name : List Char) (free : ∀ c ∈ cs, c.isLiteral [';'] = false)
    (rest : List Component) :
    ofBlock (blank w ++ opening name ++ cs ++ .token .start (.literal [';']) :: rest) =
      ofParts (.token .start (.ident name)) (.token .start (.literal [':']) :: cs) ::
        ofBlock rest := by
  have colon : ∀ c ∈ (.token .start (.literal [':'])) :: cs, c.isLiteral [';'] = false :=
    List.forall_mem_cons.2 ⟨rfl, free⟩
  have span := spanSemicolon_append colon (.token .start (.literal [';']) :: rest)
  have stop : spanSemicolon (.token .start (.literal [';']) :: rest) = ([], rest) := rfl
  rw [stop, List.append_nil] at span
  rw [List.append_assoc, List.append_assoc, ofBlock_blank, opening, List.cons_append,
    ofBlock_of_keyword?_eq_none rfl rfl, List.cons_append, List.nil_append, ← List.cons_append,
    span]

/-- A declaration behind white space that ends with the block. -/
theorem ofBlock_last (name : List Char) (free : ∀ c ∈ cs, c.isLiteral [';'] = false) :
    ofBlock (blank w ++ opening name ++ cs) =
      [ofParts (.token .start (.ident name)) (.token .start (.literal [':']) :: cs)] := by
  have colon : ∀ c ∈ (.token .start (.literal [':'])) :: cs, c.isLiteral [';'] = false :=
    List.forall_mem_cons.2 ⟨rfl, free⟩
  have span := spanSemicolon_append colon []
  rw [spanSemicolon, List.append_nil] at span
  rw [List.append_assoc, ofBlock_blank, opening, List.cons_append,
    ofBlock_of_keyword?_eq_none rfl rfl, List.cons_append, List.nil_append, span, ofBlock]

end Entry

/-! ## Nodes -/

namespace Node

theorem ofBlock_blank (w : List Char) (rest : List Component) :
    ofBlock (blank w ++ rest) = ofBlock rest := by
  unfold blank
  split
  · rfl
  · rw [List.singleton_append, ofBlock]
    exact if_neg Bool.false_ne_true

theorem ofSheet_blank (w : List Char) (rest : List Component) :
    ofSheet (blank w ++ rest) = ofSheet rest := by
  unfold blank
  split
  · rfl
  · rw [List.singleton_append, ofSheet_of_not_isComment rfl]
    exact if_pos rfl

theorem spanAtRule_append (free : ∀ c ∈ prelude, c.curly? = none ∧ c.isLiteral [';'] = false)
    (rest : List Component) :
    spanAtRule (prelude ++ rest) = (prelude ++ (spanAtRule rest).1, (spanAtRule rest).2) := by
  induction prelude with
  | nil => rfl
  | cons c prelude ih =>
    obtain ⟨noBlock, noEnd⟩ := free c List.mem_cons_self
    rw [List.cons_append, spanAtRule, noBlock,
      ih fun d mem => free d (List.mem_cons_of_mem _ mem)]
    simp only [noEnd, Bool.false_eq_true, if_false, List.cons_append]

theorem spanBlock_block (free : ∀ c ∈ prelude, c.curly? = none) (p : Position)
    (content rest : List Component) :
    spanBlock (prelude ++ .block p .curly content :: rest) = (prelude, some content, rest) := by
  induction prelude with
  | nil => rfl
  | cons c prelude ih =>
    rw [List.cons_append, spanBlock, free c List.mem_cons_self,
      ih fun d mem => free d (List.mem_cons_of_mem _ mem)]

/-- The component that ends an at-rule: its block, or a semicolon. -/
def ending : Option (List Component) → Component
  | some content => .block .start .curly content
  | none => .token .start (.literal [';'])

theorem spanAtRule_ending (free : ∀ c ∈ prelude, c.curly? = none ∧ c.isLiteral [';'] = false)
    (content : Option (List Component)) (rest : List Component) :
    spanAtRule (prelude ++ ending content :: rest) = (prelude, content, rest) := by
  have stop : spanAtRule (ending content :: rest) = ([], content, rest) := by
    cases content <;> rfl
  rw [spanAtRule_append free, stop, List.append_nil]

theorem readRule_atRule (keyword : List Char)
    (free : ∀ c ∈ prelude, c.curly? = none ∧ c.isLiteral [';'] = false)
    (content : Option (List Component)) (rest : List Component) :
    readRule (.token .start (.atKeyword keyword)) (prelude ++ ending content :: rest) =
      (.atRule .start keyword prelude content, rest) := by
  rw [readRule, spanAtRule_ending free content rest]

theorem ofSheet_atRule (keyword : List Char)
    (free : ∀ c ∈ prelude, c.curly? = none ∧ c.isLiteral [';'] = false)
    (content : Option (List Component)) (rest : List Component) :
    ofSheet (blank w ++ .token .start (.atKeyword keyword) :: prelude ++ [ending content] ++ rest) =
      .atRule .start keyword prelude content :: ofSheet rest := by
  rw [List.append_assoc, List.append_assoc, List.singleton_append, ofSheet_blank,
    List.cons_append, ofSheet_of_not_isComment rfl, readRule_atRule keyword free]
  exact if_neg Bool.false_ne_true

theorem ofBlock_atRule (keyword : List Char)
    (free : ∀ c ∈ prelude, c.curly? = none ∧ c.isLiteral [';'] = false)
    (content : Option (List Component)) (rest : List Component) :
    ofBlock (blank w ++ .token .start (.atKeyword keyword) :: prelude ++ [ending content] ++ rest) =
      .atRule .start keyword prelude content :: ofBlock rest := by
  rw [List.append_assoc, List.append_assoc, List.singleton_append, ofBlock_blank,
    List.cons_append, ofBlock, readRule_atRule keyword free]
  exact if_pos rfl

/-- The first component that is no white space. -/
def leading? (cs : List Component) : Option Component :=
  (cs.dropWhile Component.isWhitespace).head?

/-- A rule of a block may begin with the component, or a rule of a stylesheet, if `closer` is
`none`. -/
structure CanBegin (closer : Option Bracket) (c : Component) : Prop where
  noComment : c.isComment = false
  noKeyword : keyword? c = none
  noMark : closer = none → isHtmlMark c = false

/-- A rule that begins with `first` and ends with its block. -/
theorem readRule_block {first : Component} (plain : keyword? first = none)
    (free : ∀ c ∈ first :: prelude, c.curly? = none) (p : Position)
    (content rest : List Component) :
    readRule first (prelude ++ .block p .curly content :: rest) =
      (.qualified first.position (first :: prelude) content, rest) := by
  have span := spanBlock_block free p content rest
  rw [List.cons_append] at span
  rw [readRule_of_keyword?_eq_none plain, span]

theorem ofSheet_qualified {first : Component} (leads : leading? prelude = some first)
    (begins : CanBegin none first) (free : ∀ c ∈ prelude, c.curly? = none) (p : Position)
    (content rest : List Component) :
    ofSheet (prelude ++ .block p .curly content :: rest) =
      .qualified first.position (prelude.dropWhile Component.isWhitespace) content ::
        ofSheet rest := by
  induction prelude with
  | nil => cases leads
  | cons c prelude ih =>
    have later : ∀ d ∈ prelude, d.curly? = none :=
      fun d mem => free d (List.mem_cons_of_mem _ mem)
    by_cases space : c.isWhitespace = true
    · rw [leading?, List.dropWhile_cons_of_pos space] at leads
      rw [List.cons_append, ofSheet_of_not_isComment (isComment_of_isWhitespace space), space,
        Bool.true_or, if_pos rfl, ih leads later, List.dropWhile_cons_of_pos space]
    · rw [leading?, List.dropWhile_cons_of_neg space] at leads
      cases leads
      rw [Bool.not_eq_true] at space
      rw [List.cons_append, ofSheet_of_not_isComment begins.noComment, space, begins.noMark rfl,
        readRule_block begins.noKeyword free,
        List.dropWhile_cons_of_neg (by rw [space]; exact Bool.false_ne_true)]
      rfl

theorem ofBlock_qualified {closer : Option Bracket} {first : Component}
    (leads : leading? prelude = some first)
    (begins : CanBegin closer first) (free : ∀ c ∈ prelude, c.curly? = none) (p : Position)
    (content rest : List Component) :
    ofBlock (prelude ++ .block p .curly content :: rest) =
      .qualified first.position (prelude.dropWhile Component.isWhitespace) content ::
        ofBlock rest := by
  induction prelude with
  | nil => cases leads
  | cons c prelude ih =>
    have later : ∀ d ∈ prelude, d.curly? = none :=
      fun d mem => free d (List.mem_cons_of_mem _ mem)
    by_cases space : c.isWhitespace = true
    · have passed : c.isSignificant = false := by simp [Component.isSignificant, space]
      rw [leading?, List.dropWhile_cons_of_pos space] at leads
      rw [List.cons_append, ofBlock, passed, if_neg Bool.false_ne_true, ih leads later,
        List.dropWhile_cons_of_pos space]
    · rw [leading?, List.dropWhile_cons_of_neg space] at leads
      cases leads
      rw [Bool.not_eq_true] at space
      have kept : first.isSignificant = true := by
        simp [Component.isSignificant, space, begins.noComment]
      rw [List.cons_append, ofBlock, if_pos kept, readRule_block begins.noKeyword free,
        List.dropWhile_cons_of_neg (by rw [space]; exact Bool.false_ne_true)]

/-- A block without anything before it is a rule of a block of rules. -/
theorem ofBlock_block (w : List Char) (p : Position) (content rest : List Component) :
    ofBlock (blank w ++ .block p .curly content :: rest) =
      .qualified p [] content :: ofBlock rest := by
  rw [ofBlock_blank, ofBlock]
  exact if_pos rfl

end Node

end CriticalCss.Css
