import CriticalCss.Proofs.Css.Text

/-!
# Components as they are written

What a list of components is written as reads as the list with something between some of its
components: the empty comments that keep two neighbours apart (`writtenList`), or single spaces
instead of the white space and the comments (`apart`). Writing the result again gives the same
text.
-/

namespace CriticalCss.Css

/-! ## Fillers -/

/-- What goes between two neighbours. -/
def Contact.filler (left right : Contact) : List Component :=
  if clash left right then [.token .start (.comment [])]
  else if left = mark '\\' && right != lineStart then [.token .start (.whitespace ['\n'])]
  else []

/-- White space, or the empty comment. -/
inductive Component.IsFiller : Component → Prop
  | comment : IsFiller (.token .start (.comment []))
  | whitespace (w : List Char) : IsFiller (.token .start (.whitespace w))

theorem Contact.isFiller_of_mem_filler {left right : Contact} {c : Component}
    (mem : c ∈ left.filler right) : c.IsFiller := by
  unfold filler at mem
  split at mem
  · cases List.mem_singleton.1 mem
    exact .comment
  split at mem
  · cases List.mem_singleton.1 mem
    exact .whitespace _
  · cases mem

/-- What goes between a component and what stands before it, if anything does. -/
def Contact.gap (left : Option Contact) (right : Contact) : List Component :=
  match left with
  | none => []
  | some l => l.filler right

theorem Contact.isFiller_of_mem_gap {left : Option Contact} {right : Contact} {c : Component}
    (mem : c ∈ gap left right) : c.IsFiller := by
  cases left with
  | none => cases mem
  | some l => exact isFiller_of_mem_filler mem

mutual

/-- The component with what goes between the components inside it. -/
def Component.written : Component → Component
  | .token p t => .token p t
  | .block p b content => .block p b (writtenList none content)
  | .function p name arguments => .function p name (writtenList none arguments)

/-- The components with what goes between them; `left` is what stands before them. -/
def writtenList (left : Option Contact) : List Component → List Component
  | [] => []
  | c :: rest => Contact.gap left c.contact ++ c.written :: writtenList (some c.contact) rest

end

/-- The components with single spaces for white space, and without comments. -/
def apart (cs : List Component) : List Component :=
  go false false cs
where
  go (begun space : Bool) : List Component → List Component
    | [] => []
    | c :: rest =>
      if c.isComment then go begun space rest
      else if c.isWhitespace then go begun true rest
      else
        (if space && begun then [.token .start (.whitespace [' '])] else []) ++
          c.written :: go true false rest

/-- Each component of `ds` fills a gap or is one of `cs` as it is written. -/
def IsWrittenFrom (cs ds : List Component) : Prop :=
  ∀ d ∈ ds, d.IsFiller ∨ ∃ c ∈ cs, d = c.written

theorem isWrittenFrom_writtenList (left : Option Contact) (cs : List Component) :
    IsWrittenFrom cs (writtenList left cs) := by
  induction cs generalizing left with
  | nil => nofun
  | cons c rest ih =>
    intro d mem
    rw [writtenList] at mem
    rcases List.mem_append.1 mem with filler | mem
    · exact .inl (Contact.isFiller_of_mem_gap filler)
    rcases List.mem_cons.1 mem with rfl | later
    · exact .inr ⟨c, List.mem_cons_self, rfl⟩
    · rcases ih _ d later with filler | ⟨e, inside, same⟩
      · exact .inl filler
      · exact .inr ⟨e, List.mem_cons_of_mem _ inside, same⟩

theorem isWrittenFrom_apart (cs : List Component) : IsWrittenFrom cs (apart cs) := by
  have run (begun space : Bool) : IsWrittenFrom cs (apart.go begun space cs) := by
    induction cs generalizing begun space with
    | nil => nofun
    | cons c rest ih =>
      have more {begun space : Bool} :
          ∀ d ∈ apart.go begun space rest, d.IsFiller ∨ ∃ e ∈ c :: rest, d = e.written := by
        intro d mem
        rcases ih begun space d mem with filler | ⟨e, inside, same⟩
        · exact .inl filler
        · exact .inr ⟨e, List.mem_cons_of_mem _ inside, same⟩
      intro d mem
      simp only [apart.go] at mem
      split at mem
      · exact more d mem
      split at mem
      · exact more d mem
      rcases List.mem_append.1 mem with filler | mem
      · split at filler
        · cases List.mem_singleton.1 filler
          exact .inl (.whitespace _)
        · cases filler
      rcases List.mem_cons.1 mem with rfl | later
      · exact .inr ⟨c, List.mem_cons_self, rfl⟩
      · exact more d later
  exact run false false

/-- White space around what is written fills a gap, too. -/
theorem IsWrittenFrom.blank {cs ds : List Component} (written : IsWrittenFrom cs ds)
    (v w : List Char) : IsWrittenFrom cs (blank v ++ ds ++ blank w) := by
  have filler (u : List Char) : ∀ d ∈ Css.blank u, d.IsFiller := by
    intro d mem
    obtain ⟨text, rfl⟩ := isWhitespace_of_mem_blank mem
    exact .whitespace text
  intro d mem
  rcases List.mem_append.1 mem with mem | after
  · rcases List.mem_append.1 mem with before | inside
    · exact .inl (filler v d before)
    · exact written d inside
  · exact .inl (filler w d after)

/-- Written one by one, components begin with one that is neither white space nor a comment. -/
theorem isSignificant_of_head?_apart {cs : List Component} :
    ∀ d ∈ (apart cs).head?, ∃ c ∈ cs, d = c.written ∧ c.isSignificant = true := by
  have run (space : Bool) :
      ∀ d ∈ (apart.go false space cs).head?, ∃ c ∈ cs, d = c.written ∧ c.isSignificant = true := by
    induction cs generalizing space with
    | nil => nofun
    | cons c rest ih =>
      intro d head
      have more {space : Bool} (later : d ∈ (apart.go false space rest).head?) :
          ∃ e ∈ c :: rest, d = e.written ∧ e.isSignificant = true := by
        obtain ⟨e, mem, same⟩ := ih space d later
        exact ⟨e, List.mem_cons_of_mem _ mem, same⟩
      rw [apart.go] at head
      split at head
      · exact more head
      split at head
      · exact more head
      · rename_i noComment noSpace
        rw [Bool.and_false, if_neg Bool.false_ne_true] at head
        cases head
        exact ⟨c, List.mem_cons_self, rfl, by simp [Component.isSignificant, noComment, noSpace]⟩
  exact run false

/-! ## What a component looks like does not change -/

namespace Component

@[simp] theorem written_token (p : Position) (t : Token) : (token p t).written = token p t := by
  rw [written]

@[simp] theorem written_block (p : Position) (b : Bracket) (content : List Component) :
    (block p b content).written = block p b (writtenList none content) := by
  rw [written]

@[simp] theorem written_function (p : Position) (name : List Char) (arguments : List Component) :
    (function p name arguments).written = function p name (writtenList none arguments) := by
  rw [written]

@[simp] theorem isLiteral_written (text : List Char) (c : Component) :
    c.written.isLiteral text = c.isLiteral text := by
  cases c <;> simp [isLiteral]

@[simp] theorem isWhitespace_written (c : Component) :
    c.written.isWhitespace = c.isWhitespace := by
  cases c <;> simp [isWhitespace]

@[simp] theorem isComment_written (c : Component) : c.written.isComment = c.isComment := by
  cases c <;> simp [isComment]

@[simp] theorem isSignificant_written (c : Component) :
    c.written.isSignificant = c.isSignificant := by
  rw [isSignificant, isWhitespace_written, isComment_written, isSignificant]

theorem curly?_written (c : Component) : c.written.curly? = c.curly?.map (writtenList none) := by
  cases c with
  | block p b content => cases b <;> simp [curly?]
  | token | function => simp [curly?]

@[simp] theorem contact_written (c : Component) : c.written.contact = c.contact := by
  cases c with
  | block p b content => cases b <;> simp [contact]
  | token | function => simp [contact]

theorem endsCutOff_append {rest : List Component} (some : rest ≠ []) (cs : List Component) :
    endsCutOff (cs ++ rest) = endsCutOff rest := by
  induction cs with
  | nil => rfl
  | cons c cs ih =>
    rw [List.cons_append]
    cases shape : cs ++ rest with
    | nil => exact (some (List.append_eq_nil_iff.1 shape).2).elim
    | cons d ds =>
      rw [← ih, shape, endsCutOff]
      exact fun none => List.cons_ne_nil d ds none

theorem writtenList_ne_nil (left : Option Contact) (c : Component) (rest : List Component) :
    writtenList left (c :: rest) ≠ [] := by
  rw [writtenList]
  exact fun empty => List.cons_ne_nil _ _ (List.append_eq_nil_iff.1 empty).2

mutual

theorem isCutOff_written : (c : Component) → c.written.isCutOff = c.isCutOff
  | token p t => by rw [written_token]
  | block p b content => by
    rw [written_block]
    rfl
  | function p name arguments => by
    rw [written_function, isCutOff, isCutOff, endsCutOff_writtenList none arguments]

theorem endsCutOff_writtenList (left : Option Contact) :
    (cs : List Component) → endsCutOff (writtenList left cs) = endsCutOff cs
  | [] => rfl
  | [last] => by
    rw [writtenList, endsCutOff_append (List.cons_ne_nil _ _), writtenList, endsCutOff,
      endsCutOff, isCutOff_written last]
  | first :: second :: rest => by
    have later := endsCutOff_writtenList (some first.contact) (second :: rest)
    have last : endsCutOff (first :: second :: rest) = endsCutOff (second :: rest) :=
      endsCutOff_append (List.cons_ne_nil _ _) [first]
    rw [writtenList, endsCutOff_append (List.cons_ne_nil _ _), last, ← later]
    exact endsCutOff_append (writtenList_ne_nil _ _ _) [first.written]

end

end Component

open Component

theorem Contact.clash_backslash (right : Contact) : clash (mark '\\') right = false := by
  simp [clash, clashes, mark]

/-- Nothing more goes next to what fills a gap. -/
theorem textList_gap (left : Option Contact) (c : Component) (cs : List Component) :
    textList left (Contact.gap left c.contact ++ c :: cs) = textList left (c :: cs) := by
  cases left with
  | none => rfl
  | some l =>
    have comment : Component.contact (.token .start (.comment [])) = .other := rfl
    have line : Component.contact (.token .start (.whitespace ['\n'])) = .lineStart := rfl
    rw [Contact.gap, Contact.filler]
    by_cases touch : l.clash c.contact = true
    · have before : l.between .other = [] := by
        have plain : l ≠ .mark '\\' := by
          rintro rfl
          rw [Contact.clash_backslash] at touch
          cases touch
        simp [Contact.between, Contact.clash_other, plain]
      have filled : l.between c.contact = ['/', '*', '*', '/'] := by
        rw [Contact.between, if_pos touch]
      rw [if_pos touch]
      simp only [List.singleton_append, textList, comment, before, Contact.other_between, filled]
      rfl
    rw [if_neg touch]
    split
    · rename_i backslash
      have before : l.between .lineStart = [] := by
        simp [Contact.between, Contact.clash_lineStart]
      have filled : l.between c.contact = ['\n'] := by
        rw [Contact.between, if_neg touch, if_pos backslash]
      simp only [List.singleton_append, textList, line, before, Contact.lineStart_between, filled]
      rfl
    · rfl

mutual

theorem text_written : (c : Component) → c.written.text = c.text
  | .token p t => by rw [written_token]
  | .block p b content => by
    rw [written_block, Component.text, Component.text, textList_writtenList none content]
  | .function p name arguments => by
    rw [written_function, Component.text, Component.text, textList_writtenList none arguments,
      endsCutOff_writtenList]

/-- Written out, the components are written as they were. -/
theorem textList_writtenList (left : Option Contact) :
    (cs : List Component) → textList left (writtenList left cs) = textList left cs
  | [] => rfl
  | c :: rest => by
    have first := text_written c
    have later := textList_writtenList (some c.contact) rest
    have gap := textList_gap left c.written (writtenList (some c.contact) rest)
    rw [contact_written] at gap
    rw [writtenList, gap]
    cases left <;> simp only [textList, contact_written, first, later]

end

theorem text_writtenList (cs : List Component) : text (writtenList none cs) = text cs :=
  textList_writtenList none cs

/-- One by one, the components are written as they were, too. -/
theorem textApart_apart (cs : List Component) : textApart (apart cs) = textApart cs := by
  have run (begun space : Bool) :
      textApart.go begun false (apart.go begun space cs) = textApart.go begun space cs := by
    induction cs generalizing begun space with
    | nil => rfl
    | cons c rest ih =>
      rw [apart.go, textApart.go]
      split
      · exact ih begun space
      split
      · exact ih begun true
      rename_i noComment noSpace
      have noComment' : c.written.isComment = false := by
        rwa [Component.isComment_written, ← Bool.not_eq_true]
      have noSpace' : c.written.isWhitespace = false := by
        rwa [Component.isWhitespace_written, ← Bool.not_eq_true]
      have comment : Component.isComment (.token .start (.whitespace [' '])) = false := rfl
      have blank : Component.isWhitespace (.token .start (.whitespace [' '])) = true := rfl
      split
      · rename_i gap
        simp only [Bool.and_eq_true] at gap
        simp [textApart.go, comment, blank, noComment', noSpace', text_written, ih, gap.2]
      · simp [textApart.go, noComment', noSpace', text_written, ih]
  exact run false false

/-! ## Brackets and lexemes -/

@[simp] theorem Component.unmatched?_written (c : Component) :
    c.written.unmatched? = c.unmatched? := by
  cases c <;> simp [unmatched?]

theorem Component.IsFiller.unmatched? {c : Component} (filler : c.IsFiller) :
    c.unmatched? = none := by
  cases filler <;> rfl

theorem Component.IsFiller.isBalanced {c : Component} (filler : c.IsFiller) : c.IsBalanced := by
  cases filler <;> trivial

mutual

theorem isBalanced_written : (c : Component) → c.IsBalanced → c.written.IsBalanced
  | .token p t, balanced => by rwa [written_token]
  | .block p b content, balanced => by
    rw [written_block]
    exact balanced_writtenList none content balanced
  | .function p name arguments, balanced => by
    rw [written_function]
    exact balanced_writtenList none arguments balanced

theorem balanced_writtenList {closer : Option Bracket} (left : Option Contact) :
    (cs : List Component) → Balanced closer cs → Balanced closer (writtenList left cs)
  | [], _ => trivial
  | c :: rest, balanced => by
    obtain ⟨matched, inner, later⟩ := balanced
    rw [writtenList, balanced_append]
    refine ⟨balanced_iff.2 fun d mem => ?_, ?_, isBalanced_written c inner,
      balanced_writtenList _ rest later⟩
    · have filler := Contact.isFiller_of_mem_gap mem
      refine ⟨fun b closing => ?_, filler.isBalanced⟩
      rw [filler.unmatched?] at closing
      cases closing
    · rwa [Component.unmatched?_written]

end

theorem IsWrittenFrom.balanced {closer : Option Bracket} {cs ds : List Component}
    (written : IsWrittenFrom cs ds) (balanced : Balanced closer cs) : Balanced closer ds := by
  refine balanced_iff.2 fun d mem => ?_
  rcases written d mem with filler | ⟨c, inside, rfl⟩
  · refine ⟨fun b closing => ?_, filler.isBalanced⟩
    rw [filler.unmatched?] at closing
    cases closing
  · obtain ⟨matched, inner⟩ := balanced_iff.1 balanced c inside
    exact ⟨by rwa [Component.unmatched?_written], isBalanced_written c inner⟩

section

variable {P : Lexeme → Prop}

theorem forall_mem_lexemesOf {cs : List Component} :
    (∀ l ∈ lexemesOf cs, P l) ↔ ∀ c ∈ cs, ∀ l ∈ c.lexemes, P l := by
  induction cs with
  | nil => simp [lexemesOf]
  | cons c cs ih => rw [lexemesOf, List.forall_mem_append, List.forall_mem_cons, ih]

theorem Component.IsFiller.forall_mem_lexemes (comment : P (.token (.comment [])))
    (whitespace : ∀ w, P (.token (.whitespace w))) {c : Component} (filler : c.IsFiller) :
    ∀ l ∈ c.lexemes, P l := by
  cases filler with
  | comment =>
    rw [lexemes]
    · exact List.forall_mem_singleton.2 comment
    · nofun
  | whitespace w =>
    rw [lexemes]
    · exact List.forall_mem_singleton.2 (whitespace w)
    · nofun

mutual

/-- What holds of the lexemes of a component holds of those that are written. -/
theorem forall_mem_lexemes_written (comment : P (.token (.comment [])))
    (whitespace : ∀ w, P (.token (.whitespace w))) :
    (c : Component) → (∀ l ∈ c.lexemes, P l) → ∀ l ∈ c.written.lexemes, P l
  | .token p t, holds => by rwa [written_token]
  | .block p b content, holds => by
    rw [Component.lexemes, List.forall_mem_cons, List.forall_mem_append] at holds
    obtain ⟨first, inner, last⟩ := holds
    rw [written_block, Component.lexemes, List.forall_mem_cons, List.forall_mem_append]
    exact ⟨first, forall_mem_lexemesOf_writtenList comment whitespace none content inner, last⟩
  | .function p name arguments, holds => by
    rw [Component.lexemes, List.forall_mem_cons, List.forall_mem_append] at holds
    obtain ⟨first, inner, last⟩ := holds
    rw [written_function, Component.lexemes, List.forall_mem_cons, List.forall_mem_append]
    exact ⟨first, forall_mem_lexemesOf_writtenList comment whitespace none arguments inner, last⟩

theorem forall_mem_lexemesOf_writtenList (comment : P (.token (.comment [])))
    (whitespace : ∀ w, P (.token (.whitespace w))) (left : Option Contact) :
    (cs : List Component) → (∀ l ∈ lexemesOf cs, P l) → ∀ l ∈ lexemesOf (writtenList left cs), P l
  | [], _ => nofun
  | c :: rest, holds => by
    rw [lexemesOf, List.forall_mem_append] at holds
    obtain ⟨first, later⟩ := holds
    rw [writtenList, lexemesOf_append, List.forall_mem_append, lexemesOf, List.forall_mem_append]
    refine ⟨forall_mem_lexemesOf.2 fun d mem => ?_,
      forall_mem_lexemes_written comment whitespace c first,
      forall_mem_lexemesOf_writtenList comment whitespace _ rest later⟩
    exact (Contact.isFiller_of_mem_gap mem).forall_mem_lexemes comment whitespace

end

theorem IsWrittenFrom.forall_mem_lexemesOf {cs ds : List Component}
    (written : IsWrittenFrom cs ds) (comment : P (.token (.comment [])))
    (whitespace : ∀ w, P (.token (.whitespace w))) (holds : ∀ l ∈ lexemesOf cs, P l) :
    ∀ l ∈ lexemesOf ds, P l := by
  refine Css.forall_mem_lexemesOf.2 fun d mem => ?_
  rcases written d mem with filler | ⟨c, inside, rfl⟩
  · exact filler.forall_mem_lexemes comment whitespace
  · exact forall_mem_lexemes_written comment whitespace c
      (Css.forall_mem_lexemesOf.1 holds c inside)

end

/-! ## White space at the ends -/

/-- White space, as the lexer reads it. -/
def Component.IsSpace (c : Component) : Prop :=
  ∃ p w, c = .token p (.whitespace w) ∧ IsSpaces w

theorem isSpace_of_mem_blank {w : List Char} (spaces : IsSpaces w) :
    ∀ c ∈ blank w, c.IsSpace := by
  intro c mem
  unfold blank at mem
  split at mem
  · cases mem
  · exact ⟨_, w, List.mem_singleton.1 mem, spaces⟩

theorem textList_some_of_isSpace {c : Component} (space : c.IsSpace) (cs : List Component) :
    textList (some c.contact) cs = text cs := by
  obtain ⟨p, w, rfl, -⟩ := space
  exact textList_some_blank _ (between_whitespace p w) cs

/-- White space before components is white space before their text. -/
theorem text_append_left {v : List Component} (left : ∀ c ∈ v, c.IsSpace) (cs : List Component) :
    ∃ u, IsSpaces u ∧ text (v ++ cs) = u ++ text cs := by
  induction v with
  | nil => exact ⟨[], .nil, rfl⟩
  | cons c v ih =>
    have space := left c List.mem_cons_self
    obtain ⟨u, spaces, same⟩ := ih fun d mem => left d (List.mem_cons_of_mem _ mem)
    have first : text (c :: (v ++ cs)) = c.text ++ textList (some c.contact) (v ++ cs) := rfl
    rw [List.cons_append, first, textList_some_of_isSpace space, same]
    obtain ⟨p, w, rfl, inner⟩ := space
    exact ⟨w ++ u, inner.append spaces, (List.append_assoc _ _ _).symm⟩

theorem isSpaces_between {c : Component} (space : c.IsSpace) (left : Contact) :
    IsSpaces (left.between c.contact) := by
  obtain ⟨p, w, rfl, -⟩ := space
  by_cases plain : left = .mark '\\'
  · subst plain
    rw [Contact.between, Contact.clash_backslash, if_neg Bool.false_ne_true]
    split
    · exact .newline
    · exact .nil
  · rw [between_before_whitespace plain]
    exact .nil

theorem textList_append_right {w : List Component} (right : ∀ c ∈ w, c.IsSpace)
    (left : Option Contact) (cs : List Component) :
    ∃ u, IsSpaces u ∧ textList left (cs ++ w) = textList left cs ++ u := by
  induction cs generalizing left with
  | nil =>
    cases w with
    | nil => exact ⟨[], .nil, (List.append_nil _).symm⟩
    | cons c w =>
      have space := right c List.mem_cons_self
      obtain ⟨u, spaces, same⟩ :=
        text_append_left (fun d mem => right d (List.mem_cons_of_mem _ mem)) []
      have own : IsSpaces c.text := by
        obtain ⟨p, t, rfl, inner⟩ := space
        exact inner
      have rest : textList (some c.contact) w = u := by
        have empty : text [] = [] := rfl
        rw [textList_some_of_isSpace space]
        rwa [List.append_nil, empty, List.append_nil] at same
      cases left with
      | none =>
        refine ⟨c.text ++ u, own.append spaces, ?_⟩
        simp only [List.nil_append, textList, rest]
      | some l =>
        refine ⟨l.between c.contact ++ (c.text ++ u),
          (isSpaces_between space l).append (own.append spaces), ?_⟩
        simp only [List.nil_append, textList, rest]
  | cons c cs ih =>
    obtain ⟨u, spaces, same⟩ := ih (some c.contact)
    refine ⟨u, spaces, ?_⟩
    cases left <;> simp only [List.cons_append, textList, same, List.append_assoc]

/-- White space around components does not show where their text is trimmed. -/
theorem trim_text_append {v w : List Component} (left : ∀ c ∈ v, c.IsSpace)
    (right : ∀ c ∈ w, c.IsSpace) (cs : List Component) :
    Text.trim (text (v ++ cs ++ w)) = Text.trim (text cs) := by
  obtain ⟨before, spacesBefore, sameBefore⟩ := text_append_left left (cs ++ w)
  obtain ⟨after, spacesAfter, sameAfter⟩ := textList_append_right right none cs
  rw [List.append_assoc, sameBefore, text, sameAfter, ← List.append_assoc,
    Text.trim_append_blank spacesBefore.isBlank spacesAfter.isBlank, text]

/-- The components without the white space at their ends. -/
def stripped (cs : List Component) : List Component :=
  ((cs.dropWhile Component.isWhitespace).reverse.dropWhile Component.isWhitespace).reverse

theorem exists_stripped (cs : List Component) :
    ∃ v w, cs = v ++ stripped cs ++ w ∧ (∀ c ∈ v, c.isWhitespace = true) ∧
      ∀ c ∈ w, c.isWhitespace = true := by
  have all (ds : List Component) : ∀ c ∈ ds.takeWhile Component.isWhitespace,
      c.isWhitespace = true := List.all_eq_true.1 List.all_takeWhile
  refine ⟨cs.takeWhile Component.isWhitespace,
    ((cs.dropWhile Component.isWhitespace).reverse.takeWhile Component.isWhitespace).reverse, ?_,
    all cs, fun c mem => all _ c (List.mem_reverse.1 mem)⟩
  rw [stripped, List.append_assoc, ← List.reverse_append, List.takeWhile_append_dropWhile,
    List.reverse_reverse, List.takeWhile_append_dropWhile]

end CriticalCss.Css
