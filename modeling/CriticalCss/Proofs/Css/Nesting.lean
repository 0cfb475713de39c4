import CriticalCss.Css.Component

/-!
# Nesting and flattening

`Component.nest` builds components out of lexemes; `lexemesOf` lists the lexemes of components
again. The two undo each other on balanced components, those in which no closing bracket closes
a bracket around it by mistake (`nested_lexemesOf`). Places play no part in this: nesting
keeps them (`nested_unplaced`), so lexemes are compared without them.
-/

namespace CriticalCss.Css

/-! ## Nesting step by step -/

namespace Component

/-- The components up to the bracket that closes them. -/
def nested (closer : Option Bracket) (ls : List (Position × Lexeme)) : List Component :=
  (nest closer ls).1

/-- The lexemes behind the bracket that closes the components. -/
def behind (closer : Option Bracket) (ls : List (Position × Lexeme)) :
    List (Position × Lexeme) :=
  (nest closer ls).2.1

variable {closer : Option Bracket} {p : Position} {rest : List (Position × Lexeme)}

@[simp] theorem nested_nil : nested closer [] = [] := by
  rw [nested, nest]

@[simp] theorem behind_nil : behind closer [] = [] := by
  rw [behind, nest]

theorem nested_token (t : Token) :
    nested closer ((p, .token t) :: rest) = token p t :: nested closer rest := by
  rw [nested, nest, nested]

theorem behind_token (t : Token) :
    behind closer ((p, .token t) :: rest) = behind closer rest := by
  rw [behind, nest, behind]

theorem nested_opening (b : Bracket) :
    nested closer ((p, .opening b) :: rest) =
      block p b (nested (some b) rest) :: nested closer (behind (some b) rest) := by
  rw [nested, nest]
  rfl

theorem behind_opening (b : Bracket) :
    behind closer ((p, .opening b) :: rest) = behind closer (behind (some b) rest) := by
  rw [behind, nest]
  rfl

theorem nested_functionOpening (name : List Char) :
    nested closer ((p, .functionOpening name) :: rest) =
      function p name (nested (some .round) rest) ::
        nested closer (behind (some .round) rest) := by
  rw [nested, nest]
  rfl

theorem behind_functionOpening (name : List Char) :
    behind closer ((p, .functionOpening name) :: rest) =
      behind closer (behind (some .round) rest) := by
  rw [behind, nest]
  rfl

theorem nested_closing (b : Bracket) :
    nested closer ((p, .closing b) :: rest) =
      if closer = some b then [] else token p (.unmatched b) :: nested closer rest := by
  rw [nested, nest]
  split <;> rfl

theorem behind_closing (b : Bracket) :
    behind closer ((p, .closing b) :: rest) =
      if closer = some b then rest else behind closer rest := by
  rw [behind, nest]
  split <;> rfl

theorem length_behind_le (closer : Option Bracket) (ls : List (Position × Lexeme)) :
    (behind closer ls).length ≤ ls.length :=
  (nest closer ls).2.2

end Component

/-! ## Components without their places -/

namespace Component

/-- The component with every place the start of the text. -/
def bare : Component → Component
  | token _ t => token .start t
  | block _ b content => block .start b (bareAll content)
  | function _ name arguments => function .start name (bareAll arguments)
where
  /-- `bare` on each of the components. -/
  bareAll : List Component → List Component
    | [] => []
    | c :: rest => c.bare :: bareAll rest

theorem bareAll_eq (cs : List Component) : bare.bareAll cs = cs.map bare := by
  induction cs with
  | nil => rfl
  | cons c rest ih => rw [bare.bareAll, ih, List.map_cons]

@[simp] theorem bare_token (p : Position) (t : Token) : (token p t).bare = token .start t := by
  rw [bare]

@[simp] theorem bare_block (p : Position) (b : Bracket) (content : List Component) :
    (block p b content).bare = block .start b (content.map bare) := by
  rw [bare, bareAll_eq]

@[simp] theorem bare_function (p : Position) (name : List Char) (arguments : List Component) :
    (function p name arguments).bare = function .start name (arguments.map bare) := by
  rw [bare, bareAll_eq]

end Component

/-- Lexemes with the start of the text as the place of each. -/
def unplaced (ls : List Lexeme) : List (Position × Lexeme) :=
  ls.map fun l => (Position.start, l)

theorem unplaced_cons (l : Lexeme) (ls : List Lexeme) :
    unplaced (l :: ls) = (Position.start, l) :: unplaced ls := rfl

namespace Component

/-- What is nested and what is left do not depend on the places of the lexemes. -/
theorem nested_unplaced (closer : Option Bracket) (ls : List (Position × Lexeme)) :
    nested closer (unplaced (ls.map Prod.snd)) = (nested closer ls).map bare ∧
      behind closer (unplaced (ls.map Prod.snd)) =
        unplaced ((behind closer ls).map Prod.snd) := by
  induction n : ls.length using Nat.strongRecOn generalizing closer ls with
  | _ n ih =>
    subst n
    have shorter (closer : Option Bracket) (rest : List (Position × Lexeme))
        (less : rest.length < ls.length) := ih rest.length less closer rest rfl
    cases ls with
    | nil => simp [unplaced]
    | cons first rest =>
      obtain ⟨p, l⟩ := first
      have next : rest.length < ((p, l) :: rest).length := by simp
      have later (b : Bracket) : (behind (some b) rest).length < ((p, l) :: rest).length := by
        have := length_behind_le (some b) rest
        simp only [List.length_cons]
        omega
      rw [List.map_cons, unplaced_cons]
      cases l with
      | token t =>
        obtain ⟨inner, outer⟩ := shorter closer rest next
        rw [nested_token, nested_token, behind_token, behind_token, inner, outer, List.map_cons,
          bare_token]
        exact ⟨rfl, rfl⟩
      | opening b =>
        obtain ⟨inner, outer⟩ := shorter (some b) rest next
        obtain ⟨more, left⟩ := shorter closer _ (later b)
        rw [nested_opening, nested_opening, behind_opening, behind_opening, inner, outer, more,
          left, List.map_cons, bare_block]
        exact ⟨rfl, rfl⟩
      | functionOpening name =>
        obtain ⟨inner, outer⟩ := shorter (some .round) rest next
        obtain ⟨more, left⟩ := shorter closer _ (later .round)
        rw [nested_functionOpening, nested_functionOpening, behind_functionOpening,
          behind_functionOpening, inner, outer, more, left, List.map_cons, bare_function]
        exact ⟨rfl, rfl⟩
      | closing b =>
        obtain ⟨inner, outer⟩ := shorter closer rest next
        rw [nested_closing, nested_closing, behind_closing, behind_closing]
        by_cases own : closer = some b
        · simp only [if_pos own, List.map_nil, true_and]
        · rw [if_neg own, if_neg own, if_neg own, if_neg own, inner, outer, List.map_cons,
            bare_token]
          exact ⟨rfl, rfl⟩

end Component

/-! ## Flattening -/

mutual

/-- The lexemes of a component. -/
def Component.lexemes : Component → List Lexeme
  | .token _ (.unmatched b) => [.closing b]
  | .token _ t => [.token t]
  | .block _ b content => .opening b :: (lexemesOf content ++ [.closing b])
  | .function _ name arguments =>
    .functionOpening name :: (lexemesOf arguments ++ [.closing .round])

/-- The lexemes of components in a row. -/
def lexemesOf : List Component → List Lexeme
  | [] => []
  | c :: rest => c.lexemes ++ lexemesOf rest

end

theorem lexemesOf_append (as bs : List Component) :
    lexemesOf (as ++ bs) = lexemesOf as ++ lexemesOf bs := by
  induction as with
  | nil => rfl
  | cons a as ih => rw [List.cons_append, lexemesOf, lexemesOf, ih, List.append_assoc]

theorem Component.lexemes_ne_nil (c : Component) : c.lexemes ≠ [] := by
  cases c with
  | token p t => cases t <;> simp [Component.lexemes]
  | block | function => simp [Component.lexemes]

theorem eq_nil_of_lexemesOf_eq_nil {cs : List Component} (none : lexemesOf cs = []) : cs = [] := by
  cases cs with
  | nil => rfl
  | cons c cs =>
    rw [lexemesOf, List.append_eq_nil_iff] at none
    exact (c.lexemes_ne_nil none.1).elim

/-- The closing bracket that a component is, if it is one that closes nothing. -/
def Component.unmatched? : Component → Option Bracket
  | .token _ (.unmatched b) => some b
  | _ => none

mutual

/-- No closing bracket inside the component closes its block or function too early. -/
def Component.IsBalanced : Component → Prop
  | .token _ _ => True
  | .block _ b content => Balanced (some b) content
  | .function _ _ arguments => Balanced (some .round) arguments

/-- The components are balanced, and none is the bracket that closes the part around them. -/
def Balanced (closer : Option Bracket) : List Component → Prop
  | [] => True
  | c :: rest =>
    (∀ b, c.unmatched? = some b → closer ≠ some b) ∧ c.IsBalanced ∧ Balanced closer rest

end

theorem balanced_iff {closer : Option Bracket} {cs : List Component} :
    Balanced closer cs ↔
      ∀ c ∈ cs, (∀ b, c.unmatched? = some b → closer ≠ some b) ∧ c.IsBalanced := by
  induction cs with
  | nil => simp [Balanced]
  | cons c rest ih => simp [Balanced, ih, and_assoc]

theorem balanced_append {closer : Option Bracket} {as bs : List Component} :
    Balanced closer (as ++ bs) ↔ Balanced closer as ∧ Balanced closer bs := by
  simp only [balanced_iff, List.forall_mem_append]

/-! ## Nesting undoes flattening -/

section

open Component

mutual

/-- The lexemes of a balanced component nest to the component. -/
theorem nested_lexemes {closer : Option Bracket} (rest : List Lexeme) :
    (c : Component) → c.IsBalanced → (∀ b, c.unmatched? = some b → closer ≠ some b) →
      Component.nested closer (unplaced (c.lexemes ++ rest)) =
          c.bare :: Component.nested closer (unplaced rest) ∧
        Component.behind closer (unplaced (c.lexemes ++ rest)) =
          Component.behind closer (unplaced rest)
  | .token p t, _, apart => by
    cases t with
    | unmatched b =>
      rw [lexemes, List.singleton_append, unplaced_cons, nested_closing, behind_closing,
        if_neg (apart b rfl), if_neg (apart b rfl), bare_token]
      exact ⟨rfl, rfl⟩
    | _ =>
      simp only [lexemes]
      rw [List.singleton_append, unplaced_cons, nested_token, behind_token, bare_token]
      exact ⟨rfl, rfl⟩
  | .block p b content, balanced, _ => by
    obtain ⟨inner, outer⟩ := nested_lexemesOf (.closing b :: rest) content balanced
    rw [unplaced_cons, nested_closing, if_pos rfl, List.append_nil] at inner
    rw [unplaced_cons, behind_closing, if_pos rfl] at outer
    rw [lexemes, List.cons_append, List.append_assoc, List.singleton_append, unplaced_cons,
      nested_opening, behind_opening, inner, outer, bare_block]
    exact ⟨rfl, rfl⟩
  | .function p name arguments, balanced, _ => by
    obtain ⟨inner, outer⟩ := nested_lexemesOf (.closing .round :: rest) arguments balanced
    rw [unplaced_cons, nested_closing, if_pos rfl, List.append_nil] at inner
    rw [unplaced_cons, behind_closing, if_pos rfl] at outer
    rw [lexemes, List.cons_append, List.append_assoc, List.singleton_append, unplaced_cons,
      nested_functionOpening, behind_functionOpening, inner, outer, bare_function]
    exact ⟨rfl, rfl⟩

/-- **Nesting undoes flattening.** -/
theorem nested_lexemesOf {closer : Option Bracket} (rest : List Lexeme) :
    (cs : List Component) → Balanced closer cs →
      Component.nested closer (unplaced (lexemesOf cs ++ rest)) =
          cs.map Component.bare ++ Component.nested closer (unplaced rest) ∧
        Component.behind closer (unplaced (lexemesOf cs ++ rest)) =
          Component.behind closer (unplaced rest)
  | [], _ => ⟨rfl, rfl⟩
  | c :: others, balanced => by
    obtain ⟨apart, own, later⟩ := balanced
    obtain ⟨inner, outer⟩ := nested_lexemes (lexemesOf others ++ rest) c own apart
    obtain ⟨more, left⟩ := nested_lexemesOf rest others later
    rw [lexemesOf, List.append_assoc, inner, outer, more, left]
    exact ⟨rfl, rfl⟩

end

end

end CriticalCss.Css
