import CriticalCss.Proofs.Css.Locality
import CriticalCss.Proofs.Css.Suffix
import CriticalCss.Proofs.Css.Written

/-!
# What the parts of a text are made of

Every lexeme that is read off a text is fit to be printed and read again as far as it is white
space or a number (`Lexeme.IsFit`), and the parts that the grammar finds, the preludes and the
blocks of nodes and the values of declarations, are made of such lexemes, with their brackets in
order (`Sound`).
-/

namespace CriticalCss.Css

/-! ## Lexemes -/

/-- The words of a comment: they read as themselves in front of the mark of its end. -/
structure IsWords (words : List Char) : Prop where
  closed : readComment (words ++ ['*', '/']) = (words, [])
  uniform : ∀ c ∈ words, isUniform c = true

/-- A number is not too long, white space is made of the white space between tokens, a comment is
made of its words, and a closing bracket is no token. -/
structure Lexeme.IsFit (l : Lexeme) : Prop where
  sized : Stylesheet.oversized? l = none
  spaces : ∀ w, l = .token (.whitespace w) → IsSpaces w
  words : ∀ words, l = .token (.comment words) → IsWords words
  matched : ∀ b, l ≠ .token (.unmatched b)

theorem exists_readLexeme_of_mem_lexemes {s : List Char} {l : Lexeme} (mem : l ∈ lexemes s) :
    ∃ c rest, c :: rest <:+ s ∧ l = (readLexeme c rest).1 := by
  induction n : s.length using Nat.strongRecOn generalizing s with
  | _ n ih =>
    subst n
    rcases s with _ | ⟨c, rest⟩
    · rw [lexemes_nil] at mem
      cases mem
    rw [lexemes_cons] at mem
    rcases List.mem_cons.1 mem with here | later
    · exact ⟨c, rest, List.suffix_refl _, here⟩
    · obtain ⟨d, after, within, same⟩ :=
        ih _ (Nat.lt_succ_of_le (length_readLexeme_le c rest)) later rfl
      exact ⟨d, after, within.trans (suffix_readLexeme c rest), same⟩

/-- Every lexeme of a prepared text without too long a number is fit. -/
theorem isFit_of_mem_lexemes {s : List Char} (uniform : ∀ c ∈ s, isUniform c = true) {l : Lexeme}
    (mem : l ∈ lexemes s) (sized : Stylesheet.oversized? l = none) : l.IsFit := by
  obtain ⟨c, rest, within, here⟩ := exists_readLexeme_of_mem_lexemes mem
  have shape := readsShape_readLexeme c rest
  generalize readLexeme c rest = read at here shape
  subst here
  cases shape with
  | whitespace space =>
    refine ⟨sized, fun w same => ?_, nofun, nofun⟩
    cases same
    intro d inside
    rcases List.mem_cons.1 inside with rfl | inside
    · exact space
    · exact List.all_eq_true.1 List.all_takeWhile d inside
  | comment text same =>
    refine ⟨sized, nofun, fun words read => ?_, nofun⟩
    cases read
    refine ⟨readComment_closed text, fun d inside => uniform d (within.subset ?_)⟩
    rw [same]
    exact List.mem_cons_of_mem _
      (List.mem_cons_of_mem _ ((prefix_readComment text).subset inside))
  | mark | marks => exact ⟨sized, nofun, nofun, nofun⟩
  | other plain =>
    refine ⟨sized, fun w same => ?_, fun words same => ?_, fun b same => ?_⟩
    · exact ((plain _ same).1 (by simp [Token.kind])).elim
    · exact ((plain _ same).1 (by simp [Token.kind])).elim
    · exact (plain _ same).2 b rfl

/-! ## Components -/

/-- The components are made of fit lexemes, and no closing bracket among them closes the part
around them. -/
structure Sound (closer : Option Bracket) (cs : List Component) : Prop where
  fit : ∀ l ∈ lexemesOf cs, l.IsFit
  balanced : Balanced closer cs

namespace Sound

variable {closer : Option Bracket} {cs ds : List Component}

theorem nil : Sound closer [] := ⟨nofun, trivial⟩

theorem of_subset (sound : Sound closer cs) (within : ∀ d ∈ ds, d ∈ cs) : Sound closer ds where
  fit := forall_mem_lexemesOf.2 fun d mem => forall_mem_lexemesOf.1 sound.fit d (within d mem)
  balanced := balanced_iff.2 fun d mem => balanced_iff.1 sound.balanced d (within d mem)

/-- No number among the lexemes of sound components, written out, is too long. -/
theorem sized (sound : Sound closer cs) (written : IsWrittenFrom cs ds) :
    ∀ l ∈ lexemesOf ds, Stylesheet.oversized? l = none :=
  written.forall_mem_lexemesOf rfl (fun _ => rfl) fun l mem => (sound.fit l mem).sized

/-- A token among the components is one of their lexemes, unless it is a closing bracket. -/
theorem isFit_token (sound : Sound closer cs) {p : Position} {t : Token}
    (mem : .token p t ∈ cs) (matched : ∀ b, t ≠ .unmatched b) : (Lexeme.token t).IsFit := by
  refine forall_mem_lexemesOf.1 sound.fit _ mem _ ?_
  have only := lexemesOf_token (p := p) matched
  rw [lexemesOf, lexemesOf, List.append_nil] at only
  rw [only]
  exact List.mem_singleton_self _

theorem isSpace (sound : Sound closer cs) {c : Component} (mem : c ∈ cs)
    (space : c.isWhitespace = true) : c.IsSpace := by
  cases c with
  | block | function => cases space
  | token p t =>
    cases t with
    | whitespace w => exact ⟨p, w, rfl, (sound.isFit_token mem nofun).spaces w rfl⟩
    | _ => cases space

/-- The content of a block among the components. -/
theorem curly {c : Component} (sound : Sound closer cs) (mem : c ∈ cs) {content : List Component}
    (block : c.curly? = some content) : Sound (some .curly) content := by
  cases c with
  | token | function => cases block
  | block p b inner =>
    cases b with
    | square | round => cases block
    | curly =>
      cases block
      have fit := forall_mem_lexemesOf.1 sound.fit _ mem
      rw [Component.lexemes, List.forall_mem_cons, List.forall_mem_append] at fit
      exact ⟨fit.2.1, (balanced_iff.1 sound.balanced _ mem).2⟩

end Sound

section

open Component

theorem Sound.cons {closer : Option Bracket} {c : Component} {rest : List Component}
    (fit : ∀ l ∈ c.lexemes, l.IsFit) (apart : ∀ b, c.unmatched? = some b → closer ≠ some b)
    (balanced : c.IsBalanced) (later : Sound closer rest) : Sound closer (c :: rest) where
  fit := by
    rw [lexemesOf]
    exact List.forall_mem_append.2 ⟨fit, later.fit⟩
  balanced := ⟨apart, balanced, later.balanced⟩

/-- The lexemes around the content of a bracket. -/
theorem isFit_of_mem_enclosed {opening : Lexeme} (fit : opening.IsFit) (b : Bracket)
    {content : List Component} (sound : Sound (some b) content) :
    ∀ l ∈ opening :: (lexemesOf content ++ [.closing b]), l.IsFit := by
  refine List.forall_mem_cons.2 ⟨fit, List.forall_mem_append.2 ⟨sound.fit, ?_⟩⟩
  exact List.forall_mem_singleton.2 ⟨rfl, nofun, nofun, nofun⟩

/-- What fit lexemes nest to is sound. -/
theorem sound_nested {ls : List (Position × Lexeme)} (fit : ∀ x ∈ ls, x.2.IsFit)
    (closer : Option Bracket) :
    Sound closer (nested closer ls) ∧ ∀ x ∈ behind closer ls, x.2.IsFit := by
  induction n : ls.length using Nat.strongRecOn generalizing closer ls with
  | _ n ih =>
    subst n
    cases ls with
    | nil =>
      rw [nested_nil, behind_nil]
      exact ⟨.nil, nofun⟩
    | cons first rest =>
      obtain ⟨p, l⟩ := first
      obtain ⟨here, later⟩ := List.forall_mem_cons.1 fit
      have next (closer : Option Bracket) := ih rest.length (by simp) later closer rfl
      have shorter (b : Bracket) : (behind (some b) rest).length < ((p, l) :: rest).length := by
        have := length_behind_le (some b) rest
        simp only [List.length_cons]
        omega
      have further (b : Bracket) := ih _ (shorter b) (next (some b)).2 closer rfl
      cases l with
      | token t =>
        have matched (b : Bracket) : t ≠ .unmatched b := fun same => here.matched b (by rw [same])
        rw [nested_token, behind_token]
        refine ⟨.cons ?_ ?_ trivial (next closer).1, (next closer).2⟩
        · have only : (token p t).lexemes = [.token t] := by
            have single := lexemesOf_token (p := p) matched
            rwa [lexemesOf, lexemesOf, List.append_nil] at single
          rw [only]
          exact List.forall_mem_singleton.2 here
        · intro b closing
          cases t with
          | unmatched b' => exact (matched b' rfl).elim
          | _ => cases closing
      | opening b =>
        rw [nested_opening, behind_opening]
        refine ⟨.cons ?_ nofun (next (some b)).1.balanced (further b).1, (further b).2⟩
        rw [Component.lexemes]
        exact isFit_of_mem_enclosed here b (next (some b)).1
      | functionOpening name =>
        rw [nested_functionOpening, behind_functionOpening]
        refine ⟨.cons ?_ nofun (next (some .round)).1.balanced (further .round).1,
          (further .round).2⟩
        rw [Component.lexemes]
        exact isFit_of_mem_enclosed here .round (next (some .round)).1
      | closing b =>
        rw [nested_closing, behind_closing]
        by_cases own : closer = some b
        · rw [if_pos own, if_pos own]
          exact ⟨.nil, later⟩
        · rw [if_neg own, if_neg own]
          refine ⟨.cons ?_ ?_ trivial (next closer).1, (next closer).2⟩
          · rw [Component.lexemes]
            exact List.forall_mem_singleton.2 here
          · intro b' closing
            cases closing
            exact own

end

/-- The components of a text without too long a number are sound. -/
theorem sound_components {cs : List Char}
    (sized : ∀ x ∈ lex cs, Stylesheet.oversized? x.2 = none) : Sound none (components cs) := by
  refine (sound_nested (fun x mem => ?_) none).1
  have read : x.2 ∈ lexemes (normalize cs) := List.mem_map_of_mem mem
  exact isFit_of_mem_lexemes isUniform_of_mem_normalize read (sized x mem)

/-! ## Nodes -/

namespace Node

/-- The parts of a node are sound, and its prelude holds nothing that would end it. A comment is
made of its words. -/
def IsSound (closer : Option Bracket) : Node → Prop
  | qualified _ prelude content =>
    Sound closer prelude ∧ (∀ c ∈ prelude, c.curly? = none) ∧ Sound (some .curly) content
  | atRule _ _ prelude content =>
    Sound closer prelude ∧ (∀ c ∈ prelude, c.curly? = none ∧ c.isLiteral [';'] = false) ∧
      ∀ cs ∈ content, Sound (some .curly) cs
  | comment _ words => IsWords words
  | invalid _ _ => True

/-- Components cut in three: a prelude whose components are all `inside` it, the content of a block,
if there is one, and what is left. -/
structure IsCut (inside : Component → Prop) (cs : List Component)
    (parts : List Component × Option (List Component) × List Component) : Prop where
  prelude : ∀ c ∈ parts.1, c ∈ cs ∧ inside c
  block : ∀ content ∈ parts.2.1, ∃ c ∈ cs, c.curly? = some content
  left : ∀ c ∈ parts.2.2, c ∈ cs

namespace IsCut

variable {inside : Component → Prop} {c : Component} {rest : List Component}

theorem nil : IsCut inside [] ([], none, []) :=
  ⟨List.forall_mem_nil _, fun _ none => (by cases none), List.forall_mem_nil _⟩

theorem stop : IsCut inside (c :: rest) ([], none, rest) :=
  ⟨List.forall_mem_nil _, fun _ none => (by cases none), fun _ => List.mem_cons_of_mem _⟩

theorem open_block {content : List Component} (curly : c.curly? = some content) :
    IsCut inside (c :: rest) ([], some content, rest) := by
  refine ⟨List.forall_mem_nil _, fun inner same => ?_, fun _ => List.mem_cons_of_mem _⟩
  cases same
  exact ⟨c, List.mem_cons_self, curly⟩

theorem cons {parts : List Component × Option (List Component) × List Component}
    (cut : IsCut inside rest parts) (own : inside c) :
    IsCut inside (c :: rest) (c :: parts.1, parts.2) where
  prelude := List.forall_mem_cons.2 ⟨⟨List.mem_cons_self, own⟩, fun d mem =>
    (cut.prelude d mem).imp_left (List.mem_cons_of_mem _)⟩
  block content same := by
    obtain ⟨d, mem, shape⟩ := cut.block content same
    exact ⟨d, List.mem_cons_of_mem _ mem, shape⟩
  left d mem := List.mem_cons_of_mem _ (cut.left d mem)

end IsCut

theorem isCut_spanBlock (cs : List Component) :
    IsCut (fun c => c.curly? = none) cs (spanBlock cs) := by
  induction cs with
  | nil => exact .nil
  | cons c rest ih =>
    rw [spanBlock]
    cases curly : c.curly? with
    | some content => exact .open_block curly
    | none => exact ih.cons curly

theorem isCut_spanAtRule (cs : List Component) :
    IsCut (fun c => c.curly? = none ∧ c.isLiteral [';'] = false) cs (spanAtRule cs) := by
  induction cs with
  | nil => exact .nil
  | cons c rest ih =>
    rw [spanAtRule]
    cases curly : c.curly? with
    | some content => exact .open_block curly
    | none =>
      simp only
      split
      · exact .stop
      · rename_i ahead
        exact ih.cons ⟨curly, by rwa [Bool.not_eq_true] at ahead⟩

theorem isSound_readRule {closer : Option Bracket} {first : Component} {rest : List Component}
    (sound : Sound closer (first :: rest)) :
    (readRule first rest).1.IsSound closer ∧ Sound closer (readRule first rest).2 := by
  unfold readRule
  split
  · have cut := isCut_spanAtRule rest
    have later : Sound closer rest := sound.of_subset fun _ => List.mem_cons_of_mem _
    refine ⟨⟨later.of_subset fun c mem => (cut.prelude c mem).1,
      fun c mem => (cut.prelude c mem).2, fun content mem => ?_⟩, later.of_subset cut.left⟩
    obtain ⟨c, inside, curly⟩ := cut.block content mem
    exact later.curly inside curly
  · have cut := isCut_spanBlock (first :: rest)
    simp only
    split
    · rename_i content shape
      obtain ⟨c, inside, curly⟩ := cut.block content shape
      exact ⟨⟨sound.of_subset fun c mem => (cut.prelude c mem).1,
        fun c mem => (cut.prelude c mem).2, sound.curly inside curly⟩, sound.of_subset cut.left⟩
    · exact ⟨trivial, sound.of_subset cut.left⟩

theorem isSound_of_mem_ofBlock {closer : Option Bracket} {cs : List Component}
    (sound : Sound closer cs) : ∀ node ∈ ofBlock cs, node.IsSound closer := by
  fun_induction ofBlock cs with
  | case1 => exact List.forall_mem_nil _
  | case2 c rest significant ih =>
    obtain ⟨here, later⟩ := isSound_readRule sound
    exact List.forall_mem_cons.2 ⟨here, ih later⟩
  | case3 c rest skipped ih => exact ih (sound.of_subset fun _ => List.mem_cons_of_mem _)

theorem isSound_of_mem_ofSheet {cs : List Component} (sound : Sound none cs) :
    ∀ node ∈ ofSheet cs, node.IsSound none := by
  fun_induction ofSheet cs with
  | case1 => exact List.forall_mem_nil _
  | case2 rest p text ih =>
    have matched (b : Bracket) : Token.comment text ≠ .unmatched b := fun same => by cases same
    have words : IsWords text := (sound.isFit_token List.mem_cons_self matched).words text rfl
    exact List.forall_mem_cons.2 ⟨words, ih (sound.of_subset fun _ => List.mem_cons_of_mem _)⟩
  | case3 c rest skipped noComment ih =>
    rw [if_pos skipped]
    exact ih (sound.of_subset fun _ => List.mem_cons_of_mem _)
  | case4 c rest kept noComment ih =>
    obtain ⟨here, later⟩ := isSound_readRule sound
    rw [if_neg kept]
    exact List.forall_mem_cons.2 ⟨here, ih later⟩

end Node

end CriticalCss.Css
