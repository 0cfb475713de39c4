import CriticalCss.Proofs.Css.Nesting
import CriticalCss.Proofs.Css.Place
import CriticalCss.Stylesheet.Reader

/-!
# Texts that spell components

`Spells closer follow s cs` says that the text `s` is cut into the lexemes of the components
`cs`, whatever text follows it, as long as `follow` holds of that text. Spellings are put
together piece by piece (`Spells.append`, `Spells.block`), so a printed stylesheet spells what
its parts spell.
-/

namespace CriticalCss.Css

/-! ## Lexemes without their places -/

/-- The lexemes of a text. -/
def lexemes (cs : List Char) : List Lexeme :=
  (lexFrom .start cs).map Prod.snd

@[simp] theorem lexemes_nil : lexemes [] = [] := by
  rw [lexemes, lexFrom, List.map_nil]

theorem lexFrom_cons (p : Position) (c : Char) (rest : List Char) :
    ∃ q, lexFrom p (c :: rest) =
      (p, (readLexeme c rest).1) :: lexFrom q (readLexeme c rest).2 := by
  rw [lexFrom]
  exact ⟨_, rfl⟩

/-- The lexemes do not depend on the place where the text begins. -/
theorem map_snd_lexFrom (p q : Position) (cs : List Char) :
    (lexFrom p cs).map Prod.snd = (lexFrom q cs).map Prod.snd := by
  induction n : cs.length using Nat.strongRecOn generalizing p q cs with
  | _ n ih =>
    subst n
    cases cs with
    | nil => rw [lexFrom, lexFrom]
    | cons c rest =>
      obtain ⟨p', atP⟩ := lexFrom_cons p c rest
      obtain ⟨q', atQ⟩ := lexFrom_cons q c rest
      have shorter : (readLexeme c rest).2.length < (c :: rest).length :=
        Nat.lt_succ_of_le (length_readLexeme_le c rest)
      rw [atP, atQ, List.map_cons, List.map_cons, ih _ shorter p' q' _ rfl]

theorem lexemes_cons (c : Char) (rest : List Char) :
    lexemes (c :: rest) = (readLexeme c rest).1 :: lexemes (readLexeme c rest).2 := by
  obtain ⟨q, step⟩ := lexFrom_cons .start c rest
  rw [lexemes, step, List.map_cons, lexemes, map_snd_lexFrom q .start]

theorem lexemes_of_readLexeme {c : Char} {rest after : List Char} {l : Lexeme}
    (read : readLexeme c rest = (l, after)) : lexemes (c :: rest) = l :: lexemes after := by
  rw [lexemes_cons, read]

/-- A character that the preparation of a text leaves alone. -/
def isUniform (c : Char) : Bool :=
  c != '\r' && c != '\x0c' && c != '\x00'

theorem normalize_eq_self {s : List Char} (uniform : ∀ c ∈ s, isUniform c = true) :
    normalize s = s := by
  induction s with
  | nil => rfl
  | cons c rest ih =>
    have here : isUniform c = true := uniform c List.mem_cons_self
    have later := ih fun d mem => uniform d (List.mem_cons_of_mem _ mem)
    simp only [isUniform, Bool.and_eq_true, bne_iff_ne, ne_eq] at here
    obtain ⟨⟨noReturn, noFeed⟩, noNull⟩ := here
    rw [normalize, later]
    · simp [noReturn, noFeed, noNull]
    · rintro more rfl
      exact (noReturn rfl).elim

/-- A text that was prepared can be prepared again. -/
theorem isUniform_of_mem_normalize {s : List Char} :
    ∀ c ∈ normalize s, isUniform c = true := by
  fun_induction normalize s with
  | case1 => nofun
  | case2 rest ih => exact List.forall_mem_cons.2 ⟨rfl, ih⟩
  | case3 c rest noPair ih =>
    refine List.forall_mem_cons.2 ⟨?_, ih⟩
    split
    · rfl
    split
    · rfl
    · simp_all [isUniform]

/-! ## What follows a text -/

/-- Anything may follow. -/
def Anything (_ : List Char) : Prop := True

/-- The end of the text follows, or a character that ends a name. -/
def Stops (k : List Char) : Prop :=
  ∀ c ∈ k.head?, c ∈ [' ', '\n', '\t', ';', ':', ',', '\x7b', '\x7d']

/-- The end of the text follows, or a mark of the layout that is no white space. -/
def Ends (k : List Char) : Prop :=
  ∀ c ∈ k.head?, c ∈ [';', ':', ',', '\x7b', '\x7d']

/-- No white space follows. -/
def Unspaced (k : List Char) : Prop :=
  ∀ c ∈ k.head?, isSpace c = false

theorem Ends.stops {k : List Char} (ends : Ends k) : Stops k := by
  intro c head
  have mark := ends c head
  simp only [List.mem_cons, List.not_mem_nil, or_false] at mark ⊢
  grind

/-- White space, and perhaps nothing. -/
def IsSpaces (w : List Char) : Prop :=
  ∀ c ∈ w, isSpace c = true

theorem IsSpaces.append {v w : List Char} (left : IsSpaces v) (right : IsSpaces w) :
    IsSpaces (v ++ w) :=
  List.forall_mem_append.2 ⟨left, right⟩

theorem IsSpaces.nil : IsSpaces [] := by
  intro c mem
  cases mem

theorem IsSpaces.space : IsSpaces [' '] :=
  List.forall_mem_singleton.2 rfl

theorem IsSpaces.newline : IsSpaces ['\n'] :=
  List.forall_mem_singleton.2 rfl

/-- White space, or what ends the text behind it, stops a name. -/
theorem IsSpaces.stops_append {w k : List Char} (spaces : IsSpaces w) (stops : Stops k) :
    Stops (w ++ k) := by
  rcases w with _ | ⟨c, w⟩
  · exact stops
  · intro d head
    cases head
    have space := spaces c List.mem_cons_self
    simp only [isSpace, Bool.or_eq_true, beq_iff_eq] at space
    rcases space with (rfl | rfl) | rfl <;> simp

theorem Ends.unspaced {k : List Char} (ends : Ends k) : Unspaced k := by
  intro c head
  have mark := ends c head
  simp only [List.mem_cons, List.not_mem_nil, or_false] at mark
  rcases mark with rfl | rfl | rfl | rfl | rfl <;> rfl

/-! ## Spellings -/

/-- The text `s` is cut into the lexemes of `cs`, whatever follows, as long as `follow` holds of
it; `closer` closes the part that the text stands in. -/
structure Spells (closer : Option Bracket) (follow : List Char → Prop) (s : List Char)
    (cs : List Component) : Prop where
  reads : ∀ k, follow k → lexemes (s ++ k) = lexemesOf cs ++ lexemes k
  balanced : Balanced closer cs
  sized : ∀ l ∈ lexemesOf cs, Stylesheet.oversized? l = none
  uniform : ∀ c ∈ s, isUniform c = true

theorem lexemesOf_token {p : Position} {t : Token} (matched : ∀ b, t ≠ .unmatched b) :
    lexemesOf [.token p t] = [.token t] := by
  cases t with
  | unmatched b => exact (matched b rfl).elim
  | _ => rfl

namespace Spells

variable {closer : Option Bracket} {follow before : List Char → Prop} {s t : List Char}
  {cs ds : List Component}

theorem nil : Spells closer follow [] [] where
  reads _ _ := rfl
  balanced := trivial
  sized l mem := by cases mem
  uniform c mem := by cases mem

/-- A text whose first piece bears what the second begins with. -/
theorem append (first : Spells closer before s cs) (second : Spells closer follow t ds)
    (fits : ∀ k, follow k → before (t ++ k)) : Spells closer follow (s ++ t) (cs ++ ds) where
  reads k holds := by
    rw [List.append_assoc, first.reads _ (fits k holds), second.reads k holds, lexemesOf_append,
      List.append_assoc]
  balanced := balanced_append.2 ⟨first.balanced, second.balanced⟩
  sized l mem := by
    rw [lexemesOf_append] at mem
    rcases List.mem_append.1 mem with left | right
    · exact first.sized l left
    · exact second.sized l right
  uniform := List.forall_mem_append.2 ⟨first.uniform, second.uniform⟩

/-- A text that bears anything behind it, and another. -/
theorem append_any (first : Spells closer Anything s cs) (second : Spells closer follow t ds) :
    Spells closer follow (s ++ t) (cs ++ ds) :=
  first.append second fun _ _ => trivial

theorem mono (spelled : Spells closer before s cs) (weaker : ∀ k, follow k → before k) :
    Spells closer follow s cs where
  reads k holds := spelled.reads k (weaker k holds)
  balanced := spelled.balanced
  sized := spelled.sized
  uniform := spelled.uniform

/-- One token that reads as itself. -/
theorem token {c : Char} {rest : List Char} {t : Token}
    (reads : ∀ k, follow k → readLexeme c (rest ++ k) = (.token t, k))
    (matched : ∀ b, t ≠ .unmatched b) (sized : t.digits? = none)
    (uniform : ∀ d ∈ c :: rest, isUniform d = true) :
    Spells closer follow (c :: rest) [.token .start t] where
  reads k holds := by
    rw [lexemesOf_token matched, List.cons_append, lexemes_of_readLexeme (reads k holds)]
    rfl
  balanced := by
    refine balanced_iff.2 fun d mem => ?_
    rw [List.mem_singleton] at mem
    subst mem
    refine ⟨fun b closing => ?_, trivial⟩
    cases t <;> cases closing
    exact (matched b rfl).elim
  sized l mem := by
    rw [lexemesOf_token matched, List.mem_singleton] at mem
    subst mem
    rw [Stylesheet.oversized?, sized]
    rfl
  uniform := uniform

/-- A text between brackets. -/
theorem block {b : Bracket} (inner : Spells (some b) before s cs)
    (fits : ∀ k, before (b.closing :: k)) :
    Spells closer Anything (b.opening :: s ++ [b.closing])
      [.block .start b cs] where
  reads k _ := by
    have opening (k : List Char) : readLexeme b.opening k = (.opening b, k) := by
      cases b <;> rfl
    have closing (k : List Char) : readLexeme b.closing k = (.closing b, k) := by
      cases b <;> rfl
    have content := inner.reads (b.closing :: k) (fits k)
    rw [lexemes_of_readLexeme (closing k)] at content
    rw [List.cons_append, List.cons_append, lexemes_of_readLexeme (opening _), List.append_assoc,
      List.singleton_append, content]
    simp [lexemesOf, Component.lexemes]
  balanced := by
    refine balanced_iff.2 fun c mem => ?_
    rw [List.mem_singleton] at mem
    subst mem
    exact ⟨nofun, inner.balanced⟩
  sized l mem := by
    rw [lexemesOf, Component.lexemes, lexemesOf, List.append_nil] at mem
    rcases List.mem_cons.1 mem with rfl | mem
    · rfl
    rcases List.mem_append.1 mem with within | last
    · exact inner.sized l within
    · rw [List.mem_singleton] at last
      subst last
      rfl
  uniform := by
    have marks : isUniform b.opening = true ∧ isUniform b.closing = true := by
      cases b <;> decide
    intro c mem
    rcases List.mem_append.1 mem with within | last
    · rcases List.mem_cons.1 within with rfl | deeper
      · exact marks.1
      · exact inner.uniform c deeper
    · rw [List.mem_singleton] at last
      subst last
      exact marks.2

end Spells

/-! ## Marks and white space -/

/-- One of the marks of the layout that is no bracket. -/
theorem spells_mark {closer : Option Bracket} {c : Char} (mark : c ∈ [';', ':', ',']) :
    Spells closer Anything [c] [.token .start (.literal [c])] := by
  have reads (k : List Char) : readLexeme c k = (.token (.literal [c]), k) := by
    have marked : readLexeme c k = readMark c k := by
      simp only [List.mem_cons, List.not_mem_nil, or_false] at mark
      rcases mark with rfl | rfl | rfl <;> rfl
    rw [marked]
    unfold readMark
    split <;> simp_all
    rcases mark with rfl | rfl | rfl <;> decide
  refine Spells.token (fun k _ => reads k) nofun rfl ?_
  simp only [List.mem_cons, List.not_mem_nil, or_false] at mark
  rcases mark with rfl | rfl | rfl <;> simp [isUniform]

/-- The component of white space, if there is any. -/
def blank (w : List Char) : List Component :=
  if w.isEmpty then [] else [.token .start (.whitespace w)]

theorem isComment_of_isWhitespace {c : Component} (space : c.isWhitespace = true) :
    c.isComment = false := by
  cases c with
  | token p t => cases t <;> first | rfl | cases space
  | block | function => rfl

theorem isWhitespace_of_mem_blank {w : List Char} {c : Component} (mem : c ∈ blank w) :
    ∃ text, c = .token .start (.whitespace text) := by
  unfold blank at mem
  split at mem
  · cases mem
  · rw [List.mem_singleton] at mem
    exact ⟨w, mem⟩

theorem takeWhile_append_of_unspaced {w k : List Char} (spaces : IsSpaces w)
    (unspaced : Unspaced k) :
    (w ++ k).takeWhile isSpace = w ∧ (w ++ k).dropWhile isSpace = k := by
  induction w with
  | nil =>
    cases k with
    | nil => exact ⟨rfl, rfl⟩
    | cons c k =>
      have no := unspaced c rfl
      rw [List.nil_append, List.takeWhile_cons_of_neg (by simp [no]),
        List.dropWhile_cons_of_neg (by simp [no])]
      exact ⟨rfl, rfl⟩
  | cons c w ih =>
    have yes := spaces c List.mem_cons_self
    obtain ⟨taken, dropped⟩ := ih fun d mem => spaces d (List.mem_cons_of_mem _ mem)
    rw [List.cons_append, List.takeWhile_cons_of_pos yes, List.dropWhile_cons_of_pos yes, taken,
      dropped]
    exact ⟨rfl, rfl⟩

theorem isUniform_of_isSpace {c : Char} (space : isSpace c = true) : isUniform c = true := by
  simp only [isSpace, Bool.or_eq_true, beq_iff_eq] at space
  rcases space with (rfl | rfl) | rfl <;> decide

/-- White space is one token, whatever it is made of. -/
theorem spells_blank {closer : Option Bracket} {w : List Char} (spaces : IsSpaces w) :
    Spells closer Unspaced w (blank w) := by
  cases w with
  | nil => exact .nil
  | cons c w =>
    have reads (k : List Char) (unspaced : Unspaced k) :
        readLexeme c (w ++ k) = (.token (.whitespace (c :: w)), k) := by
      obtain ⟨taken, dropped⟩ := takeWhile_append_of_unspaced
        (fun d mem => spaces d (List.mem_cons_of_mem _ mem)) unspaced
      rw [readLexeme, if_pos (spaces c List.mem_cons_self), taken, dropped]
    exact Spells.token reads nofun rfl fun d mem => isUniform_of_isSpace (spaces d mem)

/-! ## Names -/

/-- A name that is written as it is: its characters need no escape, and it begins as a name. -/
structure IsPlainName (name : List Char) : Prop where
  starts : startsName name = true
  fits : ∀ c ∈ name, isNameChar c = true

theorem isPlainName_of_all {name : List Char}
    (plain : (startsName name && name.all isNameChar) = true) : IsPlainName name := by
  rw [Bool.and_eq_true] at plain
  exact ⟨plain.1, List.all_eq_true.1 plain.2⟩

instance (name : List Char) : Decidable (IsPlainName name) :=
  decidable_of_iff ((startsName name && name.all isNameChar) = true)
    ⟨isPlainName_of_all, fun plain => by
      rw [Bool.and_eq_true]
      exact ⟨plain.starts, List.all_eq_true.2 plain.fits⟩⟩

theorem Stops.not_isNameChar {k : List Char} (stops : Stops k) :
    ∀ c ∈ k.head?, isNameChar c = false ∧ c ≠ '\\' ∧ c ≠ '(' ∧ c ≠ '+' ∧ c ≠ '>' := by
  intro c head
  have mark := stops c head
  simp only [List.mem_cons, List.not_mem_nil, or_false] at mark
  rcases mark with rfl | rfl | rfl | rfl | rfl | rfl | rfl | rfl <;> decide

theorem isSpace_of_isNameChar {c : Char} (fits : isNameChar c = true) : isSpace c = false := by
  rw [Bool.eq_false_iff]
  intro space
  simp only [isSpace, Bool.or_eq_true, beq_iff_eq] at space
  rcases space with (rfl | rfl) | rfl <;> exact absurd fits (by decide)

/-- Neither a range of code points nor the end of an HTML comment goes on behind characters of
names. -/
theorem Stops.head_ne {name k : List Char} (stops : Stops k)
    (fits : ∀ c ∈ name, isNameChar c = true) :
    ∀ c ∈ (name ++ k).head?, c ≠ '+' ∧ c ≠ '>' := by
  intro c head
  rcases name with _ | ⟨d, name⟩
  · obtain ⟨-, -, -, noPlus, noGreater⟩ := stops.not_isNameChar c head
    exact ⟨noPlus, noGreater⟩
  · cases head
    have fits := fits c List.mem_cons_self
    refine ⟨?_, ?_⟩ <;>
    · rintro rfl
      exact absurd fits (by decide)

theorem readName_append {name k : List Char} (fits : ∀ c ∈ name, isNameChar c = true)
    (stops : Stops k) : readName (name ++ k) = (name, k) := by
  induction name with
  | nil =>
    cases k with
    | nil => rw [List.append_nil, readName]
    | cons c k =>
      obtain ⟨noName, noEscape, -⟩ := stops.not_isNameChar c rfl
      rw [List.nil_append, readName, if_neg (by simp [noName]), if_neg (by simp [noEscape])]
  | cons c name ih =>
    have later := ih fun d mem => fits d (List.mem_cons_of_mem _ mem)
    rw [List.cons_append, readName, if_pos (fits c List.mem_cons_self), later]

theorem startsName_of_isNameStart {c : Char} (start : isNameStart c = true) (rest : List Char) :
    startsName (c :: rest) = true := by
  unfold startsName
  split <;> simp_all [isNameStart]

theorem startsName_hyphen {c : Char} (start : (isNameStart c || c == '-') = true)
    (rest : List Char) : startsName ('-' :: c :: rest) = true := by
  rw [startsName, start]
  rintro rfl
  exact absurd start (by decide)

namespace IsPlainName

variable {name : List Char}

/-- The two ways in which a plain name begins. -/
theorem cases (plain : IsPlainName name) :
    (∃ c rest, name = c :: rest ∧ isNameStart c = true) ∨
      ∃ c rest, name = '-' :: c :: rest ∧ (isNameStart c || c == '-') = true := by
  obtain ⟨starts, fits⟩ := plain
  unfold startsName at starts
  split at starts
  · cases starts
  · cases fits '\\' List.mem_cons_self
  · cases fits '\\' (List.mem_cons_of_mem _ List.mem_cons_self)
  · exact .inr ⟨_, _, rfl, starts⟩
  · exact .inl ⟨_, _, rfl, starts⟩

theorem startsName_append (plain : IsPlainName name) (k : List Char) :
    startsName (name ++ k) = true := by
  rcases plain.cases with ⟨c, rest, rfl, start⟩ | ⟨c, rest, rfl, start⟩
  · exact startsName_of_isNameStart start _
  · exact startsName_hyphen start _

theorem nameText_eq (plain : ∀ c ∈ name, isNameChar c = true) : nameText name = name := by
  induction name with
  | nil => rfl
  | cons c rest ih =>
    rw [nameText, List.flatMap_cons, nameCharText, if_pos (plain c List.mem_cons_self)]
    exact congrArg (c :: ·) (ih fun d mem => plain d (List.mem_cons_of_mem _ mem))

/-- A plain name is written as it is. -/
theorem identText_eq (plain : IsPlainName name) : identText name = name := by
  rcases plain.cases with ⟨c, rest, rfl, start⟩ | ⟨c, rest, rfl, start⟩
  · have tail : nameText rest = rest :=
      nameText_eq fun d mem => plain.fits d (List.mem_cons_of_mem _ mem)
    have noHyphen : c ≠ '-' := by
      rintro rfl
      exact absurd start (by decide)
    rw [identText, nameStartText, if_pos start, tail, List.singleton_append]
    all_goals simp [noHyphen]
  · have tail : nameText rest = rest :=
      nameText_eq fun d mem => plain.fits d (by simp [mem])
    by_cases hyphen : c = '-'
    · subst hyphen
      rw [identText, tail]
    · have inner : isNameStart c = true := by simpa [hyphen] using start
      rw [identText, nameStartText, if_pos inner, tail, List.cons_append, List.singleton_append]
      all_goals simp [hyphen]

/-- Neither a range of code points nor the end of an HTML comment begins where a plain name
does. -/
theorem readLexeme_eq {c : Char} {rest : List Char} (plain : IsPlainName (c :: rest))
    {k : List Char} (stops : Stops k) :
    readLexeme c (rest ++ k) = (.token (.ident (c :: rest)), k) := by
  have fits : ∀ d ∈ rest, isNameChar d = true :=
    fun d mem => plain.fits d (List.mem_cons_of_mem _ mem)
  have noSpace : isSpace c = false :=
    isSpace_of_isNameChar (plain.fits c List.mem_cons_self)
  have noRange : startsRange (rest ++ k) = false := by
    unfold startsRange
    split
    · rename_i text
      exact ((stops.head_ne fits _ (by rw [text]; rfl)).1 rfl).elim
    · rfl
  have noEnd : ['-', '-', '>'].isPrefixOf (c :: (rest ++ k)) = false := by
    rw [Bool.eq_false_iff]
    intro ends
    rcases rest with _ | ⟨d, rest⟩
    · simp only [List.isPrefixOf, Bool.and_eq_true, beq_iff_eq] at ends
      obtain ⟨rfl, -⟩ := ends
      cases plain.starts
    · simp only [List.cons_append, List.isPrefixOf, Bool.and_eq_true] at ends
      obtain ⟨-, -, ends⟩ := ends
      cases shape : rest ++ k with
      | nil =>
        rw [shape] at ends
        cases ends
      | cons e more =>
        have other := (stops.head_ne (fun d mem => fits d (List.mem_cons_of_mem _ mem)) e
          (by rw [shape]; rfl)).2
        rw [shape] at ends
        simp only [List.isPrefixOf, Bool.and_true, beq_iff_eq] at ends
        exact other ends.symm
  have named : readNamed (c :: (rest ++ k)) = (.token (.ident (c :: rest)), k) := by
    have name := readName_append plain.fits stops
    rw [List.cons_append] at name
    unfold readNamed
    rw [name]
    split
    · rename_i shape
      obtain ⟨-, rfl⟩ := Prod.mk.inj shape
      exact ((stops.not_isNameChar '(' rfl).2.2.1 rfl).elim
    · rename_i shape
      obtain ⟨rfl, rfl⟩ := Prod.mk.inj shape
      rfl
  rw [readLexeme, noSpace, if_neg Bool.false_ne_true, noRange, Bool.and_false,
    if_neg Bool.false_ne_true, noEnd, if_neg Bool.false_ne_true, if_pos, named]
  exact plain.startsName_append k

/-- White space before a plain name ends there. -/
theorem unspaced_append (plain : IsPlainName name) (k : List Char) : Unspaced (name ++ k) := by
  rcases name with _ | ⟨c, rest⟩
  · cases plain.starts
  · intro d head
    cases head
    exact isSpace_of_isNameChar (plain.fits c List.mem_cons_self)

theorem isUniform (plain : IsPlainName name) : ∀ c ∈ name, isUniform c = true := by
  intro c mem
  have fits := plain.fits c mem
  rw [Css.isUniform, Bool.and_eq_true, Bool.and_eq_true, bne_iff_ne, bne_iff_ne, bne_iff_ne]
  refine ⟨⟨?_, ?_⟩, ?_⟩ <;>
  · rintro rfl
    exact absurd fits (by decide)

end IsPlainName

/-- A plain name spells the name that it is. -/
theorem spells_name {closer : Option Bracket} {name : List Char} (plain : IsPlainName name) :
    Spells closer Stops name [.token .start (.ident name)] := by
  rcases name with _ | ⟨c, rest⟩
  · cases plain.starts
  · exact Spells.token (fun k stops => plain.readLexeme_eq stops) nofun rfl plain.isUniform

/-- An at-keyword of a plain name. -/
theorem spells_atKeyword {closer : Option Bracket} {name : List Char} (plain : IsPlainName name) :
    Spells closer Stops ('@' :: name) [.token .start (.atKeyword name)] := by
  have reads (k : List Char) (stops : Stops k) :
      readLexeme '@' (name ++ k) = (.token (.atKeyword name), k) := by
    have start : startsName (name ++ k) = true := plain.startsName_append k
    have marked : readLexeme '@' (name ++ k) =
        (if startsName (name ++ k) then
          (.token (.atKeyword (readName (name ++ k)).1), (readName (name ++ k)).2)
        else readMark '@' (name ++ k)) := rfl
    rw [marked, if_pos start, readName_append plain.fits stops]
  refine Spells.token reads nofun rfl fun c mem => ?_
  rcases List.mem_cons.1 mem with rfl | mem
  · decide
  · exact plain.isUniform c mem

/-- A point that no digit follows. -/
theorem spells_point {closer : Option Bracket} :
    Spells closer (fun k => ∀ c ∈ k.head?, c.isDigit = false ∧ c ≠ '=') ['.']
      [.token .start (.literal ['.'])] := by
  refine Spells.token (fun k follow => ?_) nofun rfl
    (List.forall_mem_singleton.2 rfl)
  have noNumber : readNumber? ('.' :: k) = none := by
    have noDigits : k.takeWhile Char.isDigit = [] := by
      cases k with
      | nil => rfl
      | cons c k => rw [List.takeWhile_cons_of_neg (by rw [(follow c rfl).1]; nofun)]
    have unsigned : readUnsigned? ('.' :: k) = none := by
      rw [readUnsigned?]
      simp [spanDigits, noDigits]
    rw [readNumber?]
    simp [spanSign, unsigned]
  rw [List.nil_append]
  unfold readLexeme
  rw [noNumber]
  change readMark '.' k = _
  unfold readMark
  split <;> simp_all

end CriticalCss.Css
