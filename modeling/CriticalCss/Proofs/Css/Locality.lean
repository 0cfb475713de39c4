import CriticalCss.Proofs.Css.Lookahead

/-!
# How far the lexer looks

The lexemes of a text may depend on what follows it, but not on much: if a text is cut into
lexemes in front of a semicolon, it is cut into the same in front of every text that begins with
a mark of the layout, and what holds in front of a space holds in front of other white space
(`lexemes_append_of_stopAlike`).
-/

namespace CriticalCss.Css

open Text (isHexDigit)

section

variable {a : Char} {k : List Char}

/-! ## Marks -/

/-- The lexeme of a bracket. -/
def bracket? (c : Char) : Option Lexeme :=
  if c = '\x7b' then some (.opening .curly)
  else if c = '[' then some (.opening .square)
  else if c = '(' then some (.opening .round)
  else if c = '\x7d' then some (.closing .curly)
  else if c = ']' then some (.closing .square)
  else if c = ')' then some (.closing .round)
  else none

/-- What a mark is, by the beginning of the text behind it. -/
theorem readMark_eq (c : Char) (rest : List Char) :
    readMark c rest =
      match bracket? c with
      | some l => (l, rest)
      | none =>
        if c = '/' ∧ ['*'].isPrefixOf rest then
          (.token (.comment (readComment (rest.drop 1)).1), (readComment (rest.drop 1)).2)
        else if c = '<' ∧ ['!', '-', '-'].isPrefixOf rest then
          (.token (.literal ['<', '!', '-', '-']), rest.drop 3)
        else if c = '|' ∧ ['|'].isPrefixOf rest then (.token (.literal ['|', '|']), rest.drop 1)
        else if c ∈ ['~', '|', '^', '$', '*'] ∧ ['='].isPrefixOf rest then
          (.token (.literal [c, '=']), rest.drop 1)
        else (.token (.literal [c]), rest) := by
  unfold readMark
  split
  case h_11 noBlock noSquare noRound noClose noSquareEnd noRoundEnd noEqual noComment noHtml
      noColumn =>
    have starts {lead : List Char} (prefixed : lead.isPrefixOf rest = true) :
        ∃ after, rest = lead ++ after := by
      obtain ⟨after, same⟩ := List.isPrefixOf_iff_prefix.1 prefixed
      exact ⟨after, same.symm⟩
    have none : bracket? c = none := by simp_all [bracket?]
    rw [none]
    simp only
    rw [if_neg, if_neg, if_neg, if_neg]
    · rintro ⟨-, prefixed⟩
      obtain ⟨after, same⟩ := starts prefixed
      exact noEqual after same
    · rintro ⟨mark, prefixed⟩
      obtain ⟨after, same⟩ := starts prefixed
      exact noColumn after mark same
    · rintro ⟨mark, prefixed⟩
      obtain ⟨after, same⟩ := starts prefixed
      exact noHtml after mark same
    · rintro ⟨mark, prefixed⟩
      obtain ⟨after, same⟩ := starts prefixed
      exact noComment after mark same
  all_goals simp_all [bracket?]

theorem readMark_alike (alike : StopAlike a k) (c : Char) (t : List Char) :
    LeavesAlike a k (readMark c (t ++ [a])) (readMark c (t ++ k)) := by
  have test (lead : List Char) (marks : lead.all (['*', '!', '-', '|', '='].contains ·) = true) :
      lead.isPrefixOf (t ++ [a]) = lead.isPrefixOf t ∧
        lead.isPrefixOf (t ++ k) = lead.isPrefixOf t := by
    have none := alike.none (p := (['*', '!', '-', '|', '='].contains ·)) (by decide)
    refine ⟨isPrefixOf_append ?_ t, isPrefixOf_append ?_ t⟩
    · intro d head inside
      cases head
      exact Bool.false_ne_true (none.1.symm.trans (List.all_eq_true.1 marks _ inside))
    · intro d head inside
      exact Bool.false_ne_true ((none.2 d head).symm.trans (List.all_eq_true.1 marks d inside))
  have rest (n : Nat) {lead : List Char} (prefixed : lead.isPrefixOf t = true)
      (size : lead.length = n) (k' : List Char) : (t ++ k').drop n = t.drop n ++ k' := by
    subst size
    obtain ⟨after, rfl⟩ := List.isPrefixOf_iff_prefix.1 prefixed
    rw [List.append_assoc, List.drop_left, List.drop_left]
  have star := test ['*'] (by decide)
  have html := test ['!', '-', '-'] (by decide)
  have column := test ['|'] (by decide)
  have equal := test ['='] (by decide)
  rw [readMark_eq, readMark_eq, star.1, star.2, html.1, html.2, column.1, column.2, equal.1,
    equal.2]
  cases bracket? c with
  | some l => exact .inr ⟨t, rfl, rfl⟩
  | none =>
    simp only
    split
    · rename_i comment
      rw [rest 1 comment.2 rfl, rest 1 comment.2 rfl]
      exact (readComment_alike alike (t.drop 1)).map fun text => Lexeme.token (.comment text)
    split
    · rename_i html
      rw [rest 3 html.2 rfl, rest 3 html.2 rfl]
      exact .inr ⟨t.drop 3, rfl, rfl⟩
    split
    · rename_i column
      rw [rest 1 column.2 rfl, rest 1 column.2 rfl]
      exact .inr ⟨t.drop 1, rfl, rfl⟩
    split
    · rename_i equal
      rw [rest 1 equal.2 rfl, rest 1 equal.2 rfl]
      exact .inr ⟨t.drop 1, rfl, rfl⟩
    · exact .inr ⟨t, rfl, rfl⟩

/-! ## Where names and hashes begin -/

theorem isEscape_cons (c : Char) (rest rest' : List Char) :
    isEscape (c :: rest) = isEscape (c :: rest') := by
  by_cases line : c = '\n'
  · rw [line]
    rfl
  · simp [isEscape, line]

theorem startsName_cons {c : Char} (noEscape : c ≠ '\\') (noHyphen : c ≠ '-')
    (rest : List Char) : startsName (c :: rest) = isNameStart c := by
  simp [startsName, noHyphen]

theorem startsName_hyphen_cons {c : Char} (noEscape : c ≠ '\\') (rest : List Char) :
    startsName ('-' :: c :: rest) = (isNameStart c || c == '-') := by
  simp [startsName]

/-- A mark of the layout begins no name, not even one with a hyphen or an escape in front. -/
theorem Stops.not_startsName (stops : Stops k) :
    ∀ c ∈ k.head?, isNameStart c = false ∧ c ≠ '-' ∧ c ≠ '\\' := by
  intro c head
  have plain := stops.none (p := fun c => isNameStart c || c == '-' || c == '\\') (by decide)
  simpa [and_assoc] using plain c head

theorem startsName_stops (stops : Stops k) : startsName k = false := by
  cases k with
  | nil => rfl
  | cons c k =>
    obtain ⟨noStart, noHyphen, noEscape⟩ := stops.not_startsName c rfl
    rw [startsName_cons noEscape noHyphen, noStart]

theorem startsName_hyphen_stops (stops : Stops k) : startsName ('-' :: k) = false := by
  cases k with
  | nil => rfl
  | cons c k =>
    obtain ⟨noStart, noHyphen, noEscape⟩ := stops.not_startsName c rfl
    rw [startsName_hyphen_cons noEscape, noStart, Bool.false_or, beq_eq_false_iff_ne]
    exact noHyphen

/-- Whether a name begins here is the same in front of both, unless the first is part of the
name. -/
theorem startsName_alike (alike : StopAlike a k) (t : List Char) :
    startsName (t ++ [a]) = startsName (t ++ k) ∨
      startsName (t ++ [a]) = true ∧ (readName (t ++ [a])).2 = [] := by
  have taken : readName ('\\' :: [a]) = ([a], []) := by
    have plain := (alike.none (p := isHexDigit) (by decide)).1
    rw [readName_escape alike.isEscape_singleton, readEscape, plain, if_neg Bool.false_ne_true,
      readName]
  rcases t with _ | ⟨c, t⟩
  · left
    rw [List.nil_append, List.nil_append, startsName_stops alike.stops_singleton,
      startsName_stops alike.stops]
  by_cases escape : c = '\\'
  · subst escape
    rcases t with _ | ⟨d, t⟩
    · right
      exact ⟨alike.isEscape_singleton, congrArg Prod.snd taken⟩
    · exact .inl (isEscape_cons d _ _)
  by_cases hyphen : c = '-'
  · subst hyphen
    rcases t with _ | ⟨d, t⟩
    · left
      rw [List.singleton_append, List.singleton_append,
        startsName_hyphen_stops alike.stops_singleton, startsName_hyphen_stops alike.stops]
    by_cases inner : d = '\\'
    · subst inner
      rcases t with _ | ⟨e, t⟩
      · right
        refine ⟨alike.isEscape_singleton, ?_⟩
        rw [List.cons_append, readName_cons_of_isNameChar rfl]
        exact congrArg Prod.snd taken
      · exact .inl (isEscape_cons e _ _)
    · exact .inl ((startsName_hyphen_cons inner _).trans (startsName_hyphen_cons inner _).symm)
  · exact .inl ((startsName_cons escape hyphen _).trans (startsName_cons escape hyphen _).symm)

theorem readNumeric_alike (alike : StopAlike a k) (digits t : List Char) :
    LeavesAlike a k (readNumeric digits (t ++ [a])) (readNumeric digits (t ++ k)) := by
  have dimension {cs : List Char} (start : startsName cs = true) : readNumeric digits cs =
      (.token (.dimension digits (readName cs).1), (readName cs).2) := by
    unfold readNumeric
    rw [if_pos start]
  rcases startsName_alike alike t with same | ⟨start, used⟩
  · by_cases start : startsName (t ++ [a]) = true
    · rw [dimension start, dimension (same ▸ start)]
      exact (readName_alike alike t).map fun unit => Lexeme.token (.dimension digits unit)
    · have number {cs : List Char} (noName : ¬startsName cs = true)
          (noPercent : ∀ after, cs ≠ '%' :: after) :
          readNumeric digits cs = (.token (.number digits), cs) := by
        unfold readNumeric
        rw [if_neg noName]
        split
        · exact (noPercent _ rfl).elim
        · rfl
      have noName : ¬startsName (t ++ k) = true := same ▸ start
      rcases t with _ | ⟨c, t⟩
      · have stop := alike.none (p := (· == '%')) (by decide)
        rw [number start, number noName]
        · exact .inr ⟨[], rfl, rfl⟩
        · rintro after rfl
          exact absurd (stop.2 '%' rfl) (by decide)
        · rintro after same
          rw [(List.cons.inj same).1] at stop
          exact absurd stop.1 (by decide)
      · by_cases percent : c = '%'
        · subst percent
          unfold readNumeric
          rw [if_neg start, if_neg noName]
          exact .inr ⟨t, rfl, rfl⟩
        · rw [number start fun after same => percent (List.cons.inj same).1,
            number noName fun after same => percent (List.cons.inj same).1]
          exact .inr ⟨c :: t, rfl, rfl⟩
  · left
    rw [dimension start]
    exact used

/-- The lexeme of a name, and what is left, by what stands behind the name. -/
def closeName (name : List Char) : List Char → Lexeme × List Char
  | '(' :: args =>
    if startsUrl name args then (.token (readUrl args).1, (readUrl args).2)
    else (.functionOpening name, args)
  | rest => (.token (.ident name), rest)

theorem closeName_of_ne {name rest : List Char} (other : ∀ args, rest ≠ '(' :: args) :
    closeName name rest = (.token (.ident name), rest) := by
  unfold closeName
  split
  · exact (other _ rfl).elim
  · rfl

theorem readNamed_eq (cs : List Char) :
    readNamed cs = closeName (readName cs).1 (readName cs).2 := by
  unfold readNamed
  split
  · rename_i shape
    rw [shape]
    rfl
  · rename_i name rest other shape
    rw [shape, closeName_of_ne other]

theorem closeName_alike (alike : StopAlike a k) (name t : List Char) :
    LeavesAlike a k (closeName name (t ++ [a])) (closeName name (t ++ k)) := by
  rcases t with _ | ⟨c, t⟩
  · have stop := alike.none (p := (· == '(')) (by decide)
    rw [closeName_of_ne, closeName_of_ne]
    · exact .inr ⟨[], rfl, rfl⟩
    · rintro args rfl
      exact absurd (stop.2 '(' rfl) (by decide)
    · rintro args same
      rw [(List.cons.inj same).1] at stop
      exact absurd stop.1 (by decide)
  by_cases opens : c = '('
  · subst opens
    simp only [List.cons_append, closeName]
    have same : startsUrl name (t ++ [a]) = startsUrl name (t ++ k) ∨
        startsUrl name (t ++ [a]) = true ∧ (readUrl (t ++ [a])).2 = [] := by
      by_cases none : t.dropWhile isSpace = []
      · by_cases url : (name.map Char.toLower == ['u', 'r', 'l']) = true
        · refine .inr ⟨?_, readUrl_of_dropWhile_eq_nil alike none⟩
          rw [startsUrl, url, dropWhile_append_of_eq_nil none]
          cases alike <;> rfl
        · rw [Bool.not_eq_true] at url
          left
          rw [startsUrl, startsUrl, url, Bool.false_and, Bool.false_and]
      · left
        rw [startsUrl, startsUrl, (takeWhile_append_of_ne_nil none _).2,
          (takeWhile_append_of_ne_nil none _).2]
        cases left : t.dropWhile isSpace with
        | nil => exact (none left).elim
        | cons c rest => rfl
    rcases same with same | ⟨url, used⟩
    · rw [same]
      split
      · exact (readUrl_alike alike t).map Lexeme.token
      · exact .inr ⟨t, rfl, rfl⟩
    · left
      rw [if_pos url]
      exact used
  · rw [List.cons_append, List.cons_append,
      closeName_of_ne fun args same => opens (List.cons.inj same).1,
      closeName_of_ne fun args same => opens (List.cons.inj same).1]
    exact .inr ⟨c :: t, rfl, rfl⟩

theorem readNamed_alike (alike : StopAlike a k) (t : List Char) :
    LeavesAlike a k (readNamed (t ++ [a])) (readNamed (t ++ k)) := by
  rw [readNamed_eq, readNamed_eq]
  exact (readName_alike alike t).bind rfl fun p => closeName_alike alike _ p

theorem startsHash_alike (alike : StopAlike a k) (t : List Char) :
    startsHash (t ++ [a]) = startsHash (t ++ k) ∨
      startsHash (t ++ [a]) = true ∧ (readName (t ++ [a])).2 = [] := by
  rcases t with _ | ⟨c, t⟩
  · have plain {k' : List Char} (stops : Stops k') : startsHash k' = false := by
      cases k' with
      | nil => rfl
      | cons c k' =>
        have noEscape := stops.all (p := (· != '\\')) (by decide) c rfl
        have noName := stops.none (p := isNameChar) (by decide) c rfl
        simp_all [startsHash]
    left
    rw [List.nil_append, List.nil_append, plain alike.stops_singleton, plain alike.stops]
  · by_cases escape : c = '\\'
    · subst escape
      rcases t with _ | ⟨d, t⟩
      · have hex := (alike.none (p := isHexDigit) (by decide)).1
        refine .inr ⟨alike.isEscape_singleton, ?_⟩
        rw [List.singleton_append, readName_escape alike.isEscape_singleton, readEscape, hex,
          if_neg Bool.false_ne_true, readName]
      · exact .inl (isEscape_cons d _ _)
    · left
      simp [startsHash]

/-- White space, up to where it ends. -/
theorem readLexeme_of_isSpace {c : Char} (space : isSpace c = true) (rest : List Char) :
    readLexeme c rest =
      (.token (.whitespace (c :: rest.takeWhile isSpace)), rest.dropWhile isSpace) := by
  rw [readLexeme, if_pos space]

theorem whitespace_alike (alike : StopAlike a k) {c : Char} (space : isSpace c = true)
    (t : List Char) : LeavesAlike a k (readLexeme c (t ++ [a])) (readLexeme c (t ++ k)) := by
  rw [readLexeme_of_isSpace space, readLexeme_of_isSpace space]
  by_cases none : t.dropWhile isSpace = []
  · cases alike with
    | space =>
      left
      rw [dropWhile_append_of_eq_nil none]
      rfl
    | mark ends =>
      have semicolon : Unspaced [';'] := by
        intro c head
        cases head
        rfl
      obtain ⟨taken, dropped⟩ := takeWhile_append_of_head semicolon t
      obtain ⟨taken', dropped'⟩ := takeWhile_append_of_head ends.unspaced t
      rw [taken, dropped, taken', dropped']
      exact .inr ⟨_, rfl, rfl⟩
  · obtain ⟨taken, dropped⟩ := takeWhile_append_of_ne_nil none [a]
    obtain ⟨taken', dropped'⟩ := takeWhile_append_of_ne_nil none k
    rw [taken, dropped, taken', dropped']
    exact .inr ⟨_, rfl, rfl⟩

/-- The lexeme of a character that begins neither white space nor a name nor a number. -/
def readSign (c : Char) (rest : List Char) : Lexeme × List Char :=
  if c = '@' && startsName rest then (.token (.atKeyword (readName rest).1), (readName rest).2)
  else if c = '#' && startsHash rest then
    (.token (.hash (readName rest).1 (startsName rest)), (readName rest).2)
  else if c = '"' || c = '\'' then readQuoted c rest
  else readMark c rest

theorem readSign_alike (alike : StopAlike a k) (c : Char) (t : List Char) :
    LeavesAlike a k (readSign c (t ++ [a])) (readSign c (t ++ k)) := by
  by_cases word : c = '@'
  · subst word
    rcases startsName_alike alike t with same | ⟨start, used⟩
    · unfold readSign
      rw [same]
      split
      · exact (readName_alike alike t).map fun name => Lexeme.token (.atKeyword name)
      · exact readMark_alike alike '@' t
    · left
      rw [readSign, start]
      exact used
  by_cases number : c = '#'
  · subst number
    have hash {cs : List Char} (start : startsHash cs = true) : readSign '#' cs =
        (.token (.hash (readName cs).1 (startsName cs)), (readName cs).2) := by
      rw [readSign, start]
      rfl
    rcases startsHash_alike alike t with same | ⟨start, used⟩
    · by_cases start : startsHash (t ++ [a]) = true
      · rw [hash start, hash (same ▸ start)]
        rcases startsName_alike alike t with identifier | ⟨-, used⟩
        · rw [identifier]
          exact (readName_alike alike t).map fun name => Lexeme.token (.hash name _)
        · exact .inl used
      · rw [Bool.not_eq_true] at start
        unfold readSign
        rw [← same, start]
        exact readMark_alike alike '#' t
    · left
      rw [hash start]
      exact used
  · have plain (rest : List Char) :
        readSign c rest = if c = '"' || c = '\'' then readQuoted c rest else readMark c rest := by
      simp [readSign, word, number]
    rw [plain, plain]
    split
    · rename_i quote
      exact readQuoted_alike alike (by simpa using quote) t
    · exact readMark_alike alike c t

theorem readLexeme_alike (alike : StopAlike a k) (c : Char) (t : List Char) :
    LeavesAlike a k (readLexeme c (t ++ [a])) (readLexeme c (t ++ k)) := by
  by_cases space : isSpace c = true
  · exact whitespace_alike alike space t
  unfold readLexeme
  rw [if_neg space, if_neg space, startsRange_append alike.stops_singleton,
    startsRange_append alike.stops]
  split
  · rename_i range
    rcases t with _ | ⟨d, t⟩
    · simp [startsRange] at range
    · simp only [List.cons_append, List.drop_succ_cons, List.drop_zero,
        readRange_append alike.stops_singleton, readRange_append alike.stops]
      exact .inr ⟨_, rfl, rfl⟩
  have foreign := alike.none (p := fun c => c == '-' || c == '>') (by decide)
  have noEnd {k' : List Char} (stop : ∀ d ∈ k'.head?, (d == '-' || d == '>') = false) :
      ['-', '-', '>'].isPrefixOf (c :: t ++ k') = ['-', '-', '>'].isPrefixOf (c :: t) := by
    refine isPrefixOf_append (fun d head inside => ?_) (c :: t)
    have other := stop d head
    simp only [List.mem_cons, List.not_mem_nil, or_false] at inside
    rcases inside with rfl | rfl | rfl <;> cases other
  rw [← List.cons_append, ← List.cons_append, noEnd foreign.2, noEnd (by simpa using foreign.1)]
  split
  · rename_i prefixed
    obtain ⟨after, shape⟩ := List.isPrefixOf_iff_prefix.1 prefixed
    obtain ⟨-, rfl⟩ := List.cons.inj shape
    exact .inr ⟨after, rfl, rfl⟩
  rcases startsName_alike alike (c :: t) with same | ⟨start, used⟩
  · rw [same]
    split
    · exact readNamed_alike alike (c :: t)
    rw [readNumber?_append alike.stops_singleton, readNumber?_append alike.stops]
    cases readNumber? (c :: t) with
    | some number => exact readNumeric_alike alike _ _
    | none =>
      exact readSign_alike alike c t
  · left
    rw [if_pos start, readNamed_eq, used]
    rfl

/-! ## Whole texts -/

/-- The lexeme is neither white space nor a comment nor a mark, nor a bracket as a token. -/
def Lexeme.IsPlain (l : Lexeme) : Prop :=
  ∀ t, l = .token t → t.kind ∉ ["whitespace", "comment", "literal"] ∧ ∀ b, t ≠ .unmatched b

theorem Lexeme.isPlain_token {t : Token} (other : t.kind ∉ ["whitespace", "comment", "literal"])
    (matched : ∀ b, t ≠ .unmatched b) : IsPlain (.token t) := by
  intro t' same
  cases same
  exact ⟨other, matched⟩

theorem isPlain_readRange (cs : List Char) : Lexeme.IsPlain (.token (readRange cs).1) := by
  have kind : (readRange cs).1.kind = "unicode-range" := by
    unfold readRange
    simp only
    split
    · rfl
    · split
      · split <;> rfl
      · rfl
  refine Lexeme.isPlain_token (by simp [kind]) fun b same => ?_
  rw [same] at kind
  simp [Token.kind] at kind

theorem isPlain_readUrl (cs : List Char) : Lexeme.IsPlain (.token (readUrl cs).1) := by
  unfold readUrl
  split
  · exact Lexeme.isPlain_token (by simp [Token.kind]) nofun
  · exact Lexeme.isPlain_token (by simp [Token.kind]) nofun
  · exact Lexeme.isPlain_token (by simp [Token.kind]) nofun
  · split <;> exact Lexeme.isPlain_token (by simp [Token.kind]) nofun

theorem isPlain_closeName (name rest : List Char) : (closeName name rest).1.IsPlain := by
  unfold closeName
  split
  · split
    · exact isPlain_readUrl _
    · nofun
  · exact Lexeme.isPlain_token (by simp [Token.kind]) nofun

theorem isPlain_readNumeric (digits rest : List Char) : (readNumeric digits rest).1.IsPlain := by
  unfold readNumeric
  split
  · exact Lexeme.isPlain_token (by simp [Token.kind]) nofun
  · split <;> exact Lexeme.isPlain_token (by simp [Token.kind]) nofun

theorem isPlain_quoted (read : List Char × StringEnd) : (quoted read).IsPlain := by
  obtain ⟨value, ending⟩ := read
  cases ending <;> exact Lexeme.isPlain_token (by simp [Token.kind]) nofun

theorem isPlain_of_bracket? {c : Char} {l : Lexeme} (some : bracket? c = some l) :
    l.IsPlain := by
  rintro t rfl
  simp [bracket?] at some
  grind

/-- What is read where `c` begins a text, as far as it is white space, a comment or a mark. -/
inductive ReadsShape (c : Char) (rest : List Char) : Lexeme × List Char → Prop
  | whitespace : isSpace c = true →
    ReadsShape c rest (.token (.whitespace (c :: rest.takeWhile isSpace)), rest.dropWhile isSpace)
  | comment (text : List Char) : rest = '*' :: text →
    ReadsShape c rest (.token (.comment (readComment text).1), (readComment text).2)
  | mark : ReadsShape c rest (.token (.literal [c]), rest)
  | marks {text after : List Char} : text.length ≠ 1 →
    ReadsShape c rest (.token (.literal text), after)
  | other {l : Lexeme} {after : List Char} : l.IsPlain → ReadsShape c rest (l, after)

theorem readsShape_readMark (c : Char) (rest : List Char) :
    ReadsShape c rest (readMark c rest) := by
  rw [readMark_eq]
  split
  · rename_i some
    exact .other (isPlain_of_bracket? some)
  split
  · rename_i comment
    obtain ⟨text, rfl⟩ := List.isPrefixOf_iff_prefix.1 comment.2
    exact .comment text rfl
  split
  · exact .marks (by decide)
  split
  · exact .marks (by decide)
  split
  · exact .marks (by simp)
  · exact .mark

theorem readsShape_readLexeme (c : Char) (rest : List Char) :
    ReadsShape c rest (readLexeme c rest) := by
  unfold readLexeme
  split
  · rename_i space
    exact .whitespace space
  split
  · exact .other (isPlain_readRange _)
  split
  · exact .marks (by decide)
  split
  · rw [readNamed_eq]
    exact .other (isPlain_closeName _ _)
  split
  · exact .other (isPlain_readNumeric _ _)
  split
  · exact .other (Lexeme.isPlain_token (by simp [Token.kind]) nofun)
  split
  · exact .other (Lexeme.isPlain_token (by simp [Token.kind]) nofun)
  split
  · rw [readQuoted_eq]
    exact .other (isPlain_quoted _)
  · exact readsShape_readMark c rest

/-- A semicolon, or a space. -/
def Lexeme.IsSingle (l : Lexeme) : Prop :=
  l = .token (.literal [';']) ∨ l = .token (.whitespace [' '])

/-- A semicolon or a space is read off one character only. -/
theorem eq_nil_of_readLexeme {c : Char} {rest after : List Char} {l : Lexeme}
    (single : l.IsSingle) (read : readLexeme c rest = (l, after)) (none : after = []) :
    rest = [] := by
  have shape := readsShape_readLexeme c rest
  rw [read] at shape
  cases shape with
  | whitespace space =>
    rcases single with same | same
    · cases same
    · have taken : rest.takeWhile isSpace = [] := by
        injection same with same
        injection same with same
        exact (List.cons.inj same).2
      rw [← List.takeWhile_append_dropWhile (p := isSpace) (l := rest), taken, none]
      rfl
  | comment => rcases single with same | same <;> cases same
  | mark => exact none
  | marks long =>
    rcases single with same | same <;> cases same
    exact (long rfl).elim
  | other plain =>
    rcases single with rfl | rfl <;> exact ((plain _ rfl).1 (by simp [Token.kind])).elim

theorem lexemes_append_of_stopAlike (alike : StopAlike a k) {s : List Char} {ls : List Lexeme}
    (cut : lexemes (s ++ [a]) = ls ++ lexemes [a]) : lexemes (s ++ k) = ls ++ lexemes k := by
  have stop : ∃ l, lexemes [a] = [l] ∧ l.IsSingle := by
    cases alike with
    | space => exact ⟨_, by simp [lexemes_cons, readLexeme, isSpace], .inr rfl⟩
    | mark => exact ⟨_, (by decide +kernel : lexemes [';'] = [.token (.literal [';'])]), .inl rfl⟩
  obtain ⟨l, only, single⟩ := stop
  induction n : s.length using Nat.strongRecOn generalizing s ls with
  | _ n ih =>
    subst n
    rcases s with _ | ⟨c, t⟩
    · have none : ls = [] := by simpa using cut
      rw [none]
      rfl
    rw [List.cons_append, lexemes_cons, only] at cut
    rcases readLexeme_alike alike c t with done | ⟨p, left, same⟩
    · -- then a single lexeme was read off at least two characters
      rw [done, lexemes_nil] at cut
      have empty : ls = [] := by
        have sizes := congrArg List.length cut
        simp at sizes
        exact sizes
      rw [empty, List.nil_append] at cut
      have ends := eq_nil_of_readLexeme single (Prod.ext (List.cons.inj cut).1 rfl) done
      simp at ends
    · rw [left] at cut
      rcases ls with _ | ⟨first, ls⟩
      · have sizes := congrArg List.length cut
        have some : lexemes (p ++ [a]) ≠ [] := by
          cases p with
          | nil =>
            rw [List.nil_append, only]
            exact List.cons_ne_nil _ _
          | cons d p =>
            rw [List.cons_append, lexemes_cons]
            exact List.cons_ne_nil _ _
        simp [some] at sizes
      · obtain ⟨rfl, later⟩ := List.cons.inj cut
        have shorter : p.length < (c :: t).length := by
          have bound := length_readLexeme_le c (t ++ [a])
          rw [left] at bound
          simp at bound ⊢
          omega
        have rest : lexemes (p ++ [a]) = ls ++ lexemes [a] := by
          rw [only]
          exact later
        rw [List.cons_append, lexemes_cons, same, ih p.length shorter rest rfl]
        rfl

end

end CriticalCss.Css
