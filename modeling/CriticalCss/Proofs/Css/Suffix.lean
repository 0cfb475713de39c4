import CriticalCss.Proofs.Css.Lookahead

/-!
# What the scanners leave

Every scanner leaves an end of the text that it reads (`suffix_readLexeme`): nothing that follows
a lexeme is changed by reading it. So a lexeme holds only what stands in the text.
-/

namespace CriticalCss.Css

open Text (isHexDigit)

/-! ## Runs, escapes and names -/

theorem suffix_spanUpTo (p : Char → Bool) (n : Nat) (cs : List Char) :
    (spanUpTo p n cs).2 <:+ cs := by
  fun_induction spanUpTo p n cs with
  | case1 => exact List.suffix_refl _
  | case2 => exact List.suffix_refl _
  | case3 n c rest fits run after read ih =>
    rw [read] at ih
    exact ih.trans (List.suffix_cons _ _)
  | case4 => exact List.suffix_refl _

theorem suffix_dropSpace (cs : List Char) : dropSpace cs <:+ cs := by
  unfold dropSpace
  split
  · split
    · exact List.suffix_cons _ _
    · exact List.suffix_refl _
  · exact List.suffix_refl _

theorem suffix_readEscape (cs : List Char) : (readEscape cs).2 <:+ cs := by
  unfold readEscape
  split
  · exact List.suffix_refl _
  · split
    · exact (suffix_dropSpace _).trans ((suffix_spanUpTo _ _ _).trans (List.suffix_cons _ _))
    · exact List.suffix_cons _ _

theorem suffix_readName (cs : List Char) : (readName cs).2 <:+ cs := by
  fun_induction readName cs with
  | case1 => exact List.suffix_refl _
  | case2 c rest fits name after read ih =>
    rw [read] at ih
    exact ih.trans (List.suffix_cons _ _)
  | case3 c rest noName escape name after read ih =>
    rw [read] at ih
    exact ih.trans ((suffix_readEscape rest).trans (List.suffix_cons _ _))
  | case4 => exact List.suffix_refl _

/-! ## Strings and addresses -/

theorem suffix_readString (quote : Char) (cs : List Char) :
    (readString quote cs).2.2 <:+ cs := by
  fun_induction readString quote cs with
  | case1 => exact List.suffix_refl _
  | case2 => exact List.suffix_cons _ _
  | case3 => exact List.nil_suffix
  | case4 rest noQuote ih => exact ih.trans ((List.suffix_cons _ _).trans (List.suffix_cons _ _))
  | case5 d afterMark noLine value ending after read noQuote ih =>
    rw [read] at ih
    exact ih.trans ((suffix_readEscape _).trans (List.suffix_cons _ _))
  | case6 => exact List.suffix_refl _
  | case7 c rest noQuote noMark noLine value ending after read ih =>
    rw [read] at ih
    exact ih.trans (List.suffix_cons _ _)

theorem suffix_readUrlBody (cs : List Char) : (readUrlBody cs).2.2 <:+ cs := by
  fun_induction readUrlBody cs with
  | case1 => exact List.suffix_refl _
  | case2 => exact List.suffix_cons _ _
  | case3 => exact List.suffix_cons _ _
  | case4 c rest noClose noSpace escape value ending after read ih =>
    rw [read] at ih
    exact ih.trans ((suffix_readEscape rest).trans (List.suffix_cons _ _))
  | case5 => exact List.suffix_cons _ _
  | case6 c rest noClose noSpace noEscape fits value ending after read ih =>
    rw [read] at ih
    exact ih.trans (List.suffix_cons _ _)

theorem suffix_dropBrokenUrl (cs : List Char) : dropBrokenUrl cs <:+ cs := by
  fun_induction dropBrokenUrl cs with
  | case1 => exact List.suffix_refl _
  | case2 rest ih => exact ih.trans ((List.suffix_cons _ _).trans (List.suffix_cons _ _))
  | case3 => exact List.suffix_cons _ _
  | case4 c rest noMark noClose ih => exact ih.trans (List.suffix_cons _ _)

theorem suffix_closeUrl (read : List Char × UrlEnd) (cs : List Char) :
    (closeUrl read cs).2 <:+ cs := by
  obtain ⟨value, ending⟩ := read
  cases ending with
  | closed | textEnd => exact List.suffix_refl _
  | broken => exact suffix_dropBrokenUrl cs
  | space =>
    have skipped : cs.dropWhile isSpace <:+ cs := List.dropWhile_suffix _
    simp only [closeUrl]
    split
    · exact List.nil_suffix
    · rename_i shape
      rw [shape] at skipped
      exact (List.suffix_cons _ _).trans skipped
    · exact (suffix_dropBrokenUrl _).trans skipped

theorem suffix_readUrl (cs : List Char) : (readUrl cs).2 <:+ cs := by
  rw [readUrl_eq]
  exact (suffix_closeUrl _ _).trans ((suffix_readUrlBody _).trans (List.dropWhile_suffix _))

/-! ## Numbers, ranges and comments -/

theorem suffix_spanSign (cs : List Char) : (spanSign cs).2 <:+ cs := by
  unfold spanSign
  split
  · exact List.suffix_refl _
  · split
    · exact List.suffix_cons _ _
    · exact List.suffix_refl _

theorem suffix_spanDigits (cs : List Char) : (spanDigits cs).2 <:+ cs :=
  List.dropWhile_suffix _

theorem suffix_readExponent (cs : List Char) : (readExponent cs).2 <:+ cs := by
  unfold readExponent
  split
  · exact List.suffix_refl _
  · simp only
    split
    · split
      · exact List.suffix_refl _
      · exact (suffix_spanDigits _).trans ((suffix_spanSign _).trans (List.suffix_cons _ _))
    · exact List.suffix_refl _

theorem suffix_of_readUnsigned? {cs digits after : List Char}
    (read : readUnsigned? cs = some (digits, after)) : after <:+ cs := by
  have whole := suffix_spanDigits cs
  simp only [readUnsigned?] at read
  split at read
  · rename_i afterPoint shape
    rw [shape] at whole
    split at read
    · cases read
      exact (suffix_spanDigits _).trans ((List.suffix_cons _ _).trans whole)
    split at read
    · cases read
      rwa [shape]
    · cases read
  · split at read
    · cases read
      exact whole
    · cases read

theorem suffix_of_readNumber? {cs digits after : List Char}
    (read : readNumber? cs = some (digits, after)) : after <:+ cs := by
  simp only [readNumber?] at read
  split at read
  · rename_i unsigned
    cases read
    exact (suffix_readExponent _).trans
      ((suffix_of_readUnsigned? unsigned).trans (suffix_spanSign cs))
  · cases read

theorem suffix_readRange (cs : List Char) : (readRange cs).2 <:+ cs := by
  have digits := suffix_spanUpTo isHexDigit 6 cs
  have marks := (suffix_spanUpTo (· == '?') (6 - (spanUpTo isHexDigit 6 cs).1.length)
    (spanUpTo isHexDigit 6 cs).2).trans digits
  simp only [readRange]
  split
  · exact marks
  · split
    · rename_i shape
      rw [shape] at marks
      split
      · exact (suffix_spanUpTo _ _ _).trans ((List.suffix_cons _ _).trans marks)
      · rwa [shape]
    · exact marks

theorem suffix_readComment (cs : List Char) : (readComment cs).2 <:+ cs := by
  fun_induction readComment cs with
  | case1 => exact List.suffix_refl _
  | case2 rest => exact (List.suffix_cons _ _).trans (List.suffix_cons _ _)
  | case3 c rest noEnd words after read ih =>
    rw [read] at ih
    exact ih.trans (List.suffix_cons _ _)

/-- The words of a comment stand in the text. -/
theorem prefix_readComment (cs : List Char) : (readComment cs).1 <+: cs := by
  fun_induction readComment cs with
  | case1 => exact List.prefix_refl _
  | case2 rest => exact List.nil_prefix
  | case3 c rest noEnd words after read ih =>
    rw [read] at ih
    exact (List.prefix_cons_inj c).2 ih

/-! ## Lexemes -/

theorem suffix_readNamed (cs : List Char) : (readNamed cs).2 <:+ cs := by
  have name := suffix_readName cs
  unfold readNamed
  split
  · rename_i shape
    rw [shape] at name
    have arguments := (List.suffix_cons _ _).trans name
    split
    · exact (suffix_readUrl _).trans arguments
    · exact arguments
  · rename_i shape
    rwa [shape] at name

theorem suffix_readNumeric (digits rest : List Char) :
    (readNumeric digits rest).2 <:+ rest := by
  unfold readNumeric
  split
  · exact suffix_readName rest
  · split
    · exact List.suffix_cons _ _
    · exact List.suffix_refl _

theorem suffix_readQuoted (quote : Char) (cs : List Char) : (readQuoted quote cs).2 <:+ cs := by
  rw [readQuoted_eq]
  exact suffix_readString quote cs

theorem suffix_readMark (c : Char) (rest : List Char) : (readMark c rest).2 <:+ rest := by
  unfold readMark
  split
  case h_7 => exact (suffix_readComment _).trans (List.suffix_cons _ _)
  case h_8 after =>
    exact List.suffix_append ['!', '-', '-'] after
  case h_9 => exact List.suffix_cons _ _
  case h_10 =>
    split
    · exact List.suffix_cons _ _
    · exact List.suffix_refl _
  all_goals exact List.suffix_refl _

/-- A lexeme leaves an end of the text behind its first character. -/
theorem suffix_readLexeme (c : Char) (rest : List Char) :
    (readLexeme c rest).2 <:+ c :: rest := by
  have behind : rest <:+ c :: rest := List.suffix_cons _ _
  unfold readLexeme
  split
  · exact (List.dropWhile_suffix _).trans behind
  split
  · exact (suffix_readRange _).trans ((List.drop_suffix _ _).trans behind)
  split
  · exact (List.drop_suffix _ _).trans behind
  split
  · exact suffix_readNamed _
  split
  · rename_i number
    exact (suffix_readNumeric _ _).trans (suffix_of_readNumber? number)
  split
  · exact (suffix_readName _).trans behind
  split
  · exact (suffix_readName _).trans behind
  split
  · exact (suffix_readQuoted _ _).trans behind
  · exact (suffix_readMark _ _).trans behind

end CriticalCss.Css
