import CriticalCss.Proofs.Css.Spelling
import CriticalCss.Proofs.Lists

/-!
# How far the scanners look

What a scanner reads off a text may depend on what follows the text, but not on much: a
semicolon stands for every mark of the layout and for the end, and a space for other white space
(`StopAlike`). In front of either a scanner reads and leaves the same, unless it uses up what
follows (`LeavesAlike`).
-/

namespace CriticalCss.Css

open Text (isHexDigit)

/-- What holds of every character that may stop a token holds of the one that does. -/
theorem Stops.all {k : List Char} (stops : Stops k) {p : Char → Bool}
    (each : [' ', '\n', '\t', ';', ':', ',', '\x7b', '\x7d'].all p = true) :
    ∀ c ∈ k.head?, p c = true :=
  fun c head => List.all_eq_true.1 each c (stops c head)

/-- No character that may stop a token satisfies `p`, so the one that does not either. -/
theorem Stops.none {k : List Char} (stops : Stops k) {p : Char → Bool}
    (each : [' ', '\n', '\t', ';', ':', ',', '\x7b', '\x7d'].all (fun c => !p c) = true) :
    ∀ c ∈ k.head?, p c = false := by
  intro c head
  simpa using stops.all each c head

/-! ## Runs of characters -/

section

variable {p : Char → Bool} {k : List Char}

theorem spanUpTo_append (stop : ∀ c ∈ k.head?, p c = false) (n : Nat) (t : List Char) :
    spanUpTo p n (t ++ k) = ((spanUpTo p n t).1, (spanUpTo p n t).2 ++ k) := by
  induction n generalizing t with
  | zero => rfl
  | succ n ih =>
    cases t with
    | nil =>
      cases k with
      | nil => rfl
      | cons c k => simp [spanUpTo, stop c rfl]
    | cons c t =>
      rw [List.cons_append, spanUpTo, spanUpTo, ih]
      split <;> rfl

end

/-! ## Numbers and ranges of code points -/

section

variable {k : List Char}

theorem spanDigits_append (stops : Stops k) (t : List Char) :
    spanDigits (t ++ k) = ((spanDigits t).1, (spanDigits t).2 ++ k) := by
  obtain ⟨taken, dropped⟩ :=
    takeWhile_append_of_head (stops.none (p := Char.isDigit) (by decide)) t
  rw [spanDigits, taken, dropped, spanDigits]

theorem spanSign_append (stops : Stops k) (t : List Char) :
    spanSign (t ++ k) = ((spanSign t).1, (spanSign t).2 ++ k) := by
  cases t with
  | nil =>
    cases k with
    | nil => rfl
    | cons c k =>
      have unsigned := stops.none (p := fun c => c = '+' || c = '-') (by decide) c rfl
      simp only [List.nil_append, spanSign, unsigned, Bool.false_eq_true, if_false]
  | cons c t =>
    simp only [List.cons_append, spanSign]
    split <;> rfl

theorem readExponent_append (stops : Stops k) (t : List Char) :
    readExponent (t ++ k) = ((readExponent t).1, (readExponent t).2 ++ k) := by
  cases t with
  | nil =>
    cases k with
    | nil => rfl
    | cons c k =>
      have plain := stops.none (p := fun c => c = 'e' || c = 'E') (by decide) c rfl
      simp only [List.nil_append, readExponent, plain, Bool.false_eq_true, if_false]
  | cons c t =>
    simp only [List.cons_append, readExponent, spanSign_append stops, spanDigits_append stops]
    split
    · split <;> rfl
    · rfl

theorem readUnsigned?_append (stops : Stops k) (t : List Char) :
    readUnsigned? (t ++ k) = (readUnsigned? t).map fun read => (read.1, read.2 ++ k) := by
  have noPoint : ∀ rest, k ≠ '.' :: rest := by
    rintro rest rfl
    exact absurd (stops.all (p := (· != '.')) (by decide) '.' rfl) (by decide)
  rw [readUnsigned?, readUnsigned?, spanDigits_append stops]
  simp only
  cases (spanDigits t).2 with
  | nil =>
    rw [List.nil_append]
    split
    · exact (noPoint _ rfl).elim
    · split <;> rfl
  | cons c rest =>
    by_cases point : c = '.'
    · subst point
      rw [List.cons_append]
      simp only [spanDigits_append stops]
      split
      · rfl
      · split <;> rfl
    · rw [List.cons_append]
      split
      · rename_i shape
        exact (point (List.cons.inj shape).1).elim
      · split <;> simp_all

theorem readNumber?_append (stops : Stops k) (t : List Char) :
    readNumber? (t ++ k) = (readNumber? t).map fun read => (read.1, read.2 ++ k) := by
  rw [readNumber?, readNumber?, spanSign_append stops]
  simp only [readUnsigned?_append stops]
  cases readUnsigned? (spanSign t).2 with
  | none => rfl
  | some read =>
    simp only [Option.map_some, readExponent_append stops]

theorem startsRange_append (stops : Stops k) (t : List Char) :
    startsRange (t ++ k) = startsRange t := by
  rcases t with _ | ⟨c, _ | ⟨d, t⟩⟩
  · cases k with
    | nil => rfl
    | cons c k =>
      have noPlus := stops.all (p := (· != '+')) (by decide) c rfl
      rw [List.nil_append]
      unfold startsRange
      split <;> simp_all
  · cases k with
    | nil => rfl
    | cons d k =>
      have plain := stops.none (p := fun c => isHexDigit c || c == '?') (by decide) d rfl
      by_cases plus : c = '+'
      · subst plus
        simpa [startsRange] using plain
      · simp [startsRange, plus]
  · by_cases plus : c = '+'
    · subst plus
      rfl
    · simp [startsRange, plus]

theorem readRange_append (stops : Stops k) (t : List Char) :
    readRange (t ++ k) = ((readRange t).1, (readRange t).2 ++ k) := by
  have noHex := stops.none (p := isHexDigit) (by decide)
  have noMark := stops.none (p := (· == '?')) (by decide)
  have noHyphen := stops.all (p := (· != '-')) (by decide)
  rw [readRange, readRange, spanUpTo_append noHex]
  simp only [spanUpTo_append noMark]
  generalize (spanUpTo isHexDigit 6 t).1 = digits
  generalize (spanUpTo isHexDigit 6 t).2 = rest
  generalize spanUpTo (fun c => c == '?') (6 - digits.length) rest = marks
  obtain ⟨marks, rest⟩ := marks
  simp only
  split
  · rfl
  · rcases rest with _ | ⟨c, _ | ⟨d, rest⟩⟩
    · cases k with
      | nil => rfl
      | cons c k =>
        have other := noHyphen c rfl
        rw [List.nil_append]
        split <;> simp_all
    · by_cases hyphen : c = '-'
      · subst hyphen
        cases k with
        | nil => rfl
        | cons d k =>
          have other := noHex d rfl
          simp [other]
      · rw [List.singleton_append]
        split <;> simp_all
    · by_cases hyphen : c = '-'
      · subst hyphen
        rw [List.cons_append, List.cons_append]
        simp only
        split
        · rw [← List.cons_append, spanUpTo_append noHex]
        · rfl
      · rw [List.cons_append, List.cons_append]
        split <;> simp_all

end

/-! ## Readers that may use up what follows -/

/-- The text `k` stops a token as `a` does: a space stands for white space, and a semicolon for
the marks of the layout and the end of the text. -/
inductive StopAlike : Char → List Char → Prop
  | space {c : Char} {k : List Char} : isSpace c = true → StopAlike ' ' (c :: k)
  | mark {k : List Char} : Ends k → StopAlike ';' k

/-- Two readings, the first of which used up what follows, or which read the same and leave the
same text in front of what follows. -/
def LeavesAlike {α : Type} (a : Char) (k : List Char) (x y : α × List Char) : Prop :=
  x.2 = [] ∨ ∃ p, x.2 = p ++ [a] ∧ y = (x.1, p ++ k)

section

variable {a : Char} {k : List Char}

namespace StopAlike

theorem stops_singleton (alike : StopAlike a k) : Stops [a] := by
  intro c head
  cases head
  cases alike <;> simp

theorem stops (alike : StopAlike a k) : Stops k := by
  cases alike with
  | mark ends => exact ends.stops
  | space space =>
    intro c head
    cases head
    simp only [isSpace, Bool.or_eq_true, beq_iff_eq] at space
    rcases space with (rfl | rfl) | rfl <;> simp

/-- What holds of every character that may stop a token holds of both that do. -/
theorem none (alike : StopAlike a k) {p : Char → Bool}
    (each : [' ', '\n', '\t', ';', ':', ',', '\x7b', '\x7d'].all (fun c => !p c) = true) :
    p a = false ∧ ∀ c ∈ k.head?, p c = false :=
  ⟨alike.stops_singleton.none each a rfl, alike.stops.none each⟩

theorem isEscape_singleton (alike : StopAlike a k) : isEscape [a] = true := by
  cases alike <;> rfl

end StopAlike

theorem LeavesAlike.map {α β : Type} {x y : α × List Char} (same : LeavesAlike a k x y)
    (f : α → β) : LeavesAlike a k (f x.1, x.2) (f y.1, y.2) := by
  rcases same with done | ⟨p, left, rfl⟩
  · exact .inl done
  · exact .inr ⟨p, left, rfl⟩

/-- Reading on from what the first reader left. -/
theorem LeavesAlike.bind {α β : Type} {x y : α × List Char} (first : LeavesAlike a k x y)
    {g : α → List Char → β × List Char} (done : (g x.1 []).2 = [])
    (next : ∀ p, LeavesAlike a k (g x.1 (p ++ [a])) (g x.1 (p ++ k))) :
    LeavesAlike a k (g x.1 x.2) (g y.1 y.2) := by
  rcases first with none | ⟨p, left, rfl⟩
  · left
    rw [none, done]
  · rw [left]
    exact next p

/-! ### Escapes and names -/

theorem dropSpace_alike (alike : StopAlike a k) (t : List Char) :
    dropSpace (t ++ [a]) = [] ∨
      ∃ p, dropSpace (t ++ [a]) = p ++ [a] ∧ dropSpace (t ++ k) = p ++ k := by
  cases t with
  | nil =>
    cases alike with
    | space => exact .inl rfl
    | mark ends =>
      refine .inr ⟨[], rfl, ?_⟩
      cases k with
      | nil => rfl
      | cons c k => simp [dropSpace, ends.unspaced c rfl]
  | cons c t =>
    simp only [List.cons_append, dropSpace]
    split
    · exact .inr ⟨t, rfl, rfl⟩
    · exact .inr ⟨c :: t, rfl, rfl⟩

theorem readEscape_alike (alike : StopAlike a k) (c : Char) (t : List Char) :
    LeavesAlike a k (readEscape (c :: (t ++ [a]))) (readEscape (c :: (t ++ k))) := by
  have noHex := alike.none (p := isHexDigit) (by decide)
  simp only [readEscape]
  split
  · rw [spanUpTo_append noHex.2, spanUpTo_append (k := [a]) (by simpa using noHex.1)]
    rcases dropSpace_alike alike (spanUpTo isHexDigit 5 t).2 with done | ⟨p, left, same⟩
    · exact .inl done
    · refine .inr ⟨p, left, ?_⟩
      rw [same]
  · exact .inr ⟨t, rfl, rfl⟩

/-- What an escape leaves in front of one more character is no longer than what it was given. -/
theorem length_le_of_readEscape (cs : List Char) {p : List Char}
    (left : (readEscape (cs ++ [a])).2 = p ++ [a]) : p.length ≤ cs.length := by
  have bound := length_readEscape_le (cs ++ [a])
  rw [left] at bound
  simpa using bound

theorem isEscape_cons_of_ne {c : Char} (line : c ≠ '\n') (rest : List Char) :
    isEscape (c :: rest) = true := by
  unfold isEscape
  split <;> simp_all

theorem readName_cons_of_isNameChar {c : Char} (fits : isNameChar c = true) (rest : List Char) :
    readName (c :: rest) = (c :: (readName rest).1, (readName rest).2) := by
  rw [readName, if_pos fits]

theorem readName_escape {rest : List Char} (escape : isEscape rest = true) :
    readName ('\\' :: rest) =
      ((readEscape rest).1 :: (readName (readEscape rest).2).1,
        (readName (readEscape rest).2).2) := by
  rw [readName, if_neg (by decide), if_pos ⟨rfl, escape⟩]

theorem readName_stop {c : Char} {rest : List Char} (stop : isNameChar c = false)
    (noEscape : c = '\\' → isEscape rest = false) : readName (c :: rest) = ([], c :: rest) := by
  rw [readName, if_neg (by rw [stop]; exact Bool.false_ne_true), if_neg]
  rintro ⟨mark, escape⟩
  rw [noEscape mark] at escape
  cases escape

theorem readName_stops (stops : Stops k) : readName k = ([], k) := by
  have none : ∀ c ∈ ([] : List Char), isNameChar c = true := nofun
  simpa using readName_append none stops

theorem readName_alike (alike : StopAlike a k) (t : List Char) :
    LeavesAlike a k (readName (t ++ [a])) (readName (t ++ k)) := by
  induction n : t.length using Nat.strongRecOn generalizing t with
  | _ n ih =>
    subst n
    rcases t with _ | ⟨c, t⟩
    · rw [List.nil_append, List.nil_append, readName_stops alike.stops_singleton,
        readName_stops alike.stops]
      exact .inr ⟨[], rfl, rfl⟩
    have next := ih t.length (Nat.lt_succ_self _) t rfl
    rw [List.cons_append, List.cons_append]
    by_cases fits : isNameChar c = true
    · rw [readName_cons_of_isNameChar fits, readName_cons_of_isNameChar fits]
      exact next.map (c :: ·)
    rw [Bool.not_eq_true] at fits
    by_cases mark : c = '\\'
    · subst mark
      rcases t with _ | ⟨d, t⟩
      · -- the escape takes what follows
        left
        rw [List.nil_append, readName_escape alike.isEscape_singleton]
        have plain := (alike.none (p := isHexDigit) (by decide)).1
        simp [readEscape, plain, readName]
      by_cases line : d = '\n'
      · subst line
        rw [readName_stop fits fun _ => rfl, readName_stop fits fun _ => rfl]
        exact .inr ⟨'\\' :: '\n' :: t, rfl, rfl⟩
      · have escape := isEscape_cons_of_ne line
        rw [List.cons_append, List.cons_append, readName_escape (escape _),
          readName_escape (escape _)]
        rcases readEscape_alike alike d t with done | ⟨p, left, same⟩
        · left
          rw [done, readName]
        · have shorter : p.length < ('\\' :: d :: t).length :=
            Nat.lt_succ_of_le (length_le_of_readEscape (d :: t) left)
          rw [same, left]
          exact (ih p.length shorter p rfl).map ((readEscape (d :: (t ++ [a]))).1 :: ·)
    · rw [readName_stop fits fun same => (mark same).elim,
        readName_stop fits fun same => (mark same).elim]
      exact .inr ⟨c :: t, rfl, rfl⟩

/-! ### Strings -/

/-- What a reader read, with how it ended, and what is left. -/
def ended {α β : Type} (x : α × β × List Char) : (α × β) × List Char :=
  ((x.1, x.2.1), x.2.2)

theorem LeavesAlike.map_ended {α β γ : Type} {x y : α × β × List Char}
    (same : LeavesAlike a k (ended x) (ended y)) (f : α → γ) :
    LeavesAlike a k (ended (f x.1, x.2)) (ended (f y.1, y.2)) :=
  same.map fun both => (f both.1, both.2)

theorem readString_alike (alike : StopAlike a k) {quote : Char} (mark : quote = '"' ∨ quote = '\'')
    (t : List Char) :
    LeavesAlike a k (ended (readString quote (t ++ [a]))) (ended (readString quote (t ++ k))) := by
  induction n : t.length using Nat.strongRecOn generalizing t with
  | _ n ih =>
    subst n
    rcases t with _ | ⟨c, t⟩
    · -- without its end the string takes what follows
      left
      have other : a ≠ quote := by
        rintro rfl
        cases alike <;> simp at mark
      have noEscape : a ≠ '\\' := by cases alike <;> decide
      have noLine : a ≠ '\n' := by cases alike <;> decide
      rw [List.nil_append, readString, if_neg other, if_neg noEscape, if_neg noLine, readString]
      rfl
    have next := ih t.length (Nat.lt_succ_self _) t rfl
    rw [List.cons_append, List.cons_append, readString.eq_def quote (c :: (t ++ [a])),
      readString.eq_def quote (c :: (t ++ k))]
    simp only
    by_cases close : c = quote
    · rw [if_pos close, if_pos close]
      exact .inr ⟨t, rfl, rfl⟩
    rw [if_neg close, if_neg close]
    by_cases escape : c = '\\'
    · rw [if_pos escape, if_pos escape]
      rcases t with _ | ⟨d, t⟩
      · left
        have plain := (alike.none (p := isHexDigit) (by decide)).1
        have noLine : a ≠ '\n' := by cases alike <;> decide
        simp [noLine, readEscape, plain, readString, ended]
      · have later := ih t.length (by simp only [List.length_cons]; omega) t rfl
        simp only [List.cons_append]
        by_cases line : d = '\n'
        · rw [if_pos line, if_pos line]
          exact later
        rw [if_neg line, if_neg line]
        rcases readEscape_alike alike d t with done | ⟨p, left, same⟩
        · left
          rw [done, readString]
          rfl
        · have shorter : p.length < (c :: d :: t).length :=
            Nat.lt_succ_of_le (length_le_of_readEscape (d :: t) left)
          rw [same, left]
          exact (ih p.length shorter p rfl).map_ended ((readEscape (d :: (t ++ [a]))).1 :: ·)
    rw [if_neg escape, if_neg escape]
    by_cases line : c = '\n'
    · rw [if_pos line, if_pos line]
      exact .inr ⟨c :: t, rfl, rfl⟩
    · rw [if_neg line, if_neg line]
      exact next.map_ended (c :: ·)

/-- The lexeme of a string, by how it ended. -/
def quoted : List Char × StringEnd → Lexeme
  | (value, .closed) => .token (.string value true)
  | (value, .textEnd) => .token (.string value false)
  | (_, .lineEnd) => .token .badString

theorem readQuoted_eq (quote : Char) (cs : List Char) :
    readQuoted quote cs =
      (quoted (ended (readString quote cs)).1, (ended (readString quote cs)).2) := by
  unfold readQuoted
  split <;>
  · rename_i shape
    rw [shape]
    rfl

theorem readQuoted_alike (alike : StopAlike a k) {quote : Char} (mark : quote = '"' ∨ quote = '\'')
    (t : List Char) :
    LeavesAlike a k (readQuoted quote (t ++ [a])) (readQuoted quote (t ++ k)) := by
  rw [readQuoted_eq, readQuoted_eq]
  exact (readString_alike alike mark t).map quoted

/-! ### Addresses -/

theorem readUrlBody_alike (alike : StopAlike a k) (t : List Char) :
    LeavesAlike a k (ended (readUrlBody (t ++ [a]))) (ended (readUrlBody (t ++ k))) := by
  induction n : t.length using Nat.strongRecOn generalizing t with
  | _ n ih =>
    subst n
    rcases t with _ | ⟨c, t⟩
    · left
      cases alike <;> simp [readUrlBody, isSpace, isNonPrintable, ended]
    have next := ih t.length (Nat.lt_succ_self _) t rfl
    rw [List.cons_append, List.cons_append, readUrlBody.eq_2 c (t ++ [a]),
      readUrlBody.eq_2 c (t ++ k)]
    by_cases close : c = ')'
    · rw [if_pos close, if_pos close]
      exact .inr ⟨t, rfl, rfl⟩
    rw [if_neg close, if_neg close]
    by_cases space : isSpace c = true
    · rw [if_pos space, if_pos space]
      exact .inr ⟨t, rfl, rfl⟩
    rw [if_neg space, if_neg space]
    by_cases mark : c = '\\'
    · rcases t with _ | ⟨d, t⟩
      · left
        have plain := (alike.none (p := isHexDigit) (by decide)).1
        rw [List.nil_append, if_pos ⟨mark, alike.isEscape_singleton⟩]
        simp [readEscape, plain, readUrlBody, ended]
      by_cases line : d = '\n'
      · subst line mark
        have noEscape (rest : List Char) : ¬('\\' = '\\' ∧ isEscape ('\n' :: rest) = true) :=
          fun both => Bool.false_ne_true both.2
        rw [List.cons_append, List.cons_append, if_neg (noEscape _), if_neg (noEscape _),
          if_neg (by decide), if_neg (by decide)]
        exact next.map_ended ('\\' :: ·)
      · have escape (rest : List Char) : c = '\\' ∧ isEscape (d :: rest) = true :=
          ⟨mark, isEscape_cons_of_ne line rest⟩
        rw [List.cons_append, List.cons_append, if_pos (escape _), if_pos (escape _)]
        rcases readEscape_alike alike d t with done | ⟨p, left, same⟩
        · left
          rw [done, readUrlBody]
          rfl
        · have shorter : p.length < (c :: d :: t).length :=
            Nat.lt_succ_of_le (length_le_of_readEscape (d :: t) left)
          rw [same, left]
          exact (ih p.length shorter p rfl).map_ended ((readEscape (d :: (t ++ [a]))).1 :: ·)
    have noEscape (rest : List Char) : ¬(c = '\\' ∧ isEscape rest = true) := fun both => mark both.1
    rw [if_neg (noEscape _), if_neg (noEscape _)]
    split
    · exact .inr ⟨t, rfl, rfl⟩
    · exact next.map_ended (c :: ·)

theorem dropBrokenUrl_alike {α : Type} (alike : StopAlike a k) (value : α) (t : List Char) :
    LeavesAlike a k (value, dropBrokenUrl (t ++ [a])) (value, dropBrokenUrl (t ++ k)) := by
  induction n : t.length using Nat.strongRecOn generalizing t with
  | _ n ih =>
    subst n
    rcases t with _ | ⟨c, t⟩
    · left
      cases alike <;> simp [dropBrokenUrl]
    have next := ih t.length (Nat.lt_succ_self _) t rfl
    by_cases close : c = ')'
    · subst close
      exact .inr ⟨t, rfl, rfl⟩
    by_cases escape : c = '\\' ∧ ∃ rest, t = ')' :: rest
    · obtain ⟨rfl, rest, rfl⟩ := escape
      exact ih rest.length (by simp only [List.length_cons]; omega) rest rfl
    have step (k' : List Char) (foreign : ∀ rest, k' ≠ ')' :: rest) :
        dropBrokenUrl (c :: t ++ k') = dropBrokenUrl (t ++ k') := by
      rw [List.cons_append, dropBrokenUrl.eq_4 _ _ _ close]
      intro rest mark shape
      cases t with
      | nil => exact foreign rest shape
      | cons d t => exact escape ⟨mark, t, by rw [(List.cons.inj shape).1]⟩
    have stop := alike.none (p := (· == ')')) (by decide)
    rw [step, step]
    · exact next
    · rintro rest rfl
      exact absurd (stop.2 ')' rfl) (by decide)
    · rintro rest same
      rw [(List.cons.inj same).1] at stop
      exact absurd stop.1 (by decide)

/-- The token of an address whose value was read, by how the value ended, and what is left. -/
def closeUrl : List Char × UrlEnd → List Char → Token × List Char
  | (value, .closed), rest => (.url value true, rest)
  | (value, .textEnd), rest => (.url value false, rest)
  | (_, .broken), rest => (.badUrl, dropBrokenUrl rest)
  | (value, .space), rest =>
    match rest.dropWhile isSpace with
    | [] => (.url value false, [])
    | ')' :: after => (.url value true, after)
    | other => (.badUrl, dropBrokenUrl other)

theorem readUrl_eq (cs : List Char) :
    readUrl cs = closeUrl (ended (readUrlBody (cs.dropWhile isSpace))).1
      (ended (readUrlBody (cs.dropWhile isSpace))).2 := by
  unfold readUrl
  split <;>
  · rename_i shape
    rw [shape]
    rfl

theorem closeUrl_nil (read : List Char × UrlEnd) : (closeUrl read []).2 = [] := by
  obtain ⟨value, ending⟩ := read
  cases ending <;> simp [closeUrl, dropBrokenUrl]

/-- Behind white space an address ends at its bracket, or it is broken. -/
theorem closeUrl_space {value cs rest : List Char} {c : Char}
    (left : cs.dropWhile isSpace = c :: rest) :
    closeUrl (value, .space) cs =
      if c = ')' then (.url value true, rest) else (.badUrl, dropBrokenUrl (c :: rest)) := by
  rw [closeUrl, left]
  split
  · rename_i none
    cases none
  · rename_i same
    cases same
    rw [if_pos rfl]
  · rename_i other
    rw [if_neg]
    rintro rfl
    exact other rest rfl

theorem closeUrl_alike (alike : StopAlike a k) (read : List Char × UrlEnd) (t : List Char) :
    LeavesAlike a k (closeUrl read (t ++ [a])) (closeUrl read (t ++ k)) := by
  obtain ⟨value, ending⟩ := read
  cases ending with
  | closed | textEnd => exact .inr ⟨t, rfl, rfl⟩
  | broken => exact dropBrokenUrl_alike alike _ t
  | space =>
    cases left : t.dropWhile isSpace with
    | nil =>
      left
      have only := dropWhile_append_of_eq_nil left [a]
      cases alike <;> simp [closeUrl, only, isSpace, dropBrokenUrl]
    | cons c rest =>
      have some : t.dropWhile isSpace ≠ [] := by
        rw [left]
        exact List.cons_ne_nil _ _
      have shape (k' : List Char) : (t ++ k').dropWhile isSpace = c :: (rest ++ k') := by
        rw [(takeWhile_append_of_ne_nil some k').2, left]
        rfl
      rw [closeUrl_space (shape _), closeUrl_space (shape _)]
      split
      · exact .inr ⟨rest, rfl, rfl⟩
      · exact dropBrokenUrl_alike alike _ (c :: rest)

/-- Behind white space alone the address takes what follows. -/
theorem readUrl_of_dropWhile_eq_nil (alike : StopAlike a k) {t : List Char}
    (none : t.dropWhile isSpace = []) : (readUrl (t ++ [a])).2 = [] := by
  rw [readUrl_eq, dropWhile_append_of_eq_nil none]
  cases alike <;> simp [isSpace, isNonPrintable, readUrlBody, closeUrl, ended]

theorem readUrl_alike (alike : StopAlike a k) (t : List Char) :
    LeavesAlike a k (readUrl (t ++ [a])) (readUrl (t ++ k)) := by
  by_cases none : t.dropWhile isSpace = []
  · exact .inl (readUrl_of_dropWhile_eq_nil alike none)
  · rw [readUrl_eq, readUrl_eq, (takeWhile_append_of_ne_nil none _).2,
      (takeWhile_append_of_ne_nil none _).2]
    exact (readUrlBody_alike alike _).bind (closeUrl_nil _) fun p => closeUrl_alike alike _ p

/-! ### Comments -/

theorem readComment_cons {c : Char} {cs : List Char} (noEnd : c = '*' → cs.head? ≠ some '/') :
    readComment (c :: cs) = (c :: (readComment cs).1, (readComment cs).2) := by
  rw [readComment.eq_3]
  intro rest star slash
  refine noEnd star ?_
  rw [slash]
  rfl

/-- The words of a comment begin with the slash only if the text does. -/
theorem head?_readComment {t : List Char} (noSlash : t.head? ≠ some '/') (k : List Char) :
    ((readComment t).1 ++ '*' :: k).head? ≠ some '/' := by
  unfold readComment
  split
  · simp
  · simp
  · simpa using noSlash

/-- The words of a comment are read again from in front of the mark of its end. -/
theorem readComment_closed (cs : List Char) :
    readComment ((readComment cs).1 ++ ['*', '/']) = ((readComment cs).1, []) := by
  fun_induction readComment cs with
  | case1 => rfl
  | case2 rest => rfl
  | case3 c rest noEnd words after read ih =>
    rw [read] at ih
    have noSlash : c = '*' → (words ++ ['*', '/']).head? ≠ some '/' := by
      intro star
      have other : rest.head? ≠ some '/' := by
        intro slash
        obtain ⟨after, shape⟩ := List.head?_eq_some_iff.1 slash
        exact noEnd after star shape
      have here := head?_readComment other ['/']
      rwa [read] at here
    rw [List.cons_append, readComment_cons noSlash, ih]

theorem readComment_alike (alike : StopAlike a k) (t : List Char) :
    LeavesAlike a k (readComment (t ++ [a])) (readComment (t ++ k)) := by
  have stop := alike.none (p := (· == '/')) (by decide)
  induction t with
  | nil =>
    left
    cases alike <;> simp [readComment]
  | cons c t ih =>
    by_cases close : c = '*' ∧ t.head? = some '/'
    · obtain ⟨rfl, slash⟩ := close
      obtain ⟨rest, rfl⟩ := List.head?_eq_some_iff.1 slash
      exact .inr ⟨rest, rfl, rfl⟩
    have noEnd {k' : List Char} (foreign : ∀ d ∈ k'.head?, (d == '/') = false) :
        c = '*' → (t ++ k').head? ≠ some '/' := by
      intro star slash
      cases t with
      | nil => exact absurd (foreign '/' slash) (by decide)
      | cons d t => exact close ⟨star, slash⟩
    rw [List.cons_append, List.cons_append, readComment_cons (noEnd stop.2),
      readComment_cons (noEnd (by simpa using stop.1))]
    exact ih.map (c :: ·)

end

end CriticalCss.Css
