import CriticalCss.Proofs.Css.Spelling
import CriticalCss.Proofs.Text.Blank

/-!
# White space around the text of components

White space around components is white space around their text, in a list (`text_blank`), and is
left out where they are written one by one (`textApart_blank`).
-/

namespace CriticalCss.Css

/-- White space between tokens is white space when a text is trimmed. -/
theorem IsSpaces.isBlank {w : List Char} (spaces : IsSpaces w) :
    ∀ c ∈ w, Text.isBlank c = true := by
  intro c mem
  have space := spaces c mem
  simp only [isSpace, Bool.or_eq_true, beq_iff_eq] at space
  rcases space with (rfl | rfl) | rfl <;> decide

/-- White space goes where nothing else is to trim. -/
theorem trim_of_forall {v s w : List Char} (left : IsSpaces v) (right : IsSpaces w)
    (solid : ∀ c ∈ s, Text.isBlank c = false) : Text.trim (v ++ s ++ w) = s :=
  Text.trim_append left.isBlank right.isBlank (fun c head => solid c (List.mem_of_mem_head? head))
    fun c last => solid c (List.mem_of_mem_getLast? last)

/-! ## In a list -/

theorem contact_whitespace (p : Position) (text : List Char) :
    Component.contact (.token p (.whitespace text)) = .other ∨
      Component.contact (.token p (.whitespace text)) = .lineStart := by
  rcases text with _ | ⟨c, text⟩
  · exact .inl rfl
  · by_cases line : c = '\n'
    · subst line
      exact .inr rfl
    · left
      simp [Component.contact, line]

namespace Contact

theorem other_between (right : Contact) : between .other right = [] := rfl

theorem lineStart_between (right : Contact) : between .lineStart right = [] := rfl

theorem clash_other (left : Contact) : clash left .other = false := by
  simp [clash, clashes, mark]

theorem clash_lineStart (left : Contact) : clash left .lineStart = false := by
  simp [clash, clashes, mark]

end Contact

/-- Nothing goes between white space and what follows. -/
theorem between_whitespace (p : Position) (text : List Char) (right : Contact) :
    (Component.contact (.token p (.whitespace text))).between right = [] := by
  rcases contact_whitespace p text with other | line
  · rw [other, Contact.other_between]
  · rw [line, Contact.lineStart_between]

theorem textList_some_blank (left : Contact) (apart : ∀ right, left.between right = [])
    (cs : List Component) : textList (some left) cs = textList none cs := by
  cases cs with
  | nil => rfl
  | cons c cs => simp only [textList, apart, List.nil_append]

theorem text_blank_append (v : List Char) (cs : List Component) :
    text (blank v ++ cs) = v ++ text cs := by
  unfold blank
  split
  · rename_i empty
    rw [List.isEmpty_iff.1 empty, List.nil_append, List.nil_append]
  · rw [text, List.singleton_append, textList, text,
      textList_some_blank _ (between_whitespace .start v)]
    rfl

/-- Nothing goes before white space either, but behind a backslash. -/
theorem between_before_whitespace {left : Contact} (plain : left ≠ .mark '\\') (p : Position)
    (text : List Char) :
    left.between (Component.contact (.token p (.whitespace text))) = [] := by
  have none : Contact.clash left (Component.contact (.token p (.whitespace text))) = false := by
    rcases contact_whitespace p text with other | line
    · rw [other, Contact.clash_other]
    · rw [line, Contact.clash_lineStart]
  simp [Contact.between, none, plain]

theorem textList_append_blank {left : Option Contact} (before : ∀ l ∈ left, l ≠ .mark '\\')
    {cs : List Component} (plain : ∀ c ∈ cs, c.contact ≠ .mark '\\') (w : List Char) :
    textList left (cs ++ blank w) = textList left cs ++ w := by
  induction cs generalizing left with
  | nil =>
    cases w with
    | nil => exact (List.append_nil _).symm
    | cons d w =>
      cases left with
      | none => exact List.append_nil (d :: w)
      | some l =>
        have apart := between_before_whitespace (before l rfl) .start (d :: w)
        calc textList (some l) ([] ++ blank (d :: w))
            = l.between (Component.contact (.token .start (.whitespace (d :: w)))) ++
                (d :: w ++ []) := rfl
          _ = textList (some l) [] ++ d :: w := by
            rw [apart, List.append_nil]
            rfl
  | cons c cs ih =>
    have here : ∀ l ∈ some c.contact, l ≠ .mark '\\' := by
      rintro l head
      cases head
      exact plain c List.mem_cons_self
    have later := ih here fun d mem => plain d (List.mem_cons_of_mem _ mem)
    cases left <;> simp only [List.cons_append, textList, later, List.append_assoc]

/-- White space around components in a list. -/
theorem text_blank {cs : List Component} (plain : ∀ c ∈ cs, c.contact ≠ .mark '\\')
    (v w : List Char) : text (blank v ++ cs ++ blank w) = v ++ text cs ++ w := by
  have nothing : ∀ l ∈ (none : Option Contact), l ≠ .mark '\\' := nofun
  have after := textList_append_blank nothing plain w
  rw [List.append_assoc, text_blank_append, text, after, ← List.append_assoc, text]

/-! ## One by one -/

theorem textApart_cons_of_isWhitespace {c : Component} (space : c.isWhitespace = true)
    (cs : List Component) : textApart (c :: cs) = textApart cs := by
  have passed : textApart.go false true cs = textApart.go false false cs := by
    induction cs with
    | nil => rfl
    | cons d cs ih => simp only [textApart.go, ih, Bool.and_false]
  rw [textApart, textApart.go, isComment_of_isWhitespace space, if_neg Bool.false_ne_true,
    if_pos space, passed, textApart]

/-- White space around components that are written one by one. -/
theorem textApart_blank (v : List Char) (cs : List Component) (w : List Char) :
    textApart (blank v ++ cs ++ blank w) = textApart cs := by
  have before (cs : List Component) : textApart (blank v ++ cs) = textApart cs := by
    unfold blank
    split
    · rfl
    · exact textApart_cons_of_isWhitespace rfl cs
  have after (begun space : Bool) :
      textApart.go begun space (cs ++ blank w) = textApart.go begun space cs := by
    induction cs generalizing begun space with
    | nil =>
      unfold blank
      split <;> rfl
    | cons c cs ih => simp only [List.cons_append, textApart.go, ih]
  rw [List.append_assoc, before]
  exact after false false

end CriticalCss.Css
