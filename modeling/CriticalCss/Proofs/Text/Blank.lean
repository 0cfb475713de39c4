import CriticalCss.Proofs.Lists
import CriticalCss.Text.Blank

/-!
# Words and white space

A text is cut into the same words wherever it is cut at white space first (`Text.words_append`),
and the words put together again with single spaces are the words of the result. So collapsing
white space twice is collapsing it once, and what follows a word of a collapsed text is collapsed.
-/

namespace CriticalCss.Text

/-! ## Pieces -/

theorem pieces_append {α : Type} {p : α → Bool} {a : α} (cut : p a = true) (xs ys : List α) :
    pieces p (xs ++ a :: ys) = pieces p xs ++ pieces p ys := by
  induction xs with
  | nil => simp [pieces, cut]
  | cons x xs ih =>
    rw [List.cons_append, pieces, pieces, ih]
    split
    · rfl
    · cases shape : pieces p xs with
      | nil => exact (pieces_ne_nil p xs shape).elim
      | cons piece others => rfl

theorem pieces_eq_singleton {α : Type} {p : α → Bool} {xs : List α}
    (whole : ∀ a ∈ xs, p a = false) : pieces p xs = [xs] := by
  induction xs with
  | nil => rfl
  | cons x xs ih =>
    rw [pieces, whole x List.mem_cons_self, ih fun a mem => whole a (List.mem_cons_of_mem _ mem)]
    rfl

/-- A piece is made of what the list holds, apart from where it is cut. -/
theorem mem_of_mem_pieces {α : Type} {p : α → Bool} {xs piece : List α}
    (mem : piece ∈ pieces p xs) : ∀ a ∈ piece, a ∈ xs ∧ p a = false := by
  induction xs generalizing piece with
  | nil =>
    rw [pieces, List.mem_singleton] at mem
    subst mem
    exact List.forall_mem_nil _
  | cons x xs ih =>
    have later {piece : List α} (mem : piece ∈ pieces p xs) :
        ∀ a ∈ piece, a ∈ x :: xs ∧ p a = false :=
      fun a inside => (ih mem a inside).imp_left (List.mem_cons_of_mem _)
    rw [pieces] at mem
    split at mem
    · rcases List.mem_cons.1 mem with rfl | mem
      · exact List.forall_mem_nil _
      · exact later mem
    · rename_i whole
      rw [Bool.not_eq_true] at whole
      cases shape : pieces p xs with
      | nil => exact (pieces_ne_nil p xs shape).elim
      | cons first others =>
        rw [shape] at mem later
        rcases List.mem_cons.1 mem with rfl | mem
        · exact List.forall_mem_cons.2
            ⟨⟨List.mem_cons_self, whole⟩, later List.mem_cons_self⟩
        · exact later (List.mem_cons_of_mem _ mem)

/-! ## Trimming -/

/-- White space at the ends goes, and nothing else. -/
theorem trim_append {v s w : List Char} (left : ∀ c ∈ v, isBlank c = true)
    (right : ∀ c ∈ w, isBlank c = true) (first : ∀ c ∈ s.head?, isBlank c = false)
    (last : ∀ c ∈ s.getLast?, isBlank c = false) : trim (v ++ s ++ w) = s := by
  have ends : trimRight (s ++ w) = s := by
    have reversed := dropWhile_append_of_forall (t := w.reverse) (s := s.reverse)
      (fun c mem => right c (List.mem_reverse.1 mem)) (by rwa [List.head?_reverse])
    rw [trimRight, List.reverse_append, reversed, List.reverse_reverse]
  cases s with
  | nil =>
    have empty := dropWhile_append_of_forall (t := v ++ w) (s := [])
      (List.forall_mem_append.2 ⟨left, right⟩) nofun
    rw [List.append_nil] at empty
    rw [trim, List.append_nil, empty]
    rfl
  | cons c s =>
    rw [trim, List.append_assoc, dropWhile_append_of_forall left (by simpa using first c rfl), ends]

/-- More white space at the ends goes, too. -/
theorem trim_append_blank {v s w : List Char} (left : ∀ c ∈ v, isBlank c = true)
    (right : ∀ c ∈ w, isBlank c = true) : trim (v ++ s ++ w) = trim s := by
  rw [trim, List.append_assoc, List.dropWhile_append_of_pos left, trim]
  by_cases none : s.dropWhile isBlank = []
  · rw [dropWhile_append_of_eq_nil none, none, List.dropWhile_eq_nil_iff.2 right]
  · rw [(takeWhile_append_of_ne_nil none w).2, trimRight, List.reverse_append,
      List.dropWhile_append_of_pos fun c mem => right c (List.mem_reverse.1 mem), trimRight]

theorem not_isBlank_of_head?_trim {s : List Char} :
    ∀ c ∈ (trim s).head?, isBlank c = false := by
  intro c head
  rw [trim, trimRight, List.head?_reverse] at head
  obtain ⟨before, whole⟩ := List.dropWhile_suffix isBlank (l := (s.dropWhile isBlank).reverse)
  have last : c ∈ ((s.dropWhile isBlank).reverse).getLast? := by
    rw [← whole, List.getLast?_append, head]
    rfl
  rw [List.getLast?_reverse] at last
  have first := List.head?_dropWhile_not isBlank s
  rw [last] at first
  exact first

/-! ## Words -/

/-- A run of characters that are not white space. -/
def IsWord (w : List Char) : Prop :=
  w ≠ [] ∧ ∀ c ∈ w, isBlank c = false

theorem isWord_iff {w : List Char} :
    IsWord w ↔ (!w.isEmpty && w.all fun c => !isBlank c) = true := by
  simp [IsWord]

theorem isWord_of_mem_words {cs w : List Char} (mem : w ∈ words cs) : IsWord w := by
  obtain ⟨piece, some⟩ := List.mem_filter.1 mem
  exact ⟨by simpa using some, fun c mem => (mem_of_mem_pieces piece c mem).2⟩

theorem words_append {c : Char} (blank : isBlank c = true) (xs ys : List Char) :
    words (xs ++ c :: ys) = words xs ++ words ys := by
  rw [words, pieces_append blank, List.filter_append, words, words]

theorem words_of_isWord {w : List Char} (word : IsWord w) : words w = [w] := by
  rw [words, pieces_eq_singleton word.2]
  simpa using word.1

/-- Words put together with spaces are the words of the result. -/
theorem words_intercalate {ws : List (List Char)} (all : ∀ w ∈ ws, IsWord w) :
    words ([' '].intercalate ws) = ws := by
  induction ws with
  | nil => rfl
  | cons w ws ih =>
    have word := all w List.mem_cons_self
    cases ws with
    | nil => simpa [List.intercalate] using words_of_isWord word
    | cons v ws =>
      rw [List.intercalate_cons_cons, List.append_assoc, List.singleton_append,
        words_append (by decide), words_of_isWord word,
        ih fun u mem => all u (List.mem_cons_of_mem _ mem)]
      rfl

@[simp] theorem words_collapse (cs : List Char) : words (collapse cs) = words cs :=
  words_intercalate fun _ => isWord_of_mem_words

/-- Collapsing twice is collapsing once. -/
@[simp] theorem collapse_collapse (cs : List Char) : collapse (collapse cs) = collapse cs := by
  rw [collapse, words_collapse, collapse]

/-- What follows a word of a collapsed text is collapsed. -/
theorem collapse_of_collapse_append {w cs : List Char} (word : IsWord w)
    (collapsed : collapse (w ++ ' ' :: cs) = w ++ ' ' :: cs) : collapse cs = cs := by
  rw [collapse, words_append (by decide), words_of_isWord word, List.singleton_append] at collapsed
  rw [collapse]
  cases shape : words cs with
  | nil =>
    rw [shape] at collapsed
    have lengths := congrArg List.length collapsed
    simp [List.intercalate] at lengths
  | cons v ws =>
    rw [shape, List.intercalate_cons_cons, List.append_assoc] at collapsed
    exact (List.cons.inj (List.append_cancel_left collapsed)).2

end CriticalCss.Text
