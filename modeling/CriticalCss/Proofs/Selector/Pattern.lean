import CriticalCss.Selector.Pattern
import Mathlib.Data.List.DropRight

/-!
# What patterns match

The wildcards of a pattern cut it into pieces. A text fits the pattern if it consists of the same
pieces with runs of characters other than line feeds in the place of the wildcards, which
`Selector.Fills` says of all pieces and runs at once. `Selector.fits` looks for the runs character
by character and may have to take a decision back; it finds runs whenever there are some
(`Selector.fits_iff`).
-/

namespace CriticalCss.Selector

/-! ## Pieces and runs -/

/-- A wildcard of a pattern: the run of characters that it stands for in a text, and the piece of
the pattern behind it. -/
structure Gap where
  run : List Char
  piece : List Char
deriving DecidableEq, Repr

/-- The pattern with these pieces. -/
def pieced (first : List Char) (gaps : List Gap) : List Char :=
  first ++ gaps.flatMap fun g => wildcard :: g.piece

/-- The text that has these pieces, with the runs between them. -/
def filled (first : List Char) (gaps : List Gap) : List Char :=
  first ++ gaps.flatMap fun g => g.run ++ g.piece

/-- The text is the pattern with a run in the place of each wildcard. -/
structure FilledBy (pattern text first : List Char) (gaps : List Gap) : Prop where
  pattern_eq : pattern = pieced first gaps
  text_eq : text = filled first gaps
  first_plain : wildcard ∉ first
  pieces_plain : ∀ g ∈ gaps, wildcard ∉ g.piece
  runs_plain : ∀ g ∈ gaps, '\n' ∉ g.run

/-- The pattern has wildcards, and the text is the pattern with runs in their place. -/
def Fills (pattern text : List Char) : Prop :=
  ∃ first gaps, gaps ≠ [] ∧ FilledBy pattern text first gaps

@[simp] theorem pieced_nil (first : List Char) : pieced first [] = first :=
  List.append_nil first

@[simp] theorem filled_nil (first : List Char) : filled first [] = first :=
  List.append_nil first

theorem pieced_cons (first : List Char) (g : Gap) (gaps : List Gap) :
    pieced first (g :: gaps) = first ++ wildcard :: pieced g.piece gaps := by
  simp [pieced]

theorem filled_cons (first : List Char) (g : Gap) (gaps : List Gap) :
    filled first (g :: gaps) = first ++ (g.run ++ filled g.piece gaps) := by
  simp [filled]

namespace FilledBy

variable {pattern text first : List Char} {gaps : List Gap}

theorem wildcard_mem_iff (made : FilledBy pattern text first gaps) :
    wildcard ∈ pattern ↔ gaps ≠ [] := by
  rw [made.pattern_eq]
  cases gaps with
  | nil => simpa using made.first_plain
  | cons g gaps => simp [pieced_cons]

theorem literal {p : Char} (plain : p ≠ wildcard) (made : FilledBy pattern text first gaps) :
    FilledBy (p :: pattern) (p :: text) (p :: first) gaps where
  pattern_eq := by rw [made.pattern_eq, pieced, pieced, List.cons_append]
  text_eq := by rw [made.text_eq, filled, filled, List.cons_append]
  first_plain := List.not_mem_cons_of_ne_of_not_mem plain.symm made.first_plain
  pieces_plain := made.pieces_plain
  runs_plain := made.runs_plain

theorem gap {run : List Char} (plain : '\n' ∉ run) (made : FilledBy pattern text first gaps) :
    FilledBy (wildcard :: pattern) (run ++ text) [] (⟨run, first⟩ :: gaps) where
  pattern_eq := by rw [made.pattern_eq, pieced_cons, List.nil_append]
  text_eq := by rw [made.text_eq, filled_cons, List.nil_append]
  first_plain := List.not_mem_nil
  pieces_plain := List.forall_mem_cons.2 ⟨made.first_plain, made.pieces_plain⟩
  runs_plain := List.forall_mem_cons.2 ⟨plain, made.runs_plain⟩

/-- A pattern that begins with a character begins so in its first piece. -/
theorem of_literal {p : Char} (plain : p ≠ wildcard)
    (made : FilledBy (p :: pattern) text first gaps) :
    ∃ rest, text = p :: rest ∧ ∃ piece, FilledBy pattern rest piece gaps := by
  cases first with
  | nil =>
    have shape := made.pattern_eq
    cases gaps with
    | nil => cases shape
    | cons g gaps =>
      rw [pieced_cons] at shape
      exact (plain (List.cons.inj shape).1).elim
  | cons c piece =>
    obtain ⟨rfl, shape⟩ := List.cons.inj made.pattern_eq
    refine ⟨filled piece gaps, made.text_eq, piece, shape, rfl, ?_, made.pieces_plain,
      made.runs_plain⟩
    exact List.not_mem_of_not_mem_cons made.first_plain

/-- A pattern that begins with a wildcard has a gap there. -/
theorem of_wildcard (made : FilledBy (wildcard :: pattern) text first gaps) :
    ∃ run rest, '\n' ∉ run ∧ text = run ++ rest ∧ ∃ piece gaps,
      FilledBy pattern rest piece gaps := by
  obtain ⟨g, later, rfl⟩ := List.exists_cons_of_ne_nil
    (made.wildcard_mem_iff.1 List.mem_cons_self)
  have shape := made.pattern_eq
  have shown := made.text_eq
  rw [pieced_cons] at shape
  rw [filled_cons] at shown
  cases first with
  | nil =>
    obtain ⟨piece, pieces⟩ := List.forall_mem_cons.1 made.pieces_plain
    obtain ⟨run, runs⟩ := List.forall_mem_cons.1 made.runs_plain
    exact ⟨g.run, filled g.piece later, run, shown, g.piece, later, (List.cons.inj shape).2, rfl,
      piece, pieces, runs⟩
  | cons c first =>
    have begins := (List.cons.inj shape).1
    exact (made.first_plain (begins ▸ List.mem_cons_self)).elim

/-- Only the empty text fits the empty pattern. -/
theorem of_nil (made : FilledBy [] text first gaps) : text = [] := by
  have none : gaps = [] := by simpa using made.wildcard_mem_iff
  have shape := made.pattern_eq
  have shown := made.text_eq
  rw [none, pieced_nil] at shape
  rw [none, filled_nil, ← shape] at shown
  exact shown

/-! ## Both ends -/

/-- What stands in front of the first wildcard begins the text. -/
theorem takeWhile_prefix (made : FilledBy pattern text first gaps) :
    pattern.takeWhile (· != wildcard) <+: text := by
  have plain : ∀ c ∈ first, (c != wildcard) = true :=
    fun c mem => bne_iff_ne.2 fun wild => made.first_plain (wild ▸ mem)
  have begins : pattern.takeWhile (· != wildcard) = first := by
    rw [made.pattern_eq, pieced, List.takeWhile_append_of_pos plain]
    cases gaps with
    | nil => exact List.append_nil first
    | cons g gaps => simp
  rw [begins, made.text_eq]
  exact List.prefix_append _ _

/-- What stands behind the last wildcard ends the text. -/
theorem rtakeWhile_suffix (made : FilledBy pattern text first gaps) :
    pattern.rtakeWhile (· != wildcard) <:+ text := by
  rcases List.eq_nil_or_concat gaps with rfl | ⟨before, g, rfl⟩
  · rw [made.text_eq, made.pattern_eq, pieced_nil, filled_nil]
    exact List.rtakeWhile_suffix _ _
  · have plain : ∀ c ∈ g.piece.reverse, (c != wildcard) = true := by
      intro c mem
      refine bne_iff_ne.2 fun wild => made.pieces_plain g (by simp) ?_
      exact wild ▸ List.mem_reverse.1 mem
    have ends : pattern.rtakeWhile (· != wildcard) = g.piece := by
      rw [made.pattern_eq, pieced, List.rtakeWhile]
      simp [List.takeWhile_append_of_pos plain]
    rw [ends, made.text_eq, filled, List.concat_eq_append, List.flatMap_append,
      List.flatMap_singleton]
    simp only [← List.append_assoc]
    exact List.suffix_append _ _

end FilledBy

/-! ## Fitting -/

/-- **Fitting finds runs if there are some.** -/
theorem fits_iff {pattern text : List Char} :
    fits pattern text = true ↔ ∃ first gaps, FilledBy pattern text first gaps := by
  fun_induction fits pattern text with
  | case1 text =>
    rw [List.isEmpty_iff]
    constructor
    · intro empty
      exact ⟨[], [], rfl, empty, List.not_mem_nil, nofun, nofun⟩
    · intro ⟨first, gaps, made⟩
      exact made.of_nil
  | case2 p pattern ih =>
    rw [Bool.and_eq_true, beq_iff_eq, ih]
    constructor
    · intro ⟨wild, first, gaps, made⟩
      exact ⟨[], _, wild ▸ made.gap List.not_mem_nil⟩
    · intro ⟨first, gaps, made⟩
      by_cases wild : p = wildcard
      · rw [wild] at made
        obtain ⟨run, rest, -, split, inner⟩ := made.of_wildcard
        rw [(List.append_eq_nil_iff.1 split.symm).2] at inner
        exact ⟨wild, inner⟩
      · obtain ⟨rest, shape, -⟩ := made.of_literal wild
        cases shape
  | case3 p pattern c text wild ih₁ ih₂ =>
    obtain rfl := beq_iff_eq.1 wild
    rw [Bool.or_eq_true, Bool.and_eq_true, bne_iff_ne, ih₁, ih₂]
    -- the run is empty, or it begins with `c` and the wildcard still stands
    constructor
    · intro given
      rcases given with ⟨first, gaps, made⟩ | ⟨plain, first, gaps, made⟩
      · exact ⟨[], _, made.gap List.not_mem_nil⟩
      · obtain ⟨run, rest, runPlain, rfl, piece, later, inner⟩ := made.of_wildcard
        exact ⟨[], _, inner.gap (List.not_mem_cons_of_ne_of_not_mem plain.symm runPlain)⟩
    · intro ⟨first, gaps, made⟩
      obtain ⟨run, rest, runPlain, split, piece, later, inner⟩ := made.of_wildcard
      cases run with
      | nil => exact .inl ⟨piece, later, split ▸ inner⟩
      | cons d run =>
        obtain ⟨rfl, rfl⟩ := List.cons.inj split
        refine .inr ⟨?_, [], _, inner.gap (List.not_mem_of_not_mem_cons runPlain)⟩
        exact fun newline => runPlain (newline ▸ List.mem_cons_self)
  | case4 p pattern c text plain ih =>
    have literal : p ≠ wildcard := fun wild => plain (beq_iff_eq.2 wild)
    rw [Bool.and_eq_true, beq_iff_eq, ih]
    constructor
    · intro ⟨same, first, gaps, made⟩
      subst same
      exact ⟨_, gaps, made.literal literal⟩
    · intro ⟨first, gaps, made⟩
      obtain ⟨rest, shape, piece, inner⟩ := made.of_literal literal
      obtain ⟨rfl, rfl⟩ := List.cons.inj shape
      exact ⟨rfl, piece, gaps, inner⟩

/-! ## Matching -/

theorem matchesPattern_iff {pattern selector : String} :
    matchesPattern pattern selector = true ↔
      pattern = selector ∨ Fills pattern.toList selector.toList := by
  rw [matchesPattern, Bool.or_eq_true, Bool.and_eq_true, beq_iff_eq, List.contains_iff_mem,
    fits_iff]
  refine or_congr_right ?_
  constructor
  · intro ⟨wild, first, gaps, made⟩
    exact ⟨first, gaps, made.wildcard_mem_iff.1 wild, made⟩
  · intro ⟨first, gaps, nonempty, made⟩
    exact ⟨made.wildcard_mem_iff.2 nonempty, first, gaps, made⟩

/-- A pattern holds at both ends of what it matches. -/
theorem ends_of_matchesPattern {pattern selector : String}
    (hit : matchesPattern pattern selector = true) :
    pattern.toList.takeWhile (· != wildcard) <+: selector.toList ∧
      pattern.toList.rtakeWhile (· != wildcard) <:+ selector.toList := by
  rcases matchesPattern_iff.1 hit with rfl | ⟨first, gaps, -, made⟩
  · exact ⟨List.takeWhile_prefix _, List.rtakeWhile_suffix _ _⟩
  · exact ⟨made.takeWhile_prefix, made.rtakeWhile_suffix⟩

theorem matchesAny_iff {patterns : List String} {selector : String} :
    matchesAny patterns selector = true ↔
      ∃ pattern ∈ patterns, matchesPattern pattern selector = true :=
  List.any_eq_true

/-- Nothing is lost by more patterns. -/
theorem matchesAny_mono {patterns more : List String} (sub : patterns ⊆ more) {selector : String}
    (hit : matchesAny patterns selector = true) : matchesAny more selector = true := by
  obtain ⟨pattern, mem, hit⟩ := matchesAny_iff.1 hit
  exact matchesAny_iff.2 ⟨pattern, sub mem, hit⟩

theorem matchesAny_append (p q : List String) (selector : String) :
    matchesAny (p ++ q) selector = (matchesAny p selector || matchesAny q selector) :=
  List.any_append

/-- **Wildcards mean what they say.** A selector matches a list of patterns exactly when it is one
of them, or one of them with runs of characters other than line feeds in the place of its
wildcards. So a pattern holds at both ends of the selector, the order and the repetition of
patterns do not count, and more patterns match no less. -/
theorem matchesAny_fills (patterns : List String) (selector : String) :
    (matchesAny patterns selector = true ↔
      ∃ pattern ∈ patterns, pattern = selector ∨ Fills pattern.toList selector.toList) ∧
    (matchesAny patterns selector = true → ∃ pattern ∈ patterns,
      pattern.toList.takeWhile (· != wildcard) <+: selector.toList ∧
        pattern.toList.rtakeWhile (· != wildcard) <:+ selector.toList) ∧
    (∀ others : List String, (∀ p, p ∈ others ↔ p ∈ patterns) →
      matchesAny others selector = matchesAny patterns selector) ∧
    ∀ more, matchesAny patterns selector = true →
      matchesAny (patterns ++ more) selector = true := by
  refine ⟨?_, fun hit => ?_, fun others same => ?_, fun more => ?_⟩
  · simp only [matchesAny_iff, matchesPattern_iff]
  · obtain ⟨pattern, mem, hit⟩ := matchesAny_iff.1 hit
    exact ⟨pattern, mem, ends_of_matchesPattern hit⟩
  · rw [Bool.eq_iff_iff]
    exact ⟨matchesAny_mono fun p => (same p).1, matchesAny_mono fun p => (same p).2⟩
  · exact matchesAny_mono (List.subset_append_left patterns more)

/-- The pieces overlap in the selector, two wildcards stand side by side, and the first run that
could be taken is too long. -/
theorem matchesAny_fills_of_overlapping_pieces :
    let patterns := [".a%aa%%.b", "c"]
    Fills ".a%aa%%.b".toList ".aaa a.b.b".toList ∧ matchesAny patterns ".aaa a.b.b" = true ∧
      (∃ pattern ∈ patterns, pattern.toList.takeWhile (· != wildcard) <+: ".aaa a.b.b".toList ∧
        pattern.toList.rtakeWhile (· != wildcard) <:+ ".aaa a.b.b".toList) ∧
      matchesAny ["c", ".a%aa%%.b", "c"] ".aaa a.b.b" = true ∧
      matchesAny (patterns ++ ["d%"]) ".aaa a.b.b" = true := by
  intro patterns
  have made : FilledBy ".a%aa%%.b".toList ".aaa a.b.b".toList ['.', 'a']
      [⟨[], ['a', 'a']⟩, ⟨[' ', 'a'], []⟩, ⟨['.', 'b'], ['.', 'b']⟩] :=
    ⟨by decide, by decide, by decide, by decide, by decide⟩
  have fills : Fills ".a%aa%%.b".toList ".aaa a.b.b".toList := ⟨_, _, List.cons_ne_nil _ _, made⟩
  have same : ∀ p, p ∈ ["c", ".a%aa%%.b", "c"] ↔ p ∈ patterns := by
    intro p
    simp only [patterns, List.mem_cons, List.not_mem_nil, or_false]
    tauto
  obtain ⟨means, ends, regardless, grows⟩ := matchesAny_fills patterns ".aaa a.b.b"
  have hit : matchesAny patterns ".aaa a.b.b" = true :=
    means.2 ⟨_, List.mem_cons_self, .inr fills⟩
  exact ⟨fills, hit, ends hit, (regardless _ same).trans hit, grows ["d%"] hit⟩

end CriticalCss.Selector
