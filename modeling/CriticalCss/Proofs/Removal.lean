import CriticalCss.Proofs.Partition.Side
import CriticalCss.Proofs.Selector.Pattern
import CriticalCss.Removal

/-!
# What removing selectors leaves

`Removal.Leaves` says what is left of rules in a row, group by group: of each style rule the
selectors that no pattern matches, unless the rule loses all it had, of each group what is left in
it, unless that is nothing, and of other rules everything. Only without patterns do empty groups
stay. A row leaves just one row (`Removal.Leaves.eq`), and `Stylesheet.removeSelectors` gives it.

So two removals one after the other are one removal with the patterns of both, although the first
one may have emptied rules and groups that the second one never sees.
-/

namespace CriticalCss

open CriticalCss.Partition Selector

namespace Removal

/-- What is left of rules in a row if the selectors that one of the patterns matches go. -/
inductive Leaves (patterns : List String) : List Rule → List Rule → Prop
  | nil : Leaves patterns [] []
  | styleKept {r : StyleRule} {rest left : List Rule} :
    (r.selectors = [] ∨ ∃ s ∈ r.selectors, matchesAny patterns s = false) →
      Leaves patterns rest left →
        Leaves patterns (.style r :: rest) (.style
          { r with selectors := r.selectors.filter fun s => !matchesAny patterns s } :: left)
  | styleGone {r : StyleRule} {rest left : List Rule} :
    r.selectors ≠ [] → (∀ s ∈ r.selectors, matchesAny patterns s = true) →
      Leaves patterns rest left → Leaves patterns (.style r :: rest) left
  | groupKept {kind : GroupKind} {condition : String} {position : Option Position}
      {inner deeper rest left : List Rule} :
    Leaves patterns inner deeper → (deeper = [] → patterns = []) → Leaves patterns rest left →
      Leaves patterns (.group kind condition inner position :: rest)
        (.group kind condition deeper position :: left)
  | groupGone {kind : GroupKind} {condition : String} {position : Option Position}
      {inner rest left : List Rule} :
    Leaves patterns inner [] → patterns ≠ [] → Leaves patterns rest left →
      Leaves patterns (.group kind condition inner position :: rest) left
  | other {r : Rule} {rest left : List Rule} :
    r.IsOther → Leaves patterns rest left → Leaves patterns (r :: rest) (r :: left)

end Removal

namespace Rule

variable {patterns : List String}

/-! ## One rule -/

/-- A style rule keeps what no pattern matches; one without selectors has none to lose. -/
theorem removeSelectors?_style (r : StyleRule) :
    (style r).removeSelectors? patterns =
      if r.selectors = [] then some (style r)
      else (r.narrow fun s => !matchesAny patterns s).map style := by
  rw [removeSelectors?, StyleRule.narrow]
  by_cases bare : r.selectors = []
  · rw [if_pos bare, bare]
    rfl
  rw [if_neg bare]
  by_cases whole : (r.selectors.filter fun s => !matchesAny patterns s).length = r.selectors.length
  · -- the rule is passed on as it is, which is the rule with all selectors kept
    have same := List.filter_sublist.eq_of_length whole
    simp only [same, if_true, List.isEmpty_iff, if_neg bare, Option.map_some]
  · simp only [if_neg whole]
    split <;> rfl

theorem removeSelectors?_group (kind : GroupKind) (condition : String) (inner : List Rule)
    (position : Option Position) :
    (group kind condition inner position).removeSelectors? patterns =
      regroup kind condition position (removeSelectors?.removeAll patterns inner) := by
  rw [removeSelectors?]
  cases removeSelectors?.removeAll patterns inner <;> rfl

end Rule

namespace Removal

open Rule.removeSelectors?

variable {patterns p q both : List String}

/-! ## A row leaves one row -/

/-- A style rule does not both stay and go. -/
theorem not_forall_matches {r : StyleRule}
    (stays : r.selectors = [] ∨ ∃ s ∈ r.selectors, matchesAny patterns s = false)
    (some : r.selectors ≠ []) : ¬∀ s ∈ r.selectors, matchesAny patterns s = true := by
  intro gone
  rcases stays with none | ⟨s, mem, spared⟩
  · exact some none
  · exact Bool.false_ne_true (spared.symm.trans (gone s mem))

/-- **What is left is determined.** -/
theorem Leaves.eq {rules a b : List Rule} (left : Leaves patterns rules a)
    (right : Leaves patterns rules b) : a = b := by
  induction left generalizing b with
  | nil =>
    cases right
    rfl
  | styleKept stays _ ih =>
    cases right with
    | styleKept _ after => rw [ih after]
    | styleGone some gone _ => exact (not_forall_matches stays some gone).elim
    | other isOther => exact isOther.elim
  | styleGone some gone _ ih =>
    cases right with
    | styleKept stays _ => exact (not_forall_matches stays some gone).elim
    | styleGone _ _ after => exact ih after
    | other isOther => exact isOther.elim
  | groupKept _ stays _ inside ih =>
    cases right with
    | groupKept inner _ after => rw [inside inner, ih after]
    | groupGone inner some _ => exact (some (stays (inside inner))).elim
    | other isOther => exact isOther.elim
  | groupGone _ some _ inside ih =>
    cases right with
    | groupKept inner stays _ => exact (some (stays (inside inner).symm)).elim
    | groupGone _ _ after => exact ih after
    | other isOther => exact isOther.elim
  | other isOther _ ih =>
    cases right with
    | other _ after => rw [ih after]
    | styleKept | styleGone | groupKept | groupGone => exact isOther.elim

mutual

theorem leaves_cons_self {rest : List Rule} (after : Leaves [] rest rest) :
    ∀ r : Rule, Leaves [] (r :: rest) (r :: rest)
  | .group _ _ inner _ => .groupKept (leaves_self inner) (fun _ => rfl) after
  | .style r => by
    have whole : (r.selectors.filter fun s => !matchesAny [] s) = r.selectors :=
      List.filter_eq_self.2 fun _ _ => rfl
    have stays : r.selectors = [] ∨ ∃ s ∈ r.selectors, matchesAny [] s = false := by
      cases shape : r.selectors with
      | nil => exact .inl rfl
      | cons s others => exact .inr ⟨s, List.mem_cons_self, rfl⟩
    have kept := Leaves.styleKept stays after
    rw [whole] at kept
    exact kept
  | .atRule _ | .fontFace .. | .charset .. | .keyframes .. | .keyframe _ | .comment .. =>
    .other trivial after

/-- Without patterns everything is left, empty groups included. -/
theorem leaves_self : ∀ rules : List Rule, Leaves [] rules rules
  | [] => .nil
  | r :: rest => leaves_cons_self (leaves_self rest) r

end

mutual

theorem leaves_removeSelectors? (some : patterns ≠ []) {rest left : List Rule}
    (after : Leaves patterns rest left) :
    ∀ r : Rule, Leaves patterns (r :: rest) ((r.removeSelectors? patterns).toList ++ left)
  | .group kind condition inner position => by
    have deeper := leaves_removeAll some inner
    rw [Rule.removeSelectors?_group]
    cases shape : removeAll patterns inner with
    | nil => exact .groupGone (shape ▸ deeper) some after
    | cons first others =>
      rw [shape] at deeper
      exact .groupKept deeper (fun none => (List.cons_ne_nil _ _ none).elim) after
  | .style r => by
    rw [Rule.removeSelectors?_style]
    split
    · rename_i bare
      have kept := Leaves.styleKept (.inl bare) after
      rw [bare, List.filter_nil, ← bare] at kept
      exact kept
    · rename_i some
      cases part : r.narrow fun s => !matchesAny patterns s with
      | none =>
        refine .styleGone some (fun s mem => ?_) after
        simpa using StyleRule.narrow_eq_none_iff.1 part s mem
      | some left =>
        obtain ⟨s, mem, stays⟩ := StyleRule.exists_narrow_iff.1 ⟨left, part⟩
        obtain ⟨-, rfl⟩ := StyleRule.narrow_eq_some_iff.1 part
        exact .styleKept (.inr ⟨s, mem, by simpa using stays⟩) after
  | .atRule _ | .fontFace .. | .charset .. | .keyframes .. | .keyframe _ | .comment .. => by
    simp only [Rule.removeSelectors?]
    exact .other trivial after

theorem leaves_removeAll (some : patterns ≠ []) :
    ∀ rules : List Rule, Leaves patterns rules (removeAll patterns rules)
  | [] => .nil
  | r :: rest => leaves_removeSelectors? some (leaves_removeAll some rest) r

end

/-- What is left of a stylesheet. -/
theorem leaves_removeSelectors (patterns : List String) (sheet : Stylesheet) :
    Leaves patterns sheet (sheet.removeSelectors patterns) := by
  rw [Stylesheet.removeSelectors]
  split
  · rename_i none
    rw [List.isEmpty_iff.1 none]
    exact leaves_self sheet
  · rename_i some
    exact leaves_removeAll (fun none => some (List.isEmpty_iff.2 none)) sheet

/-! ## The selectors that are left -/

mutual

theorem occurrences_removeSelectors? (groups : List GroupHead) :
    ∀ r : Rule, occurrences groups (r.removeSelectors? patterns).toList =
      (ruleOccurrences groups r).filter fun o => !matchesAny patterns o.selector
  | .group kind condition inner position => by
    rw [Rule.removeSelectors?_group, occurrences_regroup, ruleOccurrences,
      occurrences_removeAll _ inner]
  | .style r => by
    have own : styleOccurrences groups
        { r with selectors := r.selectors.filter fun s => !matchesAny patterns s } =
          (styleOccurrences groups r).filter fun o => !matchesAny patterns o.selector := by
      rw [styleOccurrences, styleOccurrences, List.filter_map]
      rfl
    rw [Rule.removeSelectors?_style, ruleOccurrences, ← own]
    split
    · rename_i bare
      simp [occurrences, ruleOccurrences, styleOccurrences, bare]
    · exact occurrences_narrow groups _ r
  | .atRule _ | .fontFace .. | .charset .. | .keyframes .. | .keyframe _ | .comment .. => by
    simp only [Rule.removeSelectors?]
    rfl

/-- Just the selectors that no pattern matches are left, each where it stood. -/
theorem occurrences_removeAll (groups : List GroupHead) :
    ∀ rules : List Rule, occurrences groups (removeAll patterns rules) =
      (occurrences groups rules).filter fun o => !matchesAny patterns o.selector
  | [] => rfl
  | r :: rest => by
    rw [removeAll, occurrences_append, occurrences, List.filter_append,
      occurrences_removeSelectors? groups r, occurrences_removeAll groups rest]

end

/-! ## Two removals -/

theorem removeAll_append (as bs : List Rule) :
    removeAll patterns (as ++ bs) = removeAll patterns as ++ removeAll patterns bs := by
  induction as with
  | nil => rfl
  | cons r rest ih => rw [List.cons_append, removeAll, removeAll, ih, List.append_assoc]

theorem removeAll_singleton (r : Rule) :
    removeAll patterns [r] = (r.removeSelectors? patterns).toList :=
  List.append_nil _

theorem removeAll_regroup (kind : GroupKind) (condition : String) (position : Option Position)
    (rules : List Rule) :
    removeAll patterns (regroup kind condition position rules).toList =
      (regroup kind condition position (removeAll patterns rules)).toList := by
  cases rules with
  | nil => rfl
  | cons first others =>
    rw [regroup, Option.toList_some, removeAll_singleton, Rule.removeSelectors?_group]

/-- The selectors of a style rule that are left after two removals are left after one. -/
theorem removeAll_removeSelectors?_style
    (joined : ∀ s, matchesAny both s = (matchesAny p s || matchesAny q s)) (r : StyleRule) :
    removeAll q ((Rule.style r).removeSelectors? p).toList =
      ((Rule.style r).removeSelectors? both).toList := by
  have spared : (r.narrow fun s => !matchesAny both s) =
      r.narrow fun s => !matchesAny p s && !matchesAny q s :=
    StyleRule.narrow_congr fun s _ => by rw [joined, Bool.not_or]
  rw [Rule.removeSelectors?_style, Rule.removeSelectors?_style, spared]
  by_cases bare : r.selectors = []
  · rw [if_pos bare, if_pos bare, Option.toList_some, removeAll_singleton,
      Rule.removeSelectors?_style, if_pos bare, Option.toList_some]
  rw [if_neg bare, if_neg bare]
  cases part : r.narrow fun s => !matchesAny p s with
  | none =>
    have none := StyleRule.narrow_eq_none_iff.1 part
    rw [StyleRule.narrow_eq_none_iff.2 fun s mem => by rw [none s mem, Bool.false_and]]
    rfl
  | some left =>
    have nonempty : left.selectors ≠ [] := by
      rw [StyleRule.selectors_of_narrow part]
      exact (StyleRule.narrow_eq_some_iff.1 part).1
    rw [Option.map_some, Option.toList_some, removeAll_singleton, Rule.removeSelectors?_style,
      if_neg nonempty, StyleRule.narrow_of_narrow part]

mutual

theorem removeAll_removeSelectors?
    (joined : ∀ s, matchesAny both s = (matchesAny p s || matchesAny q s)) :
    ∀ r : Rule,
      removeAll q (r.removeSelectors? p).toList = (r.removeSelectors? both).toList
  | .group kind condition inner position => by
    rw [Rule.removeSelectors?_group, Rule.removeSelectors?_group, removeAll_regroup,
      removeAll_removeAll joined inner]
  | .style r => removeAll_removeSelectors?_style joined r
  | .atRule _ | .fontFace .. | .charset .. | .keyframes .. | .keyframe _ | .comment .. => by
    simp only [Rule.removeSelectors?, Option.toList_some, removeAll_singleton]

/-- Two removals are one with the patterns of both. -/
theorem removeAll_removeAll
    (joined : ∀ s, matchesAny both s = (matchesAny p s || matchesAny q s)) :
    ∀ rules : List Rule, removeAll q (removeAll p rules) = removeAll both rules
  | [] => rfl
  | r :: rest => by
    rw [removeAll, removeAll_append, removeAll_removeSelectors? joined r,
      removeAll_removeAll joined rest, ← removeAll]

end

end Removal

namespace Stylesheet

open Rule.removeSelectors? Removal

variable (p q : List String) (sheet : Stylesheet)

@[simp] theorem removeSelectors_nil : sheet.removeSelectors [] = sheet := rfl

theorem removeSelectors_cons (pattern : String) (patterns : List String) :
    sheet.removeSelectors (pattern :: patterns) = removeAll (pattern :: patterns) sheet := rfl

/-- Two removals are one with the patterns of both. -/
theorem removeSelectors_removeSelectors :
    (sheet.removeSelectors p).removeSelectors q = sheet.removeSelectors (p ++ q) := by
  cases p with
  | nil => rfl
  | cons a p =>
    cases q with
    | nil => rw [removeSelectors_nil, List.append_nil]
    | cons b q =>
      rw [removeSelectors_cons, removeSelectors_cons, List.cons_append, removeSelectors_cons]
      exact removeAll_removeAll (matchesAny_append (a :: p) (b :: q)) sheet

/-- Which of two removals comes first does not count. -/
theorem removeSelectors_comm :
    (sheet.removeSelectors q).removeSelectors p = (sheet.removeSelectors p).removeSelectors q := by
  cases p with
  | nil => rfl
  | cons a p =>
    cases q with
    | nil => rfl
    | cons b q =>
      have joined : ∀ s, matchesAny (a :: p ++ b :: q) s =
          (matchesAny (b :: q) s || matchesAny (a :: p) s) :=
        fun s => by rw [matchesAny_append, Bool.or_comm]
      rw [removeSelectors_removeSelectors (a :: p), List.cons_append]
      exact removeAll_removeAll joined sheet

theorem occurrences_removeSelectors :
    (sheet.removeSelectors p).occurrences =
      sheet.occurrences.filter fun o => !matchesAny p o.selector := by
  cases p with
  | nil => exact (List.filter_eq_self.2 fun _ _ => rfl).symm
  | cons a p => exact occurrences_removeAll [] sheet

/-- **Removing selectors is exact, and removals add up.** A removal gives what is left of the
stylesheet, and nothing else is: a style rule keeps the selectors that no pattern matches, and goes
if it had selectors and loses them all; a group goes if nothing is left in it. Seen from the
selectors, each one that no pattern matches stays where it stood, with the groups and the
declarations around it. Two removals, in either order, are one with the patterns of both. -/
theorem removeSelectors_leaves :
    (∀ left, sheet.removeSelectors p = left ↔ Leaves p sheet left) ∧
    (sheet.removeSelectors p).occurrences =
      sheet.occurrences.filter (fun o => !matchesAny p o.selector) ∧
    (sheet.removeSelectors p).removeSelectors q = sheet.removeSelectors (p ++ q) ∧
    (sheet.removeSelectors q).removeSelectors p = sheet.removeSelectors (p ++ q) := by
  refine ⟨fun left => ⟨fun result => ?_, fun leaves => ?_⟩, occurrences_removeSelectors p sheet,
    removeSelectors_removeSelectors p q sheet, ?_⟩
  · exact result ▸ leaves_removeSelectors p sheet
  · exact (leaves_removeSelectors p sheet).eq leaves
  · rw [removeSelectors_comm, removeSelectors_removeSelectors]

example : Stylesheet.removeSelectors ["a"]
    [.group .media "x" [.group .supports "y" [.style ⟨["a"], [], none⟩] none] none,
      .group .media "z" [] none, .style ⟨[], [], none⟩, .style ⟨["a", "b", "a"], [], none⟩] =
    [.style ⟨[], [], none⟩, .style ⟨["b"], [], none⟩] := by
  decide +kernel

end Stylesheet

end CriticalCss
