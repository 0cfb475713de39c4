import CriticalCss.Proofs.RuleMap.Subtract
import CriticalCss.Removal
import CriticalCss.RuleMap.Materialize

/-!
# The stylesheet of a map

The style rules of the stylesheet that a map is turned into are those of the map, in their order,
as far as they have declarations (`RuleMap.placed_toSheet`). What no pattern matches, removing
selectors leaves as it is.
-/

namespace CriticalCss

open Extraction

theorem Stylesheet.Foldable.isFlat {sheet : Stylesheet} (fold : sheet.Foldable)
    {c : String × Rule} (mem : c ∈ sheet.contributions) : c.2.IsFlat := by
  obtain ⟨r, inside, contributed⟩ := List.mem_flatMap.1 mem
  cases r with
  | group kind condition inner position =>
    obtain ⟨q, deeper, rfl⟩ := List.mem_map.1 contributed
    have fits := fold kind condition inner position inside q deeper
    cases q with
    | group => cases fits
    | _ => trivial
  | _ =>
    obtain ⟨key, -, rfl⟩ := List.mem_map.1 contributed
    trivial

theorem Rule.isEmittable_style (r : StyleRule) :
    (style r).isEmittable = decide (r.declarations ≠ []) := by
  rw [isEmittable, declarations?, bne, decide_not]
  exact congrArg _ (Bool.eq_iff_iff.2 (by simp))

namespace RuleMap

/-! ## The rules of one key -/

/-- The key of a group gives one group of all rules that are worth writing, unless there are none;
another key gives them one by one. -/
theorem mem_rulesOf {key : String} {es : List RuleMapEntry} {r : Rule} :
    r ∈ rulesOf key es ↔
      groupOfKey? key = none ∧ r ∈ (es.map (·.rule)).filter Rule.isEmittable ∨
        ∃ kind condition, groupOfKey? key = some (kind, condition) ∧
          (es.map (·.rule)).filter Rule.isEmittable ≠ [] ∧
            r = .group kind condition ((es.map (·.rule)).filter Rule.isEmittable) none := by
  unfold rulesOf
  cases (es.map (·.rule)).filter Rule.isEmittable with
  | nil => simp
  | cons first others =>
    cases groupOfKey? key with
    | none => simp
    | some pair => simp [Prod.ext_iff]

/-- What is worth writing under a key is in the map. -/
theorem mem_items_of_emittable {m : RuleMap} {key : String} {es : List RuleMapEntry}
    (inside : (key, es) ∈ m) {r : Rule}
    (written : r ∈ (es.map (·.rule)).filter Rule.isEmittable) :
    (key, r) ∈ m.items ∧ r.isEmittable = true := by
  obtain ⟨held, emittable⟩ := List.mem_filter.1 written
  obtain ⟨e, deeper, rfl⟩ := List.mem_map.1 held
  exact ⟨mem_items.2 ⟨es, inside, e, deeper, rfl⟩, emittable⟩

/-! ## Sites -/

/-- The group that the rules under a key are shown in. -/
def shownGroup (key : String) : String :=
  (groupOfKey? key).elim "" fun (kind, condition) => kind.key condition

/-- Rules are shown in the group that their key names if its condition is settled. -/
theorem shownGroup_key {kind : GroupKind} {condition : String}
    (settled : kind = .media → repeatsAll condition = false) :
    shownGroup (kind.key condition) = kind.key condition := by
  rw [shownGroup, groupOfKey?_key]
  exact congrArg (kind.keyLead ++ ·) (GroupKind.normalize_normalize settled)

theorem shownGroup_of_not_isGroupKey {key : String} (apart : isGroupKey key = false) :
    shownGroup key = "" := by
  rw [isGroupKey, Option.isSome_eq_false_iff, Option.isNone_iff_eq_none] at apart
  rw [shownGroup, apart, Option.elim_none]

/-- The groups and rules of the sites of a stylesheet. -/
def placed (sheet : Stylesheet) : List (String × StyleRule) :=
  (sites sheet).map fun site => (site.group, site.rule)

theorem placed_append (as bs : Stylesheet) : placed (as ++ bs) = placed as ++ placed bs := by
  rw [placed, sites_append, List.map_append]
  rfl

theorem placed_of_isFlat {rules : List Rule} (flat : ∀ r ∈ rules, r.IsFlat) :
    placed rules = (rules.filterMap Rule.style?).map fun r => ("", r) := by
  induction rules with
  | nil => rfl
  | cons r rest ih =>
    rw [← List.singleton_append, placed_append, List.filterMap_append, List.map_append,
      ih fun q mem => flat q (List.mem_cons_of_mem _ mem)]
    congr 1
    cases r with
    | group => exact (flat _ List.mem_cons_self).elim
    | _ => rfl

theorem placed_rulesOf {key : String} {es : List RuleMapEntry}
    (flat : ∀ e ∈ es, e.rule.IsFlat) :
    placed (rulesOf key es) =
      (((es.map (·.rule)).filter Rule.isEmittable).filterMap Rule.style?).map fun r =>
        (shownGroup key, r) := by
  have kept : ∀ r ∈ (es.map (·.rule)).filter Rule.isEmittable, r.IsFlat := by
    intro r mem
    obtain ⟨e, inside, rfl⟩ := List.mem_map.1 (List.mem_filter.1 mem).1
    exact flat e inside
  unfold rulesOf shownGroup
  cases shown : (es.map (·.rule)).filter Rule.isEmittable with
  | nil => rfl
  | cons first others =>
    rw [shown] at kept
    cases groupOfKey? key with
    | none => exact placed_of_isFlat kept
    | some group =>
      obtain ⟨kind, condition⟩ := group
      simp only [placed, sites_group, List.map_map]
      rfl

/-- The style rules under a key that are worth writing. -/
theorem filterMap_style_isEmittable (key : String) (rules : List Rule) :
    ((rules.filter Rule.isEmittable).filterMap Rule.style?).map (fun r => (key, r)) =
      (styled (rules.map fun r => (key, r))).filter fun c => c.2.declarations ≠ [] := by
  induction rules with
  | nil => rfl
  | cons r rest ih =>
    rw [← List.singleton_append, List.filter_append, List.filterMap_append, List.map_append, ih,
      List.map_append, styled_append, List.filter_append]
    congr 1
    cases r with
    | style r =>
      simp only [List.filter_cons, Rule.isEmittable_style, styled, List.map_cons, List.map_nil,
        List.filterMap_cons, Rule.style?, Option.map_some, List.filterMap_nil]
      split <;> rfl
    | _ =>
      rw [List.filter_cons]
      split <;> rfl

theorem toSheet_cons (key : String) (es : List RuleMapEntry) (rest : RuleMap) :
    toSheet ((key, es) :: rest) = rulesOf key es ++ toSheet rest := rfl

theorem styles_cons (key : String) (es : List RuleMapEntry) (rest : RuleMap) :
    styles ((key, es) :: rest) =
      styled ((es.map (·.rule)).map fun r => (key, r)) ++ styles rest := by
  rw [styles, styles, ← styled_append, List.map_map]
  rfl

/-- **The style rules of the stylesheet of a map.** -/
theorem placed_toSheet {m : RuleMap} (flat : ∀ c ∈ m.items, c.2.IsFlat) :
    placed m.toSheet = (m.styles.filter fun c => c.2.declarations ≠ []).map fun c =>
      (shownGroup c.1, c.2) := by
  induction m with
  | nil => rfl
  | cons first rest ih =>
    obtain ⟨key, es⟩ := first
    obtain ⟨here, there⟩ := forall_mem_items_cons.1 flat
    rw [toSheet_cons, placed_append, placed_rulesOf here, ih there, styles_cons,
      List.filter_append, List.map_append, ← filterMap_style_isEmittable,
      List.map_map]
    rfl

/-! ## Removing selectors -/

theorem removeAll_eq_self {patterns : List String} {rules : List Rule}
    (fixed : ∀ r ∈ rules, r.removeSelectors? patterns = some r) :
    Rule.removeSelectors?.removeAll patterns rules = rules := by
  induction rules with
  | nil => rfl
  | cons r rest ih =>
    rw [Rule.removeSelectors?.removeAll, fixed r List.mem_cons_self,
      ih fun q mem => fixed q (List.mem_cons_of_mem _ mem)]
    rfl

theorem removeSelectors?_of_isFlat {patterns : List String} {r : Rule} (flat : r.IsFlat)
    (wanted : ∀ q, r.style? = some q → ∀ s ∈ q.selectors,
      Selector.matchesAny patterns s = false) :
    r.removeSelectors? patterns = some r := by
  cases r with
  | group => exact flat.elim
  | style r =>
    have whole : (r.selectors.filter fun s => !Selector.matchesAny patterns s) = r.selectors :=
      List.filter_eq_self.2 fun s own => by rw [wanted r rfl s own, Bool.not_false]
    simp only [Rule.removeSelectors?, whole, if_true]
  | _ => simp only [Rule.removeSelectors?]

/-- If no selector of a map is unwanted, nothing is removed from its stylesheet. -/
theorem removeSelectors_toSheet {m : RuleMap} {patterns : List String}
    (flat : ∀ c ∈ m.items, c.2.IsFlat)
    (wanted : ∀ c ∈ m.styles, ∀ s ∈ c.2.selectors,
      Selector.matchesAny patterns s = false) :
    m.toSheet.removeSelectors patterns = m.toSheet := by
  have held : ∀ key es, (key, es) ∈ m → ∀ r ∈ (es.map (·.rule)).filter Rule.isEmittable,
      r.removeSelectors? patterns = some r := by
    intro key es inside r mem
    have item := (mem_items_of_emittable inside mem).1
    refine removeSelectors?_of_isFlat (flat _ item) fun q style => ?_
    rw [Rule.style?_eq_some_iff.1 style] at item
    exact wanted (key, q) (mem_styled.2 item)
  unfold Stylesheet.removeSelectors
  split
  · rfl
  refine removeAll_eq_self fun r mem => ?_
  obtain ⟨⟨key, es⟩, inside, shown⟩ := List.mem_flatMap.1 mem
  have rules := held key es inside
  rcases mem_rulesOf.1 shown with ⟨-, own⟩ | ⟨kind, condition, -, some, rfl⟩
  · exact rules r own
  · obtain ⟨first, others, shape⟩ := List.exists_cons_of_ne_nil some
    rw [shape] at rules ⊢
    rw [Rule.removeSelectors?, removeAll_eq_self rules]

end RuleMap

end CriticalCss
