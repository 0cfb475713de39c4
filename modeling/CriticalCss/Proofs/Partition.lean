import CriticalCss.Partition
import CriticalCss.Proofs.Stylesheet.Styling

/-!
# Splitting without a ledger

`Stylesheet.partition` takes the critical part first and keeps account of what it took. Its two
results are those of `siftRules`, which looks at one style rule at a time: the critical part keeps
the selectors that the selector map lists under the rule's key, the rest keeps the others.

The ledger is exact for this. After the critical part it holds, under the key of a style rule,
just those of the rule's selectors that the map lists there (`mem_taken_criticalRules`), although
rules may share a key and the map may list selectors that no rule has.
-/

namespace CriticalCss

namespace Partition

/-! ## Sifting -/

/-- What is left of a style rule if `keep` says which selectors stay under the rule's key. -/
def siftStyle (keep : String → String → Bool) (group : String) (r : StyleRule) :
    Option StyleRule :=
  (r.key? group).bind fun key => r.narrow (keep key)

mutual

/-- What is left of a rule if `keep` says which selectors stay, and `others` in which groups rules
without selectors do. -/
def siftRule (keep : String → String → Bool) (others : String → Bool) (group : String) :
    Rule → Option Rule
  | .group kind condition inner position =>
    regroup kind condition position (siftRules keep others (kind.key condition) inner)
  | .style r => (siftStyle keep group r).map .style
  | r => if others group then some r else none

/-- What is left of rules in a row. -/
def siftRules (keep : String → String → Bool) (others : String → Bool) (group : String) :
    List Rule → List Rule
  | [] => []
  | r :: rest => (siftRule keep others group r).toList ++ siftRules keep others group rest

end

theorem regroup_eq_some_iff {kind : GroupKind} {condition : String} {position : Option Position}
    {rules : List Rule} {r : Rule} :
    regroup kind condition position rules = some r ↔
      rules ≠ [] ∧ r = .group kind condition rules position := by
  cases rules <;> simp [regroup, eq_comm]

/-- The selector map lists the selector under the key. -/
def listed (map : SelectorMap) (key selector : String) : Bool :=
  selector ∈ map.selectorsOf key

/-- The selector map does not list the selector under the key. -/
def unlisted (map : SelectorMap) (key selector : String) : Bool :=
  !listed map key selector

/-- Only the top level is in no group. -/
def atTop (group : String) : Bool :=
  group = ""

/-- At the top level and in every group. -/
def anywhere (_ : String) : Bool :=
  true

/-! ## The critical part -/

theorem criticalStyle_fst (map : SelectorMap) (group : String) (r : StyleRule) (ledger : Ledger) :
    (criticalStyle map group r ledger).1 = siftStyle (listed map) group r := by
  unfold criticalStyle siftStyle
  cases r.key? group <;> rfl

mutual

theorem criticalRule_fst (map : SelectorMap) (group : String) (ledger : Ledger) :
    ∀ r : Rule, (criticalRule map group ledger r).1 = siftRule (listed map) atTop group r
  | .group kind condition inner position => by
    rw [criticalRule, siftRule, ← criticalRules_fst map (kind.key condition) ledger inner]
  | .style r => by rw [criticalRule, siftRule, ← criticalStyle_fst map group r ledger]
  | .atRule _ | .fontFace .. | .charset .. | .keyframes .. | .keyframe _ | .comment .. => by
    simp only [criticalRule, siftRule, atTop, decide_eq_true_eq]

theorem criticalRules_fst (map : SelectorMap) (group : String) (ledger : Ledger) :
    ∀ rules : List Rule,
      (criticalRules map group ledger rules).1 = siftRules (listed map) atTop group rules
  | [] => rfl
  | r :: rest => by
    rw [criticalRules, siftRules, ← criticalRule_fst map group ledger r,
      ← criticalRules_fst map group (criticalRule map group ledger r).2 rest]

end

/-! ## The ledger -/

namespace Ledger

theorem mem_extend {s : String} (known selectors : List String) :
    s ∈ extend known selectors ↔ s ∈ known ∨ s ∈ selectors := by
  induction selectors generalizing known with
  | nil => simp [extend]
  | cons t rest ih =>
    rw [extend, ih, List.mem_cons]
    split
    · rename_i mem
      constructor
      · exact fun h => h.imp_right Or.inr
      · intro given
        rcases given with h | rfl | h
        · exact Or.inl h
        · exact Or.inl mem
        · exact Or.inr h
    · simp only [List.mem_append, List.mem_singleton, or_assoc]

@[simp] theorem taken_nil (key : String) : taken [] key = [] := rfl

theorem taken_cons (known key : String) (old : List String) (rest : Ledger) :
    taken ((known, old) :: rest) key = if key = known then old else taken rest key := by
  rw [taken, List.lookup_cons]
  split
  · rename_i same
    rw [if_pos (beq_iff_eq.1 same), Option.getD_some]
  · rename_i apart
    rw [if_neg (beq_eq_false_iff_ne.1 apart), taken]

/-- Noting selectors under a key adds them there and nowhere else. -/
theorem mem_taken_note {s : String} (key other : String) (selectors : List String)
    (ledger : Ledger) :
    s ∈ (ledger.note key selectors).taken other ↔
      s ∈ ledger.taken other ∨ other = key ∧ s ∈ selectors := by
  induction ledger with
  | nil =>
    rw [note, taken_cons]
    split <;> simp [mem_extend, *]
  | cons first rest ih =>
    obtain ⟨known, old⟩ := first
    rw [note]
    split
    · rename_i same
      subst same
      rw [taken_cons, taken_cons]
      split <;> simp [mem_extend, *]
    · rename_i apart
      rw [taken_cons, taken_cons]
      split
      · rename_i same
        subst same
        simp [apart]
      · exact ih

end Ledger

mutual

/-- The style rules in a rule that have a key, at any depth, with their keys. -/
def keyedRule (group : String) : Rule → List (String × StyleRule)
  | .group kind condition inner _ => keyedRules (kind.key condition) inner
  | .style r => (r.key? group).toList.map fun key => (key, r)
  | _ => []

/-- The style rules in a row of rules that have a key, at any depth, with their keys. -/
def keyedRules (group : String) : List Rule → List (String × StyleRule)
  | [] => []
  | r :: rest => keyedRule group r ++ keyedRules group rest

end

/-- The map lists a selector of one of the rules under the rule's key. -/
def Takes (map : SelectorMap) (rules : List (String × StyleRule)) (key s : String) : Prop :=
  ∃ r, (key, r) ∈ rules ∧ s ∈ r.selectors ∧ listed map key s = true

theorem takes_append {map : SelectorMap} {as bs : List (String × StyleRule)} {key s : String} :
    Takes map (as ++ bs) key s ↔ Takes map as key s ∨ Takes map bs key s := by
  simp only [Takes, List.mem_append, or_and_right, exists_or]

theorem mem_taken_criticalStyle {s : String} (map : SelectorMap) (group : String) (r : StyleRule)
    (ledger : Ledger) (key : String) :
    s ∈ (criticalStyle map group r ledger).2.taken key ↔
      s ∈ ledger.taken key ∨ Takes map (keyedRule group (.style r)) key s := by
  unfold criticalStyle keyedRule
  cases r.key? group with
  | none => simp [Takes]
  | some own =>
    rw [Ledger.mem_taken_note, List.mem_filter]
    simp only [Takes, Option.toList_some, List.map_cons, List.map_nil, List.mem_singleton,
      Prod.mk.injEq]
    refine or_congr_right ⟨?_, ?_⟩
    · intro given
      rcases given with ⟨rfl, mem, chosen⟩
      exact ⟨r, ⟨rfl, rfl⟩, mem, chosen⟩
    · intro given
      rcases given with ⟨q, ⟨rfl, rfl⟩, mem, chosen⟩
      exact ⟨rfl, mem, chosen⟩

mutual

theorem mem_taken_criticalRule {s : String} (map : SelectorMap) (group : String)
    (ledger : Ledger) (key : String) :
    ∀ r : Rule, s ∈ (criticalRule map group ledger r).2.taken key ↔
      s ∈ ledger.taken key ∨ Takes map (keyedRule group r) key s
  | .group kind condition inner position => by
    rw [criticalRule, keyedRule]
    exact mem_taken_criticalRules map (kind.key condition) ledger key inner
  | .style r => by
    rw [criticalRule]
    exact mem_taken_criticalStyle map group r ledger key
  | .atRule _ | .fontFace .. | .charset .. | .keyframes .. | .keyframe _ | .comment .. => by
    simp [criticalRule, keyedRule, Takes]

/-- What the ledger holds after the critical parts of rules were taken. -/
theorem mem_taken_criticalRules {s : String} (map : SelectorMap) (group : String)
    (ledger : Ledger) (key : String) :
    ∀ rules : List Rule, s ∈ (criticalRules map group ledger rules).2.taken key ↔
      s ∈ ledger.taken key ∨ Takes map (keyedRules group rules) key s
  | [] => by simp [criticalRules, keyedRules, Takes]
  | r :: rest => by
    rw [criticalRules, keyedRules, takes_append, ← or_assoc,
      ← mem_taken_criticalRule map group ledger key r]
    exact mem_taken_criticalRules map group (criticalRule map group ledger r).2 key rest

end

/-! ## The rest -/

/-- For each of the rules, the ledger holds just those of its selectors that the map lists. -/
def Exact (map : SelectorMap) (ledger : Ledger) (rules : List (String × StyleRule)) : Prop :=
  ∀ key r, (key, r) ∈ rules → ∀ s ∈ r.selectors,
    s ∈ ledger.taken key ↔ listed map key s = true

theorem restStyle_eq {map : SelectorMap} {ledger : Ledger} {group : String} {r : StyleRule}
    (exact : Exact map ledger (keyedRule group (.style r))) :
    restStyle ledger group r = siftStyle (unlisted map) group r := by
  unfold restStyle siftStyle
  rw [keyedRule] at exact
  cases shape : r.key? group with
  | none => rfl
  | some key =>
    have known : ∀ s ∈ r.selectors, s ∈ ledger.taken key ↔ listed map key s = true :=
      exact key r (by simp [shape])
    have same : r.selectors.filter (· ∉ ledger.taken key) =
        r.selectors.filter (unlisted map key) := by
      refine List.filter_congr fun s mem => ?_
      simp only [unlisted, decide_not, known s mem, Bool.decide_eq_true]
    have some : r.selectors ≠ [] := by
      intro none
      simp [StyleRule.key?, none] at shape
    simp only [Option.bind_some, StyleRule.narrow]
    split
    · rename_i nothing
      rw [nothing] at same
      have whole : r.selectors.filter (unlisted map key) = r.selectors := by
        rw [← same]
        simp
      rw [whole, if_neg (by simpa using some)]
    · rw [same]

mutual

theorem restRule_eq {map : SelectorMap} {ledger : Ledger} {group : String} :
    ∀ {r : Rule}, Exact map ledger (keyedRule group r) →
      restRule ledger group r = siftRule (unlisted map) anywhere group r
  | .group kind condition inner position, exact => by
    rw [keyedRule] at exact
    rw [restRule, siftRule, restRules_eq exact]
  | .style r, exact => by rw [restRule, siftRule, restStyle_eq exact]
  | .atRule _, _ | .fontFace .., _ | .charset .., _ | .keyframes .., _ | .keyframe _, _
  | .comment .., _ => by
    simp only [restRule, siftRule, anywhere, if_true]

theorem restRules_eq {map : SelectorMap} {ledger : Ledger} {group : String} :
    ∀ {rules : List Rule}, Exact map ledger (keyedRules group rules) →
      restRules ledger group rules = siftRules (unlisted map) anywhere group rules
  | [], _ => rfl
  | r :: rest, exact => by
    rw [keyedRules] at exact
    have head : Exact map ledger (keyedRule group r) :=
      fun key q mem => exact key q (List.mem_append_left _ mem)
    have tail : Exact map ledger (keyedRules group rest) :=
      fun key q mem => exact key q (List.mem_append_right _ mem)
    rw [restRules, siftRules, restRule_eq head, restRules_eq tail]

end

/-! ## What is left of the style rules -/

open Extraction (sites)

theorem siftStyle_eq {keep : String → String → Bool} {group : String} {r : StyleRule}
    (some : r.selectors ≠ []) :
    siftStyle keep group r = r.narrow (keep (group ++ selectorList r.selectors)) := by
  rw [siftStyle, StyleRule.key?, if_neg (by simpa using some), Option.bind_some]

/-- What is left of the style rules in a row. -/
theorem filterMap_style_siftRules (keep : String → String → Bool) (others : String → Bool)
    (group : String) (rules : List Rule) :
    (siftRules keep others group rules).filterMap Rule.style? =
      (rules.filterMap Rule.style?).filterMap (siftStyle keep group) := by
  induction rules with
  | nil => rfl
  | cons r rest ih =>
    rw [siftRules, List.filterMap_append, ih, List.filterMap_cons]
    cases r with
    | style r =>
      rw [siftRule]
      cases left : siftStyle keep group r <;> simp [Rule.style?, left]
    | group kind condition inner position =>
      rw [siftRule]
      cases siftRules keep others (kind.key condition) inner <;> rfl
    | atRule | fontFace | charset | keyframes | keyframe | comment =>
      simp only [siftRule]
      split <;> rfl

/-- **What is left at the sites.** A sifted stylesheet has the sites of the stylesheet at which
something is left. -/
theorem sites_siftRules (keep : String → String → Bool) (others : String → Bool)
    (sheet : Stylesheet) :
    sites (siftRules keep others "" sheet) = (sites sheet).filterMap fun site =>
      (siftStyle keep site.group site.rule).map fun r => { site with rule := r } := by
  induction sheet with
  | nil => rfl
  | cons r rest ih =>
    rw [siftRules, Extraction.sites_append, ih, ← List.singleton_append (l := rest),
      Extraction.sites_append, List.filterMap_append]
    congr 1
    cases r with
    | style r =>
      rw [siftRule]
      cases left : siftStyle keep "" r <;> simp [sites, left]
    | group kind condition inner position =>
      have inside := filterMap_style_siftRules keep others (kind.key condition) inner
      rw [siftRule, Extraction.sites_group, List.filterMap_map]
      simp only [Function.comp_def]
      rw [← List.map_filterMap, ← inside]
      cases siftRules keep others (kind.key condition) inner with
      | nil => rfl
      | cons first more => exact Extraction.sites_group kind condition (first :: more) position
    | atRule | fontFace | charset | keyframes | keyframe | comment =>
      simp only [siftRule]
      split <;> rfl

theorem mem_siftRules {keep : String → String → Bool} {others : String → Bool} {group : String}
    {rules : List Rule} {r : Rule} :
    r ∈ siftRules keep others group rules ↔
      ∃ q ∈ rules, siftRule keep others group q = some r := by
  induction rules with
  | nil => simp [siftRules]
  | cons q rest ih => simp [siftRules, ih]

/-! ## The split -/

/-- Every kind of rules that can hold style rules is looked at for the critical part. -/
theorem isOther_of_dropped {dropKeyframes : Bool} {r : Rule}
    (dropped : (criticalKinds dropKeyframes).contains r.kind = false) : r.IsOther := by
  have looked : ∀ kind ∈ [RuleKind.style, .media, .supports],
      kind ∈ criticalKinds dropKeyframes := by
    cases dropKeyframes <;> decide
  rw [Rule.isOther_iff_kind]
  intro holds
  rw [List.contains_iff_mem.2 (looked r.kind holds)] at dropped
  cases dropped

theorem nothing_of_isOther {r : Rule} (other : r.IsOther) :
    keyedRule "" r = [] ∧ sites [r] = [] := by
  cases r with
  | style | group => exact other.elim
  | _ => exact ⟨rfl, rfl⟩

theorem keyedRules_filter (dropKeyframes : Bool) (sheet : Stylesheet) :
    keyedRules "" (sheet.filter fun r => (criticalKinds dropKeyframes).contains r.kind) =
      keyedRules "" sheet := by
  induction sheet with
  | nil => rfl
  | cons r rest ih =>
    rw [List.filter_cons, keyedRules]
    split
    · rw [keyedRules, ih]
    · rename_i dropped
      rw [Bool.not_eq_true] at dropped
      rw [ih, (nothing_of_isOther (isOther_of_dropped dropped)).1, List.nil_append]

theorem sites_filter (dropKeyframes : Bool) (sheet : Stylesheet) :
    sites (sheet.filter fun r => (criticalKinds dropKeyframes).contains r.kind) =
      sites sheet := by
  induction sheet with
  | nil => rfl
  | cons r rest ih =>
    rw [List.filter_cons, ← List.singleton_append (l := rest), Extraction.sites_append]
    split
    · rw [← List.singleton_append, Extraction.sites_append, ih]
    · rename_i dropped
      rw [Bool.not_eq_true] at dropped
      rw [ih, (nothing_of_isOther (isOther_of_dropped dropped)).2, List.nil_append]

end Partition

open CriticalCss.Partition Extraction

namespace Stylesheet

/-- **The split is made rule by rule.** The critical part and the rest of a stylesheet, without a
ledger. -/
theorem partition_eq (dropKeyframes : Bool) (map : SelectorMap) (sheet : Stylesheet) :
    sheet.partition dropKeyframes map =
      (siftRules (listed map) atTop ""
          (sheet.filter fun r => (criticalKinds dropKeyframes).contains r.kind),
        siftRules (unlisted map) anywhere "" sheet) := by
  unfold partition
  refine Prod.ext (criticalRules_fst map "" [] _) (restRules_eq fun key r mem s inside => ?_)
  rw [mem_taken_criticalRules, keyedRules_filter]
  constructor
  · intro given
    rcases given with nothing | ⟨_, -, -, chosen⟩
    · cases nothing
    · exact chosen
  · intro chosen
    exact Or.inr ⟨r, mem, inside, chosen⟩

/-- The style rules of the critical part. -/
theorem sites_partition_fst (dropKeyframes : Bool) (map : SelectorMap) (sheet : Stylesheet) :
    sites (sheet.partition dropKeyframes map).1 = (sites sheet).filterMap fun site =>
      (siftStyle (listed map) site.group site.rule).map fun r => { site with rule := r } := by
  rw [partition_eq, sites_siftRules, sites_filter]

/-- The style rules of the rest. -/
theorem sites_partition_snd (dropKeyframes : Bool) (map : SelectorMap) (sheet : Stylesheet) :
    sites (sheet.partition dropKeyframes map).2 = (sites sheet).filterMap fun site =>
      (siftStyle (unlisted map) site.group site.rule).map fun r => { site with rule := r } := by
  rw [partition_eq, sites_siftRules]

end Stylesheet

end CriticalCss
