import CriticalCss.Assembly
import CriticalCss.Proofs.Partition
import CriticalCss.Proofs.RuleMap.Subtract

/-!
# What the pages add to the maps

A page splits the stylesheet with its selector map into two parts (`PageResult.ofMap`). The parts
of a stylesheet that was read can be folded, so the critical map collects `Assembly.criticals`
and the other one `Assembly.remnants`, what the critical map leaves of `Assembly.rests`. The style
rules that the parts contribute are narrowings of the stylesheet's own
(`Assembly.mem_styled_criticals`, `Assembly.mem_styled_rests`).
-/

namespace CriticalCss

open CriticalCss.Partition Extraction

/-- A page with the parts that its selector map makes of the stylesheet. -/
def PageResult.ofMap (dropKeyframes : Bool) (sheet : Stylesheet) (page : String × SelectorMap) :
    PageResult :=
  let parts := sheet.partition dropKeyframes page.2
  ⟨page.1, parts.1, parts.2⟩

/-- The pages with the parts that their selector maps make of the stylesheet. -/
def Stylesheet.onPages (dropKeyframes : Bool) (sheet : Stylesheet)
    (pages : List (String × SelectorMap)) : List PageResult :=
  pages.map (PageResult.ofMap dropKeyframes sheet)

/-- The key under which a selector map lists the critical selectors of a site. -/
def Extraction.Site.key (site : Site) : String :=
  site.group ++ selectorList site.rule.selectors

/-! ## Parts can be folded -/

theorem fitsGroup_of_siftRule {keep : String → String → Bool} {others : String → Bool}
    {group : String} {q r : Rule} (grouped : q.IsGrouped)
    (left : siftRule keep others group q = some r) : RuleMap.fitsGroup r = true := by
  cases grouped with
  | style has =>
    rw [siftRule] at left
    obtain ⟨part, -, rfl⟩ := Option.map_eq_some_iff.1 left
    rfl
  | atRule a =>
    simp only [siftRule] at left
    split at left
    · cases left
      rfl
    · cases left

/-- What is sifted out of a stylesheet that was read can be folded. -/
theorem foldable_siftRules {keep : String → String → Bool} {others : String → Bool}
    {sheet : Stylesheet} (read : sheet.IsRead) :
    Stylesheet.Foldable (siftRules keep others "" sheet) := by
  intro kind condition inner position mem r inside
  obtain ⟨q, origin, left⟩ := mem_siftRules.1 mem
  cases read q origin with
  | group grouped =>
    rename_i known text rules place
    rw [siftRule] at left
    obtain ⟨-, same⟩ := regroup_eq_some_iff.1 left
    cases same
    obtain ⟨p, deeper, part⟩ := mem_siftRules.1 inside
    exact fitsGroup_of_siftRule (grouped p deeper) part
  | style has =>
    rw [siftRule] at left
    obtain ⟨part, -, shape⟩ := Option.map_eq_some_iff.1 left
    cases shape
  | _ =>
    simp only [siftRule] at left
    split at left <;> cases left

/-- Both parts of the page can be folded. -/
def PageResult.Foldable (page : PageResult) : Prop :=
  page.critical.Foldable ∧ page.rest.Foldable

instance : DecidablePred PageResult.Foldable :=
  fun page => inferInstanceAs (Decidable (page.critical.Foldable ∧ page.rest.Foldable))

theorem foldable_onPages {sheet : Stylesheet} (read : sheet.IsRead) (dropKeyframes : Bool)
    (pages : List (String × SelectorMap)) :
    ∀ page ∈ sheet.onPages dropKeyframes pages, page.Foldable := by
  intro page onPage
  obtain ⟨map, -, rfl⟩ := List.mem_map.1 onPage
  rw [PageResult.Foldable, PageResult.ofMap, Stylesheet.partition_eq]
  exact ⟨foldable_siftRules fun r mem => read r (List.mem_filter.1 mem).1,
    foldable_siftRules read⟩

/-! ## The style rules that a stylesheet contributes -/

namespace RuleMap

theorem styled_contributions {sheet : Stylesheet}
    (some : ∀ site ∈ sites sheet, site.rule.selectors ≠ []) :
    styled sheet.contributions =
      (sites sheet).map fun site => (keyOf site.group site.rule, site.rule) := by
  induction sheet with
  | nil => rfl
  | cons r rest ih =>
    rw [← List.singleton_append, sites_append] at some ⊢
    rw [Stylesheet.contributions, List.flatMap_append, styled_append, List.map_append]
    refine congr (congrArg _ ?_)
      (ih fun site mem => some site (List.mem_append_right _ mem))
    rw [List.flatMap_singleton]
    cases r with
    | style r =>
      have own : r.selectors ≠ [] := some ⟨r, "", none⟩ (by simp [sites])
      simp [Rule.contributions, Rule.key?, StyleRule.key?, own, styled, Rule.style?, sites, keyOf]
    | group kind condition inner position =>
      rw [sites_group, Rule.contributions, styled, List.filterMap_map, List.map_map,
        List.map_filterMap]
      simp [Function.comp_def, keyOf, kind.key_ne_empty condition]
    | atRule | fontFace | charset | keyframes | keyframe | comment =>
      simp [Rule.contributions, styled, Rule.style?, sites]

end RuleMap

/-! ## The style rules of the parts -/

open RuleMap (styled keyOf groupOf)

/-- The style rules that a sifted stylesheet contributes are parts of the stylesheet's own. -/
theorem mem_styled_of_sites {sheet part : Stylesheet} (read : sheet.IsRead)
    {keep : String → String → Bool}
    (left : sites part = (sites sheet).filterMap fun site =>
      (siftStyle keep site.group site.rule).map fun r => { site with rule := r })
    {key : String} {r : StyleRule} :
    (key, r) ∈ styled part.contributions ↔
      ∃ site ∈ sites sheet, site.rule.narrow (keep site.key) = some r ∧
        key = keyOf site.group r := by
  have shape : ∀ {site other : Site}, site ∈ sites sheet →
      ((siftStyle keep site.group site.rule).map (fun r => { site with rule := r }) = some other ↔
        ∃ r, site.rule.narrow (keep site.key) = some r ∧ { site with rule := r } = other) := by
    intro site other mem
    rw [siftStyle_eq (hasSelectors_of_mem_sites read mem).1, Option.map_eq_some_iff]
    rfl
  have some : ∀ site ∈ sites part, site.rule.selectors ≠ [] := by
    intro other mem
    rw [left] at mem
    obtain ⟨site, origin, found⟩ := List.mem_filterMap.1 mem
    obtain ⟨r, narrowed, rfl⟩ := (shape origin).1 found
    rw [StyleRule.selectors_of_narrow narrowed]
    exact (StyleRule.narrow_eq_some_iff.1 narrowed).1
  rw [RuleMap.styled_contributions some, left, List.mem_map]
  constructor
  · intro given
    rcases given with ⟨other, mem, pair⟩
    obtain ⟨site, origin, found⟩ := List.mem_filterMap.1 mem
    obtain ⟨q, narrowed, rfl⟩ := (shape origin).1 found
    cases pair
    exact ⟨site, origin, narrowed, rfl⟩
  · intro given
    rcases given with ⟨site, origin, narrowed, rfl⟩
    exact ⟨{ site with rule := r },
      List.mem_filterMap.2 ⟨site, origin, (shape origin).2 ⟨r, narrowed, rfl⟩⟩, rfl⟩

/-- Under the key of a part of a rule, the rule's group is known again, unless a selector at the
top level passes for the key of a group. -/
theorem groupOf_keyOf {sheet : Stylesheet} (plain : sheet.Plain) {site : Site}
    (mem : site ∈ sites sheet) {stays : String → Bool} {r : StyleRule}
    (part : site.rule.narrow stays = some r) : groupOf (keyOf site.group r) = site.group := by
  unfold groupOf keyOf
  split
  · rename_i top
    obtain ⟨some, rfl⟩ := StyleRule.narrow_eq_some_iff.1 part
    obtain ⟨s, rest, shape⟩ := List.exists_cons_of_ne_nil some
    have own : s ∈ site.rule.selectors := (List.mem_filter.1 (shape ▸ List.mem_cons_self)).1
    simp only [shape]
    rw [isGroupKey_selectorList_cons (plain site mem top s own), top]
    rfl
  · rename_i inner
    rw [isGroupKey_of_mem_sites mem inner, if_pos rfl]

namespace Assembly

/-- What the critical parts of the pages contribute. -/
def criticals (pages : List PageResult) : List (String × Rule) :=
  pages.flatMap fun page => page.critical.contributions

/-- What the rests of the pages contribute. -/
def rests (pages : List PageResult) : List (String × Rule) :=
  pages.flatMap fun page => page.rest.contributions

/-- The map of the critical parts. -/
def criticalOf (pages : List PageResult) : RuleMap :=
  RuleMap.collect (criticals pages)

/-- What the critical map leaves of the rests. -/
def remnants (pages : List PageResult) : List (String × Rule) :=
  (RuleMap.collect (rests pages)).leftovers (criticalOf pages)

/-- The map of what is left of the rests. -/
def restOf (pages : List PageResult) : RuleMap :=
  RuleMap.collect (remnants pages)

/-- The rules that are added to a rule map when the pages are put together. -/
def involved (pages : List PageResult) : List Rule :=
  (criticals pages ++ rests pages ++ remnants pages).map Prod.snd

theorem criticalMap_of_foldable {pages : List PageResult}
    (fold : ∀ page ∈ pages, page.Foldable) : criticalMap pages = .ok (criticalOf pages) := by
  rw [criticalMap, RuleMap.ofSheets_eq, List.flatMap_map]
  · rfl
  · intro part mem
    obtain ⟨page, onPage, rfl⟩ := List.mem_map.1 mem
    exact (fold page onPage).1

theorem restMap_of_foldable {pages : List PageResult} (fold : ∀ page ∈ pages, page.Foldable)
    (critical : RuleMap) :
    restMap pages critical =
      .ok (RuleMap.collect ((RuleMap.collect (rests pages)).leftovers critical)) := by
  rw [restMap, RuleMap.ofSheets_eq, List.flatMap_map, ← RuleMap.subtract_eq]
  · rfl
  · intro part mem
    obtain ⟨page, onPage, rfl⟩ := List.mem_map.1 mem
    exact (fold page onPage).2

variable {sheet : Stylesheet} (read : sheet.IsRead) (dropKeyframes : Bool)
  (pages : List (String × SelectorMap))

include read

theorem criticalMap_eq :
    criticalMap (sheet.onPages dropKeyframes pages) =
      .ok (criticalOf (sheet.onPages dropKeyframes pages)) :=
  criticalMap_of_foldable (foldable_onPages read dropKeyframes pages)

theorem restMap_eq :
    restMap (sheet.onPages dropKeyframes pages)
        (criticalOf (sheet.onPages dropKeyframes pages)) =
      .ok (restOf (sheet.onPages dropKeyframes pages)) :=
  restMap_of_foldable (foldable_onPages read dropKeyframes pages) _

variable {dropKeyframes pages} {key : String} {r : StyleRule}

/-- If one part of each page keeps the selectors that `keep` says, the style rules of these parts
are the stylesheet's, narrowed in this way. -/
theorem mem_styled_onPages {part : PageResult → Stylesheet}
    {keep : SelectorMap → String → String → Bool}
    (left : ∀ page : String × SelectorMap,
      sites (part (PageResult.ofMap dropKeyframes sheet page)) =
        (sites sheet).filterMap fun site =>
          (siftStyle (keep page.2) site.group site.rule).map fun r => { site with rule := r }) :
    (key, r) ∈ styled ((sheet.onPages dropKeyframes pages).flatMap fun page =>
        (part page).contributions) ↔
      ∃ page ∈ pages, ∃ site ∈ sites sheet,
        site.rule.narrow (keep page.2 site.key) = some r ∧ key = keyOf site.group r := by
  have one (page : String × SelectorMap) :
      (key, r) ∈ styled (part (PageResult.ofMap dropKeyframes sheet page)).contributions ↔
        ∃ site ∈ sites sheet, site.rule.narrow (keep page.2 site.key) = some r ∧
          key = keyOf site.group r :=
    mem_styled_of_sites read (left page)
  simp only [← one]
  simp only [Stylesheet.onPages, RuleMap.mem_styled, List.mem_flatMap, List.mem_map,
    exists_exists_and_eq_and]

theorem mem_styled_criticals :
    (key, r) ∈ styled (criticals (sheet.onPages dropKeyframes pages)) ↔
      ∃ page ∈ pages, ∃ site ∈ sites sheet,
        site.rule.narrow (listed page.2 site.key) = some r ∧ key = keyOf site.group r :=
  mem_styled_onPages read fun page => sheet.sites_partition_fst dropKeyframes page.2

theorem mem_styled_rests :
    (key, r) ∈ styled (rests (sheet.onPages dropKeyframes pages)) ↔
      ∃ page ∈ pages, ∃ site ∈ sites sheet,
        site.rule.narrow (unlisted page.2 site.key) = some r ∧ key = keyOf site.group r :=
  mem_styled_onPages read fun page => sheet.sites_partition_snd dropKeyframes page.2

end Assembly

end CriticalCss
