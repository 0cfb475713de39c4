import CriticalCss.Proofs.Assembly.Parts

/-!
# The rest of many pages

Pages may leave different parts of one rule to the rest. Subtracting the critical map takes from
each of them what is critical on any page, so they end in one and the same remnant: the rule with
the selectors that no page keeps (`Extraction.Site.remnant`). The rest holds it exactly once.
-/

namespace CriticalCss

open CriticalCss.Partition Extraction
open RuleMap (styled keyOf groupOf CollisionFree)

/-- What is left of the rule at a site without the known stylings; none if no selector is left. -/
def Extraction.Site.remnant (known : List Styling) (site : Site) : Option StyleRule :=
  site.rule.narrow fun s => ⟨site.group, s, site.rule.declarations⟩ ∉ known

namespace Assembly

variable {sheet : Stylesheet} {dropKeyframes : Bool} {pages : List (String × SelectorMap)}

section

variable {results : List PageResult}

theorem mem_involved_of_criticals {key : String} {r : StyleRule}
    (mem : (key, r) ∈ styled (criticals results)) : .style r ∈ involved results :=
  List.mem_map.2 ⟨_, List.mem_append_left _ (List.mem_append_left _ (RuleMap.mem_styled.1 mem)),
    rfl⟩

theorem mem_involved_of_rests {key : String} {r : StyleRule}
    (mem : (key, r) ∈ styled (rests results)) : .style r ∈ involved results :=
  List.mem_map.2 ⟨_, List.mem_append_left _ (List.mem_append_right _ (RuleMap.mem_styled.1 mem)),
    rfl⟩

variable (free : CollisionFree (involved results))

include free

theorem collisionFree_criticals : CollisionFree ((criticals results).map Prod.snd) :=
  free.mono fun _ mem => by
    rw [involved, List.map_append, List.map_append]
    exact List.mem_append_left _ (List.mem_append_left _ mem)

theorem collisionFree_rests : CollisionFree ((rests results).map Prod.snd) :=
  free.mono fun _ mem => by
    rw [involved, List.map_append, List.map_append]
    exact List.mem_append_left _ (List.mem_append_right _ mem)

theorem collisionFree_remnants : CollisionFree ((remnants results).map Prod.snd) :=
  free.mono fun _ mem => by
    rw [involved, List.map_append]
    exact List.mem_append_right _ mem

end

section

variable (read : sheet.IsRead) (plain : sheet.Plain)

include read plain

/-- What is critical is kept on some page. -/
theorem exists_listed_of_mem_criticalOf {t : Styling}
    (mem : t ∈ (criticalOf (sheet.onPages dropKeyframes pages)).stylings) :
    ∃ page ∈ pages, ∃ site ∈ sites sheet, t ∈ site.stylings ∧
      listed page.2 site.key t.selector = true := by
  obtain ⟨key, r, held, carried⟩ := RuleMap.mem_stylings.1 mem
  obtain ⟨page, onPage, site, origin, part, rfl⟩ :=
    (mem_styled_criticals read).1 (RuleMap.mem_styled_of_mem_styles held)
  rw [groupOf_keyOf plain origin part, StyleRule.mem_stylings_of_narrow part] at carried
  exact ⟨page, onPage, site, origin, carried⟩

/-- What is left to the rest is the stylesheet's and not critical. -/
theorem of_mem_restOf {t : Styling}
    (mem : t ∈ (restOf (sheet.onPages dropKeyframes pages)).stylings) :
    t ∈ sheet.stylings ∧ t ∉ (criticalOf (sheet.onPages dropKeyframes pages)).stylings := by
  obtain ⟨key, left, held, carried⟩ := RuleMap.mem_stylings.1 mem
  obtain ⟨source, r, inRests, part, rfl⟩ :=
    RuleMap.mem_styled_leftovers.1 (RuleMap.mem_styled_of_mem_styles held)
  obtain ⟨page, -, site, origin, narrowed, rfl⟩ :=
    (mem_styled_rests read).1 (RuleMap.mem_styled_of_mem_styles inRests)
  rw [groupOf_keyOf plain origin narrowed] at part carried
  -- what is left of the part is itself a part of the rule
  have whole := (StyleRule.narrow_of_narrow narrowed).symm.trans part
  rw [groupOf_keyOf plain origin whole, StyleRule.mem_stylings_of_narrow whole,
    Bool.and_eq_true] at carried
  obtain ⟨own, -, unknown⟩ := carried
  obtain ⟨group, -, declarations⟩ := StyleRule.mem_stylings.1 own
  refine ⟨Stylesheet.mem_stylings.2 ⟨site, origin, own⟩, fun critical => ?_⟩
  rw [List.contains_eq_mem, Bool.not_eq_true', decide_eq_false_iff_not,
    StyleRule.declarations_of_narrow narrowed, ← group, ← declarations] at unknown
  exact unknown (RuleMap.mem_identities.2 ⟨t, critical, rfl⟩)

variable (free : CollisionFree (involved (sheet.onPages dropKeyframes pages)))

include free

/-- What is critical: what some page keeps. -/
theorem mem_stylings_criticalOf {t : Styling} :
    t ∈ (criticalOf (sheet.onPages dropKeyframes pages)).stylings ↔
      ∃ page ∈ pages, ∃ site ∈ sites sheet, t ∈ site.stylings ∧
        listed page.2 site.key t.selector = true := by
  constructor
  · exact exists_listed_of_mem_criticalOf read plain
  · intro given
    rcases given with ⟨page, onPage, site, origin, own, kept⟩
    obtain ⟨r, part⟩ := StyleRule.exists_narrow_iff.2
      ⟨t.selector, (StyleRule.mem_stylings.1 own).2.1, kept⟩
    rw [criticalOf, RuleMap.mem_stylings_collect (collisionFree_criticals free)]
    refine ⟨keyOf site.group r, r,
      (mem_styled_criticals read).2 ⟨page, onPage, site, origin, part, rfl⟩, ?_⟩
    rw [groupOf_keyOf plain origin part, StyleRule.mem_stylings_of_narrow part]
    exact ⟨own, kept⟩

/-- A selector that is left of a rule was left on every page. -/
theorem unlisted_of_not_critical {page : String × SelectorMap} (onPage : page ∈ pages)
    {site : Site} (origin : site ∈ sites sheet) {s : String} (own : s ∈ site.rule.selectors)
    (left : ⟨site.group, s, site.rule.declarations⟩ ∉
      (criticalOf (sheet.onPages dropKeyframes pages)).stylings) :
    unlisted page.2 site.key s = true := by
  rw [unlisted, Bool.not_eq_true']
  by_contra kept
  rw [Bool.not_eq_false] at kept
  exact left ((mem_stylings_criticalOf read plain free).2
    ⟨page, onPage, site, origin, StyleRule.mem_stylings.2 ⟨rfl, own, rfl⟩, kept⟩)

/-- **One remnant.** Whatever part of a rule a page leaves to the rest, taking away what is
critical leaves the remnant of the rule. -/
theorem remainder_eq_remnant {page : String × SelectorMap} (onPage : page ∈ pages) {site : Site}
    (origin : site ∈ sites sheet) {r : StyleRule}
    (part : site.rule.narrow (unlisted page.2 site.key) = some r) :
    RuleMap.remainder (RuleMap.identities (criticalOf (sheet.onPages dropKeyframes pages)))
        site.group r =
      site.remnant (criticalOf (sheet.onPages dropKeyframes pages)).stylings := by
  have added : (keyOf site.group r, r) ∈ styled (rests (sheet.onPages dropKeyframes pages)) :=
    (mem_styled_rests read).2 ⟨page, onPage, site, origin, part, rfl⟩
  have known := RuleMap.remainder_eq_narrow free
    (m := criticalOf (sheet.onPages dropKeyframes pages))
    (fun _ _ held => mem_involved_of_criticals (RuleMap.mem_styled_of_mem_styles held))
    (mem_involved_of_rests added) site.group
  unfold Site.remnant
  rw [← StyleRule.narrow_of_narrow_of_imp part fun s own stays =>
    unlisted_of_not_critical read plain free onPage origin own (of_decide_eq_true stays)]
  rw [known, StyleRule.declarations_of_narrow part]

/-- The style rules that are left are remnants. -/
theorem exists_remnant_of_mem {key : String} {left : StyleRule}
    (mem : (key, left) ∈ styled (remnants (sheet.onPages dropKeyframes pages))) :
    ∃ site ∈ sites sheet,
      site.remnant (criticalOf (sheet.onPages dropKeyframes pages)).stylings = some left ∧
        key = keyOf site.group left := by
  obtain ⟨source, r, held, part, rfl⟩ := RuleMap.mem_styled_leftovers.1 mem
  obtain ⟨page, onPage, site, origin, narrowed, rfl⟩ :=
    (mem_styled_rests read).1 (RuleMap.mem_styled_of_mem_styles held)
  rw [groupOf_keyOf plain origin narrowed] at part ⊢
  rw [remainder_eq_remnant read plain free onPage origin narrowed] at part
  exact ⟨site, origin, part, rfl⟩

/-- Every remnant is left. -/
theorem exists_mem_remnants (visited : pages ≠ []) {site : Site} (origin : site ∈ sites sheet)
    {left : StyleRule}
    (part : site.remnant (criticalOf (sheet.onPages dropKeyframes pages)).stylings =
      some left) :
    ∃ q, (keyOf site.group left, q) ∈ styled (remnants (sheet.onPages dropKeyframes pages)) ∧
      q.SameAs left := by
  obtain ⟨page, onPage⟩ := List.exists_mem_of_ne_nil pages visited
  obtain ⟨s, own, stays⟩ := StyleRule.exists_narrow_iff.1 ⟨left, part⟩
  obtain ⟨r, narrowed⟩ := StyleRule.exists_narrow_iff.2
    ⟨s, own, unlisted_of_not_critical read plain free onPage origin own (of_decide_eq_true stays)⟩
  have added : (keyOf site.group r, r) ∈ styled (rests (sheet.onPages dropKeyframes pages)) :=
    (mem_styled_rests read).2 ⟨page, onPage, site, origin, narrowed, rfl⟩
  -- the fold may hold a rule from another place instead, which says the same
  obtain ⟨q, held, same⟩ := RuleMap.exists_mem_styles_collect (collisionFree_rests free) added
  rw [← remainder_eq_remnant read plain free onPage origin narrowed] at part
  obtain ⟨other, rest, equal⟩ := RuleMap.remainder_of_sameAs same.symm part
  refine ⟨other, RuleMap.mem_styled_leftovers.2 ⟨keyOf site.group r, q, held, ?_, ?_⟩, equal.symm⟩
  · rw [groupOf_keyOf plain origin narrowed]
    exact rest
  · rw [groupOf_keyOf plain origin narrowed]
    exact RuleMap.keyOf_eq_of_sameAs equal site.group

/-- The rest says what the stylesheet says and no page keeps. -/
theorem mem_stylings_restOf (visited : pages ≠ []) {t : Styling} :
    t ∈ (restOf (sheet.onPages dropKeyframes pages)).stylings ↔
      t ∈ sheet.stylings ∧ t ∉ (criticalOf (sheet.onPages dropKeyframes pages)).stylings := by
  constructor
  · exact of_mem_restOf read plain
  · intro given
    rcases given with ⟨said, left⟩
    obtain ⟨site, origin, own⟩ := Stylesheet.mem_stylings.1 said
    obtain ⟨group, selector, declarations⟩ := StyleRule.mem_stylings.1 own
    obtain ⟨r, part⟩ : ∃ r, site.remnant
        (criticalOf (sheet.onPages dropKeyframes pages)).stylings = some r := by
      refine StyleRule.exists_narrow_iff.2 ⟨t.selector, selector, ?_⟩
      rw [← group, ← declarations]
      exact decide_eq_true left
    obtain ⟨q, added, same⟩ := exists_mem_remnants read plain free visited origin part
    rw [restOf, RuleMap.mem_stylings_collect (collisionFree_remnants free)]
    refine ⟨_, q, added, ?_⟩
    rw [groupOf_keyOf plain origin part, same.stylings_eq, StyleRule.mem_stylings_of_narrow part,
      ← group, ← declarations]
    exact ⟨group ▸ own, decide_eq_true left⟩

end

/-- What the critical part of a page says. -/
theorem mem_stylings_critical (read : sheet.IsRead) {page : String × SelectorMap} {t : Styling} :
    t ∈ (PageResult.ofMap dropKeyframes sheet page).critical.stylings ↔
      ∃ site ∈ sites sheet, t ∈ site.stylings ∧ listed page.2 site.key t.selector = true := by
  rw [Stylesheet.mem_stylings, PageResult.ofMap, Stylesheet.sites_partition_fst]
  constructor
  · intro given
    rcases given with ⟨other, mem, carried⟩
    obtain ⟨site, origin, found⟩ := List.mem_filterMap.1 mem
    rw [siftStyle_eq (hasSelectors_of_mem_sites read origin).1] at found
    obtain ⟨r, part, rfl⟩ := Option.map_eq_some_iff.1 found
    exact ⟨site, origin, (StyleRule.mem_stylings_of_narrow part).1 carried⟩
  · intro given
    rcases given with ⟨site, origin, own, kept⟩
    obtain ⟨r, part⟩ := StyleRule.exists_narrow_iff.2
      ⟨t.selector, (StyleRule.mem_stylings.1 own).2.1, kept⟩
    refine ⟨{ site with rule := r }, List.mem_filterMap.2 ⟨site, origin, ?_⟩,
      (StyleRule.mem_stylings_of_narrow part).2 ⟨own, kept⟩⟩
    rw [siftStyle_eq (hasSelectors_of_mem_sites read origin).1, Option.map_eq_some_iff]
    exact ⟨r, part, rfl⟩

/-- **The rest over many pages.** The critical map says what the pages keep. The rest holds, for
each style rule of the stylesheet, the remnant of the rule exactly once, under the key of its
group or under its own; nothing of a rule without a remnant; and no other style rule. -/
theorem restMap_holds_remnants {css : String} (read : Stylesheet.parse css = .ok sheet)
    (plain : sheet.Plain) (dropKeyframes : Bool) (visited : pages ≠ [])
    (free : CollisionFree (involved (sheet.onPages dropKeyframes pages))) :
    ∃ critical rest, criticalMap (sheet.onPages dropKeyframes pages) = .ok critical ∧
      restMap (sheet.onPages dropKeyframes pages) critical = .ok rest ∧
      (∀ t, t ∈ critical.stylings ↔
        ∃ page ∈ sheet.onPages dropKeyframes pages, t ∈ page.critical.stylings) ∧
      (∀ site ∈ sites sheet,
        match site.remnant critical.stylings with
        | some left =>
          (rest.styles.countP fun c => c.1 = keyOf site.group left ∧ c.2.SameAs left) = 1
        | none => ∀ t ∈ site.stylings, t ∉ rest.stylings) ∧
      ∀ c ∈ rest.styles, ∃ site ∈ sites sheet,
        site.remnant critical.stylings = some c.2 ∧ c.1 = keyOf site.group c.2 := by
  have shape := Stylesheet.isRead_of_parse read
  refine ⟨_, _, criticalMap_eq shape dropKeyframes pages, restMap_eq shape dropKeyframes pages,
    fun t => ?_, fun site origin => ?_, fun c held => ?_⟩
  · rw [mem_stylings_criticalOf shape plain free]
    simp only [Stylesheet.onPages, List.mem_map, exists_exists_and_eq_and,
      mem_stylings_critical shape]
  · split
    · rename_i left part
      obtain ⟨q, added, same⟩ := exists_mem_remnants shape plain free visited origin part
      obtain ⟨a, held, equal⟩ :=
        RuleMap.exists_mem_styles_collect (collisionFree_remnants free) added
      exact RuleMap.countP_styles_eq_one held (equal.trans same)
    · rename_i nothing
      intro t own left
      obtain ⟨group, selector, declarations⟩ := StyleRule.mem_stylings.1 own
      have critical := StyleRule.narrow_eq_none_iff.1 nothing t.selector selector
      rw [← group, ← declarations] at critical
      exact of_decide_eq_false critical
        ((mem_stylings_restOf shape plain free visited).1 left).2
  · exact exists_remnant_of_mem shape plain free (RuleMap.mem_styled_of_mem_styles held)

/-- Two pages that keep one selector of three each leave the third one once. -/
theorem restMap_holds_remnants_of_two_pages :
    let sheet : Stylesheet := [.style ⟨[".a", ".b", ".c"], [⟨"c", "d"⟩], some ⟨1, 1⟩⟩]
    let pages : List (String × SelectorMap) :=
      [("u", [(".a,.b,.c", ⟨[".a"], none, none⟩)]), ("v", [(".a,.b,.c", ⟨[".b"], none, none⟩)])]
    Stylesheet.parse ".a, .b, .c \x7b c: d \x7d" = .ok sheet ∧
      ∃ critical rest, criticalMap (sheet.onPages true pages) = .ok critical ∧
        restMap (sheet.onPages true pages) critical = .ok rest ∧
        ∀ c ∈ rest.styles, ∃ site ∈ sites sheet,
          site.remnant critical.stylings = some c.2 ∧ c.1 = keyOf site.group c.2 := by
  intro sheet pages
  have read : Stylesheet.parse ".a, .b, .c \x7b c: d \x7d" = .ok sheet := by decide +kernel
  have free : CollisionFree (involved (sheet.onPages true pages)) :=
    ⟨by decide +kernel, by decide +kernel⟩
  obtain ⟨critical, rest, first, second, -, -, only⟩ :=
    restMap_holds_remnants read (by decide +kernel) true (List.cons_ne_nil _ _) free
  exact ⟨read, critical, rest, first, second, only⟩

end Assembly

end CriticalCss
