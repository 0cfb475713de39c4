import CriticalCss.Proofs.Assembly.Split
import Mathlib.Data.List.Perm.Subperm

/-!
# How often the critical map says a thing

The critical map tells whole rules apart. So pages that keep different parts of one selector list
add different rules, and a selector that is in several of these parts is carried by all of them:
by as many as there are different parts with it (`Assembly.length_carriers_eq_keptParts`).
-/

namespace CriticalCss

open CriticalCss.Partition Extraction Selector
open RuleMap (CollisionFree keyOf groupOf styled)

/-- The style rules of a map that carry a styling. -/
def RuleMap.carriers (m : RuleMap) (t : Styling) : List (String × StyleRule) :=
  m.styles.filter fun c => t ∈ c.2.stylings (groupOf c.1)

theorem RuleMap.mem_carriers {m : RuleMap} {t : Styling} {c : String × StyleRule} :
    c ∈ m.carriers t ↔ c ∈ m.styles ∧ t ∈ c.2.stylings (groupOf c.1) := by
  rw [carriers, List.mem_filter, decide_eq_true_eq]

namespace Extraction.Site

/-- The selectors of a site that are critical on a page that gives these answers. -/
def kept (wishes : Wishes) (sheet : Stylesheet) (site : Site) (answers : List Bool) :
    List String :=
  site.rule.selectors.filter (isCritical wishes ((questions wishes sheet).zip answers))

/-- The different parts of a site's selector list that have the selector and are kept by a
page. -/
def keptParts (wishes : Wishes) (sheet : Stylesheet) (pages : List (String × List Bool))
    (site : Site) (s : String) : List (List String) :=
  ((pages.map fun page => site.kept wishes sheet page.2).filter (s ∈ ·)).eraseDups

theorem mem_keptParts {wishes : Wishes} {sheet : Stylesheet} {pages : List (String × List Bool)}
    {site : Site} {s : String} {part : List String} :
    part ∈ site.keptParts wishes sheet pages s ↔
      s ∈ part ∧ ∃ page ∈ pages, site.kept wishes sheet page.2 = part := by
  rw [keptParts, List.mem_eraseDups, List.mem_filter, List.mem_map, decide_eq_true_eq, and_comm]

/-- A part that is kept is what the selector map of the page leaves. -/
theorem narrow_answeredMap {sheet : Stylesheet} (read : sheet.IsRead) {site : Site}
    (origin : site ∈ sites sheet) (wishes : Wishes) (answers : List Bool) :
    site.rule.narrow (listed (answeredMap wishes sheet answers) site.key) =
      site.rule.narrow (isCritical wishes ((questions wishes sheet).zip answers)) :=
  StyleRule.narrow_congr fun _ own =>
    Bool.eq_iff_iff.2 (listed_answeredMap_iff read origin wishes answers own)

end Extraction.Site

/-- Only one site of the stylesheet carries the styling. -/
def Stylesheet.CarriedOnce (sheet : Stylesheet) (t : Styling) : Prop :=
  ((sites sheet).countP fun site => t ∈ site.stylings) = 1

instance (sheet : Stylesheet) (t : Styling) : Decidable (sheet.CarriedOnce t) :=
  inferInstanceAs (Decidable (_ = 1))

theorem Stylesheet.CarriedOnce.eq {sheet : Stylesheet} {t : Styling} (once : sheet.CarriedOnce t)
    {a b : Site} (ha : a ∈ sites sheet) (hb : b ∈ sites sheet) (ta : t ∈ a.stylings)
    (tb : t ∈ b.stylings) : a = b := by
  rw [CarriedOnce, List.countP_eq_length_filter, List.length_eq_one_iff] at once
  obtain ⟨only, shape⟩ := once
  have unique : ∀ site ∈ sites sheet, t ∈ site.stylings → site = only := by
    intro site mem carried
    rw [← List.mem_singleton, ← shape, List.mem_filter]
    exact ⟨mem, decide_eq_true carried⟩
  rw [unique a ha ta, unique b hb tb]

namespace Assembly

variable {sheet : Stylesheet} {wishes : Wishes} {dropKeyframes : Bool}
  {pages : List (String × List Bool)}

/-- The style rules that the critical parts contribute are the kept parts. -/
theorem mem_styled_criticals_askedOn (read : sheet.IsRead) {key : String} {r : StyleRule} :
    (key, r) ∈ styled (criticals (sheet.askedOn wishes dropKeyframes pages)) ↔
      ∃ page ∈ pages, ∃ site ∈ sites sheet,
        site.rule.narrow (isCritical wishes ((questions wishes sheet).zip page.2)) = some r ∧
          key = keyOf site.group r := by
  rw [Stylesheet.askedOn, mem_styled_criticals read]
  simp only [List.mem_map, exists_exists_and_eq_and]
  refine exists_congr fun page => and_congr_right fun _ => exists_congr fun site =>
    and_congr_right fun origin => ?_
  rw [Site.narrow_answeredMap read origin]

section

variable (read : sheet.IsRead) (plain : sheet.Plain) {t : Styling} {site : Site}
  (origin : site ∈ sites sheet) (own : t ∈ site.stylings)

include read plain origin own

/-- If the digests tell the rules apart, each kept part is held. -/
theorem le_length_carriers
    (free : CollisionFree (involved (sheet.askedOn wishes dropKeyframes pages))) :
    (site.keptParts wishes sheet pages t.selector).length ≤
      ((criticalOf (sheet.askedOn wishes dropKeyframes pages)).carriers t).length := by
  rw [← List.length_map fun c : String × StyleRule => c.2.selectors]
  refine (List.Nodup.subperm (nodup_eraseDups _) fun part mem => ?_).length_le
  obtain ⟨inside, page, onPage, rfl⟩ := Site.mem_keptParts.1 mem
  obtain ⟨r, part⟩ := StyleRule.exists_narrow_iff.2
    ⟨t.selector, (List.mem_filter.1 inside).1, (List.mem_filter.1 inside).2⟩
  obtain ⟨q, held, same⟩ := RuleMap.exists_mem_styles_collect (collisionFree_criticals free)
    ((mem_styled_criticals_askedOn read).2 ⟨page, onPage, site, origin, part, rfl⟩)
  refine List.mem_map.2 ⟨_, RuleMap.mem_carriers.2 ⟨held, ?_⟩,
    same.1.trans (StyleRule.selectors_of_narrow part)⟩
  rw [groupOf_keyOf plain origin part, same.stylings_eq, StyleRule.mem_stylings_of_narrow part]
  exact ⟨own, (List.mem_filter.1 inside).2⟩

variable (once : sheet.CarriedOnce t)

include once

/-- What carries a styling of one site is a kept part of the site. -/
theorem eq_of_mem_carriers {key : String} {r : StyleRule}
    (mem : (key, r) ∈ (criticalOf (sheet.askedOn wishes dropKeyframes pages)).carriers t) :
    key = keyOf site.group r ∧ r.declarations = site.rule.declarations ∧
      r.selectors ∈ site.keptParts wishes sheet pages t.selector := by
  obtain ⟨held, carried⟩ := RuleMap.mem_carriers.1 mem
  obtain ⟨page, onPage, other, here, part, rfl⟩ :=
    (mem_styled_criticals_askedOn read).1 (RuleMap.mem_styled_of_mem_styles held)
  rw [groupOf_keyOf plain here part] at carried
  obtain rfl := once.eq here origin ((StyleRule.mem_stylings_of_narrow part).1 carried).1 own
  exact ⟨rfl, StyleRule.declarations_of_narrow part, Site.mem_keptParts.2
    ⟨(StyleRule.mem_stylings.1 carried).2.1, page, onPage,
      (StyleRule.selectors_of_narrow part).symm⟩⟩

theorem nodup_selectors_carriers :
    (((criticalOf (sheet.askedOn wishes dropKeyframes pages)).carriers t).map
      fun c => c.2.selectors).Nodup := by
  refine List.Nodup.map_on (fun a ha b hb same => ?_)
    ((RuleMap.nodup_styles _).filter _)
  obtain ⟨keyA, declarationsA, -⟩ := eq_of_mem_carriers read plain origin own once ha
  obtain ⟨keyB, declarationsB, -⟩ := eq_of_mem_carriers read plain origin own once hb
  have equal : a.2.SameAs b.2 := ⟨same, declarationsA.trans declarationsB.symm⟩
  have keys : a.1 = b.1 := by rw [keyA, keyB, RuleMap.keyOf_eq_of_sameAs equal]
  obtain ⟨k, r⟩ := a
  obtain ⟨l, q⟩ := b
  cases keys
  rw [RuleMap.eq_of_sameAs (RuleMap.mem_carriers.1 ha).1 (RuleMap.mem_carriers.1 hb).1 equal]

theorem length_carriers_le :
    ((criticalOf (sheet.askedOn wishes dropKeyframes pages)).carriers t).length ≤
      (site.keptParts wishes sheet pages t.selector).length := by
  rw [← List.length_map fun c : String × StyleRule => c.2.selectors]
  refine ((nodup_selectors_carriers read plain origin own once).subperm
    fun part mem => ?_).length_le
  obtain ⟨c, carrier, rfl⟩ := List.mem_map.1 mem
  exact (eq_of_mem_carriers read plain origin own once carrier).2.2

end

/-- **How often the critical map carries a styling.** A styling of a single rule is carried by at
most as many entries as there are different parts of the rule's selector list that pages keep with
the selector, and by exactly as many if digests do not collide. So it is carried once at most if
all pages that keep the selector keep the same part. -/
theorem length_carriers_eq_keptParts {css : String} (read : Stylesheet.parse css = .ok sheet)
    (plain : sheet.Plain) (wishes : Wishes) (dropKeyframes : Bool)
    (pages : List (String × List Bool)) :
    ∃ critical, criticalMap (sheet.askedOn wishes dropKeyframes pages) = .ok critical ∧
      ∀ t, sheet.CarriedOnce t → ∀ site ∈ sites sheet, t ∈ site.stylings →
        (critical.carriers t).length ≤ (site.keptParts wishes sheet pages t.selector).length ∧
        (CollisionFree (involved (sheet.askedOn wishes dropKeyframes pages)) →
          (critical.carriers t).length =
            (site.keptParts wishes sheet pages t.selector).length) ∧
        ((∀ a ∈ pages, ∀ b ∈ pages, t.selector ∈ site.kept wishes sheet a.2 →
            t.selector ∈ site.kept wishes sheet b.2 →
              site.kept wishes sheet a.2 = site.kept wishes sheet b.2) →
          (critical.carriers t).length ≤ 1) := by
  have shape := Stylesheet.isRead_of_parse read
  refine ⟨_, criticalMap_askedOn shape wishes dropKeyframes pages,
    fun t once site origin own => ?_⟩
  have bound : ((criticalOf (sheet.askedOn wishes dropKeyframes pages)).carriers t).length ≤
      (site.keptParts wishes sheet pages t.selector).length :=
    length_carriers_le shape plain origin own once
  refine ⟨bound, fun free => ?_, fun agree => bound.trans ?_⟩
  · exact Nat.le_antisymm bound (le_length_carriers shape plain origin own free)
  · refine length_le_one_of_forall_eq (nodup_eraseDups _) fun x hx y hy => ?_
    obtain ⟨inX, a, onA, rfl⟩ := Site.mem_keptParts.1 hx
    obtain ⟨inY, b, onB, rfl⟩ := Site.mem_keptParts.1 hy
    exact agree a onA b onB inX inY

/-- Two pages keep different parts of one rule, and the selector that both keep is carried twice.
A selector at the top level that passes for the key of a group is carried twice on one page. -/
theorem styling_of_one_rule_carried_twice :
    (let sheet : Stylesheet := [.style ⟨[".a", ".b"], [⟨"c", "d"⟩], some ⟨1, 1⟩⟩]
      let results := sheet.askedOn ⟨[], []⟩ true [("u", [true, false]), ("v", [true, true])]
      let t : Styling := ⟨"", ".a", [⟨"c", "d"⟩]⟩
      Stylesheet.parse ".a, .b \x7b c: d \x7d" = .ok sheet ∧ sheet.CarriedOnce t ∧
        ∃ critical, criticalMap results = .ok critical ∧ ¬(critical.carriers t).length ≤ 1) ∧
    (let sheet : Stylesheet := [.style ⟨["a", "@media x"], [⟨"c", "d"⟩], some ⟨1, 1⟩⟩,
        .group .media "x" [.style ⟨["b", "@media x"], [⟨"c", "d"⟩], some ⟨1, 33⟩⟩]
          (some ⟨1, 22⟩)]
      let results := sheet.askedOn ⟨[], []⟩ true [("u", [false, true, true])]
      let t : Styling := ⟨"@media x", "@media x", [⟨"c", "d"⟩]⟩
      Stylesheet.parse
          "a, @media x \x7b c: d \x7d @media x \x7b b, @media x \x7b c: d \x7d \x7d" =
        .ok sheet ∧ sheet.CarriedOnce t ∧
        ∃ critical, criticalMap results = .ok critical ∧ ¬(critical.carriers t).length ≤ 1) := by
  constructor
  · intro sheet results t
    have read : Stylesheet.parse ".a, .b \x7b c: d \x7d" = .ok sheet := by decide +kernel
    exact ⟨read, by decide +kernel, _, criticalMap_askedOn (Stylesheet.isRead_of_parse read) _ _ _,
      by decide +kernel⟩
  · intro sheet results t
    have read : Stylesheet.parse
        "a, @media x \x7b c: d \x7d @media x \x7b b, @media x \x7b c: d \x7d \x7d" = .ok sheet := by
      decide +kernel
    exact ⟨read, by decide +kernel, _, criticalMap_askedOn (Stylesheet.isRead_of_parse read) _ _ _,
      by decide +kernel⟩

/-- Of three pages, two keep the same part of the rule and one another part. -/
theorem length_carriers_eq_keptParts_of_three_pages :
    let sheet : Stylesheet := [.style ⟨[".a", ".b"], [⟨"c", "d"⟩], some ⟨1, 1⟩⟩]
    let pages := [("u", [true, false]), ("v", [true, true]), ("w", [true])]
    let site : Site := ⟨⟨[".a", ".b"], [⟨"c", "d"⟩], some ⟨1, 1⟩⟩, "", none⟩
    Stylesheet.parse ".a, .b \x7b c: d \x7d" = .ok sheet ∧
      site.keptParts ⟨[], []⟩ sheet pages ".a" = [[".a"], [".a", ".b"]] ∧
      ∃ critical, criticalMap (sheet.askedOn ⟨[], []⟩ true pages) = .ok critical ∧
        (critical.carriers ⟨"", ".a", [⟨"c", "d"⟩]⟩).length = 2 := by
  intro sheet pages site
  have read : Stylesheet.parse ".a, .b \x7b c: d \x7d" = .ok sheet := by decide +kernel
  have free : CollisionFree (involved (sheet.askedOn ⟨[], []⟩ true pages)) :=
    ⟨by decide +kernel, by decide +kernel⟩
  obtain ⟨critical, made, counts⟩ :=
    length_carriers_eq_keptParts read (by decide +kernel) ⟨[], []⟩ true pages
  have parts : site.keptParts ⟨[], []⟩ sheet pages ".a" = [[".a"], [".a", ".b"]] := by
    decide +kernel
  refine ⟨read, parts, critical, made, ?_⟩
  rw [(counts ⟨"", ".a", [⟨"c", "d"⟩]⟩ (by decide +kernel) site (by decide +kernel)
    (by decide +kernel)).2.1 free, parts]
  rfl

end Assembly

end CriticalCss
