import CriticalCss.Proofs.Assembly.Remnant
import CriticalCss.Proofs.Extraction

/-!
# The split of a whole run

Every styling of a stylesheet goes to the critical map or to the rest, and the wishes and the
answers of all pages decide to which: the selector maps that are built from the answers list a
selector of a rule exactly if it is critical on the page (`listed_answeredMap_iff`).
-/

namespace CriticalCss

open CriticalCss.Partition Extraction Selector
open RuleMap (CollisionFree)

/-- The selector map of a page that gives these answers. -/
def Extraction.answeredMap (wishes : Wishes) (sheet : Stylesheet) (answers : List Bool) :
    SelectorMap :=
  extract (m := Id) wishes (fun _ => answers) sheet

/-- The pages with the parts that their answers make of the stylesheet. -/
def Stylesheet.askedOn (wishes : Wishes) (dropKeyframes : Bool) (sheet : Stylesheet)
    (pages : List (String × List Bool)) : List PageResult :=
  sheet.onPages dropKeyframes (pages.map fun page => (page.1, answeredMap wishes sheet page.2))

theorem Extraction.listed_answeredMap_iff {sheet : Stylesheet} (read : sheet.IsRead)
    {site : Site} (origin : site ∈ sites sheet) (wishes : Wishes) (answers : List Bool)
    {s : String} (own : s ∈ site.rule.selectors) :
    listed (answeredMap wishes sheet answers) site.key s = true ↔
      isCritical wishes ((questions wishes sheet).zip answers) s = true := by
  have keyed : site.rule.key? site.group = some site.key := by
    rw [StyleRule.key?, if_neg (by simpa using (hasSelectors_of_mem_sites read origin).1),
      Site.key]
  rw [listed, decide_eq_true_eq, answeredMap, extract_id,
    mem_selectorsOf_iff_isCritical origin keyed own]

namespace Assembly

variable {sheet : Stylesheet} {pages : List (String × List Bool)}

theorem criticalMap_askedOn (read : sheet.IsRead) (wishes : Wishes) (dropKeyframes : Bool)
    (pages : List (String × List Bool)) :
    criticalMap (sheet.askedOn wishes dropKeyframes pages) =
      .ok (criticalOf (sheet.askedOn wishes dropKeyframes pages)) :=
  criticalMap_eq read dropKeyframes _

/-- A page lists a styling exactly if it finds the selector critical. -/
theorem exists_listed_iff (read : sheet.IsRead) (wishes : Wishes) {t : Styling} :
    (∃ page ∈ pages.map fun page => (page.1, answeredMap wishes sheet page.2),
        ∃ site ∈ sites sheet, t ∈ site.stylings ∧ listed page.2 site.key t.selector = true) ↔
      t ∈ sheet.stylings ∧ ∃ page ∈ pages,
        isCritical wishes ((questions wishes sheet).zip page.2) t.selector = true := by
  rw [Stylesheet.mem_stylings]
  simp only [List.mem_map, exists_exists_and_eq_and]
  constructor
  · intro given
    rcases given with ⟨page, onPage, site, origin, own, kept⟩
    obtain ⟨-, selector, -⟩ := StyleRule.mem_stylings.1 own
    exact ⟨⟨site, origin, own⟩, page, onPage,
      (listed_answeredMap_iff read origin wishes page.2 selector).1 kept⟩
  · intro given
    rcases given with ⟨⟨site, origin, own⟩, page, onPage, critical⟩
    obtain ⟨-, selector, -⟩ := StyleRule.mem_stylings.1 own
    exact ⟨page, onPage, site, origin, own,
      (listed_answeredMap_iff read origin wishes page.2 selector).2 critical⟩

/-- On some page a selector is critical: no wish excludes it, and a wish includes it, or it names
no element, or a page says yes to it. -/
theorem exists_isCritical_iff (wishes : Wishes) (visited : pages ≠ []) (s : String) :
    (∃ page ∈ pages, isCritical wishes ((questions wishes sheet).zip page.2) s = true) ↔
      matchesAny wishes.remove s = false ∧
        (matchesAny wishes.keep s = true ∨ isPurePseudo s = true ∨
          ∃ page ∈ pages, SaysYes wishes sheet page.2 (query s)) := by
  simp only [isCritical_zip_iff]
  constructor
  · intro given
    rcases given with ⟨page, onPage, wanted, kept | pure | yes⟩
    · exact ⟨wanted, Or.inl kept⟩
    · exact ⟨wanted, Or.inr (Or.inl pure)⟩
    · exact ⟨wanted, Or.inr (Or.inr ⟨page, onPage, yes⟩)⟩
  · obtain ⟨first, onFirst⟩ := List.exists_mem_of_ne_nil pages visited
    intro given
    rcases given with ⟨wanted, kept | pure | ⟨page, onPage, yes⟩⟩
    · exact ⟨first, onFirst, wanted, Or.inl kept⟩
    · exact ⟨first, onFirst, wanted, Or.inr (Or.inl pure)⟩
    · exact ⟨page, onPage, wanted, Or.inr (Or.inr yes)⟩

/-- **The split of a whole run.** The two maps share out the stylings of the stylesheet: the
critical map has those that are critical on some page, the rest has all others, none is in both,
and neither map has another one. That nothing is lost takes digests that do not collide. -/
theorem maps_share_out_stylings {css : String} (read : Stylesheet.parse css = .ok sheet)
    (plain : sheet.Plain) (wishes : Wishes) (dropKeyframes : Bool) (visited : pages ≠ []) :
    ∃ critical rest, criticalMap (sheet.askedOn wishes dropKeyframes pages) = .ok critical ∧
      restMap (sheet.askedOn wishes dropKeyframes pages) critical = .ok rest ∧
      (CollisionFree (involved (sheet.askedOn wishes dropKeyframes pages)) →
        (∀ t ∈ sheet.stylings, t ∈ critical.stylings ↔
          matchesAny wishes.remove t.selector = false ∧
            (matchesAny wishes.keep t.selector = true ∨ isPurePseudo t.selector = true ∨
              ∃ page ∈ pages, SaysYes wishes sheet page.2 (query t.selector))) ∧
        ∀ t ∈ sheet.stylings, t ∉ critical.stylings → t ∈ rest.stylings) ∧
      (∀ t, ¬(t ∈ critical.stylings ∧ t ∈ rest.stylings)) ∧
      ∀ t, t ∈ critical.stylings ∨ t ∈ rest.stylings → t ∈ sheet.stylings := by
  have shape := Stylesheet.isRead_of_parse read
  refine ⟨_, _, criticalMap_askedOn shape wishes dropKeyframes pages,
    restMap_eq shape dropKeyframes _, fun free => ⟨fun t own => ?_, fun t own left => ?_⟩,
    fun t both => ?_, fun t held => ?_⟩
  · rw [← exists_isCritical_iff wishes visited]
    have critical := (mem_stylings_criticalOf shape plain free (t := t)).trans
      (exists_listed_iff shape wishes)
    exact critical.trans (and_iff_right own)
  · have rest := mem_stylings_restOf shape plain free (by simpa using visited) (t := t)
    exact rest.2 ⟨own, left⟩
  · obtain ⟨inCritical, inRest⟩ := both
    exact (of_mem_restOf shape plain inRest).2 inCritical
  · rcases held with inCritical | inRest
    · have listed := exists_listed_of_mem_criticalOf shape plain inCritical
      exact ((exists_listed_iff shape wishes).1 listed).1
    · exact (of_mem_restOf shape plain inRest).1

/-- A page sees one selector, the other page none, and one selector must not be critical. -/
theorem maps_share_out_stylings_of_two_pages :
    let sheet : Stylesheet := [.style ⟨[".a", ".b", ".c"], [⟨"c", "d"⟩], some ⟨1, 1⟩⟩]
    let pages : List (String × List Bool) := [("u", [true, false]), ("v", [])]
    let results := sheet.askedOn ⟨[], [".c"]⟩ true pages
    Stylesheet.parse ".a, .b, .c \x7b c: d \x7d" = .ok sheet ∧
      ∃ critical rest, criticalMap results = .ok critical ∧ restMap results critical = .ok rest ∧
        (∀ t ∈ sheet.stylings, t ∉ critical.stylings → t ∈ rest.stylings) ∧
        ∀ t, ¬(t ∈ critical.stylings ∧ t ∈ rest.stylings) := by
  intro sheet pages results
  have read : Stylesheet.parse ".a, .b, .c \x7b c: d \x7d" = .ok sheet := by decide +kernel
  have free : CollisionFree (involved results) := ⟨by decide +kernel, by decide +kernel⟩
  obtain ⟨critical, rest, first, second, nothingLost, apart, -⟩ :=
    maps_share_out_stylings read (by decide +kernel) ⟨[], [".c"]⟩ true (List.cons_ne_nil _ _)
  exact ⟨read, critical, rest, first, second, (nothingLost free).2, apart⟩

end Assembly

end CriticalCss
