import CriticalCss.Extraction
import CriticalCss.Proofs.Lists

/-!
# What a selector map says

The selector map that is built from the answers of a page lists a selector under the key of a rule
that carries it exactly if the selector is critical, whatever rules share the key. So the verdict
on a selector does not depend on the rule around it.
-/

namespace CriticalCss

namespace Extraction

open Selector

/-! ## Questions -/

theorem nodup_questions (wishes : Wishes) (sheet : Stylesheet) :
    (questions wishes sheet).Nodup :=
  nodup_eraseDups _

/-- A page that gives these answers to the questions on a stylesheet says yes to the text. Answers
that are missing say nothing, and so do answers to nothing. -/
def SaysYes (wishes : Wishes) (sheet : Stylesheet) (answers : List Bool) (text : String) : Prop :=
  (text, true) ∈ (questions wishes sheet).zip answers

/-- **When a selector is critical on a page.** -/
theorem isCritical_zip_iff (wishes : Wishes) (sheet : Stylesheet) (answers : List Bool)
    (s : String) :
    isCritical wishes ((questions wishes sheet).zip answers) s = true ↔
      matchesAny wishes.remove s = false ∧
        (matchesAny wishes.keep s = true ∨ isPurePseudo s = true ∨
          SaysYes wishes sheet answers (query s)) := by
  unfold isCritical Wishes.classify
  cases removed : matchesAny wishes.remove s with
  | true => simp
  | false =>
    cases kept : matchesAny wishes.keep s with
    | true => simp
    | false =>
      cases pure : isPurePseudo s with
      | true => simp
      | false =>
        simp only [Bool.false_eq_true, if_false, true_and, false_or, SaysYes]
        constructor
        · intro yes
          refine mem_of_lookup ?_
          cases found : ((questions wishes sheet).zip answers).lookup (query s) with
          | none => simp [found] at yes
          | some b => simpa [found] using yes
        · intro yes
          rw [lookup_of_mem_of_nodup (nodup_fst_zip (nodup_questions wishes sheet) answers) yes,
            Option.getD_some]

/-! ## The selector map -/

theorem selectorsOf_cons (known key : String) (entry : CriticalEntry) (rest : SelectorMap) :
    SelectorMap.selectorsOf ((known, entry) :: rest) key =
      if key = known then entry.selectors else rest.selectorsOf key := by
  rw [SelectorMap.selectorsOf, List.lookup_cons]
  split
  · rename_i same
    rw [if_pos (beq_iff_eq.1 same)]
    rfl
  · rename_i apart
    rw [if_neg (beq_eq_false_iff_ne.1 apart)]
    rfl

theorem mem_selectorsOf_addSelector {s : String} (site : Site) (key selector other : String)
    (map : SelectorMap) :
    s ∈ (addSelector site key selector map).selectorsOf other ↔
      s ∈ map.selectorsOf other ∨ other = key ∧ s = selector := by
  induction map with
  | nil =>
    rw [addSelector, selectorsOf_cons]
    split <;> simp [SelectorMap.selectorsOf, *]
  | cons first rest ih =>
    obtain ⟨known, entry⟩ := first
    rw [addSelector]
    split
    · rename_i same
      subst same
      split
      · rename_i listed
        constructor
        · exact Or.inl
        · intro given
          rcases given with mem | ⟨rfl, rfl⟩
          · exact mem
          · rw [selectorsOf_cons, if_pos rfl]
            exact listed
      · rw [selectorsOf_cons, selectorsOf_cons]
        split <;> simp [*]
    · rename_i apart
      rw [selectorsOf_cons, selectorsOf_cons]
      split
      · rename_i same
        subst same
        simp [apart]
      · exact ih

theorem mem_selectorsOf_foldl_addSelector {s : String} (site : Site) (key other : String)
    (selectors : List String) (map : SelectorMap) :
    s ∈ (selectors.foldl (fun map selector => addSelector site key selector map)
        map).selectorsOf other ↔
      s ∈ map.selectorsOf other ∨ other = key ∧ s ∈ selectors := by
  induction selectors generalizing map with
  | nil => simp
  | cons t rest ih =>
    rw [List.foldl_cons, ih, mem_selectorsOf_addSelector, List.mem_cons, or_assoc, ← and_or_left]

theorem mem_selectorsOf_addSite {s : String} (wishes : Wishes) (answers : List (String × Bool))
    (map : SelectorMap) (site : Site) (key : String) :
    s ∈ (addSite wishes answers map site).selectorsOf key ↔
      s ∈ map.selectorsOf key ∨ site.rule.key? site.group = some key ∧
        s ∈ site.rule.selectors ∧ isCritical wishes answers s = true := by
  unfold addSite
  cases site.rule.key? site.group with
  | none => simp
  | some own =>
    simp only
    rw [mem_selectorsOf_foldl_addSelector, List.mem_filter, Option.some.injEq, eq_comm]

/-- The map lists a selector under a key exactly if it is critical and a rule with the key
carries it. -/
theorem mem_selectorsOf_selectorMap {s : String} (wishes : Wishes)
    (answers : List (String × Bool)) (sheet : Stylesheet) (key : String) :
    s ∈ (selectorMap wishes answers sheet).selectorsOf key ↔
      ∃ site ∈ sites sheet, site.rule.key? site.group = some key ∧ s ∈ site.rule.selectors ∧
        isCritical wishes answers s = true := by
  have step : ∀ (sites : List Site) (map : SelectorMap),
      s ∈ (sites.foldl (addSite wishes answers) map).selectorsOf key ↔
        s ∈ map.selectorsOf key ∨ ∃ site ∈ sites, site.rule.key? site.group = some key ∧
          s ∈ site.rule.selectors ∧ isCritical wishes answers s = true := by
    intro sites
    induction sites with
    | nil => simp
    | cons site rest ih =>
      intro map
      rw [List.foldl_cons, ih, mem_selectorsOf_addSite, or_assoc]
      simp
  rw [selectorMap, step]
  simp [SelectorMap.selectorsOf]

/-- **One verdict for each selector.** Under the key of a rule, the map lists those of the rule's
selectors that are critical. -/
theorem mem_selectorsOf_iff_isCritical {s : String} {wishes : Wishes}
    {answers : List (String × Bool)} {sheet : Stylesheet} {site : Site}
    (inside : site ∈ sites sheet) {key : String} (keyed : site.rule.key? site.group = some key)
    (carried : s ∈ site.rule.selectors) :
    s ∈ (selectorMap wishes answers sheet).selectorsOf key ↔
      isCritical wishes answers s = true := by
  rw [mem_selectorsOf_selectorMap]
  constructor
  · intro given
    rcases given with ⟨-, -, -, -, critical⟩
    exact critical
  · intro critical
    exact ⟨site, inside, keyed, carried, critical⟩

end Extraction

/-- Without a question nothing is answered, so extracting builds the map of the answers. -/
theorem extract_id (wishes : Selector.Wishes) (answers : List Bool) (sheet : Stylesheet) :
    extract (m := Id) wishes (fun _ => answers) sheet =
      Extraction.selectorMap wishes ((Extraction.questions wishes sheet).zip answers) sheet := by
  unfold extract
  cases asked : Extraction.questions wishes sheet with
  | nil => rfl
  | cons q qs => rfl

end CriticalCss
