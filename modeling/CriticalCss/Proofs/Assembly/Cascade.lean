import CriticalCss.Proofs.Assembly.Count
import CriticalCss.Proofs.RuleMap.Materialize

/-!
# Which declaration wins

Among the rules of a group that carry a selector, the last declaration of a property wins
(`Stylesheet.winner`). The critical stylesheet shows the entries of the critical map in the order
of their ranks and not in the order of the source, so a winner of the source wins there if and
only if an entry with its value ranks behind all entries with another value
(`Assembly.winner_critical_eq_iff`).
-/

namespace CriticalCss

open CriticalCss.Partition Extraction Selector
open RuleMap (keyOf groupOf styled placed shownGroup rank)

/-! ## Winners -/

/-- The value that the last declaration of a property gives. -/
def lastValue (property : String) (ds : List Declaration) : Option String :=
  (ds.filter fun d => d.property = property).getLast?.map (·.value)

/-- The value of the last declaration of a property among the rules of a group that carry a
selector; each rule stands with its group. -/
def cascade (rules : List (String × StyleRule)) (group s property : String) : Option String :=
  lastValue property
    ((rules.filter fun c => c.1 = group ∧ s ∈ c.2.selectors).flatMap fun c => c.2.declarations)

/-- The value of the last declaration of a property in a stylesheet, among the rules of a group
that carry a selector. -/
def Stylesheet.winner (sheet : Stylesheet) (group s property : String) : Option String :=
  cascade (placed sheet) group s property

/-- The value that a rule in its group gives to a property of a selector in a group. -/
def gives (group s property : String) (c : String × StyleRule) : Option String :=
  if c.1 = group ∧ s ∈ c.2.selectors then lastValue property c.2.declarations else none

theorem lastValue_append (property : String) (as bs : List Declaration) :
    lastValue property (as ++ bs) = (lastValue property bs).or (lastValue property as) := by
  rw [lastValue, List.filter_append, List.getLast?_append, Option.map_or]
  rfl

theorem cascade_eq (rules : List (String × StyleRule)) (group s property : String) :
    cascade rules group s property =
      (rules.filterMap (gives group s property)).getLast? := by
  induction rules using List.reverseRecOn with
  | nil => rfl
  | append_singleton rules c ih =>
    rw [cascade, List.filter_append, List.flatMap_append, lastValue_append,
      List.filterMap_append, List.getLast?_append, ← ih, cascade]
    congr 1
    by_cases carries : c.1 = group ∧ s ∈ c.2.selectors
    · simp only [List.filter_cons, carries, and_self, decide_true, if_true, List.filter_nil,
        List.flatMap_cons, List.flatMap_nil, List.append_nil, List.filterMap_cons, gives]
      cases lastValue property c.2.declarations <;> rfl
    · simp [gives, carries, lastValue]

/-! ## The critical stylesheet -/

/-- The last declaration in the stylesheet of a map whose groups are shown as they are known. -/
theorem RuleMap.winner_toSheet {m : RuleMap} (flat : ∀ c ∈ m.items, c.2.IsFlat)
    (shown : ∀ c ∈ m.styles, shownGroup c.1 = groupOf c.1) (group s property : String) :
    m.toSheet.winner group s property =
      (m.styles.filterMap fun c => gives group s property (groupOf c.1, c.2)).getLast? := by
  rw [Stylesheet.winner, cascade_eq, placed_toSheet flat, List.filterMap_map,
    List.filterMap_filter]
  refine congrArg _ (List.filterMap_congr fun c mem => ?_)
  rw [Function.comp_apply, shown c mem]
  split
  · rfl
  · rename_i empty
    rw [decide_eq_true_eq, not_not] at empty
    simp [gives, empty, lastValue]

namespace Assembly

variable {sheet : Stylesheet} {wishes : Wishes} {dropKeyframes : Bool}
  {pages : List (String × List Bool)}

theorem isFlat_of_mem_items (read : sheet.IsRead) {c : String × Rule}
    (mem : c ∈ (criticalOf (sheet.askedOn wishes dropKeyframes pages)).items) : c.2.IsFlat := by
  obtain ⟨result, made, contributed⟩ :=
    List.mem_flatMap.1 (RuleMap.mem_of_mem_items_collect mem)
  exact (foldable_onPages read dropKeyframes _ result made).1.isFlat contributed

/-- What the critical map holds are the kept parts of rules. -/
theorem exists_of_mem_styles (read : sheet.IsRead) {c : String × StyleRule}
    (mem : c ∈ (criticalOf (sheet.askedOn wishes dropKeyframes pages)).styles) :
    ∃ page ∈ pages, ∃ site ∈ sites sheet,
      site.rule.narrow (isCritical wishes ((questions wishes sheet).zip page.2)) = some c.2 ∧
        c.1 = keyOf site.group c.2 :=
  (mem_styled_criticals_askedOn read).1 (RuleMap.mem_styled_of_mem_styles mem)

theorem shownGroup_eq_groupOf (read : sheet.IsRead) (plain : sheet.Plain)
    (settled : sheet.Settled) {c : String × StyleRule}
    (mem : c ∈ (criticalOf (sheet.askedOn wishes dropKeyframes pages)).styles) :
    shownGroup c.1 = groupOf c.1 := by
  obtain ⟨page, -, site, origin, part, key⟩ := exists_of_mem_styles read mem
  have group := groupOf_keyOf plain origin part
  rw [← key] at group
  rcases mem_sites origin with ⟨top, -⟩ | ⟨kind, condition, -, -, -, -, inner, media⟩
  · rw [top] at group
    rw [group, RuleMap.shownGroup_of_not_isGroupKey]
    cases isGroup : isGroupKey c.1 with
    | false => rfl
    | true =>
      rw [groupOf, if_pos isGroup] at group
      rw [group] at isGroup
      exact absurd isGroup (by decide)
  · have own : c.1 = kind.key condition := by
      rw [key, keyOf, inner, if_neg (kind.key_ne_empty condition)]
    rw [group, inner, own, RuleMap.shownGroup_key]
    intro same
    subst same
    exact settled site origin condition media

/-- The unwanted selectors are gone before selectors are removed. -/
theorem not_removed_of_mem_styles (read : sheet.IsRead) {c : String × StyleRule}
    (mem : c ∈ (criticalOf (sheet.askedOn wishes dropKeyframes pages)).styles) {s : String}
    (carried : s ∈ c.2.selectors) : matchesAny wishes.remove s = false := by
  obtain ⟨page, -, site, -, part, -⟩ := exists_of_mem_styles read mem
  rw [StyleRule.selectors_of_narrow part, List.mem_filter] at carried
  exact ((isCritical_zip_iff wishes sheet page.2 s).1 carried.2).1

/-- A kept part gives what its rule gives. -/
theorem winner_ne_none_of_mem_styles (read : sheet.IsRead) (plain : sheet.Plain)
    {c : String × StyleRule}
    (mem : c ∈ (criticalOf (sheet.askedOn wishes dropKeyframes pages)).styles)
    {group s property : String} (given : gives group s property (groupOf c.1, c.2) ≠ none) :
    sheet.winner group s property ≠ none := by
  obtain ⟨page, -, site, origin, part, key⟩ := exists_of_mem_styles read mem
  have home := groupOf_keyOf plain origin part
  rw [← key] at home
  intro none
  rw [Stylesheet.winner, cascade_eq, List.getLast?_eq_none_iff, List.filterMap_eq_nil_iff] at none
  have nothing := none (site.group, site.rule) (List.mem_map.2 ⟨site, origin, rfl⟩)
  unfold gives at given nothing
  split at given
  · rename_i carries
    rw [StyleRule.selectors_of_narrow part, List.mem_filter, home] at carries
    rw [if_pos ⟨carries.1, carries.2.1⟩] at nothing
    rw [StyleRule.declarations_of_narrow part] at given
    exact given nothing
  · exact given rfl

/-- Where the critical map holds a style rule: behind the rules whose keys the critical parts bring
earlier, and under its own key behind the rules whose contents they bring earlier. -/
def place (results : List PageResult) (c : String × StyleRule) : Nat ×ₗ Nat :=
  rank (criticals results) (c.1, .style c.2)

/-- **Which winners survive.** The critical map holds kept parts of the stylesheet's rules. A
declaration that wins in the stylesheet wins in the critical stylesheet too if and only if one of
the kept parts with its value has its place behind all of them with another value. -/
theorem winner_critical_eq_iff {css : String} (read : Stylesheet.parse css = .ok sheet)
    (plain : sheet.Plain) (settled : sheet.Settled) (wishes : Wishes) (dropKeyframes : Bool)
    (pages : List (String × List Bool)) :
    ∃ critical, criticalMap (sheet.askedOn wishes dropKeyframes pages) = .ok critical ∧
      (∀ c ∈ critical.styles, ∃ page ∈ pages, ∃ site ∈ sites sheet,
        site.rule.narrow (isCritical wishes ((questions wishes sheet).zip page.2)) = some c.2 ∧
          c.1 = keyOf site.group c.2) ∧
      ∀ group s property,
        (critical.toSheet.removeSelectors wishes.remove).winner group s property =
            sheet.winner group s property ↔
          sheet.winner group s property = none ∨
            ∃ c ∈ critical.styles,
              gives group s property (groupOf c.1, c.2) = sheet.winner group s property ∧
                ∀ d ∈ critical.styles, gives group s property (groupOf d.1, d.2) ≠ none →
                  gives group s property (groupOf d.1, d.2) ≠ sheet.winner group s property →
                    place (sheet.askedOn wishes dropKeyframes pages) d <
                      place (sheet.askedOn wishes dropKeyframes pages) c := by
  have shape := Stylesheet.isRead_of_parse read
  refine ⟨_, criticalMap_askedOn shape wishes dropKeyframes pages,
    fun c held => exists_of_mem_styles shape held, fun group s property => ?_⟩
  have flat : ∀ c ∈ (criticalOf (sheet.askedOn wishes dropKeyframes pages)).items, c.2.IsFlat :=
    fun c held => isFlat_of_mem_items shape held
  rw [RuleMap.removeSelectors_toSheet flat fun c held s carried =>
      not_removed_of_mem_styles shape held carried,
    RuleMap.winner_toSheet flat fun c held => shownGroup_eq_groupOf shape plain settled held]
  cases source : sheet.winner group s property with
  | none =>
    refine iff_of_true ?_ (Or.inl rfl)
    rw [List.getLast?_eq_none_iff, List.filterMap_eq_nil_iff]
    intro c held
    by_contra given
    exact winner_ne_none_of_mem_styles shape plain held given source
  | some v =>
    rw [or_iff_right (Option.some_ne_none v)]
    exact getLast?_filterMap_eq_some_iff (RuleMap.pairwise_rank_styles _)

/-- Two pages that keep different parts of a rule let it win over a later one. A selector at the
top level that passes for the key of a group is shown in a group, and a group whose condition
repeats the media type is shown as another one. -/
theorem winner_lost_in_critical :
    (let sheet : Stylesheet := [.style ⟨[".a", ".b"], [⟨"c", "d"⟩], some ⟨1, 1⟩⟩,
        .style ⟨[".a"], [⟨"c", "e"⟩], some ⟨1, 17⟩⟩]
      let pages := [("u", [true, false]), ("v", [true, true])]
      Stylesheet.parse ".a, .b \x7b c: d \x7d .a \x7b c: e \x7d" = .ok sheet ∧
        (∃ page ∈ pages, isCritical ⟨[], []⟩ ((questions ⟨[], []⟩ sheet).zip page.2) ".a") ∧
        ∃ critical, criticalMap (sheet.askedOn ⟨[], []⟩ true pages) = .ok critical ∧
          (critical.toSheet.removeSelectors []).winner "" ".a" "c" ≠ sheet.winner "" ".a" "c") ∧
    (let sheet : Stylesheet := [.style ⟨["a", "@media x"], [⟨"c", "d"⟩], some ⟨1, 1⟩⟩]
      let pages := [("u", [false, true])]
      Stylesheet.parse "a, @media x \x7b c: d \x7d" = .ok sheet ∧
        (∃ page ∈ pages,
          isCritical ⟨[], []⟩ ((questions ⟨[], []⟩ sheet).zip page.2) "@media x") ∧
        ∃ critical, criticalMap (sheet.askedOn ⟨[], []⟩ true pages) = .ok critical ∧
          (critical.toSheet.removeSelectors []).winner "" "@media x" "c" ≠
            sheet.winner "" "@media x" "c") ∧
    (let sheet : Stylesheet := [.group .media "all and all and x"
        [.style ⟨["a"], [⟨"c", "d"⟩], some ⟨1, 28⟩⟩] (some ⟨1, 1⟩)]
      let pages := [("u", [true])]
      Stylesheet.parse "@media all and all and x \x7b a \x7b c: d \x7d \x7d" = .ok sheet ∧
        (∃ page ∈ pages, isCritical ⟨[], []⟩ ((questions ⟨[], []⟩ sheet).zip page.2) "a") ∧
        ∃ critical, criticalMap (sheet.askedOn ⟨[], []⟩ true pages) = .ok critical ∧
          (critical.toSheet.removeSelectors []).winner "@media all and x" "a" "c" ≠
            sheet.winner "@media all and x" "a" "c") := by
  refine ⟨?_, ?_, ?_⟩
  · intro sheet pages
    have read : Stylesheet.parse ".a, .b \x7b c: d \x7d .a \x7b c: e \x7d" = .ok sheet := by
      decide +kernel
    exact ⟨read, by decide +kernel, _, criticalMap_askedOn (Stylesheet.isRead_of_parse read) _ _ _,
      by decide +kernel⟩
  · intro sheet pages
    have read : Stylesheet.parse "a, @media x \x7b c: d \x7d" = .ok sheet := by decide +kernel
    exact ⟨read, by decide +kernel, _, criticalMap_askedOn (Stylesheet.isRead_of_parse read) _ _ _,
      by decide +kernel⟩
  · intro sheet pages
    have read : Stylesheet.parse "@media all and all and x \x7b a \x7b c: d \x7d \x7d" =
        .ok sheet := by decide +kernel
    exact ⟨read, by decide +kernel, _, criticalMap_askedOn (Stylesheet.isRead_of_parse read) _ _ _,
      by decide +kernel⟩

/-- On a page that keeps both rules whole, the later one wins. -/
theorem winner_critical_eq_iff_of_one_page :
    let sheet : Stylesheet := [.style ⟨[".a", ".b"], [⟨"c", "d"⟩], some ⟨1, 1⟩⟩,
      .style ⟨[".a"], [⟨"c", "e"⟩], some ⟨1, 17⟩⟩]
    Stylesheet.parse ".a, .b \x7b c: d \x7d .a \x7b c: e \x7d" = .ok sheet ∧
      ∃ critical, criticalMap (sheet.askedOn ⟨[], []⟩ true [("u", [true, true])]) = .ok critical ∧
        (critical.toSheet.removeSelectors []).winner "" ".a" "c" = sheet.winner "" ".a" "c" := by
  intro sheet
  have read : Stylesheet.parse ".a, .b \x7b c: d \x7d .a \x7b c: e \x7d" = .ok sheet := by
    decide +kernel
  obtain ⟨critical, made, -, survives⟩ := winner_critical_eq_iff read (by decide +kernel)
    (by decide +kernel) ⟨[], []⟩ true [("u", [true, true])]
  refine ⟨read, critical, made, (survives "" ".a" "c").2 (Or.inr ?_)⟩
  rw [criticalMap_askedOn (Stylesheet.isRead_of_parse read)] at made
  rw [← Except.ok.inj made]
  decide +kernel

end Assembly

end CriticalCss
