import CriticalCss.Proofs.Assembly.Parts
import CriticalCss.Proofs.RuleMap.Grouping

/-!
# The difference of two maps

Subtracting a reference from a map takes what the reference says from what the map says, selector
by selector, and drops the other rules that the reference holds under the same key
(`RuleMap.IsDifference`, `RuleMap.subtract_isDifference`). A part of a rule may move to another
key; it stays in its group if the map is `RuleMap.Orderly`, and so the difference is orderly again
and subtracting once more changes nothing. A tidy map of which nothing is known stays as it is
(`RuleMap.Tidy.subtract_eq_self`).
-/

namespace CriticalCss

open Extraction

/-- What stays of a rule is all of it if each of its selectors stays. -/
theorem StyleRule.narrow_eq_self {stays : String → Bool} {r : StyleRule} (some : r.selectors ≠ [])
    (all : ∀ s ∈ r.selectors, stays s = true) : r.narrow stays = .some r := by
  rw [narrow_eq_some_iff, List.filter_eq_self.2 all]
  exact ⟨some, rfl⟩

namespace RuleMap

/-! ## Orderly maps -/

/-- The style rules of a map have selectors and stand under the key of their group or under their
own, and a part of a rule stays in the group of the rule under the key that it gets. -/
structure Orderly (m : RuleMap) : Prop where
  selectors : ∀ key r, (key, r) ∈ m.styles → r.selectors ≠ []
  own : ∀ key r, (key, r) ∈ m.styles → keyOf (groupOf key) r = key
  group : ∀ key r, (key, r) ∈ m.styles → ∀ stays left, r.narrow stays = some left →
    groupOf (keyOf (groupOf key) left) = groupOf key

/-- A style rule of a map comes from a site of one of the stylesheets. -/
theorem exists_site_of_mem_styles {sheets : List Stylesheet}
    (named : ∀ sheet ∈ sheets, ∀ site ∈ sites sheet, site.rule.selectors ≠ [])
    {key : String} {r : StyleRule}
    (mem : (key, r) ∈ (collect (sheets.flatMap Stylesheet.contributions)).styles) :
    ∃ sheet ∈ sheets, ∃ site ∈ sites sheet, site.rule = r ∧ keyOf site.group r = key := by
  obtain ⟨sheet, inside, added⟩ := List.mem_flatMap.1 (mem_styled.1 (mem_styled_of_mem_styles mem))
  have contributed := mem_styled.2 added
  rw [styled_contributions (named sheet inside)] at contributed
  obtain ⟨site, origin, pair⟩ := List.mem_map.1 contributed
  cases pair
  exact ⟨sheet, inside, site, origin, rfl, rfl⟩

theorem orderly_collect {sheets : List Stylesheet} (plain : ∀ sheet ∈ sheets, sheet.Plain)
    (named : ∀ sheet ∈ sheets, ∀ site ∈ sites sheet, site.rule.selectors ≠ []) :
    (collect (sheets.flatMap Stylesheet.contributions)).Orderly where
  selectors key r mem := by
    obtain ⟨sheet, inside, site, origin, rfl, -⟩ := exists_site_of_mem_styles named mem
    exact named sheet inside site origin
  own key r mem := by
    obtain ⟨sheet, inside, site, origin, rfl, rfl⟩ := exists_site_of_mem_styles named mem
    rw [groupOf_keyOf (plain sheet inside) origin
      (StyleRule.narrow_eq_self (named sheet inside site origin) fun _ _ => rfl)]
  group key r mem stays left part := by
    obtain ⟨sheet, inside, site, origin, rfl, rfl⟩ := exists_site_of_mem_styles named mem
    rw [groupOf_keyOf (plain sheet inside) origin
      (StyleRule.narrow_eq_self (named sheet inside site origin) fun _ _ => rfl),
      groupOf_keyOf (plain sheet inside) origin part]

/-- A style rule of the difference is what is left of one of the map. -/
theorem exists_remainder_of_mem_styles {m reference : RuleMap} {target : String}
    {left : StyleRule} (mem : (target, left) ∈ (m.subtract reference).styles) :
    ∃ key r, (key, r) ∈ m.styles ∧
      remainder (identities reference) (groupOf key) r = some left ∧
      target = keyOf (groupOf key) left := by
  rw [subtract_eq] at mem
  exact mem_styled_leftovers.1 (mem_styled_of_mem_styles mem)

theorem Orderly.subtract {m : RuleMap} (orderly : m.Orderly) (reference : RuleMap) :
    (m.subtract reference).Orderly where
  selectors target left mem := by
    obtain ⟨key, r, held, part, -⟩ := exists_remainder_of_mem_styles mem
    rw [StyleRule.selectors_of_narrow part]
    exact (StyleRule.narrow_eq_some_iff.1 part).1
  own target left mem := by
    obtain ⟨key, r, held, part, rfl⟩ := exists_remainder_of_mem_styles mem
    rw [orderly.group key r held _ left part]
  group target left mem stays rest narrowed := by
    obtain ⟨key, r, held, part, rfl⟩ := exists_remainder_of_mem_styles mem
    have whole := (StyleRule.narrow_of_narrow part).symm.trans narrowed
    rw [orderly.group key r held _ left part, orderly.group key r held _ rest whole]

/-! ## Subtracting what is not there -/

/-- **Nothing to subtract.** A tidy and orderly map stays as it is if each of its style rules is
left whole and the reference holds no other rule of it. -/
theorem Tidy.subtract_eq_self {m reference : RuleMap} (tidy : m.Tidy) (orderly : m.Orderly)
    (parts : ∀ key r, (key, r) ∈ m.styles →
      remainder (identities reference) (groupOf key) r = some r)
    (others : ∀ key r, (key, r) ∈ m.items → r.style? = none →
      ∀ e ∈ reference.entries key, e.digest ≠ r.digest) : m.subtract reference = m := by
  have whole : ∀ key es, (key, es) ∈ m → ∀ e ∈ es,
      leftover (identities reference) reference key e = some (key, e.rule) := by
    intro key es mem e inside
    have item : (key, e.rule) ∈ m.items := mem_items.2 ⟨es, mem, e, inside, rfl⟩
    have digest : e.digest = e.rule.digest := congrArg _ (tidy.whole key es mem e inside)
    unfold leftover
    cases shape : e.rule with
    | style r =>
      rw [shape] at item
      have held := mem_styled.2 item
      simp only [parts key r held, Option.map_some, target_eq (orderly.selectors key r held),
        orderly.own key r held]
    | _ =>
      simp only [shape] at item digest
      have unknown := others key _ item rfl
      simp only [digest]
      rw [if_neg]
      simpa using unknown
  have items : m.leftovers reference = m.items := by
    refine List.flatMap_congr fun c mem => ?_
    obtain ⟨key, es⟩ := c
    have row : es.filterMap (leftover (identities reference) reference key) =
        es.map fun e => (key, e.rule) := by
      rw [List.filterMap_congr (whole key es mem), List.filterMap_eq_map']
    exact row
  rw [subtract_eq, items, tidy.collect_items]

/-- Subtracting nothing changes nothing. -/
theorem Tidy.subtract_nil {m : RuleMap} (tidy : m.Tidy) (orderly : m.Orderly) :
    m.subtract [] = m := by
  refine tidy.subtract_eq_self orderly (fun key r held => ?_) fun _ _ _ _ e known => ?_
  · exact StyleRule.narrow_eq_self (orderly.selectors key r held) fun _ _ => rfl
  · cases known

variable {cs ds : List (String × Rule)}

/-- The other rules that are left, told by the entries of the reference. -/
theorem mem_leftovers_of_other {key : String} {r : Rule} (other : r.style? = none) :
    (key, r) ∈ (collect cs).leftovers (collect ds) ↔
      (key, r) ∈ (collect cs).items ∧ ∀ e ∈ (collect ds).entries key, e.digest ≠ r.digest := by
  rw [mem_leftovers_of_style?_eq_none other]
  refine and_congr_right fun _ => ⟨fun apart e mem => ?_, fun apart q held => ?_⟩
  · obtain ⟨whole, held⟩ := mem_entries_collect.1 mem
    rw [whole]
    exact apart e.rule held
  · exact apart (.ofRule q) (mem_entries_collect.2 ⟨rfl, held⟩)

/-- **Subtracting again changes nothing.** -/
theorem subtract_subtract (orderly : (collect cs).Orderly) :
    ((collect cs).subtract (collect ds)).subtract (collect ds) =
      (collect cs).subtract (collect ds) := by
  have tidy : ((collect cs).subtract (collect ds)).Tidy :=
    subtract_eq (collect cs) (collect ds) ▸ tidy_collect _
  refine tidy.subtract_eq_self (orderly.subtract _) (fun target left held => ?_)
    fun key r item other => ?_
  · obtain ⟨key, r, origin, part, rfl⟩ := exists_remainder_of_mem_styles held
    rw [orderly.group key r origin _ left part]
    -- what was left once is left again
    refine StyleRule.narrow_eq_self ((orderly.subtract _).selectors _ left held) fun s mem => ?_
    rw [StyleRule.selectors_of_narrow part] at mem
    rw [StyleRule.declarations_of_narrow part]
    exact (List.mem_filter.1 mem).2
  · rw [subtract_eq] at item
    exact ((mem_leftovers_of_other other).1 (mem_of_mem_items_collect item)).2

/-! ## The difference -/

/-- What a map is that holds what another one holds beyond a reference. -/
structure IsDifference (m reference difference : RuleMap) : Prop where
  /-- It says what the map says and the reference does not. -/
  stylings : ∀ t, t ∈ difference.stylings ↔ t ∈ m.stylings ∧ t ∉ reference.stylings
  /-- Its style rules are parts of those of the map, under the key of their group or under their
  own. -/
  parts : ∀ target left, (target, left) ∈ difference.styles → ∃ key r, (key, r) ∈ m.styles ∧
    r.narrow (fun s => ⟨groupOf key, s, r.declarations⟩ ∉ reference.stylings) = some left ∧
    target = keyOf (groupOf key) left
  /-- Each rule of the map of which the reference does not say everything leaves such a part. -/
  complete : ∀ key r left, (key, r) ∈ m.styles →
    r.narrow (fun s => ⟨groupOf key, s, r.declarations⟩ ∉ reference.stylings) = some left →
    ∃ q, (keyOf (groupOf key) left, q) ∈ difference.styles ∧ q.SameAs left
  /-- It holds the other rules whose digest the reference does not hold under their key. -/
  others : ∀ key r, r.style? = none → ((key, r) ∈ difference.items ↔
    (key, r) ∈ m.items ∧ ∀ e ∈ reference.entries key, e.digest ≠ r.digest)

section

variable (orderly : (collect cs).Orderly)
  (free : CollisionFree (((collect cs).items ++ (collect ds).items ++
    (collect cs).leftovers (collect ds)).map Prod.snd))

include free

theorem collisionFree_leftovers :
    CollisionFree (((collect cs).leftovers (collect ds)).map Prod.snd) :=
  free.mono fun _ mem => by
    rw [List.map_append]
    exact List.mem_append_right _ mem

/-- What is left of a style rule of the map: what the reference does not say. -/
theorem remainder_of_mem_styles {key : String} {r : StyleRule}
    (held : (key, r) ∈ (collect cs).styles) (group : String) :
    remainder (identities (collect ds)) group r =
      r.narrow fun s => ⟨group, s, r.declarations⟩ ∉ (collect ds).stylings := by
  refine remainder_eq_narrow free (fun k q known => ?_) ?_ group
  · exact List.mem_map.2 ⟨_, List.mem_append_left _ (List.mem_append_right _
      (mem_styled.1 known)), rfl⟩
  · exact List.mem_map.2 ⟨_, List.mem_append_left _ (List.mem_append_left _
      (mem_styled.1 held)), rfl⟩

theorem complete_subtract {key : String} {r left : StyleRule}
    (held : (key, r) ∈ (collect cs).styles)
    (part : r.narrow (fun s => ⟨groupOf key, s, r.declarations⟩ ∉ (collect ds).stylings) =
      some left) :
    ∃ q, (keyOf (groupOf key) left, q) ∈ ((collect cs).subtract (collect ds)).styles ∧
      q.SameAs left := by
  rw [← remainder_of_mem_styles free held] at part
  rw [subtract_eq]
  exact exists_mem_styles_collect (collisionFree_leftovers free)
    (mem_styled_leftovers.2 ⟨key, r, held, part, rfl⟩)

/-- The other rules that are left are held: only a rule of the same content could be held instead,
and there is no other one. -/
theorem mem_items_subtract_of_other {key : String} {r : Rule} (other : r.style? = none) :
    (key, r) ∈ ((collect cs).subtract (collect ds)).items ↔
      (key, r) ∈ (collect cs).items ∧ ∀ e ∈ (collect ds).entries key, e.digest ≠ r.digest := by
  rw [subtract_eq, ← mem_leftovers_of_other other]
  refine ⟨mem_of_mem_items_collect, fun left => ?_⟩
  obtain ⟨q, held, same⟩ := exists_mem_items_collect left
  have added := mem_of_mem_items_collect held
  have payloads := (collisionFree_leftovers free).rules q (List.mem_map.2 ⟨_, added, rfl⟩) r
    (List.mem_map.2 ⟨_, left, rfl⟩) same
  have alike := Rule.style?_eq_none_of_erase (Rule.erase_eq_of_payload payloads) other
  rw [mem_leftovers_of_other alike] at added
  rw [mem_leftovers_of_other other] at left
  rwa [eq_of_mem_items_collect added.1 left.1 same] at held

include orderly

theorem mem_stylings_subtract {t : Styling} :
    t ∈ ((collect cs).subtract (collect ds)).stylings ↔
      t ∈ (collect cs).stylings ∧ t ∉ (collect ds).stylings := by
  constructor
  · intro given
    obtain ⟨target, left, held, carried⟩ := mem_stylings.1 given
    obtain ⟨key, r, origin, part, rfl⟩ := exists_remainder_of_mem_styles held
    rw [orderly.group key r origin _ left part] at carried
    rw [remainder_of_mem_styles free origin] at part
    obtain ⟨own, stays⟩ := (StyleRule.mem_stylings_of_narrow part).1 carried
    obtain ⟨group, -, declarations⟩ := StyleRule.mem_stylings.1 own
    rw [← group, ← declarations] at stays
    exact ⟨mem_stylings.2 ⟨key, r, origin, own⟩, of_decide_eq_true stays⟩
  · intro given
    obtain ⟨said, unknown⟩ := given
    obtain ⟨key, r, held, own⟩ := mem_stylings.1 said
    obtain ⟨group, selector, declarations⟩ := StyleRule.mem_stylings.1 own
    have stays : decide (⟨groupOf key, t.selector, r.declarations⟩ ∉ (collect ds).stylings) =
        true := by
      rw [← group, ← declarations]
      exact decide_eq_true unknown
    obtain ⟨left, part⟩ : ∃ left, r.narrow (fun s =>
        ⟨groupOf key, s, r.declarations⟩ ∉ (collect ds).stylings) = some left :=
      StyleRule.exists_narrow_iff.2 ⟨t.selector, selector, stays⟩
    obtain ⟨q, left, same⟩ := complete_subtract free held part
    refine mem_stylings.2 ⟨_, q, left, ?_⟩
    rw [orderly.group key r held _ _ part, same.stylings_eq]
    exact (StyleRule.mem_stylings_of_narrow part).2 ⟨own, stays⟩

theorem isDifference_subtract :
    IsDifference (collect cs) (collect ds) ((collect cs).subtract (collect ds)) where
  stylings _ := mem_stylings_subtract orderly free
  parts target left held := by
    obtain ⟨key, r, origin, part, keyed⟩ := exists_remainder_of_mem_styles held
    exact ⟨key, r, origin, (remainder_of_mem_styles free origin _).symm.trans part, keyed⟩
  complete key r left held part := complete_subtract free held part
  others key r other := mem_items_subtract_of_other free other

end

/-- **Subtracting maps takes away what the reference says.** Let the style rules of the subtracted
map have selectors, none of which begins like the key of a group at the top level. If the digests
of the rules in both maps and in what is left tell their contents, then the result is the
difference of the maps. In any case the keys of the result are different, each has entries, and
these have different digests; subtracting the reference again changes nothing, and subtracting the
empty map gives the map itself. -/
theorem subtract_is_difference {sheets references : List Stylesheet}
    (fold : ∀ sheet ∈ sheets, sheet.Foldable) (folds : ∀ sheet ∈ references, sheet.Foldable)
    (plain : ∀ sheet ∈ sheets, sheet.Plain)
    (named : ∀ sheet ∈ sheets, ∀ site ∈ sites sheet, site.rule.selectors ≠ []) :
    ∃ m reference, ofSheets sheets = .ok m ∧ ofSheets references = .ok reference ∧
      (CollisionFree ((m.items ++ reference.items ++ m.leftovers reference).map Prod.snd) →
        IsDifference m reference (m.subtract reference)) ∧
      (m.subtract reference).Tidy ∧
      (m.subtract reference).subtract reference = m.subtract reference ∧
      m.subtract [] = m := by
  have orderly := orderly_collect plain named
  refine ⟨_, _, ofSheets_eq fold, ofSheets_eq folds, isDifference_subtract orderly, ?_,
    subtract_subtract orderly, (tidy_collect _).subtract_nil orderly⟩
  exact subtract_eq _ _ ▸ tidy_collect _

/-- A part of one rule meets another rule under its new key, and an at-rule goes from a group. -/
theorem subtract_is_difference_of_moved_part :
    let style (selectors : List String) (line : Nat) : Rule :=
      .style ⟨selectors, [⟨"c", "d"⟩], some ⟨line, 1⟩⟩
    let layer : Rule := .atRule ⟨"layer", "y", none, none⟩
    let font : Rule := .fontFace [⟨"src", "x"⟩] none
    let sheets : List Stylesheet := [
      [style ["a", "b"] 1, font, style ["b"] 2, .group .media "p" [layer, style ["a"] 3] none]]
    let references : List Stylesheet := [[style ["a"] 1, .group .media " p" [layer] none]]
    ((∀ sheet ∈ sheets, sheet.Foldable) ∧ (∀ sheet ∈ references, sheet.Foldable) ∧
      (∀ sheet ∈ sheets, sheet.Plain) ∧
      ∀ sheet ∈ sheets, ∀ site ∈ sites sheet, site.rule.selectors ≠ []) ∧
      ∃ m reference, ofSheets sheets = .ok m ∧ ofSheets references = .ok reference ∧
        IsDifference m reference (m.subtract reference) ∧
        (m.subtract reference).items =
          [("b", style ["b"] 1), ("@font-face", font), ("@media p", style ["a"] 3)] ∧
        (m.subtract reference).subtract reference = m.subtract reference ∧
        m.subtract [] = m := by
  intro style layer font sheets references
  have fold : ∀ sheet ∈ sheets, sheet.Foldable := by decide
  have folds : ∀ sheet ∈ references, sheet.Foldable := by decide
  have plain : ∀ sheet ∈ sheets, sheet.Plain := by decide
  have named : ∀ sheet ∈ sheets, ∀ site ∈ sites sheet, site.rule.selectors ≠ [] := by decide
  obtain ⟨m, reference, made, known, difference, -, again, nothing⟩ :=
    subtract_is_difference fold folds plain named
  refine ⟨⟨fold, folds, plain, named⟩, m, reference, made, known, difference ?_, ?_, again, nothing⟩
  all_goals
    rw [Except.ok.inj (made.symm.trans (ofSheets_eq fold)),
      Except.ok.inj (known.symm.trans (ofSheets_eq folds))]
  · have free : CollisionFree [style ["a", "b"] 1, style ["a"] 1, style ["b"] 1, layer, font] :=
      ⟨by decide +kernel, by decide +kernel⟩
    exact free.of_erase (by decide +kernel)
  · decide +kernel

end RuleMap

end CriticalCss
