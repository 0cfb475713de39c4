import CriticalCss.Proofs.Partition.Side
import CriticalCss.Proofs.RuleMap.Fold

/-!
# One decision for each selector

Extracting a selector map and splitting the stylesheet with it comes down to one decision for each
selector (`Extraction.IsDecided`): the verdict on the selector, or the answer of the page at the
place of its question. The keys under which the map and the split meet do not count, although
rules of different groups may share them.

The statements are about stylesheets without groups in groups, for the selectors there are not
looked at.
-/

namespace CriticalCss

open CriticalCss.Partition Selector

namespace Extraction

/-! ## The style rules that are looked at -/

theorem mem_keyedRules {group key : String} {rules : List Rule} {r : StyleRule} :
    (key, r) ∈ keyedRules group rules ↔ ∃ q ∈ rules, (key, r) ∈ keyedRule group q := by
  induction rules with
  | nil => simp [keyedRules]
  | cons q rest ih => simp [keyedRules, ih]

theorem mem_keyedRule_of_isFlat {group key : String} {q : Rule} {r : StyleRule}
    (flat : q.IsFlat) (mem : (key, r) ∈ keyedRule group q) :
    q = .style r ∧ r.key? group = some key := by
  cases q with
  | style q =>
    obtain ⟨own, keyed, pair⟩ := List.mem_map.1 mem
    cases pair
    exact ⟨rfl, Option.mem_toList.1 keyed⟩
  | group => exact flat.elim
  | _ => cases mem

/-- Every style rule with a key is looked at. -/
theorem exists_site_of_mem_keyedRules {sheet : Stylesheet} (shallow : sheet.Shallow) {key : String}
    {r : StyleRule} (mem : (key, r) ∈ keyedRules "" sheet) :
    ∃ site ∈ sites sheet, site.rule = r ∧ r.key? site.group = some key := by
  obtain ⟨q, inside, own⟩ := mem_keyedRules.1 mem
  cases q with
  | style q =>
    obtain ⟨own, keyed, pair⟩ := List.mem_map.1 own
    cases pair
    refine ⟨⟨r, "", none⟩, List.mem_flatMap.2 ⟨_, inside, List.mem_cons_self⟩, rfl, ?_⟩
    exact Option.mem_toList.1 keyed
  | group kind condition inner position =>
    rw [keyedRule] at own
    obtain ⟨p, deeper, here⟩ := mem_keyedRules.1 own
    obtain ⟨rfl, keyed⟩ := mem_keyedRule_of_isFlat (shallow _ inside p deeper) here
    refine ⟨⟨r, kind.key condition, if kind = .media then some condition else none⟩,
      List.mem_flatMap.2 ⟨_, inside, ?_⟩, rfl, keyed⟩
    exact List.mem_filterMap.2 ⟨_, deeper, rfl⟩
  | _ => cases own

/-- The selectors that stand directly in a group. -/
theorem selectors_occurrences_of_isFlat (groups : List GroupHead) {inner : List Rule}
    (flat : ∀ r ∈ inner, r.IsFlat) :
    (Partition.occurrences groups inner).map (·.selector) =
      (inner.filterMap Rule.style?).flatMap (·.selectors) := by
  induction inner with
  | nil => rfl
  | cons r rest ih =>
    rw [Partition.occurrences, List.map_append, ih fun q mem => flat q (List.mem_cons_of_mem _ mem)]
    cases r with
    | style r => simp [ruleOccurrences, Rule.style?]
    | group => exact (flat _ List.mem_cons_self).elim
    | _ => rfl

/-- Every selector is looked at, in the order of the source. -/
theorem selectors_occurrences {sheet : Stylesheet} (shallow : sheet.Shallow) :
    sheet.occurrences.map (·.selector) = (sites sheet).flatMap (·.rule.selectors) := by
  unfold Stylesheet.occurrences
  induction sheet with
  | nil => rfl
  | cons r rest ih =>
    rw [Partition.occurrences, List.map_append,
      ih fun q mem => shallow q (List.mem_cons_of_mem _ mem), ← List.singleton_append,
      sites_append, List.flatMap_append]
    congr 1
    cases r with
    | style r => simp [ruleOccurrences, sites]
    | group kind condition inner position =>
      have flat : ∀ r ∈ inner, r.IsFlat := shallow _ List.mem_cons_self
      rw [ruleOccurrences, selectors_occurrences_of_isFlat _ flat, sites_group, List.flatMap_map]
    | _ => rfl

/-! ## Questions -/

/-- A page that gives these answers, whatever it is asked, and notes what it is asked. -/
def notingPage (answers : List Bool) (texts : List String) :
    StateM (List (List String)) (List Bool) := do
  modify (· ++ [texts])
  return answers

/-- The texts for the selectors of a stylesheet that the page has to decide, in the order of the
source. -/
def wondered (wishes : Wishes) (sheet : Stylesheet) : List String :=
  ((sheet.occurrences.map (·.selector)).filter fun s => wishes.classify s = .probe).map query

theorem questions_eq {sheet : Stylesheet} (shallow : sheet.Shallow) (wishes : Wishes) :
    questions wishes sheet = (wondered wishes sheet).eraseDups := by
  rw [questions, wondered, selectors_occurrences shallow, List.filter_flatMap, List.map_flatMap]

theorem extract_notingPage (wishes : Wishes) (answers : List Bool) (sheet : Stylesheet)
    (noted : List (List String)) :
    (extract wishes (notingPage answers) sheet).run noted =
      (selectorMap wishes ((questions wishes sheet).zip answers) sheet,
        noted ++ if questions wishes sheet = [] then [] else [questions wishes sheet]) := by
  unfold extract
  cases asked : questions wishes sheet with
  | nil => exact congrArg (Prod.mk _) (List.append_nil noted).symm
  | cons q qs => rfl

/-! ## Decisions -/

/-- A selector is critical by its verdict, or by the answer at the place of its question. -/
def IsDecided (wishes : Wishes) (asked : List String) (answers : List Bool) (s : String) : Prop :=
  wishes.classify s = .included ∨ wishes.classify s = .purePseudo ∨
    wishes.classify s = .probe ∧ answers[asked.idxOf (query s)]? = some true

instance (wishes : Wishes) (asked : List String) (answers : List Bool) (s : String) :
    Decidable (IsDecided wishes asked answers s) :=
  inferInstanceAs (Decidable (_ ∨ _ ∨ _ ∧ _))

theorem isCritical_iff_isDecided {wishes : Wishes} {asked : List String} {s : String}
    (known : wishes.classify s = .probe → query s ∈ asked) (answers : List Bool) :
    isCritical wishes (asked.zip answers) s = true ↔ IsDecided wishes asked answers s := by
  unfold isCritical IsDecided
  cases verdict : wishes.classify s with
  | probe =>
    rw [lookup_zip (known verdict)]
    cases answers[asked.idxOf (query s)]? <;> simp
  | _ => simp

/-- A selector that the page has to decide is asked about. -/
theorem query_mem_questions {wishes : Wishes} {sheet : Stylesheet} {site : Site}
    (inside : site ∈ sites sheet) {s : String} (own : s ∈ site.rule.selectors)
    (probe : wishes.classify s = .probe) : query s ∈ questions wishes sheet := by
  rw [questions, List.mem_eraseDups, List.mem_flatMap]
  exact ⟨site, inside, List.mem_map.2 ⟨s, List.mem_filter.2 ⟨own, decide_eq_true probe⟩, rfl⟩⟩

/-- Under the key of a rule, the map lists those of the rule's selectors that are decided. -/
theorem listed_selectorMap_iff {wishes : Wishes} {answers : List Bool} {sheet : Stylesheet}
    (shallow : sheet.Shallow) {key : String} {r : StyleRule}
    (mem : (key, r) ∈ keyedRules "" sheet) {s : String} (own : s ∈ r.selectors) :
    listed (selectorMap wishes ((questions wishes sheet).zip answers) sheet) key s = true ↔
      IsDecided wishes (questions wishes sheet) answers s := by
  obtain ⟨site, inside, rfl, keyed⟩ := exists_site_of_mem_keyedRules shallow mem
  rw [listed, decide_eq_true_eq, mem_selectorsOf_iff_isCritical inside keyed own,
    isCritical_iff_isDecided (query_mem_questions inside own)]

/-- **One decision for each selector.** The page is asked once at most, about the texts for the
selectors that it has to decide, each in the place of its first occurrence; and the stylesheet is
split by the decision on each selector, whatever rule carries it under whatever key. -/
theorem extract_partition_decides {sheet : Stylesheet} (shallow : sheet.Shallow) (wishes : Wishes)
    (answers : List Bool) (dropKeyframes : Bool) :
    ∃ map asked,
      (∀ noted, (extract wishes (notingPage answers) sheet).run noted =
        (map, noted ++ if asked = [] then [] else [asked])) ∧
      asked.Nodup ∧ (∀ text, text ∈ asked ↔ text ∈ wondered wishes sheet) ∧
      (asked.Pairwise fun a b =>
        (wondered wishes sheet).idxOf a < (wondered wishes sheet).idxOf b) ∧
      Side (fun _ s => IsDecided wishes asked answers s) (inCritical dropKeyframes) "" sheet
        (sheet.partition dropKeyframes map).1 ∧
      Side (fun _ s => !decide (IsDecided wishes asked answers s)) inRest "" sheet
        (sheet.partition dropKeyframes map).2 := by
  have same : ∀ key r, (key, r) ∈ keyedRules "" sheet → ∀ s ∈ r.selectors,
      listed (selectorMap wishes ((questions wishes sheet).zip answers) sheet) key s =
        decide (IsDecided wishes (questions wishes sheet) answers s) := by
    intro key r mem s own
    rw [Bool.eq_iff_iff, decide_eq_true_eq]
    exact listed_selectorMap_iff shallow mem own
  -- the split asks the map only under the keys of its rules, where the map lists what is decided
  refine ⟨_, questions wishes sheet, extract_notingPage wishes answers sheet,
    nodup_questions wishes sheet, fun text => ?_, ?_, ?_, ?_⟩
  · rw [questions_eq shallow, List.mem_eraseDups]
  · rw [questions_eq shallow]
    exact pairwise_idxOf_eraseDups _
  · exact (sheet.side_partition_fst dropKeyframes _).congr same
  · refine (sheet.side_partition_snd dropKeyframes _).congr fun key r mem s own => ?_
    rw [unlisted, same key r mem s own]

/-- Rules of different groups share a key, and the answer to the second question is missing. -/
theorem extract_partition_decides_of_shared_key :
    let sheet : Stylesheet :=
      [.group .media "x" [.style ⟨["a", "a::before"], [⟨"c", "d"⟩], none⟩,
        .atRule ⟨"layer", "l", none, none⟩] none,
        .style ⟨["@media xa", "a::before"], [⟨"c", "e"⟩], none⟩]
    let asked : List String := ["a", "@media xa"]
    sheet.Shallow ∧ ∃ map,
      (extract ⟨[], []⟩ (notingPage [true]) sheet).run [] = (map, [asked]) ∧
      IsDecided ⟨[], []⟩ asked [true] "a::before" ∧ ¬IsDecided ⟨[], []⟩ asked [true] "@media xa" ∧
      Side (fun _ s => IsDecided ⟨[], []⟩ asked [true] s) (inCritical true) "" sheet
        (sheet.partition true map).1 := by
  intro sheet asked
  have shallow : sheet.Shallow := by decide
  obtain ⟨map, texts, asks, -, -, -, critical, -⟩ :=
    extract_partition_decides shallow ⟨[], []⟩ [true] true
  have run := asks []
  have calls : ((extract ⟨[], []⟩ (notingPage [true]) sheet).run []).2 = [asked] := by
    decide +kernel
  have same : texts = asked := by
    rw [run] at calls
    split at calls
    · cases calls
    · exact (List.cons.inj calls).1
  rw [same] at run critical
  exact ⟨shallow, map, run, by decide +kernel, by decide +kernel, critical⟩

end Extraction

end CriticalCss
