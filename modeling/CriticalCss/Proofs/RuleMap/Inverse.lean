import CriticalCss.Proofs.RuleMap.Grouping
import CriticalCss.Proofs.RuleMap.Materialize

/-!
# Folding the stylesheet of a map

A map is turned into a stylesheet by its keys alone: the text of a key says whether a group is
built, of which kind and under which condition. Folding the stylesheet gives the map again, as far
as it is `RuleMap.written` (`RuleMap.ofSheets_toSheet`), if every rule is `RuleMap.Seated`: under
the key of a group whose condition is settled, or under its own key, which is not one of a group.
-/

namespace CriticalCss

namespace RuleMap

/-! ## What is written of a map -/

/-- The entries without those of rules that have an empty list of declarations. -/
def emitted (es : List RuleMapEntry) : List RuleMapEntry :=
  es.filter fun e => e.rule.declarations? ≠ some []

/-- The map with the entries that are emitted, and without the keys that none of them is under. -/
def written (m : RuleMap) : RuleMap :=
  (m.map fun c => (c.1, emitted c.2)).filter fun c => c.2 ≠ []

theorem mem_written {m : RuleMap} {key : String} {es : List RuleMapEntry} :
    (key, es) ∈ m.written ↔ es ≠ [] ∧ ∃ all, (key, all) ∈ m ∧ es = emitted all := by
  simp only [written, List.mem_filter, List.mem_map, Prod.exists, Prod.mk.injEq,
    decide_eq_true_eq]
  constructor
  · intro given
    obtain ⟨⟨k, all, mem, rfl, rfl⟩, some⟩ := given
    exact ⟨some, all, mem, rfl⟩
  · intro given
    obtain ⟨some, all, mem, rfl⟩ := given
    exact ⟨⟨key, all, mem, rfl, rfl⟩, some⟩

theorem Tidy.written {m : RuleMap} (tidy : m.Tidy) : m.written.Tidy where
  keys := by
    have known : (m.written.map Prod.fst).Sublist (m.map Prod.fst) := by
      have part := (List.filter_sublist (p := fun c => c.2 ≠ [])
        (l := m.map fun c => (c.1, emitted c.2))).map Prod.fst
      rwa [List.map_map] at part
    exact known.nodup tidy.keys
  filled key es mem := (mem_written.1 mem).1
  digests key es mem := by
    obtain ⟨-, all, held, rfl⟩ := mem_written.1 mem
    exact (List.filter_sublist.map _).nodup (tidy.digests key all held)
  whole key es mem e inside := by
    obtain ⟨-, all, held, rfl⟩ := mem_written.1 mem
    exact tidy.whole key all held e (List.mem_filter.1 inside).1

theorem written_cons_of_eq_nil {key : String} {es : List RuleMapEntry} (none : emitted es = [])
    (rest : RuleMap) : written ((key, es) :: rest) = written rest := by
  rw [written, List.map_cons, none]
  rfl

theorem written_cons_of_ne_nil {key : String} {es : List RuleMapEntry} (some : emitted es ≠ [])
    (rest : RuleMap) : written ((key, es) :: rest) = (key, emitted es) :: written rest :=
  List.filter_cons_of_pos (decide_eq_true some)

/-! ## What one key gives -/

theorem filter_isEmittable (es : List RuleMapEntry) :
    (es.map (·.rule)).filter Rule.isEmittable = (emitted es).map (·.rule) := by
  rw [List.filter_map]
  refine congrArg _ (List.filter_congr fun e _ => ?_)
  exact Bool.eq_iff_iff.2 (by simp [Rule.isEmittable])

theorem rulesOf_of_eq_nil {key : String} {es : List RuleMapEntry} (none : emitted es = []) :
    rulesOf key es = [] := by
  rw [rulesOf, filter_isEmittable, none]
  rfl

/-- The key of a group gives one group of all the rules. -/
theorem rulesOf_group {key : String} {es : List RuleMapEntry} {kind : GroupKind}
    {condition : String} (named : groupOfKey? key = some (kind, condition))
    (some : emitted es ≠ []) :
    rulesOf key es = [.group kind condition ((emitted es).map (·.rule)) none] := by
  obtain ⟨first, others, shape⟩ := List.exists_cons_of_ne_nil some
  rw [rulesOf, filter_isEmittable, named, shape]
  rfl

/-- Another key gives the rules one by one. -/
theorem rulesOf_of_groupOfKey?_eq_none {key : String} {es : List RuleMapEntry}
    (named : groupOfKey? key = none) : rulesOf key es = (emitted es).map (·.rule) := by
  rw [rulesOf, filter_isEmittable, named]
  cases (emitted es).map (·.rule) <;> rfl

/-! ## Rules under their keys -/

/-- The rule stands where folding puts it and materializing leaves it: under the key of a group,
whose condition is in normal form, or under its own key, which is not one of a group. -/
def Seated (key : String) (r : Rule) : Prop :=
  match groupOfKey? key with
  | some (kind, condition) => kind.key condition = key ∧ fitsGroup r = true
  | none => r.IsFlat ∧ r.key? "" = some key

theorem seated_of_mem_contributions {sheet : Stylesheet} (fold : sheet.Foldable)
    (apart : ∀ r ∈ sheet, r.IsFlat → ∀ key ∈ r.key? "", isGroupKey key = false)
    (settled : ∀ condition inner position, .group .media condition inner position ∈ sheet →
      inner ≠ [] → repeatsAll condition = false)
    {key : String} {r : Rule} (mem : (key, r) ∈ sheet.contributions) : Seated key r := by
  obtain ⟨q, inside, contributed⟩ := List.mem_flatMap.1 mem
  by_cases flat : q.IsFlat
  · rw [Rule.contributions_of_isFlat flat] at contributed
    obtain ⟨own, keyed, pair⟩ := List.mem_map.1 contributed
    cases pair
    rw [Option.mem_toList] at keyed
    have missing := apart r inside flat key keyed
    rw [isGroupKey, Option.isSome_eq_false_iff, Option.isNone_iff_eq_none] at missing
    rw [Seated, missing]
    exact ⟨flat, keyed⟩
  · cases q with
    | group kind condition inner position =>
      obtain ⟨p, deeper, pair⟩ := List.mem_map.1 contributed
      obtain ⟨rfl, rfl⟩ := Prod.mk.inj pair
      have normal : kind.normalize (kind.normalize condition) = kind.normalize condition :=
        GroupKind.normalize_normalize fun media =>
          settled condition inner position (media ▸ inside) (List.ne_nil_of_mem deeper)
      rw [Seated, groupOfKey?_key]
      exact ⟨congrArg (kind.keyLead ++ ·) normal,
        fold kind condition inner position inside p deeper⟩
    | _ => exact (flat trivial).elim

/-! ## The stylesheet of a map -/

theorem contributions_append (as bs : Stylesheet) :
    Stylesheet.contributions (as ++ bs) = as.contributions ++ bs.contributions :=
  List.flatMap_append

theorem contributions_of_keyed {key : String} {rules : List Rule}
    (keyed : ∀ r ∈ rules, r.IsFlat ∧ r.key? "" = some key) :
    Stylesheet.contributions rules = rules.map fun r => (key, r) := by
  induction rules with
  | nil => rfl
  | cons r rest ih =>
    obtain ⟨own, others⟩ := List.forall_mem_cons.1 keyed
    rw [← List.singleton_append, contributions_append, ih others, List.map_append,
      Stylesheet.contributions, List.flatMap_singleton, Rule.contributions_of_isFlat own.1, own.2]
    rfl

theorem foldable_of_isFlat {rules : Stylesheet} (flat : ∀ r ∈ rules, r.IsFlat) :
    rules.Foldable :=
  fun _ _ _ _ mem => (flat _ mem).elim

theorem foldable_group {kind : GroupKind} {condition : String} {inner : List Rule}
    {position : Option Position} (fits : ∀ r ∈ inner, fitsGroup r = true) :
    Stylesheet.Foldable [.group kind condition inner position] := by
  rw [Stylesheet.foldable_iff]
  intro q mem
  rw [List.mem_singleton] at mem
  subst mem
  exact fits

/-- The rules that one key gives can be folded, and contribute themselves under it. -/
theorem contributions_rulesOf {key : String} {es : List RuleMapEntry}
    (seated : ∀ e ∈ es, Seated key e.rule) :
    Stylesheet.Foldable (rulesOf key es) ∧
      Stylesheet.contributions (rulesOf key es) = (emitted es).map fun e => (key, e.rule) := by
  have kept : ∀ r ∈ (emitted es).map (·.rule), Seated key r := by
    intro r mem
    obtain ⟨e, inside, rfl⟩ := List.mem_map.1 mem
    exact seated e (List.mem_filter.1 inside).1
  have row : ((emitted es).map fun e => (key, e.rule)) =
      ((emitted es).map (·.rule)).map fun r => (key, r) := List.map_map.symm
  rw [row]
  by_cases some : emitted es = []
  · rw [rulesOf_of_eq_nil some, some]
    exact ⟨nofun, rfl⟩
  cases named : groupOfKey? key with
  | none =>
    simp only [Seated, named] at kept
    rw [rulesOf_of_groupOfKey?_eq_none named]
    exact ⟨foldable_of_isFlat fun r mem => (kept r mem).1, contributions_of_keyed kept⟩
  | some group =>
    obtain ⟨kind, condition⟩ := group
    simp only [Seated, named] at kept
    obtain ⟨e, inside⟩ := List.exists_mem_of_ne_nil _ some
    have settled := (kept e.rule (List.mem_map.2 ⟨e, inside, rfl⟩)).1
    rw [rulesOf_group named some, Stylesheet.contributions, List.flatMap_singleton,
      Rule.contributions, settled]
    exact ⟨foldable_group fun r mem => (kept r mem).2, rfl⟩

/-- **The stylesheet of a map contributes what is written of the map.** -/
theorem contributions_toSheet {m : RuleMap} (seated : ∀ c ∈ m.items, Seated c.1 c.2) :
    Stylesheet.Foldable m.toSheet ∧ Stylesheet.contributions m.toSheet = m.written.items := by
  induction m with
  | nil => exact ⟨nofun, rfl⟩
  | cons first rest ih =>
    obtain ⟨key, es⟩ := first
    obtain ⟨here, there⟩ := forall_mem_items_cons.1 seated
    obtain ⟨fold, rules⟩ := contributions_rulesOf here
    obtain ⟨folds, others⟩ := ih there
    rw [toSheet_cons, contributions_append, rules, others]
    refine ⟨fun kind condition inner position mem => ?_, ?_⟩
    · rcases List.mem_append.1 mem with own | other
      · exact fold kind condition inner position own
      · exact folds kind condition inner position other
    · by_cases some : emitted es = []
      · rw [written_cons_of_eq_nil some, some]
        rfl
      · rw [written_cons_of_ne_nil some]
        rfl

/-- The keys of the groups that one key gives. -/
theorem groupKeys_rulesOf {key : String} {es : List RuleMapEntry}
    (seated : ∀ e ∈ es, Seated key e.rule) :
    ((rulesOf key es).filter fun r => ¬ r.IsFlat).map Rule.groupKey =
      if emitted es ≠ [] ∧ isGroupKey key = true then [key] else [] := by
  by_cases some : emitted es = []
  · rw [rulesOf_of_eq_nil some, if_neg fun given => given.1 some]
    rfl
  obtain ⟨e, inside⟩ := List.exists_mem_of_ne_nil _ some
  have here : Seated key e.rule := seated e (List.mem_filter.1 inside).1
  cases named : groupOfKey? key with
  | none =>
    have flat : ∀ r ∈ (emitted es).map (·.rule), r.IsFlat := by
      intro r mem
      obtain ⟨f, deeper, rfl⟩ := List.mem_map.1 mem
      have own : Seated key f.rule := seated f (List.mem_filter.1 deeper).1
      simp only [Seated, named] at own
      exact own.1
    rw [rulesOf_of_groupOfKey?_eq_none named, List.filter_eq_nil_iff.2 (by simpa using flat),
      if_neg (by simp [isGroupKey, named])]
    rfl
  | some group =>
    obtain ⟨kind, condition⟩ := group
    simp only [Seated, named] at here
    rw [rulesOf_group named some, if_pos ⟨some, by rw [isGroupKey, named]; rfl⟩]
    exact congrArg (fun k => [k]) here.1

/-- **One group for each key of a group under which something is written**, in their order. -/
theorem groupKeys_toSheet {m : RuleMap} (seated : ∀ c ∈ m.items, Seated c.1 c.2) :
    (m.toSheet.filter fun r => ¬ r.IsFlat).map Rule.groupKey =
      (m.written.map Prod.fst).filter isGroupKey := by
  induction m with
  | nil => rfl
  | cons first rest ih =>
    obtain ⟨key, es⟩ := first
    obtain ⟨here, there⟩ := forall_mem_items_cons.1 seated
    rw [toSheet_cons, List.filter_append, List.map_append, groupKeys_rulesOf here, ih there]
    by_cases some : emitted es = []
    · rw [written_cons_of_eq_nil some, if_neg fun given => given.1 some]
      rfl
    · rw [written_cons_of_ne_nil some, List.map_cons, List.filter_cons]
      simp only [ne_eq, some, not_false_eq_true, true_and]
      split <;> rfl

/-- **Materializing is inverse to folding.** Let no key of a rule outside groups read like that of
a group, and no condition of a group repeat the media type `all`. Then folding the stylesheet of
the map gives the map again, keys, rules and digests in their order, without the entries of rules
that have an empty list of declarations and without the keys that only such entries are under. The
groups of the stylesheet are one for each remaining key of a group, in the order of the keys. -/
theorem ofSheets_toSheet {sheets : List Stylesheet} (fold : ∀ sheet ∈ sheets, sheet.Foldable)
    (apart : ∀ sheet ∈ sheets, ∀ r ∈ sheet, r.IsFlat → ∀ key ∈ r.key? "", isGroupKey key = false)
    (settled : ∀ sheet ∈ sheets, ∀ condition inner position,
      .group .media condition inner position ∈ sheet → inner ≠ [] →
        repeatsAll condition = false) :
    ∃ m, ofSheets sheets = .ok m ∧ ofSheets [m.toSheet] = .ok m.written ∧
      (m.toSheet.filter fun r => ¬ r.IsFlat).map Rule.groupKey =
        (m.written.map Prod.fst).filter isGroupKey ∧
      ((m.toSheet.filter fun r => ¬ r.IsFlat).map Rule.groupKey).Nodup := by
  have seated : ∀ c ∈ (collect (sheets.flatMap Stylesheet.contributions)).items,
      Seated c.1 c.2 := by
    intro c held
    obtain ⟨sheet, mem, added⟩ := List.mem_flatMap.1 (mem_of_mem_items_collect held)
    exact seated_of_mem_contributions (fold sheet mem) (apart sheet mem) (settled sheet mem) added
  have tidy := (tidy_collect (sheets.flatMap Stylesheet.contributions)).written
  obtain ⟨folds, rules⟩ := contributions_toSheet seated
  have groups := groupKeys_toSheet seated
  refine ⟨_, ofSheets_eq fold, ?_, groups, groups ▸ tidy.keys.filter _⟩
  rw [ofSheets_eq (List.forall_mem_singleton.2 folds), List.flatMap_singleton, rules,
    tidy.collect_items]

/-- A condition is written in two ways, one group holds an at-rule, and the rules of another one
are empty. -/
theorem ofSheets_toSheet_of_empty_rules :
    let style (selector : String) (declarations : List Declaration) : Rule :=
      .style ⟨[selector], declarations, none⟩
    let layer : Rule := .atRule ⟨"layer", "y", none, none⟩
    let sheets : List Stylesheet := [
      [style "a" [⟨"c", "d"⟩], .group .media "all  and (p)" [layer, style "b" []] none],
      [.fontFace [] none, .group .media "(p)" [style "a" [⟨"c", "d"⟩]] none,
        .group .supports "(q)" [style "b" []] none]]
    ((∀ sheet ∈ sheets, sheet.Foldable) ∧
      (∀ sheet ∈ sheets, ∀ r ∈ sheet, r.IsFlat → ∀ key ∈ r.key? "", isGroupKey key = false) ∧
      ∀ sheet ∈ sheets, ∀ condition inner position,
        .group .media condition inner position ∈ sheet → inner ≠ [] →
          repeatsAll condition = false) ∧
      ∃ m, ofSheets sheets = .ok m ∧
        m.map Prod.fst = ["a", "@media (p)", "@font-face", "@supports (q)"] ∧
        ofSheets [m.toSheet] = .ok m.written ∧ m.written.map Prod.fst = ["a", "@media (p)"] := by
  intro style layer sheets
  have fold : ∀ sheet ∈ sheets, sheet.Foldable := by decide
  have apart : ∀ sheet ∈ sheets, ∀ r ∈ sheet, r.IsFlat →
      ∀ key ∈ r.key? "", isGroupKey key = false := by decide
  have settled : ∀ sheet ∈ sheets, ∀ condition inner position,
      .group .media condition inner position ∈ sheet → inner ≠ [] →
        repeatsAll condition = false := by
    intro sheet mem condition inner position inside _
    have both : ∀ condition ∈ ["all  and (p)", "(p)"], repeatsAll condition = false := by decide
    refine both condition ?_
    rcases List.mem_pair.1 mem with rfl | rfl <;> simp_all [style]
  obtain ⟨m, made, again, -, -⟩ := ofSheets_toSheet fold apart settled
  have map := Except.ok.inj (made.symm.trans (ofSheets_eq fold))
  refine ⟨⟨fold, apart, settled⟩, m, made, ?_, again, ?_⟩
  · rw [map]
    decide +kernel
  · rw [map]
    decide +kernel

end RuleMap

end CriticalCss
