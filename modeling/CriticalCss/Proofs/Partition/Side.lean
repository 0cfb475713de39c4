import CriticalCss.Proofs.Partition
import CriticalCss.Proofs.Partition.Listing

/-!
# The two sides of a split

`Partition.Side` says what one side of a split holds of rules in a row: each style rule with those
of its selectors that stay there, each group around what is left in it, and of the other rules
those that the side admits. A row has just one side of a kind (`Partition.Side.eq`), and the
critical part and the rest are such sides.

An `Occurrence` is a selector with all that stands around it, so equal selectors of a rule are two
occurrences. The two parts of a stylesheet share out its occurrences
(`Stylesheet.perm_occurrences_partition`).
-/

namespace CriticalCss

namespace Partition

/-- What one side of a split holds of rules in a row inside the group with key `group`: `keep` says
which selectors stay under the key of their rule, and `admits` which kinds of other rules the side
has in a group. -/
inductive Side (keep : String → String → Bool) (admits : String → RuleKind → Prop) :
    String → List Rule → List Rule → Prop
  | nil {group : String} : Side keep admits group [] []
  | styleKept {group key : String} {r : StyleRule} {rest part : List Rule} :
    r.key? group = some key → r.selectors.filter (keep key) ≠ [] →
      Side keep admits group rest part →
        Side keep admits group (.style r :: rest)
          (.style { r with selectors := r.selectors.filter (keep key) } :: part)
  | styleGone {group : String} {r : StyleRule} {rest part : List Rule} :
    (∀ key, r.key? group = some key → r.selectors.filter (keep key) = []) →
      Side keep admits group rest part → Side keep admits group (.style r :: rest) part
  | groupKept {group : String} {kind : GroupKind} {condition : String}
      {position : Option Position} {inner left rest part : List Rule} :
    Side keep admits (kind.key condition) inner left → left ≠ [] →
      Side keep admits group rest part →
        Side keep admits group (.group kind condition inner position :: rest)
          (.group kind condition left position :: part)
  | groupGone {group : String} {kind : GroupKind} {condition : String}
      {position : Option Position} {inner rest part : List Rule} :
    Side keep admits (kind.key condition) inner [] → Side keep admits group rest part →
      Side keep admits group (.group kind condition inner position :: rest) part
  | otherKept {group : String} {r : Rule} {rest part : List Rule} :
    r.IsOther → admits group r.kind → Side keep admits group rest part →
      Side keep admits group (r :: rest) (r :: part)
  | otherGone {group : String} {r : Rule} {rest part : List Rule} :
    r.IsOther → ¬admits group r.kind → Side keep admits group rest part →
      Side keep admits group (r :: rest) part

/-- The critical part has other rules at the top level, if their kind is kept there. -/
def inCritical (dropKeyframes : Bool) (group : String) (kind : RuleKind) : Prop :=
  group = "" ∧ kind ∈ criticalKinds dropKeyframes

/-- The rest has all other rules. -/
def inRest (_ : String) (_ : RuleKind) : Prop :=
  True

variable {keep : String → String → Bool} {admits : String → RuleKind → Prop}

/-! ## A row has one side -/

/-- **A side is determined.** -/
theorem Side.eq {group : String} {rules a b : List Rule} (left : Side keep admits group rules a)
    (right : Side keep admits group rules b) : a = b := by
  induction left generalizing b with
  | nil =>
    cases right
    rfl
  | styleKept keyed some _ ih =>
    cases right with
    | styleKept keyed' _ rest =>
      obtain rfl := Option.some.inj (keyed.symm.trans keyed')
      rw [ih rest]
    | styleGone gone _ => exact (some (gone _ keyed)).elim
    | otherKept other | otherGone other => exact other.elim
  | styleGone gone _ ih =>
    cases right with
    | styleKept keyed some _ => exact (some (gone _ keyed)).elim
    | styleGone _ rest => exact ih rest
    | otherKept other | otherGone other => exact other.elim
  | groupKept _ some _ inside ih =>
    cases right with
    | groupKept inner _ rest => rw [inside inner, ih rest]
    | groupGone inner _ => exact (some (inside inner)).elim
    | otherKept other | otherGone other => exact other.elim
  | groupGone _ _ inside ih =>
    cases right with
    | groupKept inner some _ => exact (some (inside inner).symm).elim
    | groupGone _ rest => exact ih rest
    | otherKept other | otherGone other => exact other.elim
  | otherKept other admitted _ ih =>
    cases right with
    | otherKept _ _ rest => rw [ih rest]
    | otherGone _ refused _ => exact (refused admitted).elim
    | styleKept | styleGone | groupKept | groupGone => exact other.elim
  | otherGone other refused _ ih =>
    cases right with
    | otherKept _ admitted _ => exact (refused admitted).elim
    | otherGone _ _ rest => exact ih rest
    | styleKept | styleGone | groupKept | groupGone => exact other.elim

/-- Sides agree if they keep the same selectors of the rules in the row. -/
theorem Side.congr {keep' : String → String → Bool} {group : String} {rules part : List Rule}
    (side : Side keep admits group rules part)
    (same : ∀ key r, (key, r) ∈ keyedRules group rules →
      ∀ s ∈ r.selectors, keep key s = keep' key s) :
    Side keep' admits group rules part := by
  induction side with
  | nil => exact .nil
  | @styleKept group key r rest part keyed some _ ih =>
    have own : r.selectors.filter (keep key) = r.selectors.filter (keep' key) :=
      List.filter_congr (same key r (by simp [keyedRules, keyedRule, keyed]))
    rw [own] at some ⊢
    exact .styleKept keyed some (ih fun k q mem => same k q (List.mem_append_right _ mem))
  | @styleGone group r rest part gone _ ih =>
    refine .styleGone (fun key keyed => ?_)
      (ih fun k q mem => same k q (List.mem_append_right _ mem))
    rw [← gone key keyed]
    exact (List.filter_congr (same key r (by simp [keyedRules, keyedRule, keyed]))).symm
  | groupKept _ some _ inside ih =>
    exact .groupKept (inside fun k q mem => same k q (List.mem_append_left _ mem)) some
      (ih fun k q mem => same k q (List.mem_append_right _ mem))
  | groupGone _ _ inside ih =>
    exact .groupGone (inside fun k q mem => same k q (List.mem_append_left _ mem))
      (ih fun k q mem => same k q (List.mem_append_right _ mem))
  | otherKept other admitted _ ih =>
    exact .otherKept other admitted (ih fun k q mem => same k q (List.mem_append_right _ mem))
  | otherGone other refused _ ih =>
    exact .otherGone other refused (ih fun k q mem => same k q (List.mem_append_right _ mem))

/-! ## Sifting gives a side -/

theorem siftRule_of_isOther {others : String → Bool} {group : String} {r : Rule}
    (other : r.IsOther) :
    siftRule keep others group r = if others group = true then some r else none := by
  cases r with
  | style | group => exact other.elim
  | _ => simp only [siftRule]

variable {others admitting : String → Bool}

theorem side_siftRule_of_isOther {group : String} {rest part : List Rule}
    (after : Side keep admits group rest part) {r : Rule} (other : r.IsOther)
    (admitted : admits group r.kind ↔ others group = true) :
    Side keep admits group (r :: rest) ((siftRule keep others group r).toList ++ part) := by
  rw [siftRule_of_isOther other]
  split
  · rename_i stays
    exact .otherKept other (admitted.2 stays) after
  · rename_i goes
    exact .otherGone other (fun allowed => goes (admitted.1 allowed)) after

mutual

theorem side_siftRule
    (inside : ∀ group kind, group ≠ "" → (admits group kind ↔ others group = true))
    {group : String} {rest part : List Rule} (after : Side keep admits group rest part) :
    ∀ r : Rule, (r.IsOther → (admits group r.kind ↔ others group = true)) →
      Side keep admits group (r :: rest) ((siftRule keep others group r).toList ++ part)
  | .group kind condition inner position, _ => by
    have deeper : Side keep admits (kind.key condition) inner
        (siftRules keep others (kind.key condition) inner) :=
      side_siftRules inside inner fun r _ _ => inside _ _ (kind.key_ne_empty condition)
    rw [siftRule]
    cases left : siftRules keep others (kind.key condition) inner with
    | nil => exact .groupGone (left ▸ deeper) after
    | cons first more =>
      rw [left] at deeper
      exact .groupKept deeper (List.cons_ne_nil _ _) after
  | .style r, _ => by
    rw [siftRule, siftStyle]
    cases keyed : r.key? group with
    | none =>
      refine .styleGone (fun key other => ?_) after
      rw [keyed] at other
      cases other
    | some key =>
      rw [Option.bind_some, StyleRule.narrow]
      split
      · rename_i nothing
        refine .styleGone (fun other same => ?_) after
        rw [keyed, Option.some.injEq] at same
        rw [← same]
        exact List.isEmpty_iff.1 nothing
      · rename_i something
        exact .styleKept keyed (fun nothing => something (List.isEmpty_iff.2 nothing)) after
  | .atRule _, admitted | .fontFace .., admitted | .charset .., admitted
  | .keyframes .., admitted | .keyframe _, admitted | .comment .., admitted =>
    side_siftRule_of_isOther after trivial (admitted trivial)

/-- What is sifted out of rules is a side of them. -/
theorem side_siftRules
    (inside : ∀ group kind, group ≠ "" → (admits group kind ↔ others group = true))
    {group : String} :
    ∀ rules : List Rule,
      (∀ r ∈ rules, r.IsOther → (admits group r.kind ↔ others group = true)) →
        Side keep admits group rules (siftRules keep others group rules)
  | [], _ => .nil
  | r :: rest, admitted =>
    side_siftRule inside
      (side_siftRules inside rest fun q mem => admitted q (List.mem_cons_of_mem _ mem)) r
      (admitted r List.mem_cons_self)

end

/-- Other rules that a side does not admit may be dropped before. -/
theorem Side.of_filter {group : String} {stays : Rule → Bool} {rules part : List Rule}
    (side : Side keep admits group (rules.filter stays) part)
    (dropped : ∀ r ∈ rules, stays r = false → r.IsOther ∧ ¬admits group r.kind) :
    Side keep admits group rules part := by
  induction rules generalizing part with
  | nil => exact side
  | cons r rest ih =>
    have later : ∀ q ∈ rest, stays q = false → q.IsOther ∧ ¬admits group q.kind :=
      fun q mem => dropped q (List.mem_cons_of_mem _ mem)
    cases kept : stays r with
    | false =>
      obtain ⟨other, refused⟩ := dropped r List.mem_cons_self kept
      rw [List.filter_cons_of_neg (by simp [kept])] at side
      exact .otherGone other refused (ih side later)
    | true =>
      rw [List.filter_cons_of_pos kept] at side
      cases side with
      | styleKept keyed some after => exact .styleKept keyed some (ih after later)
      | styleGone gone after => exact .styleGone gone (ih after later)
      | groupKept inner some after => exact .groupKept inner some (ih after later)
      | groupGone inner after => exact .groupGone inner (ih after later)
      | otherKept other admitted after => exact .otherKept other admitted (ih after later)
      | otherGone other refused after => exact .otherGone other refused (ih after later)

/-! ## Occurrences -/

/-- The head of a group. -/
structure GroupHead where
  kind : GroupKind
  condition : String
  position : Option Position
deriving DecidableEq, Repr

/-- A selector of a style rule with all that stands around it: the groups from the outermost on,
and the declarations and the place of its rule. -/
structure Occurrence where
  groups : List GroupHead
  selector : String
  declarations : List Declaration
  position : Option Position
deriving DecidableEq, Repr

/-- The selectors of a style rule inside some groups, one by one. -/
def styleOccurrences (groups : List GroupHead) (r : StyleRule) : List Occurrence :=
  r.selectors.map fun s => ⟨groups, s, r.declarations, r.position⟩

@[simp] theorem selectors_styleOccurrences (groups : List GroupHead) (r : StyleRule) :
    (styleOccurrences groups r).map (·.selector) = r.selectors := by
  rw [styleOccurrences, List.map_map]
  exact List.map_id' r.selectors

mutual

/-- The selectors in a rule, at any depth. -/
def ruleOccurrences (groups : List GroupHead) : Rule → List Occurrence
  | .group kind condition inner position =>
    occurrences (groups ++ [⟨kind, condition, position⟩]) inner
  | .style r => styleOccurrences groups r
  | _ => []

/-- The selectors in a row of rules, at any depth. -/
def occurrences (groups : List GroupHead) : List Rule → List Occurrence
  | [] => []
  | r :: rest => ruleOccurrences groups r ++ occurrences groups rest

end

theorem occurrences_append (groups : List GroupHead) (as bs : List Rule) :
    occurrences groups (as ++ bs) = occurrences groups as ++ occurrences groups bs := by
  induction as with
  | nil => rfl
  | cons r rest ih => rw [List.cons_append, occurrences, occurrences, ih, List.append_assoc]

theorem ruleOccurrences_of_isOther (groups : List GroupHead) {r : Rule} (other : r.IsOther) :
    ruleOccurrences groups r = [] := by
  cases r with
  | style | group => exact other.elim
  | _ => simp only [ruleOccurrences]

theorem occurrences_regroup (groups : List GroupHead) (kind : GroupKind) (condition : String)
    (position : Option Position) (rules : List Rule) :
    occurrences groups (regroup kind condition position rules).toList =
      occurrences (groups ++ [⟨kind, condition, position⟩]) rules := by
  cases rules with
  | nil => rfl
  | cons first more => exact List.append_nil _

theorem occurrences_narrow (groups : List GroupHead) (stays : String → Bool) (r : StyleRule) :
    occurrences groups ((r.narrow stays).map Rule.style).toList =
      styleOccurrences groups { r with selectors := r.selectors.filter stays } := by
  rw [StyleRule.narrow]
  split
  · rename_i nothing
    rw [styleOccurrences, List.isEmpty_iff.1 nothing]
    rfl
  · exact List.append_nil _

/-- Two halves of a style rule share out its selectors. -/
theorem perm_occurrences_siftStyle (groups : List GroupHead) (group : String) (r : StyleRule) :
    (occurrences groups ((siftStyle keep group r).map Rule.style).toList ++
      occurrences groups
        ((siftStyle (fun key s => !keep key s) group r).map Rule.style).toList).Perm
      (styleOccurrences groups r) := by
  unfold siftStyle
  cases keyed : r.key? group with
  | none =>
    have nothing : r.selectors = [] := by
      simpa [StyleRule.key?] using keyed
    rw [styleOccurrences, nothing]
    exact .refl _
  | some key =>
    rw [Option.bind_some, Option.bind_some, occurrences_narrow, occurrences_narrow,
      styleOccurrences, styleOccurrences, ← List.map_append]
    exact (List.filter_append_perm (keep key) r.selectors).map _

mutual

theorem perm_occurrences_siftRule (groups : List GroupHead) (group : String) :
    ∀ r : Rule, (occurrences groups (siftRule keep others group r).toList ++
      occurrences groups
        (siftRule (fun key s => !keep key s) admitting group r).toList).Perm
      (ruleOccurrences groups r)
  | .group kind condition inner position => by
    rw [siftRule, siftRule, occurrences_regroup, occurrences_regroup, ruleOccurrences]
    exact perm_occurrences_siftRules _ _ inner
  | .style r => by
    rw [siftRule, siftRule, ruleOccurrences]
    exact perm_occurrences_siftStyle groups group r
  | .atRule _ | .fontFace .. | .charset .. | .keyframes .. | .keyframe _ | .comment .. => by
    simp only [siftRule]
    split <;> split <;> exact .refl _

/-- What is sifted out of rules, and what is sifted out of them the other way round, share out
their selectors. -/
theorem perm_occurrences_siftRules (groups : List GroupHead) (group : String) :
    ∀ rules : List Rule, (occurrences groups (siftRules keep others group rules) ++
      occurrences groups (siftRules (fun key s => !keep key s) admitting group rules)).Perm
      (occurrences groups rules)
  | [] => .refl _
  | r :: rest => by
    have head := perm_occurrences_siftRule groups group r
    have tail := perm_occurrences_siftRules groups group rest
    -- the four parts stand in another order than those of the row, so they are counted
    rw [siftRules, siftRules, occurrences_append, occurrences_append, occurrences,
      List.perm_iff_count]
    intro o
    have first := head.count_eq o
    have others := tail.count_eq o
    rw [List.count_append] at first others
    rw [List.count_append, List.count_append, List.count_append, List.count_append]
    omega

end

/-- Other rules carry no selectors, so they may be dropped before. -/
theorem occurrences_siftRules_filter {groups : List GroupHead} {group : String}
    {stays : Rule → Bool} {rules : List Rule}
    (dropped : ∀ r ∈ rules, stays r = false → r.IsOther) :
    occurrences groups (siftRules keep others group (rules.filter stays)) =
      occurrences groups (siftRules keep others group rules) := by
  induction rules with
  | nil => rfl
  | cons r rest ih =>
    have later := ih fun q mem => dropped q (List.mem_cons_of_mem _ mem)
    cases kept : stays r with
    | true =>
      rw [List.filter_cons_of_pos kept, siftRules, siftRules, occurrences_append,
        occurrences_append, later]
    | false =>
      have other := dropped r List.mem_cons_self kept
      rw [List.filter_cons_of_neg (by simp [kept]), later, siftRules, occurrences_append,
        siftRule_of_isOther other]
      split <;> simp [occurrences, ruleOccurrences_of_isOther groups other]

end Partition

open CriticalCss.Partition

namespace Stylesheet

variable (dropKeyframes : Bool) (map : SelectorMap) (sheet : Stylesheet)

/-- The selectors of a stylesheet with all that stands around them. -/
def occurrences : List Occurrence :=
  Partition.occurrences [] sheet

/-- The critical part of a stylesheet is a side of it. -/
theorem side_partition_fst :
    Side (listed map) (inCritical dropKeyframes) "" sheet
      (sheet.partition dropKeyframes map).1 := by
  rw [partition_eq]
  refine Side.of_filter (side_siftRules (fun group kind inner => ?_) _ fun r mem _ => ?_)
    fun r _ dropped => ⟨isOther_of_dropped dropped, fun admitted => ?_⟩
  · simp [inCritical, atTop, inner]
  · have kept := (List.mem_filter.1 mem).2
    simpa [inCritical, atTop] using kept
  · rw [List.contains_iff_mem.2 admitted.2] at dropped
    cases dropped

/-- The rest of a stylesheet is a side of it. -/
theorem side_partition_snd :
    Side (unlisted map) inRest "" sheet (sheet.partition dropKeyframes map).2 := by
  rw [partition_eq]
  exact side_siftRules (fun _ _ _ => by simp [inRest, anywhere]) sheet
    fun _ _ _ => by simp [inRest, anywhere]

/-- Each selector of a stylesheet goes to one of the two parts. -/
theorem perm_occurrences_partition :
    ((sheet.partition dropKeyframes map).1.occurrences ++
      (sheet.partition dropKeyframes map).2.occurrences).Perm sheet.occurrences := by
  rw [partition_eq, occurrences, occurrences,
    occurrences_siftRules_filter fun _ _ dropped => isOther_of_dropped dropped]
  exact perm_occurrences_siftRules [] "" sheet

/-- **A split without memory.** The critical part and the rest are the two sides of the stylesheet
that the map makes with the selectors that it lists under the key of their rule and with those that
it does not; nothing else has a say. Each selector goes to one of them. The map may be given as
data, in any form of the entries. -/
theorem partition_eq_iff_sides :
    (∀ critical rest, sheet.partition dropKeyframes map = (critical, rest) ↔
      Side (listed map) (inCritical dropKeyframes) "" sheet critical ∧
        Side (unlisted map) inRest "" sheet rest) ∧
    ((sheet.partition dropKeyframes map).1.occurrences ++
      (sheet.partition dropKeyframes map).2.occurrences).Perm sheet.occurrences ∧
    ∀ entries, (entries.map Prod.fst).Nodup → (∀ e ∈ entries, SelectorMap.IsEntry e.2) →
      ∃ given, SelectorMap.ofJson? (SelectorMap.data entries) = some given ∧
        ∀ key s, listed given key s = true ↔
          ∃ j, (key, j) ∈ entries ∧ SelectorMap.Lists j s := by
  have first := side_partition_fst dropKeyframes map sheet
  have second := side_partition_snd dropKeyframes map sheet
  refine ⟨fun critical rest => ⟨fun split => ?_, fun sides => ?_⟩,
    perm_occurrences_partition dropKeyframes map sheet, fun entries nodup forms => ?_⟩
  · rw [split] at first second
    exact ⟨first, second⟩
  · exact Prod.ext (first.eq sides.1) (second.eq sides.2)
  · obtain ⟨given, read⟩ := SelectorMap.exists_ofJson? forms
    refine ⟨given, read, fun key s => ?_⟩
    rw [listed, decide_eq_true_eq]
    exact SelectorMap.mem_selectorsOf_ofJson? nodup read

/-- Two rules share a key, one of them in a group in a group, and the map names a selector that no
rule has. -/
theorem partition_eq_iff_sides_of_nested_groups :
    let entries : List (String × Json) :=
      [("@media xa,b", .strings ["b", "c"]), ("a", .obj [("selectors", .strings ["a"])]),
        ("d", .null), ("e", .obj [])]
    let sheet : Stylesheet :=
      [.group .supports "y" [.group .media "x" [.style ⟨["a", "b"], [⟨"c", "d"⟩], none⟩,
        .charset "u" none] none] none, .style ⟨["@media xa", "b"], [], none⟩,
        .style ⟨[], [], none⟩, .charset "v" none]
    let critical : Stylesheet :=
      [.group .supports "y" [.group .media "x" [.style ⟨["b"], [⟨"c", "d"⟩], none⟩] none] none,
        .style ⟨["b"], [], none⟩, .charset "v" none]
    let rest : Stylesheet :=
      [.group .supports "y" [.group .media "x" [.style ⟨["a"], [⟨"c", "d"⟩], none⟩,
        .charset "u" none] none] none, .style ⟨["@media xa"], [], none⟩, .charset "v" none]
    ∃ map, SelectorMap.ofJson? (SelectorMap.data entries) = some map ∧
      Side (listed map) (inCritical true) "" sheet critical ∧
        Side (unlisted map) inRest "" sheet rest ∧ listed map "@media xa,b" "b" = true := by
  intro entries sheet critical rest
  have forms : ∀ e ∈ entries, SelectorMap.IsEntry e.2 := by
    simp only [entries, List.forall_mem_cons]
    exact ⟨.list ["b", "c"], .member rfl, .null, .bare rfl, nofun⟩
  obtain ⟨-, -, data⟩ := partition_eq_iff_sides true [] sheet
  obtain ⟨map, read, lists⟩ := data entries (by decide) forms
  obtain ⟨sides, -⟩ := partition_eq_iff_sides true map sheet
  have split : ((SelectorMap.ofJson? (SelectorMap.data entries)).map fun map =>
      sheet.partition true map) = some (critical, rest) := by decide +kernel
  rw [read, Option.map_some, Option.some.injEq] at split
  obtain ⟨first, second⟩ := (sides critical rest).1 split
  exact ⟨map, read, first, second,
    (lists _ _).2 ⟨_, List.mem_cons_self, .list List.mem_cons_self⟩⟩

end Stylesheet

end CriticalCss
