import CriticalCss.Proofs.Merge

/-!
# Merging is a union without duplicates

The merged stylesheet is the union of the rules that are merged (`Merge.IsUnion`): it holds each of
them up to duplicates, media rules by their conditions, nothing twice and nothing else, in the
order of first occurrence. Merging the same stylesheets once more behind themselves changes nothing
(`Stylesheet.merge_is_union`).
-/

namespace CriticalCss

namespace Merge

/-! ## Media rules of the merged stylesheet -/

theorem mem_mediaWith {condition : String} {rules : List Rule} {g : MediaGroup} :
    g ∈ mediaWith condition rules ↔ g.toRule ∈ rules ∧ sameMedia g.media condition = true := by
  rw [mediaWith, mediaRules, List.mem_filter, List.mem_filterMap]
  refine and_congr_left fun _ => ?_
  constructor
  · intro given
    rcases given with ⟨r, mem, shape⟩
    rw [← mediaGroup?_eq_some_iff.1 shape]
    exact mem
  · intro mem
    exact ⟨g.toRule, mem, rfl⟩

theorem mem_mediaRules {rules : List Rule} {g : MediaGroup} :
    g ∈ mediaRules rules ↔ g.toRule ∈ rules := by
  have own : g ∈ mediaWith g.media rules ↔ _ := mem_mediaWith
  rw [mediaWith, List.mem_filter] at own
  simpa [sameMedia_iff] using own

/-- The first media rule with a condition is the novel one. -/
theorem mediaWith_novel (condition : String) (offered : List Rule) :
    mediaWith condition (novel isCounterpart [] offered) =
      (mediaWith condition offered).head?.toList := by
  induction offered using List.reverseRecOn with
  | nil => rfl
  | append_singleton offered r ih =>
    rw [novel_append_singleton, List.nil_append, mediaWith_append, mediaWith_append, ih]
    cases shape : r.mediaGroup? with
    | none =>
      have silent : mediaWith condition [r] = [] :=
        mediaWith_cons_of_mediaGroup?_eq_none shape condition []
      rw [silent, List.append_nil]
      split
      · exact List.append_nil _
      · rw [silent, List.append_nil]
    | some g =>
      obtain rfl := mediaGroup?_eq_some_iff.1 shape
      by_cases matched : sameMedia g.media condition = true
      · have one : mediaWith condition [g.toRule] = [g] := by
          rw [mediaWith_cons_toRule, if_pos matched]
          rfl
        rw [one, ← mediaWith_congr matched]
        cases known : mediaWith g.media offered with
        | nil =>
          rw [mediaWith_eq_nil_iff.1 known, if_neg Bool.false_ne_true, one]
          rfl
        | cons first rest =>
          have counterpart : offered.any (isCounterpart · g.toRule) = true := by
            rw [← Bool.not_eq_false, ← mediaWith_eq_nil_iff, known]
            exact List.cons_ne_nil _ _
          rw [if_pos counterpart]
          rfl
      · have silent : mediaWith condition [g.toRule] = [] := by
          rw [mediaWith_cons_toRule, if_neg matched]
          rfl
        rw [silent, List.append_nil]
        split
        · exact List.append_nil _
        · rw [silent, List.append_nil]

/-- **One media rule for each condition**: the first one, with the merged rules of all. -/
theorem mediaWith_united (condition : String) (offered : List Rule) :
    mediaWith condition (united offered) =
      match mediaWith condition offered with
      | [] => []
      | first :: rest => [{ first with rules := gathered (first :: rest) }] := by
  have filling : ∀ rules : List Rule, mediaWith condition (rules.map (filled offered)) =
      (mediaWith condition rules).map fun g =>
        { g with rules := gathered (mediaWith g.media offered) } := by
    intro rules
    induction rules with
    | nil => rfl
    | cons r rest ih =>
      cases shape : r.mediaGroup? with
      | none =>
        have same : filled offered r = r := by rw [filled, shape]
        rw [List.map_cons, same, mediaWith_cons_of_mediaGroup?_eq_none shape,
          mediaWith_cons_of_mediaGroup?_eq_none shape, ih]
      | some g =>
        rw [List.map_cons, filled, shape, mediaGroup?_eq_some_iff.1 shape, mediaWith_cons_toRule,
          mediaWith_cons_toRule, ih]
        split <;> rfl
  rw [united, filling, mediaWith_novel]
  cases shape : mediaWith condition offered with
  | nil => rfl
  | cons first rest =>
    have matched : first ∈ mediaWith condition offered := shape ▸ List.mem_cons_self
    rw [List.head?_cons, Option.toList_some, List.map_cons, List.map_nil,
      mediaWith_congr (mem_mediaWith.1 matched).2, shape]

/-! ## The union -/

/-- The stylesheet is the union of the rules that are offered, without duplicates. -/
structure IsUnion (offered : List Rule) (merged : Stylesheet) : Prop where
  /-- No two rules that are not media rules are duplicates. -/
  rules_apart : (merged.filter fun r => r.mediaGroup?.isNone).Pairwise fun a b =>
    a.isDuplicate positionMembers b = false ∧ b.isDuplicate positionMembers a = false
  /-- No two media rules have the same condition. -/
  media_apart : (mediaRules merged).Pairwise fun g h => sameMedia g.media h.media = false
  /-- Every rule that is no media rule has a duplicate. -/
  rules_held : ∀ r ∈ offered, r.mediaGroup? = none →
    ∃ known ∈ merged, known.isDuplicate positionMembers r = true
  /-- Every media rule has one media rule with its condition, which has duplicates of its rules. -/
  media_held : ∀ g ∈ mediaRules offered, ∃ h, mediaWith g.media merged = [h] ∧
    ∀ r ∈ g.rules, ∃ known ∈ h.rules, known.isDuplicate positionMembers r = true
  /-- Every rule that is no media rule was offered. -/
  rules_found : ∀ r ∈ merged, r.mediaGroup? = none → r ∈ offered
  /-- Every rule inside a media rule was offered inside one with this condition. -/
  media_found : ∀ h ∈ mediaRules merged, ∀ r ∈ h.rules,
    ∃ g ∈ mediaWith h.media offered, r ∈ g.rules
  /-- The rules stand in the order in which counterparts of them were first offered. -/
  in_order : merged.Pairwise fun a b =>
    offered.findIdx (isCounterpart · a) < offered.findIdx (isCounterpart · b)
  /-- A media rule is the first one with its condition. Its rules are followed by those of the
  others with the condition that have no duplicate before them, in their order. -/
  media_in_order : ∀ h ∈ mediaRules merged, ∃ first rest,
    mediaWith h.media offered = first :: rest ∧
      h.media = first.media ∧ h.position = first.position ∧
      h.rules = first.rules ++
        novel (Rule.isDuplicate positionMembers) first.rules (rest.flatMap (·.rules))

variable {offered extra : List Rule}

/-- A media rule of the merged stylesheet is the first one with its condition, with the merged
rules of all. -/
theorem exists_mediaWith_of_mem_united {h : MediaGroup} (mem : h ∈ mediaRules (united offered)) :
    ∃ first rest, mediaWith h.media offered = first :: rest ∧
      h = { first with rules := gathered (first :: rest) } := by
  have own : h ∈ mediaWith h.media (united offered) :=
    mem_mediaWith.2 ⟨mem_mediaRules.1 mem, sameMedia_iff.2 rfl⟩
  rw [mediaWith_united] at own
  cases shape : mediaWith h.media offered with
  | nil =>
    rw [shape] at own
    cases own
  | cons first rest =>
    rw [shape, List.mem_singleton] at own
    exact ⟨first, rest, rfl, own⟩

/-- The merged rules of media rules have duplicates of the rules of each. -/
theorem exists_mem_gathered {gs : List MediaGroup} {g : MediaGroup} (mem : g ∈ gs) {r : Rule}
    (inside : r ∈ g.rules) : ∃ known ∈ gathered gs, known.isDuplicate positionMembers r = true := by
  cases gs with
  | nil => cases mem
  | cons first rest =>
    rcases List.mem_cons.1 mem with rfl | later
    · exact ⟨r, List.mem_append_left _ inside, matching_isDuplicate.refl r⟩
    · exact matching_isDuplicate.exists_novel _ (List.mem_flatMap.2 ⟨g, later, inside⟩)

theorem exists_mem_of_mem_gathered {gs : List MediaGroup} {r : Rule} (mem : r ∈ gathered gs) :
    ∃ g ∈ gs, r ∈ g.rules := by
  cases gs with
  | nil => cases mem
  | cons first rest =>
    rcases List.mem_append.1 mem with here | later
    · exact ⟨first, List.mem_cons_self, here⟩
    · obtain ⟨g, among, inside⟩ := List.mem_flatMap.1 ((sublist_novel _ _).subset later)
      exact ⟨g, List.mem_cons_of_mem _ among, inside⟩

theorem filled_of_mediaGroup?_eq_none {r : Rule} (plain : r.mediaGroup? = none) :
    filled offered r = r := by
  rw [filled, plain]

theorem mediaGroup?_filled_eq_none_iff {r : Rule} :
    (filled offered r).mediaGroup? = none ↔ r.mediaGroup? = none := by
  unfold filled
  cases shape : r.mediaGroup? with
  | none => simp [shape]
  | some g => simp

theorem isUnion_united (offered : List Rule) : IsUnion offered (united offered) where
  rules_apart := by
    refine (((pairwise_united offered).filter _).imp_of_mem fun {a b} _ mem apart => ?_)
    rw [isCounterpart_of_mediaGroup?_eq_none (by simpa using (List.mem_filter.1 mem).2)] at apart
    exact ⟨apart, Rule.isDuplicate_comm b a ▸ apart⟩
  media_apart := by
    rw [mediaRules, List.pairwise_filterMap]
    refine (pairwise_united offered).imp fun {a b} apart g hg h hh => ?_
    rw [mediaGroup?_eq_some_iff.1 hg, isCounterpart_toRule, hh, Option.any_some] at apart
    exact apart
  rules_held r mem plain := by
    obtain ⟨q, novel, counterpart⟩ := matching_isCounterpart.exists_novel [] mem
    rw [List.nil_append] at novel
    refine ⟨filled offered q, List.mem_map_of_mem novel, ?_⟩
    rw [← isCounterpart_of_mediaGroup?_eq_none plain, isCounterpart_filled]
    exact counterpart
  media_held g mem := by
    have own : g ∈ mediaWith g.media offered :=
      mem_mediaWith.2 ⟨mem_mediaRules.1 mem, sameMedia_iff.2 rfl⟩
    cases shape : mediaWith g.media offered with
    | nil =>
      rw [shape] at own
      cases own
    | cons first rest =>
      rw [shape] at own
      have one : mediaWith g.media (united offered) =
          [{ first with rules := gathered (first :: rest) }] := by
        rw [mediaWith_united, shape]
      exact ⟨_, one, fun r inside => exists_mem_gathered own inside⟩
  rules_found r mem plain := by
    obtain ⟨q, novel, rfl⟩ := List.mem_map.1 mem
    rw [filled_of_mediaGroup?_eq_none (mediaGroup?_filled_eq_none_iff.1 plain)]
    exact (sublist_novel [] offered).subset novel
  media_found h mem r inside := by
    obtain ⟨first, rest, shape, whole⟩ := exists_mediaWith_of_mem_united mem
    rw [whole] at inside
    rw [shape]
    exact exists_mem_of_mem_gathered inside
  in_order := by
    rw [united, List.pairwise_map]
    simp only [isCounterpart_filled_right]
    exact matching_isCounterpart.pairwise_findIdx_novel offered
  media_in_order h mem := by
    obtain ⟨first, rest, shape, whole⟩ := exists_mediaWith_of_mem_united mem
    rw [shape, whole]
    exact ⟨first, rest, rfl, rfl, rfl, rfl⟩

/-! ## Merging once more -/

/-- Media rules with rules that were merged before add nothing. -/
theorem gathered_append_of_subset {gs hs : List MediaGroup} (known : hs ⊆ gs) :
    gathered (gs ++ hs) = gathered gs := by
  cases gs with
  | nil => rw [List.subset_nil.1 known, List.append_nil]
  | cons first rest =>
    have seen : novel (Rule.isDuplicate positionMembers)
        (first.rules ++ rest.flatMap (·.rules)) (hs.flatMap (·.rules)) = [] := by
      apply novel_eq_nil
      intro r mem
      obtain ⟨g, among, inside⟩ := List.mem_flatMap.1 mem
      have earlier : r ∈ first.rules ++ rest.flatMap (·.rules) := by
        rw [← List.flatMap_cons]
        exact List.mem_flatMap.2 ⟨g, known among, inside⟩
      exact List.any_eq_true.2 ⟨r, earlier, matching_isDuplicate.refl r⟩
    rw [List.cons_append, gathered, List.flatMap_append, novel_append, seen, List.append_nil,
      gathered]

/-- Rules that were offered before add nothing. -/
theorem united_append_of_subset (known : extra ⊆ offered) :
    united (offered ++ extra) = united offered := by
  have seen : novel isCounterpart ([] ++ offered) extra = [] := by
    apply novel_eq_nil
    intro r mem
    exact List.any_eq_true.2 ⟨r, known mem, matching_isCounterpart.refl r⟩
  have filling : filled (offered ++ extra) = filled offered := by
    funext r
    unfold filled
    split
    · rename_i g _
      have fewer : mediaWith g.media extra ⊆ mediaWith g.media offered := by
        intro h mem
        rw [mem_mediaWith] at mem ⊢
        exact ⟨known mem.1, mem.2⟩
      rw [mediaWith_append, gathered_append_of_subset fewer]
    · rfl
  rw [united, novel_append, seen, List.append_nil, filling, united]

end Merge

namespace Stylesheet

/-- **Merging is a union without duplicates.** Let groups hold only what they may hold. Then the
merged stylesheet is the union of the rules of all stylesheets, comments left out, and merging the
same stylesheets once more behind themselves gives it again. -/
theorem merge_is_union {sheets : List Stylesheet} (fold : ∀ sheet ∈ sheets, sheet.Foldable) :
    Merge.IsUnion (offered sheets) (merge sheets) ∧ merge (sheets ++ sheets) = merge sheets := by
  have twice : ∀ sheet ∈ sheets ++ sheets, sheet.Foldable :=
    List.forall_mem_append.2 ⟨fold, fold⟩
  have rules : offered (sheets ++ sheets) = offered sheets ++ offered sheets := by
    rw [offered, List.flatten_append, List.filter_append, offered]
  rw [merge_eq twice, merge_eq fold, rules]
  exact ⟨Merge.isUnion_united _, Merge.united_append_of_subset fun _ => id⟩

/-- Two media rules have the same condition in two spellings; the first has a rule twice, which the
other has with its declarations in another order. -/
theorem merge_is_union_of_two_spellings :
    let rule (selector : String) (names : List String) (line : Nat) : Rule :=
      .style ⟨[selector], names.map fun name => ⟨name, "v"⟩, some ⟨line, 1⟩⟩
    let sheets : List Stylesheet := [
      [.comment "x" none, rule "a" ["c", "d"] 1,
        .group .media "all  and (p)" [rule "b" ["c", "d"] 2, rule "b" ["c", "d"] 3] none],
      [.group .media "(p)" [rule "b" ["d", "c"] 4, .atRule ⟨"layer", "y", none, none⟩] none,
        rule "a" ["d", "c"] 5, rule "a" ["c"] 6]]
    (∀ sheet ∈ sheets, sheet.Foldable) ∧ Merge.IsUnion (offered sheets) (merge sheets) ∧
      merge (sheets ++ sheets) = merge sheets ∧
      merge sheets = [rule "a" ["c", "d"] 1,
        .group .media "all  and (p)" [rule "b" ["c", "d"] 2, rule "b" ["c", "d"] 3,
          .atRule ⟨"layer", "y", none, none⟩] none,
        rule "a" ["c"] 6] := by
  intro rule sheets
  have fold : ∀ sheet ∈ sheets, sheet.Foldable := by decide
  obtain ⟨union, again⟩ := merge_is_union fold
  exact ⟨fold, union, again, by decide +kernel⟩

end Stylesheet

end CriticalCss
