import CriticalCss.Proofs.Merge.Union

/-!
# Media rules are joined and sorted

The media rules of a sorted stylesheet are one for each condition, with the rules of all media rules
that have it, in the order of their keys and, where keys are equal, in the order of their first
occurrence (`Stylesheet.MediaSorted`). The other rules stand before them as they were, and sorting
once more changes nothing (`Stylesheet.sortMediaText_sorts`).
-/

namespace CriticalCss

open Merge

/-! ## Joining -/

namespace MediaGroup

/-- The two media rules have the same condition. -/
def sameCondition (g h : MediaGroup) : Bool :=
  sameMedia g.media h.media

theorem sameCondition_iff {g h : MediaGroup} :
    g.sameCondition h = true ↔ normalizeMedia g.media = normalizeMedia h.media :=
  sameMedia_iff

theorem sameCondition_comm (g h : MediaGroup) : g.sameCondition h = h.sameCondition g :=
  sameMedia_comm g.media h.media

theorem matching_sameCondition : Matching sameCondition where
  refl _ := sameCondition_iff.2 rfl
  trans _ _ _ ab bc := sameCondition_iff.2 ((sameCondition_iff.1 ab).trans (sameCondition_iff.1 bc))

/-- The media rule with the rules of all media rules that have its condition. -/
def joined (all : List MediaGroup) (g : MediaGroup) : MediaGroup :=
  { g with rules := (all.filter (·.sameCondition g)).flatMap (·.rules) }

/-- The media rule with the rules of another one behind its own, if that has its condition. -/
def extended (extra g : MediaGroup) : MediaGroup :=
  if g.sameCondition extra then { g with rules := g.rules ++ extra.rules } else g

/-- Media rules with other conditions are not extended. -/
theorem map_extended_of_any_eq_false {groups : List MediaGroup} {g : MediaGroup}
    (apart : groups.any (·.sameCondition g) = false) : groups.map (extended g) = groups := by
  refine (List.map_congr_left fun h mem => ?_).trans (List.map_id groups)
  rw [extended, if_neg (List.any_eq_false.1 apart h mem)]
  rfl

/-- Among media rules with different conditions, at most one is extended. -/
theorem join_eq (g : MediaGroup) {groups : List MediaGroup}
    (apart : groups.Pairwise fun a b => a.sameCondition b = false) :
    g.join groups =
      if groups.any (·.sameCondition g) then groups.map (extended g) else groups ++ [g] := by
  induction groups with
  | nil => rfl
  | cons first rest ih =>
    obtain ⟨own, others⟩ := List.pairwise_cons.1 apart
    rw [join, List.any_cons, List.map_cons, extended, ← sameCondition]
    by_cases matched : first.sameCondition g = true
    · have unknown : rest.any (·.sameCondition g) = false := by
        rw [List.any_eq_false]
        intro h mem same
        have equal := matching_sameCondition.trans first g h matched (sameCondition_comm h g ▸ same)
        rw [own h mem] at equal
        cases equal
      rw [matched, map_extended_of_any_eq_false unknown]
      rfl
    · rw [if_neg matched, if_neg matched, ih others, Bool.eq_false_iff.2 matched, Bool.false_or]
      split <;> rfl

theorem sameCondition_joined (gs : List MediaGroup) (g h : MediaGroup) :
    (joined gs g).sameCondition h = g.sameCondition h := by
  rw [sameCondition, sameCondition, joined]

theorem joined_append_singleton (gs : List MediaGroup) (g h : MediaGroup) :
    joined (gs ++ [g]) h = extended g (joined gs h) := by
  rw [extended, sameCondition_joined, joined, List.filter_append, List.flatMap_append,
    List.filter_cons, sameCondition_comm g h]
  split
  · rw [List.filter_nil, List.flatMap_singleton, joined]
  · rw [List.filter_nil, List.flatMap_nil, List.append_nil, joined]

/-- The first media rule with a condition has its own rules only. -/
theorem joined_append_self {gs : List MediaGroup} {g : MediaGroup}
    (new : gs.any (·.sameCondition g) = false) : joined (gs ++ [g]) g = g := by
  have none : gs.filter (·.sameCondition g) = [] :=
    List.filter_eq_nil_iff.2 (List.any_eq_false.1 new)
  rw [joined, List.filter_append, none, List.nil_append, List.filter_cons,
    matching_sameCondition.refl g, if_pos rfl, List.filter_nil, List.flatMap_singleton]

theorem any_map_joined (gs : List MediaGroup) (g : MediaGroup) :
    ((novel sameCondition [] gs).map (joined gs)).any (·.sameCondition g) =
      gs.any (·.sameCondition g) := by
  have represented := matching_sameCondition.any_novel [] gs g
  rw [List.nil_append, List.nil_append] at represented
  rw [List.any_map, ← represented]
  simp only [Function.comp_def, sameCondition_joined]

theorem pairwise_map_joined (all : List MediaGroup) {gs : List MediaGroup}
    (apart : gs.Pairwise fun a b => a.sameCondition b = false) :
    (gs.map (joined all)).Pairwise fun a b => a.sameCondition b = false := by
  rw [List.pairwise_map]
  apply apart.imp
  intro a b different
  rw [sameCondition_joined, sameCondition_comm, sameCondition_joined, sameCondition_comm]
  exact different

/-- **What joining gives.** The first media rule of each condition, with the rules of all that have
the condition. -/
theorem foldl_join (gs : List MediaGroup) :
    gs.foldl (fun groups g => g.join groups) [] =
      (novel sameCondition [] gs).map (joined gs) := by
  induction gs using List.reverseRecOn with
  | nil => rfl
  | append_singleton gs g ih =>
    have rows : (novel sameCondition [] gs).map (joined (gs ++ [g])) =
        ((novel sameCondition [] gs).map (joined gs)).map (extended g) := by
      rw [List.map_map]
      apply List.map_congr_left
      intro h _
      rw [Function.comp_apply, joined_append_singleton]
    rw [List.foldl_append, List.foldl_cons, List.foldl_nil, ih,
      join_eq g (pairwise_map_joined gs (pairwise_novel [] gs)), any_map_joined,
      novel_append_singleton, List.nil_append, List.map_append, rows]
    by_cases known : gs.any (·.sameCondition g) = true
    · rw [if_pos known, if_pos known, List.map_nil, List.append_nil]
    · have new : gs.any (·.sameCondition g) = false := Bool.eq_false_iff.2 known
      rw [if_neg known, if_neg known, List.map_singleton, joined_append_self new,
        map_extended_of_any_eq_false ((any_map_joined gs g).trans new)]

/-- The first media rules of the conditions list each condition once. -/
theorem map_novel_sameCondition (gs : List MediaGroup) :
    (novel sameCondition [] gs).map (fun g => normalizeMedia g.media) =
      (gs.map fun g => normalizeMedia g.media).eraseDups := by
  induction gs using List.reverseRecOn with
  | nil => rfl
  | append_singleton gs g ih =>
    have known : gs.any (·.sameCondition g) = true ↔
        normalizeMedia g.media ∈ gs.map fun g => normalizeMedia g.media := by
      simp only [List.any_eq_true, sameCondition_iff, List.mem_map]
    rw [novel_append_singleton, List.nil_append, List.map_append, List.map_append, ih,
      List.map_singleton, eraseDups_append_singleton]
    by_cases found : gs.any (·.sameCondition g) = true
    · rw [if_pos found, if_pos (known.1 found), List.map_nil]
    · rw [if_neg found, if_neg (mt known.2 found), List.map_singleton]

/-- Where all conditions differ, joining changes nothing. -/
theorem foldl_join_eq_self {groups : List MediaGroup}
    (apart : groups.Pairwise fun a b => a.sameCondition b = false) :
    groups.foldl (fun groups g => g.join groups) [] = groups := by
  induction groups using List.reverseRecOn with
  | nil => rfl
  | append_singleton groups g ih =>
    rw [List.pairwise_append] at apart
    have new : groups.any (·.sameCondition g) = false := by
      rw [List.any_eq_false]
      intro h mem
      rw [apart.2.2 h mem g List.mem_cons_self]
      exact Bool.false_ne_true
    rw [List.foldl_append, List.foldl_cons, List.foldl_nil, ih apart.1, join_eq g apart.1, new,
      if_neg Bool.false_ne_true]

end MediaGroup

/-! ## The kinds that come first and last -/

namespace MediaCondition

/-- The condition is of the kind that the order puts first: its first bound is one on the width, a
lower one for mobile-first and an upper one for desktop-first. -/
def Leads (order : MediaOrder) (media : String) : Prop :=
  namesPrint false media.toList = false ∧ ∃ bound, findBound? media.toList = some bound ∧
    bound.width = true ∧ bound.lower = decide (order = .mobileFirst)

/-- The kind of a condition in an order. -/
theorem rank_key (order : MediaOrder) (media : String) :
    (key order media).rank =
      if namesPrint false media.toList then 5
      else
        match findBound? media.toList with
        | none => 4
        | some bound =>
          (if bound.lower = decide (order = .mobileFirst) then 0 else 2) +
            if bound.width then 0 else 1 := by
  unfold key
  split
  · rfl
  · cases findBound? media.toList with
    | none => rfl
    | some bound =>
      obtain ⟨lower, width, value⟩ := bound
      cases order <;> cases lower <;> cases width <;> rfl

theorem rank_key_eq_zero_iff {order : MediaOrder} {media : String} :
    (key order media).rank = 0 ↔ Leads order media := by
  rw [rank_key, Leads]
  cases namesPrint false media.toList with
  | true => simp
  | false => cases findBound? media.toList <;> simp [and_comm]

theorem rank_key_eq_five_iff {order : MediaOrder} {media : String} :
    (key order media).rank = 5 ↔ namesPrint false media.toList = true := by
  rw [rank_key]
  split
  · simp [*]
  · simp only [*]
    split
    · simp
    · grind

theorem rank_key_le (order : MediaOrder) (media : String) : (key order media).rank ≤ 5 := by
  rw [rank_key]
  split
  · exact Nat.le_refl 5
  · split <;> grind

end MediaCondition

/-! ## What sorting gives -/

namespace Stylesheet

open MediaGroup

/-- The first of the two media rules stands before the second one: its key is less, or the keys do
not tell the two apart and its condition is the one that the sheet has first. -/
def MediaBefore (order : MediaOrder) (sheet : Stylesheet) (g h : MediaGroup) : Prop :=
  (MediaCondition.key order g.media).le (MediaCondition.key order h.media) = true ∧
    ((MediaCondition.key order h.media).le (MediaCondition.key order g.media) = true →
      (mediaRules sheet).findIdx (fun q => sameMedia q.media g.media) <
        (mediaRules sheet).findIdx fun q => sameMedia q.media h.media)

theorem MediaBefore.rank_le {order : MediaOrder} {sheet : Stylesheet} {g h : MediaGroup}
    (before : MediaBefore order sheet g h) :
    (MediaCondition.key order g.media).rank ≤ (MediaCondition.key order h.media).rank := by
  have le := before.1
  simp only [MediaKey.le, Bool.or_eq_true, Bool.and_eq_true, decide_eq_true_eq] at le
  omega

/-- The media rules are those of the sheet, joined and sorted. -/
structure MediaSorted (order : MediaOrder) (sheet : Stylesheet) (groups : List MediaGroup) :
    Prop where
  /-- There is one media rule for each condition. -/
  conditions : (groups.map fun g => normalizeMedia g.media).Perm
    ((mediaRules sheet).map fun g => normalizeMedia g.media).eraseDups
  /-- Each is the first one with its condition, and has the rules of all of them in their order. -/
  whole : ∀ g ∈ groups, ∃ first rest, mediaWith g.media sheet = first :: rest ∧
    g = { first with rules := (first :: rest).flatMap (·.rules) }
  /-- They stand in the order of their keys, and where keys are equal in that of the sheet. -/
  in_order : groups.Pairwise (MediaBefore order sheet)
  /-- Before a condition of the kind that the order puts first, there are only such conditions. -/
  leading_first : groups.Pairwise fun g h =>
    MediaCondition.Leads order h.media → MediaCondition.Leads order g.media
  /-- Behind a condition that names `print`, there are only such conditions. -/
  print_last : groups.Pairwise fun g h =>
    MediaCondition.namesPrint false g.media.toList = true →
      MediaCondition.namesPrint false h.media.toList = true

/-- The rules that are no media rules, and the given media rules behind them. -/
def arranged (sheet : Stylesheet) (groups : List MediaGroup) : Stylesheet :=
  sheet.filter (fun r => r.mediaGroup?.isNone) ++ groups.map MediaGroup.toRule

/-- The media rules of the sorted stylesheet. -/
def sortedGroups (order : MediaOrder) (sheet : Stylesheet) : List MediaGroup :=
  (mediaGroups sheet).mergeSort fun a b =>
    (MediaCondition.key order a.media).le (MediaCondition.key order b.media)

theorem sortMedia_eq (order : MediaOrder) (sheet : Stylesheet) :
    sheet.sortMedia order = sheet.arranged (sortedGroups order sheet) :=
  rfl

variable {order : MediaOrder} {sheet : Stylesheet}

theorem mediaGroups_eq (sheet : Stylesheet) :
    mediaGroups sheet =
      (novel sameCondition [] (mediaRules sheet)).map (joined (mediaRules sheet)) :=
  foldl_join (mediaRules sheet)

theorem mem_sortedGroups {g : MediaGroup} : g ∈ sortedGroups order sheet ↔ g ∈ mediaGroups sheet :=
  List.mem_mergeSort

theorem pairwise_mediaGroups (sheet : Stylesheet) :
    (mediaGroups sheet).Pairwise fun a b => a.sameCondition b = false := by
  rw [mediaGroups_eq]
  exact pairwise_map_joined _ (pairwise_novel [] _)

theorem pairwise_sortedGroups (order : MediaOrder) (sheet : Stylesheet) :
    (sortedGroups order sheet).Pairwise fun a b => a.sameCondition b = false := by
  apply (List.mergeSort_perm _ _).symm.pairwise (pairwise_mediaGroups sheet)
  intro a b apart
  rw [sameCondition_comm]
  exact apart

/-- The media rules stand in the order in which their conditions first occur. -/
theorem pairwise_findIdx_mediaGroups (sheet : Stylesheet) :
    (mediaGroups sheet).Pairwise fun g h =>
      (mediaRules sheet).findIdx (fun q => sameMedia q.media g.media) <
        (mediaRules sheet).findIdx fun q => sameMedia q.media h.media := by
  rw [mediaGroups_eq, List.pairwise_map]
  exact matching_sameCondition.pairwise_findIdx_novel (mediaRules sheet)

theorem pairwise_mediaBefore (order : MediaOrder) (sheet : Stylesheet) :
    (sortedGroups order sheet).Pairwise (MediaBefore order sheet) := by
  apply pairwise_mergeSort_stable
  · exact fun _ _ _ => MediaKey.le_trans
  · exact fun _ _ => MediaKey.le_total _ _
  · exact pairwise_findIdx_mediaGroups sheet

/-- **What sorting gives.** -/
theorem mediaSorted_sortedGroups (order : MediaOrder) (sheet : Stylesheet) :
    MediaSorted order sheet (sortedGroups order sheet) where
  conditions := by
    refine ((List.mergeSort_perm (mediaGroups sheet) _).map _).trans (List.Perm.of_eq ?_)
    rw [mediaGroups_eq, List.map_map, ← map_novel_sameCondition]
    rfl
  whole g mem := by
    rw [mem_sortedGroups, mediaGroups_eq] at mem
    rcases List.mem_map.1 mem with ⟨first, new, rfl⟩
    obtain ⟨rest, all⟩ := matching_sameCondition.exists_filter_of_mem_novel new
    refine ⟨first, rest, all, ?_⟩
    rw [joined, all]
  in_order := pairwise_mediaBefore order sheet
  leading_first := by
    apply (pairwise_mediaBefore order sheet).imp
    intro g h before leads
    rw [← MediaCondition.rank_key_eq_zero_iff] at leads ⊢
    have ranks := before.rank_le
    omega
  print_last := by
    apply (pairwise_mediaBefore order sheet).imp
    intro g h before print
    rw [← @MediaCondition.rank_key_eq_five_iff order] at print ⊢
    have ranks := before.rank_le
    have bounded := MediaCondition.rank_key_le order h.media
    omega

/-! ## Sorting once more -/

theorem filterMap_mediaGroup?_filter (sheet : Stylesheet) :
    (sheet.filter fun r => r.mediaGroup?.isNone).filterMap Rule.mediaGroup? = [] := by
  rw [List.filterMap_eq_nil_iff]
  intro r mem
  simpa using (List.mem_filter.1 mem).2

theorem mediaRules_arranged (sheet : Stylesheet) (groups : List MediaGroup) :
    mediaRules (sheet.arranged groups) = groups := by
  rw [arranged, mediaRules_append, mediaRules, filterMap_mediaGroup?_filter, List.nil_append,
    mediaRules, List.filterMap_map]
  exact List.filterMap_some

theorem arranged_arranged (sheet : Stylesheet) (groups others : List MediaGroup) :
    (sheet.arranged groups).arranged others = sheet.arranged others := by
  have none : (groups.map MediaGroup.toRule).filter (fun r => r.mediaGroup?.isNone) = [] := by
    rw [List.filter_eq_nil_iff]
    intro r mem
    obtain ⟨g, -, rfl⟩ := List.mem_map.1 mem
    exact Bool.false_ne_true
  rw [arranged, arranged, List.filter_append, List.filter_filter, none, List.append_nil]
  simp only [Bool.and_self, arranged]

/-- Media rules that are joined and sorted stay as they are. -/
theorem sortMedia_arranged (order : MediaOrder) (sheet : Stylesheet) :
    (sheet.arranged (sortedGroups order sheet)).sortMedia order =
      sheet.arranged (sortedGroups order sheet) := by
  have same : mediaGroups (sheet.arranged (sortedGroups order sheet)) =
      sortedGroups order sheet := by
    rw [mediaGroups, ← mediaRules, mediaRules_arranged]
    exact foldl_join_eq_self (pairwise_sortedGroups order sheet)
  have sorted := (pairwise_mediaBefore order sheet).imp And.left
  rw [sortMedia_eq, arranged_arranged]
  congr 1
  rw [sortedGroups, same]
  exact List.mergeSort_of_pairwise sorted

/-- **Sorting loses nothing and is stable.** The text of a stylesheet that was read is sorted by
writing the rules that are no media rules as they stand, and behind them the media rules, joined and
sorted. To sort what is written once more changes nothing. -/
theorem sortMediaText_sorts (order : MediaOrder) {css : String} (read : parse css = .ok sheet) :
    ∃ groups, MediaSorted order sheet groups ∧
      sortMediaText order css = .ok ((sheet.arranged groups).print .compressed) ∧
      (sheet.arranged groups).sortMedia order = sheet.arranged groups := by
  refine ⟨_, mediaSorted_sortedGroups order sheet, ?_, sortMedia_arranged order sheet⟩
  rw [sortMediaText, read]
  rfl

/-- A condition is spelled in two ways, with the same rule under both. -/
theorem sortMediaText_sorts_of_two_spellings :
    let css := "@media print\x7ba\x7b\x7d\x7d@media p\x7bb\x7b\x7d\x7dc\x7b\x7d" ++
      "@media all and p\x7bb\x7b\x7d\x7d"
    let style (selector : String) (column : Nat) : Rule :=
      .style ⟨[selector], [], some ⟨1, column⟩⟩
    let media (condition : String) (inner : Rule) (column : Nat) : Rule :=
      .group .media condition [inner] (some ⟨1, column⟩)
    let sheet : Stylesheet := [media "print" (style "a" 14) 1, media "p" (style "b" 27) 18,
      style "c" 31, media "all and p" (style "b" 51) 34]
    parse css = .ok sheet ∧
      ∃ groups, MediaSorted .mobileFirst sheet groups ∧
        sortMediaText .mobileFirst css = .ok ((sheet.arranged groups).print .compressed) ∧
        (sheet.arranged groups).sortMedia .mobileFirst = sheet.arranged groups ∧
        ∀ g ∈ groups, normalizeMedia g.media = "p" → g.rules = [style "b" 27, style "b" 51] := by
  intro css style media sheet
  have read : parse css = .ok sheet := by decide +kernel
  obtain ⟨groups, sorted, text, again⟩ := sortMediaText_sorts .mobileFirst read
  refine ⟨read, groups, sorted, text, again, fun g mem same => ?_⟩
  have spelled : sameMedia g.media "p" = true := by
    rw [sameMedia_iff, same]
    decide
  obtain ⟨first, rest, all, whole⟩ := sorted.whole g mem
  have rules : g.rules = (mediaWith g.media sheet).flatMap (·.rules) := by
    rw [all]
    exact congrArg MediaGroup.rules whole
  rw [rules, mediaWith_congr spelled]
  decide +kernel

end Stylesheet

end CriticalCss
