import CriticalCss.Finalize
import CriticalCss.Merge
import CriticalCss.Proofs.RuleMap.Fold
import CriticalCss.Proofs.Stylesheet.Duplicate

/-!
# Merging keeps what is novel

`Merge.novel` lists the elements of a list that have a counterpart neither in what was seen before
nor among the elements before them. Merging stylesheets gives `Merge.united` of their rules
(`Stylesheet.merge_eq`): the novel ones among them, where media rules with the same condition are
counterparts and other rules if they are duplicates. A media rule of the result has the rules of
the first one with its condition, and of the others with the condition the novel rules.
-/

namespace CriticalCss

namespace Merge

/-! ## What is novel -/

section Novel

variable {α : Type} {same : α → α → Bool}

/-- The elements of a list that have a counterpart neither in `seen` nor before them. -/
def novel (same : α → α → Bool) : (seen as : List α) → List α
  | _, [] => []
  | seen, a :: rest =>
    (if seen.any (same · a) then [] else [a]) ++ novel same (seen ++ [a]) rest

theorem novel_nil (seen : List α) : novel same seen [] = [] := rfl

theorem novel_cons (seen : List α) (a : α) (as : List α) :
    novel same seen (a :: as) =
      (if seen.any (same · a) then [] else [a]) ++ novel same (seen ++ [a]) as := rfl

theorem novel_append (seen as bs : List α) :
    novel same seen (as ++ bs) = novel same seen as ++ novel same (seen ++ as) bs := by
  induction as generalizing seen with
  | nil => rw [List.nil_append, List.append_nil, novel_nil, List.nil_append]
  | cons a as ih =>
    rw [List.cons_append, novel_cons, ih, novel_cons, List.append_assoc, List.append_assoc,
      List.singleton_append]

theorem novel_append_singleton (seen as : List α) (a : α) :
    novel same seen (as ++ [a]) =
      novel same seen as ++ if (seen ++ as).any (same · a) then [] else [a] := by
  rw [novel_append, novel_cons, novel_nil, List.append_nil]

theorem sublist_novel (seen as : List α) : (novel same seen as).Sublist as := by
  induction as generalizing seen with
  | nil => exact List.Sublist.refl _
  | cons a as ih =>
    rw [novel_cons]
    split
    · exact (ih _).cons a
    · exact (ih _).cons_cons a

theorem any_eq_false_of_mem_novel {seen as : List α} {a : α} (mem : a ∈ novel same seen as) :
    seen.any (same · a) = false := by
  induction as generalizing seen with
  | nil => cases mem
  | cons b as ih =>
    rw [novel_cons, List.mem_append] at mem
    rcases mem with here | later
    · split at here
      · cases here
      · rename_i new
        rw [List.mem_singleton] at here
        subst here
        exact Bool.eq_false_iff.2 new
    · have none := ih later
      rw [List.any_append, Bool.or_eq_false_iff] at none
      exact none.1

/-- No novel element has a counterpart among those before it. -/
theorem pairwise_novel (seen as : List α) :
    (novel same seen as).Pairwise fun a b => same a b = false := by
  induction as generalizing seen with
  | nil => exact List.Pairwise.nil
  | cons a as ih =>
    rw [novel_cons]
    split
    · exact ih _
    · refine List.pairwise_cons.2 ⟨fun b mem => ?_, ih _⟩
      have none := any_eq_false_of_mem_novel mem
      rw [List.any_append, Bool.or_eq_false_iff] at none
      simpa using none.2

/-- Nothing is novel where everything has been seen. -/
theorem novel_eq_nil {seen as : List α} (known : ∀ a ∈ as, seen.any (same · a) = true) :
    novel same seen as = [] := by
  rw [List.eq_nil_iff_forall_not_mem]
  intro a mem
  have new := any_eq_false_of_mem_novel mem
  rw [known a ((sublist_novel seen as).subset mem)] at new
  cases new

/-- Of what was seen it only counts what it has counterparts of. -/
theorem novel_congr {seen others as : List α}
    (alike : ∀ a, seen.any (same · a) = others.any (same · a)) :
    novel same seen as = novel same others as := by
  induction as generalizing seen others with
  | nil => rfl
  | cons a as ih =>
    rw [novel_cons, novel_cons, alike a]
    refine congrArg (_ ++ ·) (ih fun b => ?_)
    rw [List.any_append, List.any_append, alike b]

/-- Elements are counterparts of themselves, and of what their counterparts are counterparts of. -/
structure Matching (same : α → α → Bool) : Prop where
  refl : ∀ a, same a a = true
  trans : ∀ a b c, same a b = true → same b c = true → same a c = true

/-- Every element has a counterpart that was seen or is novel. -/
theorem Matching.exists_novel (matching : Matching same) (seen : List α) {as : List α} {a : α}
    (mem : a ∈ as) : ∃ b ∈ seen ++ novel same seen as, same b a = true := by
  induction as generalizing seen with
  | nil => cases mem
  | cons first as ih =>
    have held : ∃ b ∈ seen ++ if seen.any (same · first) then [] else [first],
        same b first = true := by
      split
      · rename_i known
        obtain ⟨b, inside, counterpart⟩ := List.any_eq_true.1 known
        exact ⟨b, List.mem_append_left _ inside, counterpart⟩
      · exact ⟨first, List.mem_append_right _ List.mem_cons_self, matching.refl first⟩
    obtain ⟨b, inside, counterpart⟩ := held
    have kept : b ∈ seen ++ novel same seen (first :: as) := by
      rw [novel_cons, ← List.append_assoc]
      exact List.mem_append_left _ inside
    rcases List.mem_cons.1 mem with rfl | later
    · exact ⟨b, kept, counterpart⟩
    · obtain ⟨c, among, other⟩ := ih (seen ++ [first]) later
      rcases List.mem_append.1 among with earlier | new
      · rcases List.mem_append.1 earlier with known | here
        · exact ⟨c, List.mem_append_left _ known, other⟩
        · rw [List.mem_singleton] at here
          subst here
          exact ⟨b, kept, matching.trans b c a counterpart other⟩
      · refine ⟨c, ?_, other⟩
        rw [novel_cons, ← List.append_assoc]
        exact List.mem_append_right _ new

/-- What is novel has counterparts of all that there was. -/
theorem Matching.any_novel (matching : Matching same) (seen as : List α) (a : α) :
    (seen ++ novel same seen as).any (same · a) = (seen ++ as).any (same · a) := by
  rw [Bool.eq_iff_iff, List.any_eq_true, List.any_eq_true]
  constructor
  · intro given
    rcases given with ⟨b, mem, counterpart⟩
    exact ⟨b, ((sublist_novel seen as).append_left seen).subset mem, counterpart⟩
  · intro given
    rcases given with ⟨b, mem, counterpart⟩
    rcases List.mem_append.1 mem with known | offered
    · exact ⟨b, List.mem_append_left _ known, counterpart⟩
    · obtain ⟨c, held, other⟩ := matching.exists_novel seen offered
      exact ⟨c, held, matching.trans c b a other counterpart⟩

/-- A novel element is the first of its counterparts. -/
theorem Matching.exists_filter_of_mem_novel (matching : Matching same) {as : List α} {a : α}
    (mem : a ∈ novel same [] as) : ∃ rest, as.filter (same · a) = a :: rest := by
  induction as using List.reverseRecOn with
  | nil => cases mem
  | append_singleton as b ih =>
    rw [novel_append_singleton, List.nil_append, List.mem_append] at mem
    rw [List.filter_append]
    rcases mem with earlier | last
    · obtain ⟨rest, first⟩ := ih earlier
      rw [first]
      exact ⟨_, rfl⟩
    · split at last
      · cases last
      · rename_i new
        rw [List.mem_singleton] at last
        subst last
        have none : as.filter (same · a) = [] := by
          rw [List.filter_eq_nil_iff]
          intro b inside counterpart
          exact new (List.any_eq_true.2 ⟨b, inside, counterpart⟩)
        rw [none, List.nil_append, List.filter_singleton, matching.refl a]
        exact ⟨[], rfl⟩

/-- **The order of first occurrence.** The novel elements stand in the order in which counterparts
of them first occur. -/
theorem Matching.pairwise_findIdx_novel (matching : Matching same) (as : List α) :
    (novel same [] as).Pairwise fun a b => as.findIdx (same · a) < as.findIdx (same · b) := by
  induction as using List.reverseRecOn with
  | nil => exact List.Pairwise.nil
  | append_singleton as a ih =>
    have early : ∀ b ∈ novel same [] as, (as ++ [a]).findIdx (same · b) = as.findIdx (same · b) ∧
        as.findIdx (same · b) < as.length := by
      intro b mem
      have inside : as.findIdx (same · b) < as.length :=
        List.findIdx_lt_length_of_exists ⟨b, (sublist_novel [] as).subset mem, matching.refl b⟩
      rw [List.findIdx_append, if_pos inside]
      exact ⟨rfl, inside⟩
    rw [novel_append_singleton, List.nil_append, List.pairwise_append]
    refine ⟨ih.imp_of_mem fun {b c} hb hc less => ?_, ?_, fun b hb c hc => ?_⟩
    · rw [(early b hb).1, (early c hc).1]
      exact less
    · split <;> simp
    · split at hc
      · cases hc
      · rename_i new
        rw [List.mem_singleton] at hc
        subst hc
        have late : as.findIdx (same · c) = as.length := by
          rw [List.findIdx_eq_length]
          intro d mem
          rw [List.any_eq_true, not_exists] at new
          simpa [mem] using new d
        rw [(early b hb).1, List.findIdx_append, late, if_neg (Nat.lt_irrefl _)]
        exact Nat.lt_of_lt_of_le (early b hb).2 (Nat.le_add_left _ _)

/-- Adding elements one after another, unless a counterpart is there, adds the novel ones. -/
theorem Matching.foldl_add (matching : Matching same) (target as : List α) :
    as.foldl (fun held a => if held.any (same · a) then held else held ++ [a]) target =
      target ++ novel same target as := by
  induction as using List.reverseRecOn with
  | nil => rw [List.foldl_nil, novel_nil, List.append_nil]
  | append_singleton as a ih =>
    rw [List.foldl_append, List.foldl_cons, List.foldl_nil, ih, matching.any_novel,
      novel_append_singleton, ← List.append_assoc]
    split
    · rw [List.append_nil]
    · rfl

end Novel

/-! ## Counterparts -/

theorem sameMedia_iff {a b : String} :
    sameMedia a b = true ↔ normalizeMedia a = normalizeMedia b :=
  decide_eq_true_iff

theorem sameMedia_comm (a b : String) : sameMedia a b = sameMedia b a := by
  rw [Bool.eq_iff_iff, sameMedia_iff, sameMedia_iff, eq_comm]

/-- Media rules with the same condition are counterparts, and other rules that are duplicates. -/
def isCounterpart (a b : Rule) : Bool :=
  match a.mediaGroup?, b.mediaGroup? with
  | some g, some h => sameMedia g.media h.media
  | none, none => a.isDuplicate positionMembers b
  | _, _ => false

theorem matching_isDuplicate : Matching (Rule.isDuplicate positionMembers) where
  refl r := Rule.isDuplicate_iff_alike.2 (Rule.Alike.refl r)
  trans _ _ _ ab bc := Rule.isDuplicate_iff_alike.2
    ((Rule.isDuplicate_iff_alike.1 ab).trans (Rule.isDuplicate_iff_alike.1 bc))

theorem matching_isCounterpart : Matching isCounterpart where
  refl r := by
    rw [isCounterpart]
    cases r.mediaGroup? with
    | none => exact matching_isDuplicate.refl r
    | some g => exact sameMedia_iff.2 rfl
  trans a b c ab bc := by
    rw [isCounterpart] at ab bc ⊢
    cases ha : a.mediaGroup? <;> cases hb : b.mediaGroup? <;> cases hc : c.mediaGroup? <;>
      simp only [ha, hb, hc, Bool.false_eq_true] at ab bc ⊢
    · exact matching_isDuplicate.trans a b c ab bc
    · exact sameMedia_iff.2 ((sameMedia_iff.1 ab).trans (sameMedia_iff.1 bc))

/-! ## The merged stylesheet -/

/-- The rules of media rules with one condition, merged: all of the first one, and what is novel
in the others. -/
def gathered : List MediaGroup → List Rule
  | [] => []
  | first :: rest =>
    first.rules ++ novel (Rule.isDuplicate positionMembers) first.rules (rest.flatMap (·.rules))

/-- The media rules among the rules. -/
def mediaRules (rules : List Rule) : List MediaGroup :=
  rules.filterMap Rule.mediaGroup?

/-- The media rules with a condition among the rules. -/
def mediaWith (condition : String) (rules : List Rule) : List MediaGroup :=
  (mediaRules rules).filter fun g => sameMedia g.media condition

/-- The rule with the merged rules of all media rules with its condition, if it is one. -/
def filled (offered : List Rule) (r : Rule) : Rule :=
  match r.mediaGroup? with
  | some g => { g with rules := gathered (mediaWith g.media offered) : MediaGroup }.toRule
  | none => r

/-- The novel ones of the rules that are offered, media rules filled. -/
def united (offered : List Rule) : Stylesheet :=
  (novel isCounterpart [] offered).map (filled offered)

theorem mediaGroup?_eq_some_iff {r : Rule} {g : MediaGroup} :
    r.mediaGroup? = some g ↔ r = g.toRule := by
  constructor
  · intro given
    unfold Rule.mediaGroup? at given
    split at given
    · cases given
      rfl
    · cases given
  · intro shape
    rw [shape]
    rfl

@[simp] theorem mediaGroup?_toRule (g : MediaGroup) : g.toRule.mediaGroup? = some g :=
  rfl

theorem addRule_of_mediaGroup?_eq_none {r : Rule} (plain : r.mediaGroup? = none)
    (target : List Rule) : addRule r target = addPlain r target := by
  unfold addRule
  split
  · cases plain
  · rfl

theorem addRule_toRule (g : MediaGroup) (target : List Rule) :
    addRule g.toRule target =
      (updateMedia? g.media (addRule.addRules g.rules) target).getD (target ++ [g.toRule]) := by
  rw [MediaGroup.toRule, addRule]

theorem mediaGroup?_of_fitsGroup {r : Rule} (fits : RuleMap.fitsGroup r = true) :
    r.mediaGroup? = none := by
  cases r with
  | group => cases fits
  | _ => rfl

/-- Rules that a group may hold join the rules of a group as far as they are novel. -/
theorem addRules_eq {inner : List Rule} (fits : ∀ r ∈ inner, RuleMap.fitsGroup r = true)
    (target : List Rule) :
    addRule.addRules inner target =
      target ++ novel (Rule.isDuplicate positionMembers) target inner := by
  rw [← matching_isDuplicate.foldl_add]
  induction inner generalizing target with
  | nil => rfl
  | cons r rest ih =>
    rw [addRule.addRules, addRule_of_mediaGroup?_eq_none (mediaGroup?_of_fitsGroup
      (fits r List.mem_cons_self)), ih fun q mem => fits q (List.mem_cons_of_mem _ mem)]
    rfl

/-- The rules of one more media rule with the condition join those gathered before. -/
theorem gathered_append_singleton {gs : List MediaGroup} {g : MediaGroup} (some : gs ≠ [])
    (fits : ∀ r ∈ g.rules, RuleMap.fitsGroup r = true) :
    gathered (gs ++ [g]) = addRule.addRules g.rules (gathered gs) := by
  cases gs with
  | nil => exact (some rfl).elim
  | cons first rest =>
    rw [addRules_eq fits, List.cons_append, gathered, gathered, List.flatMap_append,
      List.flatMap_singleton, novel_append, ← List.append_assoc]
    exact congrArg (_ ++ ·) (novel_congr fun a => (matching_isDuplicate.any_novel _ _ a).symm)

/-! ## One step -/

theorem mediaRules_append (as bs : List Rule) :
    mediaRules (as ++ bs) = mediaRules as ++ mediaRules bs :=
  List.filterMap_append

theorem mediaWith_append (condition : String) (as bs : List Rule) :
    mediaWith condition (as ++ bs) = mediaWith condition as ++ mediaWith condition bs := by
  rw [mediaWith, mediaRules_append, List.filter_append]
  rfl

theorem mediaWith_cons_toRule (condition : String) (g : MediaGroup) (rest : List Rule) :
    mediaWith condition (g.toRule :: rest) =
      if sameMedia g.media condition then g :: mediaWith condition rest
      else mediaWith condition rest :=
  List.filter_cons

theorem mediaWith_cons_of_mediaGroup?_eq_none {r : Rule} (plain : r.mediaGroup? = none)
    (condition : String) (rest : List Rule) :
    mediaWith condition (r :: rest) = mediaWith condition rest := by
  rw [mediaWith, mediaRules, List.filterMap_cons_none plain]
  rfl

/-- The media rules with one of two conditions that mean the same. -/
theorem mediaWith_congr {a b : String} (same : sameMedia a b = true) (rules : List Rule) :
    mediaWith a rules = mediaWith b rules := by
  refine List.filter_congr fun g _ => ?_
  rw [Bool.eq_iff_iff, sameMedia_iff, sameMedia_iff, sameMedia_iff.1 same]

theorem isCounterpart_toRule (g : MediaGroup) (r : Rule) :
    isCounterpart g.toRule r = r.mediaGroup?.any fun h => sameMedia g.media h.media := by
  unfold isCounterpart
  rw [mediaGroup?_toRule]
  cases r.mediaGroup? <;> simp only [Option.any_none, Option.any_some]

theorem isCounterpart_toRule_right (r : Rule) (g : MediaGroup) :
    isCounterpart r g.toRule = r.mediaGroup?.any fun h => sameMedia h.media g.media := by
  unfold isCounterpart
  rw [mediaGroup?_toRule]
  cases r.mediaGroup? <;> simp only [Option.any_none, Option.any_some]

theorem isCounterpart_comm (a b : Rule) : isCounterpart a b = isCounterpart b a := by
  unfold isCounterpart
  cases a.mediaGroup? <;> cases b.mediaGroup? <;> simp only
  · exact Rule.isDuplicate_comm a b
  · exact sameMedia_comm _ _

/-- Rules that are not media rules are counterparts of their duplicates. -/
theorem isCounterpart_of_mediaGroup?_eq_none {r : Rule} (plain : r.mediaGroup? = none)
    (q : Rule) : isCounterpart q r = q.isDuplicate positionMembers r := by
  unfold isCounterpart
  rw [plain]
  cases shape : q.mediaGroup? with
  | none => simp only
  | some g =>
    obtain rfl := mediaGroup?_eq_some_iff.1 shape
    cases duplicate : g.toRule.isDuplicate positionMembers r with
    | false => simp only
    | true =>
      have kinds := Rule.kind_eq_of_isDuplicate duplicate
      cases r with
      | group kind => cases kind with
        | media => cases plain
        | supports => cases kinds
      | _ => cases kinds

/-- What stands in for a rule has the counterparts of the rule. -/
theorem isCounterpart_filled (offered : List Rule) (r q : Rule) :
    isCounterpart (filled offered r) q = isCounterpart r q := by
  unfold filled
  split
  · rename_i g shape
    rw [mediaGroup?_eq_some_iff.1 shape, isCounterpart_toRule, isCounterpart_toRule]
  · rfl

theorem isCounterpart_filled_right (offered : List Rule) (r q : Rule) :
    isCounterpart q (filled offered r) = isCounterpart q r := by
  unfold filled
  split
  · rename_i g shape
    rw [mediaGroup?_eq_some_iff.1 shape, isCounterpart_toRule_right, isCounterpart_toRule_right]
  · rfl

theorem pairwise_united (offered : List Rule) :
    (united offered).Pairwise fun a b => isCounterpart a b = false := by
  rw [united, List.pairwise_map]
  simp only [isCounterpart_filled, isCounterpart_filled_right]
  exact pairwise_novel [] offered

theorem any_united (offered : List Rule) (r : Rule) :
    (united offered).any (isCounterpart · r) = offered.any (isCounterpart · r) := by
  have represented := matching_isCounterpart.any_novel [] offered r
  rw [List.nil_append, List.nil_append] at represented
  rw [united, List.any_map, ← represented]
  exact congrArg (List.any _) (funext fun q => isCounterpart_filled offered q r)

theorem mediaWith_eq_nil_iff {g : MediaGroup} {rules : List Rule} :
    mediaWith g.media rules = [] ↔ rules.any (isCounterpart · g.toRule) = false := by
  rw [mediaWith, mediaRules, List.filter_eq_nil_iff, List.any_eq_false]
  constructor
  · intro none r mem
    rw [isCounterpart_toRule_right, Option.any_eq_true]
    intro given
    rcases given with ⟨h, shape, same⟩
    exact none h (List.mem_filterMap.2 ⟨r, mem, shape⟩) same
  · intro none h mem same
    obtain ⟨r, inside, shape⟩ := List.mem_filterMap.1 mem
    apply none r inside
    rw [isCounterpart_toRule_right, shape, Option.any_some]
    exact same

/-- The rule with its own rules changed, if it is a media rule with the condition. -/
def changed (condition : String) (f : List Rule → List Rule) (r : Rule) : Rule :=
  match r.mediaGroup? with
  | some g =>
    if sameMedia g.media condition then { g with rules := f g.rules : MediaGroup }.toRule else r
  | none => r

theorem updateMedia?_cons_toRule (condition : String) (f : List Rule → List Rule) (g : MediaGroup)
    (rest : List Rule) :
    updateMedia? condition f (g.toRule :: rest) =
      if sameMedia g.media condition then
        some ({ g with rules := f g.rules : MediaGroup }.toRule :: rest)
      else (updateMedia? condition f rest).map (g.toRule :: ·) := by
  rw [MediaGroup.toRule, updateMedia?, MediaGroup.toRule]

theorem updateMedia?_cons_of_mediaGroup?_eq_none {r : Rule} (plain : r.mediaGroup? = none)
    (condition : String) (f : List Rule → List Rule) (rest : List Rule) :
    updateMedia? condition f (r :: rest) = (updateMedia? condition f rest).map (r :: ·) := by
  cases r with
  | group kind =>
    cases kind with
    | media => cases plain
    | supports => rfl
  | _ => rfl

/-- Rules with other conditions stay. -/
theorem changed_eq_self {condition : String} {r : Rule}
    (apart : ∀ g ∈ r.mediaGroup?, sameMedia g.media condition = false)
    (f : List Rule → List Rule) : changed condition f r = r := by
  unfold changed
  split
  · rename_i g shape
    rw [if_neg (by rw [apart g shape]; exact Bool.false_ne_true)]
  · rfl

/-- Without a media rule with the condition nothing changes. -/
theorem map_changed_eq_self {condition : String} {rules : List Rule}
    (none : mediaWith condition rules = []) (f : List Rule → List Rule) :
    rules.map (changed condition f) = rules := by
  refine (List.map_congr_left fun q mem => ?_).trans (List.map_id rules)
  apply changed_eq_self
  intro g shape
  exact Bool.eq_false_iff.2
    (List.filter_eq_nil_iff.1 none g (List.mem_filterMap.2 ⟨q, mem, shape⟩))

/-- If all conditions differ, at most one media rule has the condition, and it is changed. -/
theorem updateMedia?_eq (condition : String) (f : List Rule → List Rule) {target : List Rule}
    (apart : target.Pairwise fun a b => isCounterpart a b = false) :
    updateMedia? condition f target =
      if mediaWith condition target = [] then none
      else some (target.map (changed condition f)) := by
  induction target with
  | nil => rfl
  | cons r rest ih =>
    obtain ⟨own, others⟩ := List.pairwise_cons.1 apart
    have later := ih others
    cases shape : r.mediaGroup? with
    | none =>
      rw [mediaWith_cons_of_mediaGroup?_eq_none shape, List.map_cons,
        updateMedia?_cons_of_mediaGroup?_eq_none shape, later, changed_eq_self (by simp [shape])]
      split <;> rfl
    | some g =>
      obtain rfl := mediaGroup?_eq_some_iff.1 shape
      rw [mediaWith_cons_toRule, updateMedia?_cons_toRule, List.map_cons]
      by_cases matched : sameMedia g.media condition = true
      · have none : mediaWith condition rest = [] := by
          rw [← mediaWith_congr matched, mediaWith_eq_nil_iff, List.any_eq_false]
          intro q mem
          rw [isCounterpart_comm, own q mem]
          exact Bool.false_ne_true
        rw [if_pos matched, if_pos matched, if_neg (List.cons_ne_nil _ _),
          map_changed_eq_self none, changed, mediaGroup?_toRule]
        simp only [if_pos matched]
      · rw [if_neg matched, if_neg matched, later,
          changed_eq_self (by simpa using matched)]
        split <;> rfl

/-- A rule that is no media rule changes no media rule. -/
theorem filled_append_of_mediaGroup?_eq_none {r : Rule} (plain : r.mediaGroup? = none)
    (offered : List Rule) (q : Rule) : filled (offered ++ [r]) q = filled offered q := by
  have none : ∀ condition, mediaWith condition (offered ++ [r]) = mediaWith condition offered := by
    intro condition
    rw [mediaWith_append, mediaWith_cons_of_mediaGroup?_eq_none plain]
    exact List.append_nil _
  unfold filled
  simp only [none]

/-- One more media rule changes the ones with its condition. -/
theorem filled_append_toRule {offered : List Rule} {q : Rule} (mem : q ∈ offered) {g : MediaGroup}
    (fits : ∀ r ∈ g.rules, RuleMap.fitsGroup r = true) :
    filled (offered ++ [g.toRule]) q =
      changed g.media (addRule.addRules g.rules) (filled offered q) := by
  unfold filled
  cases shape : q.mediaGroup? with
  | none => rw [changed_eq_self (by simp [shape])]
  | some h =>
    simp only
    rw [changed, mediaGroup?_toRule, mediaWith_append, mediaWith_cons_toRule,
      sameMedia_comm g.media]
    split
    · have filled : mediaWith h.media offered ≠ [] := by
        apply List.ne_nil_of_mem (a := h)
        exact List.mem_filter.2 ⟨List.mem_filterMap.2 ⟨q, mem, shape⟩, sameMedia_iff.2 rfl⟩
      rename_i same
      simp only [if_pos same]
      rw [show mediaWith h.media [] = [] from rfl, gathered_append_singleton filled fits]
    · rename_i apart
      simp only [if_neg apart]
      rw [show mediaWith h.media [] = [] from rfl, List.append_nil]

/-- The first media rule with its condition has its own rules only. -/
theorem filled_append_self {offered : List Rule} {g : MediaGroup}
    (new : mediaWith g.media offered = []) :
    filled (offered ++ [g.toRule]) g.toRule = g.toRule := by
  have first : mediaWith g.media (offered ++ [g.toRule]) = [g] := by
    rw [mediaWith_append, new, mediaWith_cons_toRule, if_pos (sameMedia_iff.2 rfl)]
    rfl
  unfold filled
  rw [mediaGroup?_toRule]
  simp only [first, gathered, List.flatMap_nil, novel_nil, List.append_nil]

theorem united_append_singleton (offered : List Rule) (r : Rule) :
    united (offered ++ [r]) = (novel isCounterpart [] offered).map (filled (offered ++ [r])) ++
      (if offered.any (isCounterpart · r) then [] else [r]).map (filled (offered ++ [r])) := by
  rw [united, novel_append_singleton, List.map_append, List.nil_append]

theorem addRule_united_of_mediaGroup?_eq_none {r : Rule} (plain : r.mediaGroup? = none)
    (offered : List Rule) : addRule r (united offered) = united (offered ++ [r]) := by
  have same : (united offered).any (·.isDuplicate positionMembers r) =
      offered.any (isCounterpart · r) := by
    rw [← any_united]
    exact congrArg (List.any _) (funext fun q =>
      (isCounterpart_of_mediaGroup?_eq_none plain q).symm)
  have others : (novel isCounterpart [] offered).map (filled (offered ++ [r])) =
      united offered := by
    apply List.map_congr_left
    intro q _
    exact filled_append_of_mediaGroup?_eq_none plain offered q
  rw [addRule_of_mediaGroup?_eq_none plain, addPlain, same, united_append_singleton, others]
  split
  · rw [List.map_nil, List.append_nil]
  · rw [List.map_cons, List.map_nil, filled, plain]

theorem addRule_united_toRule {g : MediaGroup} (fits : ∀ q ∈ g.rules, RuleMap.fitsGroup q = true)
    (offered : List Rule) : addRule g.toRule (united offered) = united (offered ++ [g.toRule]) := by
  have others : (novel isCounterpart [] offered).map (filled (offered ++ [g.toRule])) =
      (united offered).map (changed g.media (addRule.addRules g.rules)) := by
    rw [united, List.map_map]
    apply List.map_congr_left
    intro q mem
    exact filled_append_toRule ((sublist_novel [] offered).subset mem) fits
  rw [addRule_toRule, updateMedia?_eq _ _ (pairwise_united offered), united_append_singleton,
    others]
  cases known : offered.any (isCounterpart · g.toRule) with
  | true =>
    have some : mediaWith g.media (united offered) ≠ [] := by
      rw [ne_eq, mediaWith_eq_nil_iff, any_united, known]
      exact Bool.true_eq_false_eq_False
    rw [if_neg some, if_pos rfl, Option.getD_some, List.map_nil, List.append_nil]
  | false =>
    have none : mediaWith g.media (united offered) = [] := by
      rw [mediaWith_eq_nil_iff, any_united, known]
    rw [if_pos none, Option.getD_none, if_neg Bool.false_ne_true, map_changed_eq_self none,
      List.map_singleton, filled_append_self (mediaWith_eq_nil_iff.2 known)]

/-- **One step.** A rule that is merged counts as one more rule that was offered. -/
theorem addRule_united {r : Rule} (fits : ∀ q ∈ r.inner, RuleMap.fitsGroup q = true)
    (offered : List Rule) : addRule r (united offered) = united (offered ++ [r]) := by
  cases shape : r.mediaGroup? with
  | none => exact addRule_united_of_mediaGroup?_eq_none shape offered
  | some g =>
    obtain rfl := mediaGroup?_eq_some_iff.1 shape
    exact addRule_united_toRule fits offered

/-! ## The run -/

/-- **Merging keeps what is novel.** -/
theorem foldl_addRule {offered : List Rule} (fold : Stylesheet.Foldable offered) :
    offered.foldl (fun merged r => addRule r merged) [] = united offered := by
  induction offered using List.reverseRecOn with
  | nil => rfl
  | append_singleton offered r ih =>
    have fits := Stylesheet.foldable_iff.1 fold
    have earlier := ih (Stylesheet.foldable_iff.2 fun q mem => fits q (List.mem_append_left _ mem))
    rw [List.foldl_append, List.foldl_cons, List.foldl_nil, earlier]
    exact addRule_united (fits r (List.mem_append_right _ List.mem_cons_self)) offered

end Merge

namespace Stylesheet

/-- The rules that are merged: those of all stylesheets, one after another, without comments. -/
def offered (sheets : List Stylesheet) : List Rule :=
  sheets.flatten.filter fun r => r.kind ≠ .comment

theorem foldable_offered {sheets : List Stylesheet} (fold : ∀ sheet ∈ sheets, sheet.Foldable) :
    Stylesheet.Foldable (offered sheets) := by
  rw [foldable_iff]
  intro r mem
  obtain ⟨sheet, known, inside⟩ := List.mem_flatten.1 (List.mem_filter.1 mem).1
  exact foldable_iff.1 (fold sheet known) r inside

theorem merge_eq_foldl (sheets : List Stylesheet) :
    merge sheets = (offered sheets).foldl (fun merged r => Merge.addRule r merged) [] := by
  unfold merge offered
  generalize ([] : List Rule) = merged
  induction sheets generalizing merged with
  | nil => rfl
  | cons sheet rest ih =>
    rw [List.foldl_cons, ih, List.flatten_cons, List.filter_append, List.foldl_append]

/-- **What merging gives.** -/
theorem merge_eq {sheets : List Stylesheet} (fold : ∀ sheet ∈ sheets, sheet.Foldable) :
    merge sheets = Merge.united (offered sheets) := by
  rw [merge_eq_foldl, Merge.foldl_addRule (foldable_offered fold)]

end Stylesheet

end CriticalCss
