import CriticalCss.Proofs.Merge.Union
import CriticalCss.Proofs.RuleMap.Content
import CriticalCss.Proofs.RuleMap.Grouping
import CriticalCss.Proofs.Stylesheet.Place

/-!
# Merging and folding hold the same rules

`Stylesheet.flattened` and `RuleMap.flattened` list rules with the keys of the groups that they
stand in. What stylesheets give when they are merged rule by rule, and what they give when they are
folded into a map, are `AlikeRules`: every rule of the one has one in the same group of the other
that says the same (`Stylesheet.alikeRules_merge_ofSheets`).
-/

namespace CriticalCss

/-! ## Rules with their groups -/

/-- The rules inside a group with its key; any other rule is in no group. -/
def Rule.flattened : Rule → List (String × Rule)
  | .group kind condition inner _ => inner.map fun r => (kind.key condition, r)
  | r => [("", r)]

/-- The rules of a stylesheet with the keys of the groups around them. -/
def Stylesheet.flattened (sheet : Stylesheet) : List (String × Rule) :=
  sheet.flatMap Rule.flattened

/-- Rules with the keys of the groups that their own keys name. -/
def RuleMap.inGroups (cs : List (String × Rule)) : List (String × Rule) :=
  cs.map fun c => (groupOf c.1, c.2)

/-- The rules of a map with the keys of the groups around them. -/
def RuleMap.flattened (m : RuleMap) : List (String × Rule) :=
  inGroups m.items

theorem Rule.flattened_of_isFlat {r : Rule} (flat : r.IsFlat) : r.flattened = [("", r)] := by
  cases r with
  | group => exact flat.elim
  | _ => rfl

theorem GroupKind.key_media_congr {a b : String} (same : sameMedia a b = true) :
    GroupKind.media.key a = GroupKind.media.key b :=
  congrArg (media.keyLead ++ ·) (Merge.sameMedia_iff.1 same)

/-! ## Rules that say the same in the same groups -/

/-- Every rule of the first list has one in the same group of the second that says the same. -/
def CoveredBy (as bs : List (String × Rule)) : Prop :=
  ∀ group r, (group, r) ∈ as → ∃ q, (group, q) ∈ bs ∧ q.Alike r

/-- The two lists have the same rules in the same groups, up to positions and to the order of the
rules' own declarations. -/
def AlikeRules (as bs : List (String × Rule)) : Prop :=
  CoveredBy as bs ∧ CoveredBy bs as

theorem CoveredBy.trans {as bs cs : List (String × Rule)} (first : CoveredBy as bs)
    (second : CoveredBy bs cs) : CoveredBy as cs := by
  intro group r mem
  rcases first group r mem with ⟨q, inside, alike⟩
  rcases second group q inside with ⟨p, deeper, other⟩
  exact ⟨p, deeper, other.trans alike⟩

theorem AlikeRules.trans {as bs cs : List (String × Rule)} (first : AlikeRules as bs)
    (second : AlikeRules bs cs) : AlikeRules as cs :=
  ⟨first.1.trans second.1, second.2.trans first.2⟩

/-- Lists with the same rules under the same keys have them in the same groups. -/
theorem RuleMap.SameRules.coveredBy {as bs : List (String × Rule)} (same : SameRules as bs) :
    CoveredBy (inGroups as) (inGroups bs) := by
  intro group r mem
  rcases List.mem_map.1 mem with ⟨⟨key, r⟩, inside, pair⟩
  cases pair
  obtain ⟨q, other, equal⟩ := same.exists_mem inside
  exact ⟨q, List.mem_map.2 ⟨(key, q), other, rfl⟩, Rule.Alike.of_erase equal⟩

/-- Rules that say the same have the same rules in the same groups. -/
theorem Rule.Alike.coveredBy {a b : Rule} (alike : a.Alike b) :
    CoveredBy b.flattened a.flattened := by
  intro group r mem
  cases b with
  | group kind condition inner position =>
    obtain ⟨r, inside, pair⟩ := List.mem_map.1 mem
    cases pair
    have same := alike.1
    cases a with
    | group other text rules place =>
      simp only [withoutDeclarations, erase, Rule.group.injEq, eraseAll_eq] at same
      obtain ⟨rfl, rfl, rows, -⟩ := same
      have row : r.erase ∈ rules.map erase := rows ▸ List.mem_map_of_mem inside
      obtain ⟨q, other, equal⟩ := List.mem_map.1 row
      exact ⟨q, List.mem_map.2 ⟨q, other, rfl⟩, Alike.of_erase equal⟩
    | _ => simp [withoutDeclarations, erase] at same
  | _ =>
    have flat : a.IsFlat := by
      have same := alike.1
      cases a with
      | group => simp [withoutDeclarations, erase] at same
      | _ => trivial
    obtain ⟨rfl, rfl⟩ := Prod.mk.inj (List.mem_singleton.1 mem)
    rw [flattened_of_isFlat flat]
    exact ⟨a, List.mem_singleton.2 rfl, alike⟩

/-! ## Merging -/

theorem Stylesheet.mem_flattened {sheet : Stylesheet} {c : String × Rule} :
    c ∈ sheet.flattened ↔ ∃ r ∈ sheet, c ∈ r.flattened :=
  List.mem_flatMap

theorem Stylesheet.mem_flattened_of_mem_mediaWith {condition : String} {sheet : Stylesheet}
    {g : MediaGroup} {r : Rule} (mem : g ∈ Merge.mediaWith condition sheet)
    (inside : r ∈ g.rules) : (GroupKind.media.key condition, r) ∈ sheet.flattened := by
  rcases Merge.mem_mediaWith.1 mem with ⟨held, same⟩
  rw [mem_flattened, ← GroupKind.key_media_congr same]
  exact ⟨g.toRule, held, List.mem_map.2 ⟨r, inside, rfl⟩⟩

/-- **A union has the rules that are offered.** -/
theorem Merge.IsUnion.alikeRules {offered : List Rule} {merged : Stylesheet}
    (union : IsUnion offered merged) :
    AlikeRules (Stylesheet.flattened merged) (Stylesheet.flattened offered) := by
  constructor
  · intro group r mem
    rcases Stylesheet.mem_flattened.1 mem with ⟨q, held, inside⟩
    cases shape : q.mediaGroup? with
    | none =>
      have found := union.rules_found q held shape
      exact ⟨r, Stylesheet.mem_flattened.2 ⟨q, found, inside⟩, Rule.Alike.refl r⟩
    | some h =>
      rw [mediaGroup?_eq_some_iff.1 shape] at held inside
      rcases List.mem_map.1 inside with ⟨r, deeper, pair⟩
      cases pair
      obtain ⟨g, among, own⟩ := union.media_found h (mem_mediaRules.2 held) r deeper
      exact ⟨r, Stylesheet.mem_flattened_of_mem_mediaWith among own, Rule.Alike.refl r⟩
  · intro group r mem
    rcases Stylesheet.mem_flattened.1 mem with ⟨q, offer, inside⟩
    cases shape : q.mediaGroup? with
    | none =>
      obtain ⟨known, held, duplicate⟩ := union.rules_held q offer shape
      have alike := Rule.isDuplicate_iff_alike.1 duplicate
      rcases alike.coveredBy group r inside with ⟨p, deeper, equal⟩
      exact ⟨p, Stylesheet.mem_flattened.2 ⟨known, held, deeper⟩, equal⟩
    | some g =>
      rw [mediaGroup?_eq_some_iff.1 shape] at offer inside
      rcases List.mem_map.1 inside with ⟨r, deeper, pair⟩
      cases pair
      obtain ⟨h, one, covers⟩ := union.media_held g (mem_mediaRules.2 offer)
      have held : h ∈ mediaWith g.media merged := one ▸ List.mem_singleton_self h
      rcases covers r deeper with ⟨known, own, duplicate⟩
      exact ⟨known, Stylesheet.mem_flattened_of_mem_mediaWith held own,
        Rule.isDuplicate_iff_alike.1 duplicate⟩

/-! ## Folding -/

/-- Rules that were read, comments apart, have keys. -/
theorem Rule.IsRead.exists_key? {r : Rule} (read : r.IsRead) (kept : r.kind ≠ .comment) :
    ∃ key, r.key? "" = some key := by
  cases read with
  | style some =>
    rw [key?, StyleRule.key?, if_neg (by simpa using some.1)]
    exact ⟨_, rfl⟩
  | comment => exact (kept rfl).elim
  | _ => exact ⟨_, rfl⟩

/-- What a rule that was read contributes to a map, in the groups that the keys name. -/
theorem Rule.IsRead.flattened_eq {r : Rule} (read : r.IsRead) (kept : r.kind ≠ .comment)
    (apart : r.IsFlat → ∀ key ∈ r.key? "", isGroupKey key = false) :
    r.flattened = RuleMap.inGroups r.contributions := by
  by_cases flat : r.IsFlat
  · obtain ⟨key, keyed⟩ := read.exists_key? kept
    have single : RuleMap.groupOf key = "" := by
      rw [RuleMap.groupOf, apart flat key keyed]
      rfl
    rw [flattened_of_isFlat flat, contributions_of_isFlat flat, keyed, Option.toList_some,
      List.map_singleton, RuleMap.inGroups, List.map_singleton, single]
  · cases r with
    | group kind condition inner position =>
      have known : RuleMap.groupOf (kind.key condition) = kind.key condition := by
        rw [RuleMap.groupOf, isGroupKey_key, if_pos rfl]
      rw [flattened, contributions, RuleMap.inGroups, List.map_map]
      apply List.map_congr_left
      intro q _
      rw [Function.comp_apply, known]
    | _ => exact (flat trivial).elim

theorem Rule.contributions_of_comment {r : Rule} (comment : r.kind = .comment) :
    r.contributions = [] := by
  cases r with
  | comment => rfl
  | group kind => cases kind <;> cases comment
  | _ => cases comment

theorem Stylesheet.IsRead.foldable {sheet : Stylesheet} (read : sheet.IsRead) :
    sheet.Foldable := by
  intro kind condition inner position mem r inside
  cases read _ mem with
  | group grouped => cases grouped r inside <;> rfl

theorem RuleMap.inGroups_append (as bs : List (String × Rule)) :
    inGroups (as ++ bs) = inGroups as ++ inGroups bs :=
  List.map_append

namespace Stylesheet

/-- Without comments, rules that were read are in the groups that the keys under which they are
folded name. -/
theorem IsRead.flattened_filter {rules : Stylesheet} (read : rules.IsRead)
    (apart : ∀ r ∈ rules, r.IsFlat → ∀ key ∈ r.key? "", isGroupKey key = false) :
    flattened (rules.filter fun r => r.kind ≠ .comment) =
      RuleMap.inGroups rules.contributions := by
  induction rules with
  | nil => rfl
  | cons r rest ih =>
    obtain ⟨shape, shapes⟩ := List.forall_mem_cons.1 read
    obtain ⟨own, others⟩ := List.forall_mem_cons.1 apart
    rw [contributions, List.flatMap_cons, RuleMap.inGroups_append, ← contributions,
      ← ih shapes others]
    by_cases comment : r.kind = .comment
    · rw [List.filter_cons_of_neg (by simpa using comment), Rule.contributions_of_comment comment]
      rfl
    · rw [List.filter_cons_of_pos (by simpa using comment), flattened, List.flatMap_cons,
        shape.flattened_eq comment own]
      rfl

/-- **Merging and folding hold the same rules.** Let no key of a rule outside groups read like that
of a group. Then stylesheets that were read can be folded into a map, and the merged stylesheet and
the map have the same rules in the same groups, up to positions and to the order of the rules' own
declarations. -/
theorem alikeRules_merge_ofSheets {sheets : List Stylesheet}
    (read : ∀ sheet ∈ sheets, ∃ css, parse css = .ok sheet)
    (apart : ∀ sheet ∈ sheets, ∀ r ∈ sheet, r.IsFlat → ∀ key ∈ r.key? "", isGroupKey key = false)
    (free : RuleMap.CollisionFree ((sheets.flatMap contributions).map Prod.snd)) :
    ∃ m, RuleMap.ofSheets sheets = .ok m ∧ AlikeRules (flattened (merge sheets)) m.flattened := by
  have shapes : ∀ sheet ∈ sheets, sheet.IsRead := by
    intro sheet mem
    rcases read sheet mem with ⟨css, given⟩
    exact isRead_of_parse given
  have fold : ∀ sheet ∈ sheets, sheet.Foldable := fun sheet mem => (shapes sheet mem).foldable
  have offers : flattened (offered sheets) =
      RuleMap.inGroups (sheets.flatMap contributions) := by
    rw [← RuleMap.contributions_flatten]
    apply IsRead.flattened_filter
    · intro r mem
      rcases List.mem_flatten.1 mem with ⟨sheet, known, inside⟩
      exact shapes sheet known r inside
    · intro r mem
      rcases List.mem_flatten.1 mem with ⟨sheet, known, inside⟩
      exact apart sheet known r inside
  have merged := (Merge.isUnion_united (offered sheets)).alikeRules
  have held := RuleMap.sameRules_items_collect free
  rw [← merge_eq fold, offers] at merged
  exact ⟨_, RuleMap.ofSheets_eq fold, merged.trans ⟨held.symm.coveredBy, held.coveredBy⟩⟩

/-- A rule has its declarations in two orders, and a media condition is spelled in two ways. The map
has both orders of the declarations, the merged stylesheet has one. -/
theorem alikeRules_merge_ofSheets_of_two_orders :
    let place (column : Nat) : Option Position := some ⟨1, column⟩
    let sheets : List Stylesheet := [
      [.style ⟨["a"], [⟨"c", "d"⟩, ⟨"e", "f"⟩], place 1⟩,
        .group .media "all and p" [.style ⟨["b"], [], place 28⟩] (place 11)],
      [.style ⟨["a"], [⟨"e", "f"⟩, ⟨"c", "d"⟩], place 1⟩,
        .group .media "p" [.style ⟨["b"], [], place 20⟩] (place 11)]]
    ((∀ sheet ∈ sheets, ∃ css, parse css = .ok sheet) ∧
      (∀ sheet ∈ sheets, ∀ r ∈ sheet, r.IsFlat → ∀ key ∈ r.key? "", isGroupKey key = false) ∧
      RuleMap.CollisionFree ((sheets.flatMap contributions).map Prod.snd)) ∧
      ∃ m, RuleMap.ofSheets sheets = .ok m ∧
        AlikeRules (flattened (merge sheets)) m.flattened ∧
        (flattened (merge sheets)).length = 2 ∧ m.flattened.length = 3 := by
  intro place sheets
  have read : ∀ sheet ∈ sheets, ∃ css, parse css = .ok sheet := by
    refine List.forall_mem_cons.2 ⟨⟨"a\x7bc:d;e:f\x7d@media all and p\x7bb\x7b\x7d\x7d", ?_⟩,
      List.forall_mem_singleton.2 ⟨"a\x7be:f;c:d\x7d@media p\x7bb\x7b\x7d\x7d", ?_⟩⟩
    · decide +kernel
    · decide +kernel
  have apart : ∀ sheet ∈ sheets, ∀ r ∈ sheet, r.IsFlat →
      ∀ key ∈ r.key? "", isGroupKey key = false := by decide +kernel
  have free : RuleMap.CollisionFree ((sheets.flatMap contributions).map Prod.snd) :=
    ⟨by decide +kernel, by decide +kernel⟩
  obtain ⟨m, made, alike⟩ := alikeRules_merge_ofSheets read apart free
  have fold : ∀ sheet ∈ sheets, sheet.Foldable := by decide +kernel
  have map := Except.ok.inj (made.symm.trans (RuleMap.ofSheets_eq fold))
  refine ⟨⟨read, apart, free⟩, m, made, alike, by decide +kernel, ?_⟩
  rw [map]
  decide +kernel

end Stylesheet

end CriticalCss
