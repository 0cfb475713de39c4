import CriticalCss.Proofs.Assembly.Remnant
import CriticalCss.Proofs.Partition.Side
import CriticalCss.Proofs.RuleMap.Content

/-!
# Where the other rules go

A rule that is neither a style rule nor a group goes to the parts of every page as it stands. The
critical map holds those of a kind that the critical part keeps at the top level
(`Assembly.mem_keysOf_criticalOf`), the rest those of the other kinds
(`Assembly.mem_keysOf_restOf`), each once under its key. A rule of a kept kind is in the rest of
every page, too; it is the subtraction that takes it away.
-/

namespace CriticalCss

open CriticalCss.Partition
open RuleMap (CollisionFree SameRules erased)

theorem Stylesheet.IsRead.shallow {sheet : Stylesheet} (read : sheet.IsRead) :
    sheet.Shallow := by
  intro q mem r inside
  cases read q mem with
  | group grouped =>
    cases grouped r inside with
    | style | atRule => trivial
  | _ => cases inside

theorem Rule.isOther_of_erase {a b : Rule} (same : a.erase = b.erase) (other : b.IsOther) :
    a.IsOther := by
  have erased (r : Rule) : r.erase.IsOther ↔ r.IsOther := by
    cases r <;> rfl
  rwa [← erased, same, erased]

/-- Only comments and keyframes outside of a row of them are without a key. -/
theorem Rule.exists_key? {r : Rule} (other : r.IsOther) (silent : r.kind ≠ .comment)
    (alone : r.kind ≠ .keyframe) : ∃ key, r.key? "" = some key := by
  cases r with
  | style | group => exact other.elim
  | comment => exact (silent rfl).elim
  | keyframe => exact (alone rfl).elim
  | _ => exact ⟨_, rfl⟩

theorem Rule.key?_of_comment {r : Rule} (comment : r.kind = .comment) (group : String) :
    r.key? group = none := by
  cases r with
  | comment => rfl
  | group kind => cases kind <;> cases comment
  | _ => cases comment

namespace Partition

theorem atRule_not_mem_criticalKinds (dropKeyframes : Bool) :
    RuleKind.atRule ∉ criticalKinds dropKeyframes := by
  cases dropKeyframes <;> decide

variable {keep : String → String → Bool} {others : String → Bool} {group : String} {r : Rule}

/-- Without groups in a row, the row keeps its other rules or has none. -/
theorem mem_siftRules_of_style?_eq_none (other : r.style? = none) {rules : List Rule}
    (flat : ∀ q ∈ rules, q.IsFlat) :
    r ∈ siftRules keep others group rules ↔ r ∈ rules ∧ others group = true := by
  rw [mem_siftRules]
  constructor
  · intro given
    obtain ⟨q, mem, left⟩ := given
    cases style : q.style? with
    | some p =>
      rw [Rule.style?_eq_some_iff.1 style, siftRule] at left
      obtain ⟨part, -, rfl⟩ := Option.map_eq_some_iff.1 left
      cases other
    | none =>
      rw [siftRule_of_isOther (Rule.isOther_iff.2 ⟨flat q mem, style⟩)] at left
      split at left
      · rename_i stays
        cases left
        exact ⟨mem, stays⟩
      · cases left
  · intro given
    obtain ⟨mem, stays⟩ := given
    refine ⟨r, mem, ?_⟩
    rw [siftRule_of_isOther (Rule.isOther_iff.2 ⟨flat r mem, other⟩), if_pos stays]

theorem mem_contributions_of_isFlat {q : Rule} (flat : q.IsFlat) {key : String} :
    (key, r) ∈ q.contributions ↔ q = r ∧ r.key? "" = some key := by
  rw [Rule.contributions_of_isFlat flat, List.mem_map]
  constructor
  · intro given
    obtain ⟨own, keyed, pair⟩ := given
    cases pair
    exact ⟨rfl, Option.mem_toList.1 keyed⟩
  · intro given
    obtain ⟨rfl, keyed⟩ := given
    exact ⟨key, Option.mem_toList.2 keyed, rfl⟩

theorem mem_contributions_group {key : String} {kind : GroupKind} {condition : String}
    {inner : List Rule} {position : Option Position} :
    (key, r) ∈ (Rule.group kind condition inner position).contributions ↔
      key = kind.key condition ∧ r ∈ inner := by
  rw [Rule.contributions, List.mem_map]
  constructor
  · intro given
    obtain ⟨q, mem, pair⟩ := given
    cases pair
    exact ⟨rfl, mem⟩
  · intro given
    obtain ⟨rfl, mem⟩ := given
    exact ⟨r, mem, rfl⟩

theorem exists_regroup_iff {key : String} {kind : GroupKind} {condition : String}
    {position : Option Position} {rules : List Rule} :
    (∃ p, regroup kind condition position rules = some p ∧ (key, r) ∈ p.contributions) ↔
      key = kind.key condition ∧ r ∈ rules := by
  cases rules with
  | nil => simp [regroup]
  | cons first more => simp [regroup, mem_contributions_group]

theorem exists_siftRule_of_isOther {q : Rule} (own : q.IsOther) {key : String} :
    (∃ p, siftRule keep others "" q = some p ∧ (key, r) ∈ p.contributions) ↔
      (key, r) ∈ q.contributions ∧ others "" = true := by
  rw [siftRule_of_isOther own]
  split <;> simp [*]

/-- What is left of a rule contributes the other rules that the rule contributes, if they stay
there. -/
theorem exists_siftRule_iff (other : r.style? = none) {q : Rule}
    (flat : ∀ p ∈ q.inner, p.IsFlat) {key : String} :
    (∃ p, siftRule keep others "" q = some p ∧ (key, r) ∈ p.contributions) ↔
      (key, r) ∈ q.contributions ∧ others q.groupKey = true := by
  have apart (p : StyleRule) : (key, r) ∉ (Rule.style p).contributions := by
    intro given
    obtain ⟨rfl, -⟩ := (mem_contributions_of_isFlat (by trivial)).1 given
    cases other
  cases q with
  | style q =>
    refine iff_of_false (fun given => ?_) fun given => apart q given.1
    obtain ⟨p, left, mem⟩ := given
    obtain ⟨part, -, rfl⟩ := Option.map_eq_some_iff.1 left
    exact apart part mem
  | group kind condition inner position =>
    rw [siftRule, exists_regroup_iff, mem_contributions_group, and_assoc]
    exact and_congr_right fun _ => mem_siftRules_of_style?_eq_none other flat
  | _ => exact exists_siftRule_of_isOther (by trivial)

/-- What a sifted stylesheet contributes besides style rules. -/
theorem mem_contributions_siftRules (other : r.style? = none) {sheet : Stylesheet}
    (shallow : sheet.Shallow) {key : String} :
    (key, r) ∈ Stylesheet.contributions (siftRules keep others "" sheet) ↔
      ∃ q ∈ sheet, (key, r) ∈ q.contributions ∧ others q.groupKey = true := by
  rw [Stylesheet.contributions, List.mem_flatMap]
  simp only [mem_siftRules]
  constructor
  · intro given
    obtain ⟨p, ⟨q, mem, left⟩, contributed⟩ := given
    exact ⟨q, mem, (exists_siftRule_iff other (shallow q mem)).1 ⟨p, left, contributed⟩⟩
  · intro given
    obtain ⟨q, mem, stays⟩ := given
    obtain ⟨p, left, contributed⟩ := (exists_siftRule_iff other (shallow q mem)).2 stays
    exact ⟨p, ⟨q, mem, left⟩, contributed⟩

end Partition

namespace Stylesheet

variable {sheet : Stylesheet} (shallow : sheet.Shallow) {r : Rule} (other : r.IsOther)

include shallow other

/-- The critical part has the other rules of the top level whose kind is kept there. -/
theorem mem_contributions_partition_fst {dropKeyframes : Bool} {map : SelectorMap}
    {key : String} :
    (key, r) ∈ (sheet.partition dropKeyframes map).1.contributions ↔
      r ∈ sheet ∧ r.kind ∈ criticalKinds dropKeyframes ∧ r.key? "" = some key := by
  obtain ⟨flat, unstyled⟩ := Rule.isOther_iff.1 other
  rw [partition_eq, mem_contributions_siftRules unstyled fun q mem =>
    shallow q (List.mem_filter.1 mem).1]
  constructor
  · intro given
    obtain ⟨q, mem, contributed, top⟩ := given
    cases q with
    | group kind condition =>
      exact (kind.key_ne_empty condition (of_decide_eq_true top)).elim
    | _ =>
      obtain ⟨rfl, keyed⟩ := (mem_contributions_of_isFlat (by trivial)).1 contributed
      obtain ⟨own, kept⟩ := List.mem_filter.1 mem
      exact ⟨own, List.contains_iff_mem.1 kept, keyed⟩
  · intro given
    obtain ⟨own, kept, keyed⟩ := given
    refine ⟨r, List.mem_filter.2 ⟨own, List.contains_iff_mem.2 kept⟩,
      (mem_contributions_of_isFlat flat).2 ⟨rfl, keyed⟩, ?_⟩
    cases r with
    | group => exact flat.elim
    | _ => rfl

/-- The rest has all other rules. -/
theorem mem_contributions_partition_snd {dropKeyframes : Bool} {map : SelectorMap}
    {key : String} :
    (key, r) ∈ (sheet.partition dropKeyframes map).2.contributions ↔
      (key, r) ∈ sheet.contributions := by
  rw [partition_eq, mem_contributions_siftRules (Rule.isOther_iff.1 other).2 shallow,
    contributions, List.mem_flatMap]
  simp only [anywhere, and_true]

end Stylesheet

/-- A stylesheet that was read contributes its other rules under their own keys, and verbatim
at-rules in groups under the keys of these. -/
theorem Stylesheet.IsRead.mem_contributions {sheet : Stylesheet} (read : sheet.IsRead) {r : Rule}
    (other : r.IsOther) {key : String} :
    (key, r) ∈ sheet.contributions ↔ (r ∈ sheet ∧ r.key? "" = some key) ∨
      ∃ kind condition inner position, .group kind condition inner position ∈ sheet ∧
        r ∈ inner ∧ r.kind = .atRule ∧ key = kind.key condition := by
  rw [Stylesheet.contributions, List.mem_flatMap]
  constructor
  · intro given
    obtain ⟨q, mem, contributed⟩ := given
    cases q with
    | group kind condition inner position =>
      obtain ⟨rfl, inside⟩ := mem_contributions_group.1 contributed
      refine Or.inr ⟨kind, condition, inner, position, mem, inside, ?_, rfl⟩
      cases read _ mem with
      | group grouped =>
        cases grouped r inside with
        | style => exact other.elim
        | atRule => rfl
    | _ =>
      obtain ⟨rfl, keyed⟩ := (mem_contributions_of_isFlat (by trivial)).1 contributed
      exact Or.inl ⟨mem, keyed⟩
  · intro given
    rcases given with ⟨mem, keyed⟩ | ⟨kind, condition, inner, position, mem, inside, -, rfl⟩
    · exact ⟨r, mem, (mem_contributions_of_isFlat (Rule.isOther_iff.1 other).1).2 ⟨rfl, keyed⟩⟩
    · exact ⟨_, mem, mem_contributions_group.2 ⟨rfl, inside⟩⟩

namespace Assembly

variable {sheet : Stylesheet} {dropKeyframes : Bool} {pages : List (String × SelectorMap)}
  {key : String} {r : Rule}

/-! ## What the pages contribute -/

section

variable (read : sheet.IsRead) (visited : pages ≠ [])

include read visited

/-- The other rules of the critical parts: those at the top level of a kept kind. -/
theorem mem_criticals (other : r.IsOther) :
    (key, r) ∈ criticals (sheet.onPages dropKeyframes pages) ↔
      r ∈ sheet ∧ r.kind ∈ criticalKinds dropKeyframes ∧ r.key? "" = some key := by
  rw [criticals, Stylesheet.onPages, List.flatMap_map, List.mem_flatMap]
  simp only [PageResult.ofMap, Stylesheet.mem_contributions_partition_fst read.shallow other,
    exists_and_right, List.exists_mem_of_ne_nil pages visited, true_and]

/-- The other rules of the rests: all. -/
theorem mem_rests (other : r.IsOther) :
    (key, r) ∈ rests (sheet.onPages dropKeyframes pages) ↔ (key, r) ∈ sheet.contributions := by
  rw [rests, Stylesheet.onPages, List.flatMap_map, List.mem_flatMap]
  simp only [PageResult.ofMap, Stylesheet.mem_contributions_partition_snd read.shallow other,
    exists_and_right, List.exists_mem_of_ne_nil pages visited, true_and]

theorem mem_erased_criticals (other : r.IsOther) :
    (key, r.erase) ∈ erased (criticals (sheet.onPages dropKeyframes pages)) ↔
      (∃ q ∈ sheet, q.erase = r.erase) ∧ r.kind ∈ criticalKinds dropKeyframes ∧
        r.key? "" = some key := by
  rw [RuleMap.mem_erased]
  constructor
  · intro given
    obtain ⟨q, added, same⟩ := given
    rw [mem_criticals read visited (Rule.isOther_of_erase same other),
      Rule.kind_eq_of_erase same, Rule.key?_eq_of_erase same] at added
    exact ⟨⟨q, added.1, same⟩, added.2⟩
  · intro given
    obtain ⟨⟨q, mem, same⟩, placed⟩ := given
    rw [← Rule.kind_eq_of_erase same, ← Rule.key?_eq_of_erase same] at placed
    exact ⟨q, (mem_criticals read visited (Rule.isOther_of_erase same other)).2 ⟨mem, placed⟩,
      same⟩

theorem mem_erased_rests (other : r.IsOther) :
    (key, r.erase) ∈ erased (rests (sheet.onPages dropKeyframes pages)) ↔
      (key, r.erase) ∈ erased sheet.contributions := by
  rw [RuleMap.mem_erased, RuleMap.mem_erased]
  refine exists_congr fun q => and_congr_left fun same => ?_
  exact mem_rests read visited (Rule.isOther_of_erase same other)

/-! ## What the maps hold -/

variable (free : CollisionFree (involved (sheet.onPages dropKeyframes pages)))

include free

/-- The keys of an other rule in the critical map: its own, if its kind is kept. -/
theorem mem_keysOf_criticalOf (other : r.IsOther) :
    key ∈ (criticalOf (sheet.onPages dropKeyframes pages)).keysOf r ↔
      (∃ q ∈ sheet, q.erase = r.erase) ∧ r.kind ∈ criticalKinds dropKeyframes ∧
        r.key? "" = some key := by
  rw [RuleMap.mem_keysOf, criticalOf,
    RuleMap.sameRules_items_collect (collisionFree_criticals free),
    mem_erased_criticals read visited other]

/-- The keys of an other rule in the rest: those of the stylesheet, unless its kind is kept. -/
theorem mem_keysOf_restOf (other : r.IsOther) :
    key ∈ (restOf (sheet.onPages dropKeyframes pages)).keysOf r ↔
      (key, r.erase) ∈ erased sheet.contributions ∧ r.kind ∉ criticalKinds dropKeyframes := by
  have both : CollisionFree ((rests (sheet.onPages dropKeyframes pages) ++
      criticals (sheet.onPages dropKeyframes pages)).map Prod.snd) :=
    free.mono fun q mem => by
      rw [involved, List.map_append, List.map_append, List.mem_append, List.mem_append]
      rw [List.map_append, List.mem_append] at mem
      exact Or.inl mem.symm
  rw [RuleMap.mem_keysOf, restOf, RuleMap.sameRules_items_collect (collisionFree_remnants free),
    remnants, criticalOf, RuleMap.mem_erased_leftovers both (Rule.isOther_iff.1 other).2,
    mem_erased_rests read visited other, mem_erased_criticals read visited other]
  -- a rule of a kept kind is at the top level, so the critical map has it under this key
  refine and_congr_right fun contributed => not_congr ⟨fun critical => critical.2.1, fun kept => ?_⟩
  obtain ⟨q, added, same⟩ := RuleMap.mem_erased.1 contributed
  rcases (read.mem_contributions (Rule.isOther_of_erase same other)).1 added with
    ⟨mem, keyed⟩ | ⟨-, -, -, -, -, -, nested, -⟩
  · rw [Rule.key?_eq_of_erase same] at keyed
    exact ⟨⟨q, mem, same⟩, kept, keyed⟩
  · rw [← Rule.kind_eq_of_erase same, nested] at kept
    exact (atRule_not_mem_criticalKinds dropKeyframes kept).elim

theorem keysOf_of_kept (mem : r ∈ sheet) (other : r.IsOther)
    (kept : r.kind ∈ criticalKinds dropKeyframes) (keyed : r.key? "" = some key) :
    (criticalOf (sheet.onPages dropKeyframes pages)).keysOf r = [key] ∧
      (restOf (sheet.onPages dropKeyframes pages)).keysOf r = [] := by
  constructor
  · have once : ((criticalOf (sheet.onPages dropKeyframes pages)).keysOf r).Nodup :=
      RuleMap.nodup_keysOf _ r
    refine List.perm_singleton.1
      ((List.perm_ext_iff_of_nodup once (List.nodup_singleton key)).2 fun known => ?_)
    rw [mem_keysOf_criticalOf read visited free other, keyed, Option.some.injEq,
      List.mem_singleton]
    exact ⟨fun given => given.2.2.symm, fun same => ⟨⟨r, mem, rfl⟩, kept, same.symm⟩⟩
  · refine List.eq_nil_iff_forall_not_mem.2 fun known held => ?_
    exact ((mem_keysOf_restOf read visited free other).1 held).2 kept

theorem keysOf_of_not_kept (other : r.IsOther) (left : r.kind ∉ criticalKinds dropKeyframes)
    (added : (key, r) ∈ sheet.contributions) :
    ((restOf (sheet.onPages dropKeyframes pages)).keysOf r).count key = 1 ∧
      (criticalOf (sheet.onPages dropKeyframes pages)).keysOf r = [] := by
  constructor
  · refine List.count_eq_one_of_mem (RuleMap.nodup_keysOf _ r) ?_
    exact (mem_keysOf_restOf read visited free other).2 ⟨RuleMap.mem_erased_of_mem added, left⟩
  · refine List.eq_nil_iff_forall_not_mem.2 fun known held => ?_
    exact left ((mem_keysOf_criticalOf read visited free other).1 held).2.1

theorem keysOf_of_comment (comment : r.kind = .comment) :
    (criticalOf (sheet.onPages dropKeyframes pages)).keysOf r = [] ∧
      (restOf (sheet.onPages dropKeyframes pages)).keysOf r = [] := by
  have other : r.IsOther := Rule.isOther_iff_kind.2 (by simp [comment])
  constructor
  · refine List.eq_nil_iff_forall_not_mem.2 fun key held => ?_
    have keyed := ((mem_keysOf_criticalOf read visited free other).1 held).2.2
    rw [Rule.key?_of_comment comment] at keyed
    cases keyed
  · refine List.eq_nil_iff_forall_not_mem.2 fun key held => ?_
    obtain ⟨q, added, same⟩ :=
      RuleMap.mem_erased.1 ((mem_keysOf_restOf read visited free other).1 held).1
    have silent : q.kind = .comment := (Rule.kind_eq_of_erase same).trans comment
    rcases (read.mem_contributions (Rule.isOther_of_erase same other)).1 added with
      ⟨-, keyed⟩ | ⟨-, -, -, -, -, -, nested, -⟩
    · rw [Rule.key?_of_comment silent] at keyed
      cases keyed
    · cases silent.symm.trans nested

end

/-- **Other rules go to one side.** A charset or font-face rule of the top level, and a keyframes
rule if these are kept, is in the critical map once, under its own key, and not in the rest. A
verbatim at-rule of the top level, and a keyframes rule if these are dropped, is in the rest once
under its own key and not in the critical map; so is an at-rule in a group under the key of the
group. The rest has other rules under no other key, and comments are in neither map. -/
theorem others_on_one_side {css : String} (read : Stylesheet.parse css = .ok sheet)
    (dropKeyframes : Bool) (visited : pages ≠ [])
    (free : CollisionFree (involved (sheet.onPages dropKeyframes pages))) :
    ∃ critical rest, criticalMap (sheet.onPages dropKeyframes pages) = .ok critical ∧
      restMap (sheet.onPages dropKeyframes pages) critical = .ok rest ∧
      (∀ r ∈ sheet, r.kind = .charset ∨ r.kind = .fontFace ∨
          r.kind = .keyframes ∧ dropKeyframes = false →
        ∃ key, r.key? "" = some key ∧ critical.keysOf r = [key] ∧ rest.keysOf r = []) ∧
      (∀ r ∈ sheet, r.kind = .atRule ∨ r.kind = .keyframes ∧ dropKeyframes = true →
        ∃ key, r.key? "" = some key ∧ (rest.keysOf r).count key = 1 ∧
          critical.keysOf r = []) ∧
      (∀ kind condition inner position, .group kind condition inner position ∈ sheet →
        ∀ a, .atRule a ∈ inner → (rest.keysOf (.atRule a)).count (kind.key condition) = 1 ∧
          critical.keysOf (.atRule a) = []) ∧
      (∀ r key, r.IsOther → key ∈ rest.keysOf r → (key, r.erase) ∈ erased sheet.contributions) ∧
      ∀ r, r.kind = .comment → critical.keysOf r = [] ∧ rest.keysOf r = [] := by
  have shape := Stylesheet.isRead_of_parse read
  refine ⟨_, _, criticalMap_eq shape dropKeyframes pages, restMap_eq shape dropKeyframes pages,
    fun r mem kinds => ?_, fun r mem kinds => ?_,
    fun kind condition inner position mem a inside => ?_, fun r key other held => ?_,
    fun r comment => keysOf_of_comment shape visited free comment⟩
  -- each of the kinds is an other one that has keys, and is kept or not
  · obtain ⟨other, kept, silent, alone⟩ : r.IsOther ∧ r.kind ∈ criticalKinds dropKeyframes ∧
        r.kind ≠ .comment ∧ r.kind ≠ .keyframe := by
      rw [Rule.isOther_iff_kind]
      rcases kinds with kind | kind | ⟨kind, rfl⟩ <;> simp [criticalKinds, kind]
    obtain ⟨key, keyed⟩ := Rule.exists_key? other silent alone
    exact ⟨key, keyed, keysOf_of_kept shape visited free mem other kept keyed⟩
  · obtain ⟨other, left, silent, alone⟩ : r.IsOther ∧ r.kind ∉ criticalKinds dropKeyframes ∧
        r.kind ≠ .comment ∧ r.kind ≠ .keyframe := by
      rw [Rule.isOther_iff_kind]
      rcases kinds with kind | ⟨kind, rfl⟩ <;> simp [criticalKinds, kind]
    obtain ⟨key, keyed⟩ := Rule.exists_key? other silent alone
    have added : (key, r) ∈ sheet.contributions :=
      (shape.mem_contributions other).2 (Or.inl ⟨mem, keyed⟩)
    exact ⟨key, keyed, keysOf_of_not_kept shape visited free other left added⟩
  · have other : (Rule.atRule a).IsOther := trivial
    have added : (kind.key condition, .atRule a) ∈ sheet.contributions :=
      (shape.mem_contributions other).2
        (Or.inr ⟨kind, condition, inner, position, mem, inside, rfl, rfl⟩)
    exact keysOf_of_not_kept shape visited free other
      (atRule_not_mem_criticalKinds dropKeyframes) added
  · exact ((mem_keysOf_restOf shape visited free other).1 held).1

/-- Two pages have the same font, import and keyframes, and an at-rule in a group that only one of
them finds critical. -/
theorem others_on_one_side_of_two_pages :
    let font : Rule := .fontFace [⟨"src", "x"⟩] (some ⟨1, 1⟩)
    let load : Rule := .atRule ⟨"import", "z", none, some ⟨1, 22⟩⟩
    let layer : AtRule := ⟨"layer", "y", none, some ⟨1, 43⟩⟩
    let style : Rule := .style ⟨["a"], [⟨"c", "d"⟩], some ⟨1, 53⟩⟩
    let inner : List Rule := [.atRule layer, style]
    let frames : Rule := .keyframes "k" "" [] (some ⟨1, 65⟩)
    let css := "@font-face \x7b src: x \x7d@import z;@media p \x7b @layer y; a \x7b c: d \x7d " ++
      "\x7d@keyframes k \x7b\x7d"
    let sheet : Stylesheet := [font, load, .group .media "p" inner (some ⟨1, 32⟩), frames]
    let pages : List (String × SelectorMap) :=
      [("u", [("@media pa", ⟨["a"], none, none⟩)]), ("v", [])]
    Stylesheet.parse css = .ok sheet ∧
      ∃ critical rest, criticalMap (sheet.onPages true pages) = .ok critical ∧
        restMap (sheet.onPages true pages) critical = .ok rest ∧
        (critical.keysOf font = ["@font-face"] ∧ rest.keysOf font = []) ∧
        ((rest.keysOf load).count "@import z" = 1 ∧ critical.keysOf load = []) ∧
        ((rest.keysOf frames).count "@keyframes k" = 1 ∧ critical.keysOf frames = []) ∧
        (rest.keysOf (.atRule layer)).count "@media p" = 1 ∧
          critical.keysOf (.atRule layer) = [] := by
  intro font load layer style inner frames css sheet pages
  have read : Stylesheet.parse css = .ok sheet := by decide +kernel
  have apart : CollisionFree [font, load, .atRule layer, style, frames] :=
    ⟨by decide +kernel, by decide +kernel⟩
  have free : CollisionFree (involved (sheet.onPages true pages)) :=
    apart.of_erase (by decide +kernel)
  obtain ⟨critical, rest, first, second, kept, left, grouped, -⟩ :=
    others_on_one_side read true (List.cons_ne_nil _ _) free
  obtain ⟨key, keyed, fonts⟩ := kept font (by decide) (by decide)
  cases keyed
  obtain ⟨key, keyed, imports⟩ := left load (by decide) (by decide)
  cases keyed
  obtain ⟨key, keyed, animations⟩ := left frames (by decide) (by decide)
  cases keyed
  exact ⟨read, critical, rest, first, second, fonts, imports, animations,
    grouped .media "p" inner (some ⟨1, 32⟩) (by decide) layer List.mem_cons_self⟩

end Assembly

end CriticalCss
