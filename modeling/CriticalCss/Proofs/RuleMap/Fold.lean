import CriticalCss.Proofs.Lists
import CriticalCss.Proofs.Stylesheet.Styling
import CriticalCss.RuleMap.Basic
import Mathlib.Data.List.Induction
import Mathlib.Data.Prod.Lex

/-!
# Folding is grouping by key

Folding stylesheets into the empty rule map gives `RuleMap.collect` of the rules that they
contribute, in order: the keys in the order of their first appearance, and under each key the
contributed rules, each digest once, in the order of their first appearance
(`RuleMap.collect_eq`). `RuleMap.items` lists the rules of a map with their keys, and
`RuleMap.rank` says where a rule stands in that list.
-/

namespace CriticalCss

/-! ## What a stylesheet contributes -/

/-- What a rule of the top level contributes to a rule map: rules with their keys. -/
def Rule.contributions : Rule → List (String × Rule)
  | .group kind condition inner _ => inner.map fun r => (kind.key condition, r)
  | r => (r.key? "").toList.map fun key => (key, r)

/-- Outside groups a rule contributes itself under its key, if it has one. -/
theorem Rule.contributions_of_isFlat {r : Rule} (flat : r.IsFlat) :
    r.contributions = (r.key? "").toList.map fun key => (key, r) := by
  cases r with
  | group => exact flat.elim
  | _ => rfl

/-- What a stylesheet contributes to a rule map. -/
def Stylesheet.contributions (sheet : Stylesheet) : List (String × Rule) :=
  sheet.flatMap Rule.contributions

/-- Groups hold only what they may hold. -/
def Stylesheet.Foldable (sheet : Stylesheet) : Prop :=
  ∀ kind condition inner position, Rule.group kind condition inner position ∈ sheet →
    ∀ r ∈ inner, RuleMap.fitsGroup r = true

theorem Stylesheet.foldable_iff {sheet : Stylesheet} :
    sheet.Foldable ↔ ∀ q ∈ sheet, ∀ r ∈ q.inner, RuleMap.fitsGroup r = true := by
  constructor
  · intro fold q mem r inside
    cases q with
    | group kind condition inner position =>
      exact fold kind condition inner position mem r inside
    | _ => cases inside
  · intro fits kind condition inner position mem r inside
    exact fits _ mem r inside

instance (sheet : Stylesheet) : Decidable sheet.Foldable :=
  decidable_of_iff _ Stylesheet.foldable_iff.symm

theorem Stylesheet.Foldable.of_cons {r : Rule} {rest : Stylesheet}
    (h : Stylesheet.Foldable (r :: rest)) : Stylesheet.Foldable rest :=
  fun kind condition inner position mem =>
    h kind condition inner position (List.mem_cons_of_mem _ mem)

namespace RuleMap

/-- Adds rules under their keys. -/
def insertAll (m : RuleMap) (cs : List (String × Rule)) : RuleMap :=
  cs.foldl (fun m c => m.insert c.1 c.2) m

/-- The map of rules that are added under their keys, one after another. -/
def collect (cs : List (String × Rule)) : RuleMap :=
  insertAll [] cs

theorem insertAll_append (m : RuleMap) (as bs : List (String × Rule)) :
    m.insertAll (as ++ bs) = (m.insertAll as).insertAll bs :=
  List.foldl_append

/-! ## Folding adds the contributions -/

theorem update_update (key : String) (f g : List RuleMapEntry → List RuleMapEntry)
    (m : RuleMap) : (m.update key f).update key g = m.update key (g ∘ f) := by
  induction m with
  | nil => simp [update]
  | cons first rest ih =>
    obtain ⟨known, old⟩ := first
    by_cases same : known = key
    · simp [update, same]
    · simp [update, same, ih]

theorem insertInner_append {key : String} {inner : List Rule}
    (fits : ∀ r ∈ inner, fitsGroup r = true) (rest : List Rule) (m : RuleMap) :
    insertInner key (inner ++ rest) m =
      insertInner key rest (m.insertAll (inner.map fun r => (key, r))) := by
  induction inner generalizing m with
  | nil => rfl
  | cons r inner ih =>
    rw [List.cons_append, insertInner, if_pos (fits r List.mem_cons_self),
      ih fun q mem => fits q (List.mem_cons_of_mem _ mem)]
    rfl

theorem insertInner_eq {key : String} {inner : List Rule}
    (fits : ∀ r ∈ inner, fitsGroup r = true) (m : RuleMap) :
    insertInner key inner m = (none, m.insertAll (inner.map fun r => (key, r))) := by
  have whole : insertInner key (inner ++ []) m = _ := insertInner_append fits [] m
  rwa [List.append_nil] at whole

/-- A group that is not empty makes its key known with its first rule. -/
theorem insertAll_update_id {key : String} {r : Rule} {rest : List Rule} (m : RuleMap) :
    (m.update key id).insertAll ((r :: rest).map fun r => (key, r)) =
      m.insertAll ((r :: rest).map fun r => (key, r)) := by
  simp only [insertAll, List.map_cons, List.foldl_cons, insert, update_update,
    Function.comp_id]

theorem foldRule_eq {r : Rule} (fold : Stylesheet.Foldable [r]) (m : RuleMap) :
    foldRule r m = (none, m.insertAll r.contributions) := by
  cases r with
  | group kind condition inner position =>
    cases inner with
    | nil => rfl
    | cons first rest =>
      rw [foldRule, insertInner_eq (fold kind condition _ position List.mem_cons_self),
        insertAll_update_id]
      · rfl
      · simp
  | style r =>
    simp only [foldRule, Rule.contributions]
    cases (Rule.style r).key? "" <;> rfl
  | atRule | fontFace | charset | keyframes | keyframe | comment => rfl

/-- What can be folded is added before the rest. -/
theorem foldSheet_append {sheet : Stylesheet} (fold : sheet.Foldable) (rest : Stylesheet)
    (m : RuleMap) :
    foldSheet (sheet ++ rest) m = foldSheet rest (m.insertAll sheet.contributions) := by
  induction sheet generalizing m with
  | nil => rfl
  | cons r sheet ih =>
    have one : Stylesheet.Foldable [r] := by
      intro kind condition inner position mem
      rw [List.mem_singleton] at mem
      subst mem
      exact fold kind condition inner position List.mem_cons_self
    rw [List.cons_append, foldSheet, foldRule_eq one, Stylesheet.contributions, List.flatMap_cons,
      insertAll_append]
    exact ih fold.of_cons _

theorem foldSheet_eq {sheet : Stylesheet} (fold : sheet.Foldable) (m : RuleMap) :
    foldSheet sheet m = (none, m.insertAll sheet.contributions) := by
  have whole := foldSheet_append fold [] m
  rwa [List.append_nil] at whole

/-- **Folding collects.** The map of stylesheets that can be folded depends only on what they
contribute, in order. -/
theorem ofSheets_eq {sheets : List Stylesheet} (fold : ∀ sheet ∈ sheets, sheet.Foldable) :
    ofSheets sheets = .ok (collect (sheets.flatMap Stylesheet.contributions)) := by
  unfold ofSheets collect
  generalize ([] : RuleMap) = m
  induction sheets generalizing m with
  | nil => rfl
  | cons sheet rest ih =>
    rw [List.foldlM_cons, foldSheet_eq (fold sheet List.mem_cons_self), List.flatMap_cons,
      insertAll_append]
    exact ih (fun other mem => fold other (List.mem_cons_of_mem _ mem)) _

/-! ## Collecting groups by key -/

/-- The rules that stand under a key. -/
def under (cs : List (String × Rule)) (key : String) : List Rule :=
  (cs.filter fun c => c.1 = key).map Prod.snd

/-- The entries of rules, each digest once, in the order of their first appearance. -/
def distinct (rs : List Rule) : List RuleMapEntry :=
  rs.foldl (fun es r => addEntry (.ofRule r) es) []

theorem collect_append_singleton (cs : List (String × Rule)) (c : String × Rule) :
    collect (cs ++ [c]) = (collect cs).insert c.1 c.2 :=
  insertAll_append [] cs [c]

theorem mem_under {cs : List (String × Rule)} {key : String} {r : Rule} :
    r ∈ under cs key ↔ (key, r) ∈ cs := by
  simp [under]

theorem under_append (as bs : List (String × Rule)) (key : String) :
    under (as ++ bs) key = under as key ++ under bs key := by
  simp [under]

theorem under_eq_nil {cs : List (String × Rule)} {key : String} (new : key ∉ cs.map Prod.fst) :
    under cs key = [] :=
  List.eq_nil_iff_forall_not_mem.2 fun _ mem => new (List.mem_map.2 ⟨_, mem_under.1 mem, rfl⟩)

theorem distinct_append_singleton (rs : List Rule) (r : Rule) :
    distinct (rs ++ [r]) = addEntry (.ofRule r) (distinct rs) :=
  List.foldl_append

/-- Changing one key of a map with different keys changes that key only, or adds it. -/
theorem update_map {keys : List String} (nodup : keys.Nodup) (key : String)
    (f : List RuleMapEntry → List RuleMapEntry) (g : String → List RuleMapEntry) :
    update key f (keys.map fun k => (k, g k)) =
      (keys.map fun k => (k, if k = key then f (g k) else g k)) ++
        if key ∈ keys then [] else [(key, f [])] := by
  induction keys with
  | nil => rfl
  | cons k keys ih =>
    rw [List.nodup_cons] at nodup
    rw [List.map_cons, update]
    split
    · rename_i same
      subst same
      have others : ∀ other ∈ keys, (other, g other) =
          (other, if other = k then f (g other) else g other) := by
        intro other mem
        rw [if_neg (ne_of_mem_of_not_mem mem nodup.1)]
      rw [List.map_congr_left others]
      simp
    · rename_i apart
      rw [ih nodup.2]
      simp [apart, Ne.symm apart]

/-- **What collecting gives.** The keys in the order of their first appearance, each with its
rules. -/
theorem collect_eq (cs : List (String × Rule)) :
    collect cs = (cs.map Prod.fst).eraseDups.map fun key => (key, distinct (under cs key)) := by
  induction cs using List.reverseRecOn with
  | nil => rfl
  | append_singleton cs c ih =>
    obtain ⟨key, r⟩ := c
    have one : ∀ k, distinct (under (cs ++ [(key, r)]) k) =
        if k = key then addEntry (.ofRule r) (distinct (under cs k))
        else distinct (under cs k) := by
      intro k
      rw [under_append]
      split
      · rename_i same
        subst same
        rw [← distinct_append_singleton]
        simp [under]
      · rename_i apart
        simp [under, Ne.symm apart]
    rw [collect_append_singleton, ih, insert, update_map (nodup_eraseDups _), List.map_append,
      List.map_cons, List.map_nil, eraseDups_append_singleton, List.map_append]
    simp only [List.mem_eraseDups, one]
    congr 1
    split
    · rfl
    · rename_i new
      simp [under_eq_nil new, distinct]

/-! ## The rules of a map -/

/-- The rules of a map with their keys, in order. -/
def items (m : RuleMap) : List (String × Rule) :=
  m.flatMap fun (key, entries) => entries.map fun e => (key, e.rule)

theorem mem_items {m : RuleMap} {c : String × Rule} :
    c ∈ m.items ↔ ∃ es, (c.1, es) ∈ m ∧ ∃ e ∈ es, e.rule = c.2 := by
  obtain ⟨key, r⟩ := c
  simp only [items, List.mem_flatMap, List.mem_map, Prod.mk.injEq, Prod.exists]
  constructor
  · intro given
    rcases given with ⟨k, es, mem, e, inside, rfl, rfl⟩
    exact ⟨es, mem, e, inside, rfl⟩
  · intro given
    rcases given with ⟨es, mem, e, inside, rfl⟩
    exact ⟨key, es, mem, e, inside, rfl, rfl⟩

/-- What holds of the rules of a map holds of those under its first key, and of the others. -/
theorem forall_mem_items_cons {key : String} {es : List RuleMapEntry} {rest : RuleMap}
    {p : String × Rule → Prop} :
    (∀ c ∈ items ((key, es) :: rest), p c) ↔
      (∀ e ∈ es, p (key, e.rule)) ∧ ∀ c ∈ rest.items, p c := by
  rw [items, List.flatMap_cons, List.forall_mem_append, List.forall_mem_map]
  rfl

theorem addEntry_ofRule (r : Rule) (es : List RuleMapEntry) :
    addEntry (.ofRule r) es =
      if es.any fun e => e.digest = r.digest then es else es ++ [.ofRule r] :=
  rfl

/-- The digests of the entries. -/
theorem digests_distinct (rs : List Rule) :
    (distinct rs).map (·.digest) = (rs.map Rule.digest).eraseDups := by
  induction rs using List.reverseRecOn with
  | nil => rfl
  | append_singleton rs r ih =>
    have known : ((distinct rs).any fun e => e.digest = r.digest) = true ↔
        r.digest ∈ rs.map Rule.digest := by
      rw [← List.mem_eraseDups, ← ih]
      simp
    rw [distinct_append_singleton, addEntry_ofRule, List.map_append, List.map_cons,
      List.map_nil, eraseDups_append_singleton, ← ih]
    simp only [known]
    split
    · rw [List.append_nil]
    · rw [List.map_append]
      rfl

theorem distinct_append_of_mem {rs : List Rule} {r : Rule}
    (known : r.digest ∈ rs.map Rule.digest) : distinct (rs ++ [r]) = distinct rs := by
  rw [← List.mem_eraseDups, ← digests_distinct] at known
  rw [distinct_append_singleton, addEntry_ofRule, if_pos]
  simpa using known

theorem distinct_append_of_not_mem {rs : List Rule} {r : Rule}
    (new : r.digest ∉ rs.map Rule.digest) :
    distinct (rs ++ [r]) = distinct rs ++ [.ofRule r] := by
  rw [← List.mem_eraseDups, ← digests_distinct] at new
  rw [distinct_append_singleton, addEntry_ofRule, if_neg]
  simpa using new

/-- The first rule of each digest has an entry. -/
theorem mem_distinct {rs : List Rule} {e : RuleMapEntry} :
    e ∈ distinct rs ↔
      e = .ofRule e.rule ∧ rs.find? (fun r => r.digest = e.rule.digest) = some e.rule := by
  induction rs using List.reverseRecOn with
  | nil => simp [distinct]
  | append_singleton rs r ih =>
    rw [List.find?_append]
    by_cases known : r.digest ∈ rs.map Rule.digest
    · rw [distinct_append_of_mem known, ih]
      refine and_congr_right fun _ => ?_
      by_cases same : r.digest = e.rule.digest
      · obtain ⟨q, mem, earlier⟩ := List.mem_map.1 known
        have found : (rs.find? fun r => r.digest = e.rule.digest).isSome = true := by
          rw [List.find?_isSome]
          exact ⟨q, mem, by simp [earlier, same]⟩
        rw [Option.or_of_isSome found]
      · simp [same]
    · rw [distinct_append_of_not_mem known, List.mem_append, ih, List.mem_singleton]
      by_cases same : r.digest = e.rule.digest
      · have none : (rs.find? fun r => r.digest = e.rule.digest) = none := by
          rw [List.find?_eq_none]
          intro q mem equal
          refine known (List.mem_map.2 ⟨q, mem, ?_⟩)
          rw [same]
          simpa using equal
        rw [none, Option.none_or]
        simp only [List.find?_cons, same, decide_true, Option.some.injEq]
        constructor
        · intro given
          rcases given with ⟨-, impossible⟩ | rfl
          · cases impossible
          · exact ⟨rfl, rfl⟩
        · intro given
          rcases given with ⟨whole, first⟩
          rw [first]
          exact Or.inr whole
      · have apart : e ≠ .ofRule r := by
          intro same
          subst same
          exact same rfl
        simp [same, apart]

theorem mem_collect {cs : List (String × Rule)} {key : String} {es : List RuleMapEntry} :
    (key, es) ∈ collect cs ↔ key ∈ cs.map Prod.fst ∧ es = distinct (under cs key) := by
  rw [collect_eq, List.mem_map]
  constructor
  · intro given
    rcases given with ⟨k, known, pair⟩
    cases pair
    exact ⟨List.mem_eraseDups.1 known, rfl⟩
  · intro given
    rcases given with ⟨known, rfl⟩
    exact ⟨key, List.mem_eraseDups.2 known, rfl⟩

/-- The map holds the first rule of each digest under a key. -/
theorem mem_items_collect {cs : List (String × Rule)} {c : String × Rule} :
    c ∈ (collect cs).items ↔
      (under cs c.1).find? (fun r => r.digest = c.2.digest) = some c.2 := by
  simp only [mem_items, mem_collect]
  constructor
  · intro given
    rcases given with ⟨es, ⟨-, rfl⟩, e, inside, same⟩
    rw [← same]
    exact (mem_distinct.1 inside).2
  · intro first
    have mem := mem_under.1 (List.mem_of_find?_eq_some first)
    exact ⟨_, ⟨List.mem_map.2 ⟨_, mem, rfl⟩, rfl⟩, .ofRule c.2, mem_distinct.2 ⟨rfl, first⟩, rfl⟩

theorem mem_of_mem_items_collect {cs : List (String × Rule)} {c : String × Rule}
    (mem : c ∈ (collect cs).items) : c ∈ cs :=
  mem_under.1 (List.mem_of_find?_eq_some (mem_items_collect.1 mem))

/-- Every rule that is added is held, or one with its digest that was added before. -/
theorem exists_mem_items_collect {cs : List (String × Rule)} {key : String} {r : Rule}
    (mem : (key, r) ∈ cs) :
    ∃ q, (key, q) ∈ (collect cs).items ∧ q.digest = r.digest := by
  have found : ((under cs key).find? fun q => q.digest = r.digest).isSome = true := by
    rw [List.find?_isSome]
    exact ⟨r, mem_under.2 mem, by simp⟩
  obtain ⟨q, first⟩ := Option.isSome_iff_exists.1 found
  have same : q.digest = r.digest := by simpa using List.find?_some first
  refine ⟨q, mem_items_collect.2 ?_, same⟩
  rw [same]
  exact first

/-- Under a key the digest tells the rule. -/
theorem eq_of_mem_items_collect {cs : List (String × Rule)} {key : String} {a b : Rule}
    (ha : (key, a) ∈ (collect cs).items) (hb : (key, b) ∈ (collect cs).items)
    (same : a.digest = b.digest) : a = b := by
  rw [mem_items_collect] at ha hb
  rw [same, hb] at ha
  exact (Option.some.inj ha).symm

/-! ## The order of a map -/

/-- The place of a rule in a map: first counts where its key appears first, then where its digest
appears first under the key. -/
def rank (cs : List (String × Rule)) (c : String × Rule) : Nat ×ₗ Nat :=
  toLex ((cs.map Prod.fst).idxOf c.1, ((under cs c.1).map Rule.digest).idxOf c.2.digest)

/-- **The order of a map.** The rules of a map stand in the order of their ranks. -/
theorem pairwise_rank_items (cs : List (String × Rule)) :
    (collect cs).items.Pairwise fun c d => rank cs c < rank cs d := by
  rw [items, collect_eq, List.flatMap_map, List.pairwise_flatMap]
  constructor
  · intro key _
    have places := pairwise_idxOf_eraseDups ((under cs key).map Rule.digest)
    rw [← digests_distinct, List.pairwise_map] at places
    rw [List.pairwise_map]
    refine places.imp_of_mem fun {e f} he hf less => ?_
    rw [(mem_distinct.1 he).1, (mem_distinct.1 hf).1] at less
    exact Prod.Lex.toLex_lt_toLex.2 (Or.inr ⟨rfl, less⟩)
  · refine (pairwise_idxOf_eraseDups _).imp fun {k l} less c hc d hd => ?_
    obtain ⟨e, -, rfl⟩ := List.mem_map.1 hc
    obtain ⟨f, -, rfl⟩ := List.mem_map.1 hd
    exact Prod.Lex.toLex_lt_toLex.2 (Or.inl less)

theorem nodup_items (cs : List (String × Rule)) : (collect cs).items.Nodup :=
  (pairwise_rank_items cs).imp fun less => ne_of_apply_ne (rank cs) less.ne

end RuleMap

end CriticalCss
