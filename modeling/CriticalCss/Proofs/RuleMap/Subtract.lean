import CriticalCss.Proofs.RuleMap.Fold
import CriticalCss.Proofs.Stylesheet.Content
import CriticalCss.Proofs.Stylesheet.Styling
import CriticalCss.RuleMap.Subtract
import Mathlib.Data.List.Nodup

/-!
# The style rules of a map, and what subtracting leaves of them

`RuleMap.styles` lists the style rules of a map and `RuleMap.stylings` what they say. If the
digests of the rules that were added tell their contents, the map says what these rules say
(`RuleMap.mem_stylings_collect`), and holds each of them once.

Subtracting collects the `RuleMap.leftovers` of the map, one rule at a time, so what was shown of
folding holds of its result too.
-/

namespace CriticalCss

/-- A styling as subtraction knows it. -/
def Styling.identity (t : Styling) : Identity :=
  ⟨t.group, t.selector, Declaration.digest t.declarations⟩

namespace RuleMap

/-! ## Style rules -/

/-- The style rules among rules with keys. -/
def styled (cs : List (String × Rule)) : List (String × StyleRule) :=
  cs.filterMap fun c => c.2.style?.map fun r => (c.1, r)

theorem mem_styled {cs : List (String × Rule)} {key : String} {r : StyleRule} :
    (key, r) ∈ styled cs ↔ (key, .style r) ∈ cs := by
  simp only [styled, List.mem_filterMap, Option.map_eq_some_iff, Rule.style?_eq_some_iff,
    Prod.mk.injEq, Prod.exists]
  constructor
  · intro given
    rcases given with ⟨k, q, mem, p, rfl, rfl, rfl⟩
    exact mem
  · intro mem
    exact ⟨key, _, mem, r, rfl, rfl, rfl⟩

theorem styled_append (as bs : List (String × Rule)) :
    styled (as ++ bs) = styled as ++ styled bs :=
  List.filterMap_append

/-- The style rules of a map with their keys, in order. -/
def styles (m : RuleMap) : List (String × StyleRule) :=
  styled m.items

/-- The key under which a style rule of a group stands, the empty text meaning the top level. -/
def keyOf (group : String) (r : StyleRule) : String :=
  if group = "" then selectorList r.selectors else group

theorem keyOf_eq_of_sameAs {a b : StyleRule} (same : a.SameAs b) (group : String) :
    keyOf group a = keyOf group b := by
  rw [keyOf, keyOf, same.1]

/-- The stylings of a map. -/
def stylings (m : RuleMap) : List Styling :=
  m.styles.flatMap fun (key, r) => r.stylings (groupOf key)

theorem mem_stylings {m : RuleMap} {t : Styling} :
    t ∈ m.stylings ↔ ∃ key r, (key, r) ∈ m.styles ∧ t ∈ r.stylings (groupOf key) := by
  simp [stylings]

/-! ## Collision-free digests -/

/-- The digest of each of the rules tells its content, and so does that of its declarations. -/
structure CollisionFree (rs : List Rule) : Prop where
  rules : ∀ a ∈ rs, ∀ b ∈ rs, a.digest = b.digest → a.payload = b.payload
  declarations : ∀ a ∈ rs, ∀ b ∈ rs,
    Declaration.digest a.declarations = Declaration.digest b.declarations →
      Declaration.payload a.declarations = Declaration.payload b.declarations

theorem CollisionFree.mono {rs others : List Rule} (free : CollisionFree others)
    (sub : ∀ r ∈ rs, r ∈ others) : CollisionFree rs :=
  ⟨fun a ha b hb => free.rules a (sub a ha) b (sub b hb),
    fun a ha b hb => free.declarations a (sub a ha) b (sub b hb)⟩

/-- A style rule is the only thing that has its digest. -/
theorem CollisionFree.eq_style {rs : List Rule} (free : CollisionFree rs) {a : Rule}
    {b : StyleRule} (ha : a ∈ rs) (hb : .style b ∈ rs) (same : a.digest = (Rule.style b).digest) :
    ∃ r : StyleRule, a = .style r ∧ r.SameAs b := by
  have erased := Rule.erase_eq_of_payload (free.rules a ha _ hb same)
  cases a with
  | style r => exact ⟨r, rfl, StyleRule.sameAs_iff_erase.2 erased⟩
  | _ => simp [Rule.erase] at erased

theorem CollisionFree.declarations_eq {rs : List Rule} (free : CollisionFree rs)
    {a b : StyleRule} (ha : .style a ∈ rs) (hb : .style b ∈ rs)
    (same : Declaration.digest a.declarations = Declaration.digest b.declarations) :
    a.declarations = b.declarations :=
  Declaration.payload_inj (free.declarations _ ha _ hb same)

/-! ## What a map says -/

variable {cs : List (String × Rule)}

theorem mem_styled_of_mem_styles {key : String} {r : StyleRule}
    (mem : (key, r) ∈ (collect cs).styles) : (key, r) ∈ styled cs :=
  mem_styled.2 (mem_of_mem_items_collect (mem_styled.1 mem))

/-- A style rule that is added is held, maybe from another place. -/
theorem exists_mem_styles_collect (free : CollisionFree (cs.map Prod.snd)) {key : String}
    {r : StyleRule} (mem : (key, r) ∈ styled cs) :
    ∃ q, (key, q) ∈ (collect cs).styles ∧ q.SameAs r := by
  have added := mem_styled.1 mem
  obtain ⟨a, held, same⟩ := exists_mem_items_collect added
  obtain ⟨q, rfl, equal⟩ := free.eq_style (List.mem_map.2 ⟨_, mem_of_mem_items_collect held, rfl⟩)
    (List.mem_map.2 ⟨_, added, rfl⟩) same
  exact ⟨q, mem_styled.2 held, equal⟩

/-- Under a key no two style rules say the same. -/
theorem eq_of_sameAs {key : String} {a b : StyleRule} (ha : (key, a) ∈ (collect cs).styles)
    (hb : (key, b) ∈ (collect cs).styles) (same : a.SameAs b) : a = b := by
  have digests := Rule.digest_eq_of_erase (StyleRule.sameAs_iff_erase.1 same)
  exact Rule.style.inj (eq_of_mem_items_collect (mem_styled.1 ha) (mem_styled.1 hb) digests)

theorem nodup_styles (cs : List (String × Rule)) : (collect cs).styles.Nodup := by
  refine List.Nodup.filterMap (fun a b c ha hb => ?_) (nodup_items cs)
  obtain ⟨r, own, rfl⟩ := Option.map_eq_some_iff.1 ha
  obtain ⟨q, other, pair⟩ := Option.map_eq_some_iff.1 hb
  obtain ⟨keys, rfl⟩ := Prod.mk.inj pair
  exact Prod.ext keys.symm
    ((Rule.style?_eq_some_iff.1 own).trans (Rule.style?_eq_some_iff.1 other).symm)

/-- The style rules of a map stand in the order of their ranks. -/
theorem pairwise_rank_styles (cs : List (String × Rule)) :
    (collect cs).styles.Pairwise fun c d =>
      rank cs (c.1, .style c.2) < rank cs (d.1, .style d.2) := by
  rw [styles, styled, List.pairwise_filterMap]
  refine (pairwise_rank_items cs).imp fun {a b} less c hc d hd => ?_
  obtain ⟨r, own, rfl⟩ := Option.map_eq_some_iff.1 hc
  obtain ⟨q, other, rfl⟩ := Option.map_eq_some_iff.1 hd
  rw [← Rule.style?_eq_some_iff.1 own, ← Rule.style?_eq_some_iff.1 other]
  exact less

/-- What was added is held exactly once. -/
theorem countP_styles_eq_one {key : String} {a r : StyleRule}
    (held : (key, a) ∈ (collect cs).styles) (same : a.SameAs r) :
    ((collect cs).styles.countP fun c => c.1 = key ∧ c.2.SameAs r) = 1 := by
  rw [← List.count_eq_one_of_mem (nodup_styles cs) held, List.count_eq_countP]
  refine List.countP_congr fun c mem => ?_
  obtain ⟨k, b⟩ := c
  simp only [decide_eq_true_eq, beq_iff_eq, Prod.mk.injEq]
  constructor
  · intro given
    rcases given with ⟨rfl, equal⟩
    exact ⟨rfl, eq_of_sameAs mem held (equal.trans same.symm)⟩
  · intro given
    rcases given with ⟨rfl, rfl⟩
    exact ⟨rfl, same⟩

/-- **A map says what was added to it.** -/
theorem mem_stylings_collect (free : CollisionFree (cs.map Prod.snd)) {t : Styling} :
    t ∈ (collect cs).stylings ↔
      ∃ key r, (key, r) ∈ styled cs ∧ t ∈ r.stylings (groupOf key) := by
  rw [mem_stylings]
  constructor
  · intro given
    rcases given with ⟨key, r, held, carried⟩
    exact ⟨key, r, mem_styled_of_mem_styles held, carried⟩
  · intro given
    rcases given with ⟨key, r, added, carried⟩
    obtain ⟨q, held, same⟩ := exists_mem_styles_collect free added
    exact ⟨key, q, held, by rwa [same.stylings_eq]⟩

/-! ## What is left -/

theorem mem_identities {m : RuleMap} {i : Identity} :
    i ∈ identities m ↔ ∃ t ∈ m.stylings, t.identity = i := by
  simp only [identities, List.mem_flatMap, Prod.exists]
  constructor
  · intro given
    rcases given with ⟨key, es, mem, e, inside, found⟩
    cases shape : e.rule with
    | style r =>
      rw [shape] at found
      obtain ⟨s, carried, rfl⟩ := List.mem_map.1 found
      exact ⟨⟨groupOf key, s, r.declarations⟩,
        mem_stylings.2 ⟨key, r, mem_styled.2 (mem_items.2 ⟨es, mem, e, inside, shape⟩),
          StyleRule.mem_stylings.2 ⟨rfl, carried, rfl⟩⟩, rfl⟩
    | _ => simp [shape] at found
  · intro given
    rcases given with ⟨t, mem, rfl⟩
    obtain ⟨key, r, held, carried⟩ := mem_stylings.1 mem
    obtain ⟨es, mem, e, inside, shape⟩ := mem_items.1 (mem_styled.1 held)
    obtain ⟨group, selector, declarations⟩ := StyleRule.mem_stylings.1 carried
    refine ⟨key, es, mem, e, inside, ?_⟩
    rw [shape]
    refine List.mem_map.2 ⟨t.selector, selector, ?_⟩
    rw [Styling.identity, group, declarations]

/-- The identity of a selector is known exactly if the map says its styling. -/
theorem mem_identities_iff {m : RuleMap} {rs : List Rule} (free : CollisionFree rs)
    (involved : ∀ key q, (key, q) ∈ m.styles → .style q ∈ rs) {r : StyleRule}
    (mem : .style r ∈ rs) (group s : String) :
    ⟨group, s, Declaration.digest r.declarations⟩ ∈ identities m ↔
      ⟨group, s, r.declarations⟩ ∈ m.stylings := by
  rw [mem_identities]
  constructor
  · intro given
    rcases given with ⟨t, said, same⟩
    obtain ⟨key, q, held, carried⟩ := mem_stylings.1 said
    obtain ⟨-, -, own⟩ := StyleRule.mem_stylings.1 carried
    obtain ⟨g, u, ds⟩ := t
    simp only [Styling.identity, Identity.mk.injEq] at same own
    obtain ⟨rfl, rfl, digests⟩ := same
    rw [own] at digests
    rw [← free.declarations_eq (involved key q held) mem digests, ← own]
    exact said
  · intro said
    exact ⟨_, said, rfl⟩

/-- What is left of a rule: what the map does not say. -/
theorem remainder_eq_narrow {m : RuleMap} {rs : List Rule} (free : CollisionFree rs)
    (involved : ∀ key q, (key, q) ∈ m.styles → .style q ∈ rs) {r : StyleRule}
    (mem : .style r ∈ rs) (group : String) :
    remainder (identities m) group r =
      r.narrow fun s => ⟨group, s, r.declarations⟩ ∉ m.stylings := by
  refine StyleRule.narrow_congr fun s _ => ?_
  rw [List.contains_eq_mem, decide_not,
    decide_eq_decide.2 (mem_identities_iff free involved mem group s)]

/-- The same is left of rules that say the same. -/
theorem remainder_of_sameAs {known : List Identity} {group : String} {a b left : StyleRule}
    (same : a.SameAs b) (part : remainder known group a = some left) :
    ∃ other, remainder known group b = some other ∧ left.SameAs other := by
  obtain ⟨other, narrowed, equal⟩ := same.narrow part
  refine ⟨other, ?_, equal⟩
  rw [same.2] at narrowed
  exact narrowed

/-- What is left of an entry, with the key under which it is added. -/
def leftover (known : List Identity) (reference : RuleMap) (key : String) (e : RuleMapEntry) :
    Option (String × Rule) :=
  match e.rule with
  | .style r =>
    (remainder known (groupOf key) r).map fun left =>
      (if isGroupKey key then key else (left.key? "").getD key, .style left)
  | r =>
    if (reference.entries key).any fun other => other.digest = e.digest then none
    else some (key, r)

/-- What is left of the entries of a map. -/
def leftovers (m reference : RuleMap) : List (String × Rule) :=
  m.flatMap fun (key, entries) =>
    entries.filterMap (leftover (identities reference) reference key)

theorem subtractEntry_eq (known : List Identity) (reference : RuleMap) (key : String)
    (result : RuleMap) (e : RuleMapEntry) :
    subtractEntry known reference key result e =
      result.insertAll (leftover known reference key e).toList := by
  unfold subtractEntry leftover
  cases e.rule with
  | style r =>
    simp only
    cases remainder known (groupOf key) r <;> rfl
  | _ =>
    simp only
    split <;> rfl

/-- **Subtracting collects what is left.** -/
theorem subtract_eq (m reference : RuleMap) :
    m.subtract reference = collect (m.leftovers reference) := by
  have entries : ∀ (key : String) (es : List RuleMapEntry) (result : RuleMap),
      es.foldl (subtractEntry (identities reference) reference key) result =
        result.insertAll (es.filterMap (leftover (identities reference) reference key)) := by
    intro key es
    induction es with
    | nil => exact fun _ => rfl
    | cons e es ih =>
      intro result
      rw [List.foldl_cons, ih, subtractEntry_eq, ← insertAll_append, List.filterMap_cons]
      cases leftover (identities reference) reference key e <;> rfl
  have keys : ∀ (m : RuleMap) (result : RuleMap),
      m.foldl (fun result (key, es) =>
          es.foldl (subtractEntry (identities reference) reference key) result) result =
        result.insertAll (m.leftovers reference) := by
    intro m
    induction m with
    | nil => exact fun _ => rfl
    | cons first rest ih =>
      intro result
      rw [List.foldl_cons, ih]
      simp only [entries]
      rw [← insertAll_append]
      rfl
  exact keys m []

/-- Outside the keys of groups a style rule that has selectors stands under its own key. -/
theorem target_eq {key : String} {left : StyleRule} (some : left.selectors ≠ []) :
    (if isGroupKey key then key else (left.key? "").getD key) = keyOf (groupOf key) left := by
  unfold groupOf keyOf
  split
  · rename_i group
    rw [if_neg]
    intro same
    subst same
    exact absurd group (by decide)
  · rw [if_pos rfl, StyleRule.key?, if_neg (by simpa using some), Option.getD_some,
      String.empty_append]

/-- The style rules that are left: those of the map, without the known identities. -/
theorem mem_styled_leftovers {m reference : RuleMap} {target : String} {left : StyleRule} :
    (target, left) ∈ styled (m.leftovers reference) ↔
      ∃ key r, (key, r) ∈ m.styles ∧
        remainder (identities reference) (groupOf key) r = some left ∧
        target = keyOf (groupOf key) left := by
  have selectors : ∀ {key : String} {r : StyleRule},
      remainder (identities reference) (groupOf key) r = some left → left.selectors ≠ [] := by
    intro key r part
    rw [StyleRule.selectors_of_narrow part]
    exact (StyleRule.narrow_eq_some_iff.1 part).1
  simp only [mem_styled, leftovers, List.mem_flatMap, List.mem_filterMap, Prod.exists]
  constructor
  · intro given
    rcases given with ⟨key, es, mem, e, inside, found⟩
    unfold leftover at found
    cases shape : e.rule with
    | style r =>
      rw [shape] at found
      obtain ⟨q, part, pair⟩ := Option.map_eq_some_iff.1 found
      cases pair
      exact ⟨key, r, mem_styled.2 (mem_items.2 ⟨es, mem, e, inside, shape⟩), part,
        target_eq (selectors part)⟩
    | _ =>
      simp only [shape] at found
      split at found <;> cases found
  · intro given
    rcases given with ⟨key, r, held, part, rfl⟩
    obtain ⟨es, mem, e, inside, shape⟩ := mem_items.1 (mem_styled.1 held)
    refine ⟨key, es, mem, e, inside, ?_⟩
    rw [leftover, shape]
    simp only [part, Option.map_some, target_eq (selectors part)]

end RuleMap

end CriticalCss
