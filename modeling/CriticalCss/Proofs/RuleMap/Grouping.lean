import CriticalCss.Proofs.RuleMap.Content

/-!
# Maps as groups of rules

A map that stylesheets are folded into is told by the rules that they contribute, one stylesheet
after another: its keys are theirs in the order of their first appearance, and under a key stand
the `RuleMap.firsts` of the rules with this key (`RuleMap.ofSheets_groups_by_key`).

Such maps are `RuleMap.Tidy`, and a tidy map is told by its own items: adding them one after
another to the empty map gives the map again (`RuleMap.Tidy.collect_items`).
-/

namespace CriticalCss

namespace RuleMap

/-! ## The first rule of each digest -/

/-- The rules before which no other one has the same digest. -/
def firsts (rs : List Rule) : List Rule :=
  (rs.zipIdx.filter fun c => (rs.take c.2).all fun q => q.digest ≠ c.1.digest).map Prod.fst

theorem firsts_append_singleton (rs : List Rule) (r : Rule) :
    firsts (rs ++ [r]) = firsts rs ++ if r.digest ∈ rs.map Rule.digest then [] else [r] := by
  have earlier : ∀ c ∈ rs.zipIdx, (rs ++ [r]).take c.2 = rs.take c.2 := fun c mem =>
    List.take_append_of_le_length (Nat.le_of_lt (List.snd_lt_of_mem_zipIdx mem))
  have known : (rs.all fun q => q.digest ≠ r.digest) = !decide (r.digest ∈ rs.map Rule.digest) := by
    rw [Bool.eq_iff_iff]
    simp
  rw [firsts, List.zipIdx_append, List.filter_append, List.map_append, Nat.zero_add]
  congr 1
  · rw [firsts, List.filter_congr fun c mem => by rw [earlier c mem]]
  · rw [List.zipIdx_singleton, List.filter_singleton, List.take_left, known]
    split <;> simp [*]

/-- Each digest once is what the first rules of the digests give. -/
theorem distinct_eq_firsts (rs : List Rule) : distinct rs = (firsts rs).map .ofRule := by
  induction rs using List.reverseRecOn with
  | nil => rfl
  | append_singleton rs r ih =>
    rw [firsts_append_singleton, List.map_append, ← ih]
    by_cases known : r.digest ∈ rs.map Rule.digest
    · rw [distinct_append_of_mem known, if_pos known, List.map_nil, List.append_nil]
    · rw [distinct_append_of_not_mem known, if_neg known, List.map_cons, List.map_nil]

/-! ## Folding -/

theorem contributions_flatten (sheets : List Stylesheet) :
    Stylesheet.contributions sheets.flatten = sheets.flatMap Stylesheet.contributions := by
  rw [Stylesheet.contributions, List.flatMap_def, List.map_flatten, List.flatten_flatten,
    List.map_map]
  rfl

theorem foldable_of_flatten_eq {sheets others : List Stylesheet}
    (fold : ∀ sheet ∈ sheets, sheet.Foldable) (same : others.flatten = sheets.flatten) :
    ∀ sheet ∈ others, sheet.Foldable := by
  intro sheet mem kind condition inner position inside
  have whole : Rule.group kind condition inner position ∈ sheets.flatten :=
    same ▸ List.mem_flatten.2 ⟨sheet, mem, inside⟩
  obtain ⟨origin, known, own⟩ := List.mem_flatten.1 whole
  exact fold origin known kind condition inner position own

/-- **Folding groups the rules by their keys.** The map of stylesheets whose groups hold only what
they may hold depends on their rules alone, whichever stylesheet these are in. Its keys are the
keys of what the rules contribute, in the order of their first appearance, and the entries under
a key those of its rules before which no other one of them has the same digest. A stylesheet whose
contributions are all held by their digests adds nothing to the map, and each of the folded ones
is such a stylesheet. -/
theorem ofSheets_groups_by_key {sheets : List Stylesheet}
    (fold : ∀ sheet ∈ sheets, sheet.Foldable) :
    ∃ m, ofSheets sheets = .ok m ∧
      (∀ others : List Stylesheet, others.flatten = sheets.flatten → ofSheets others = .ok m) ∧
      m.map Prod.fst = ((Stylesheet.contributions sheets.flatten).map Prod.fst).eraseDups ∧
      (∀ key es, (key, es) ∈ m →
        es = (firsts (under (Stylesheet.contributions sheets.flatten) key)).map .ofRule) ∧
      (∀ sheet : Stylesheet, sheet.Foldable →
        (∀ c ∈ sheet.contributions, ∃ e ∈ m.entries c.1, e.digest = c.2.digest) →
          foldSheet sheet m = (none, m)) ∧
      ∀ sheet ∈ sheets, ∀ c ∈ sheet.contributions, ∃ e ∈ m.entries c.1, e.digest = c.2.digest := by
  have made : ∀ others : List Stylesheet, others.flatten = sheets.flatten →
      ofSheets others = .ok (collect (Stylesheet.contributions sheets.flatten)) := by
    intro others same
    rw [ofSheets_eq (foldable_of_flatten_eq fold same), ← contributions_flatten, same]
  refine ⟨_, made sheets rfl, made, keys_collect _, fun key es mem => ?_,
    fun sheet fold known => ?_, fun sheet mem c own => ?_⟩
  · rw [(mem_collect.1 mem).2, distinct_eq_firsts]
  · rw [foldSheet_eq fold, insertAll_eq_self known]
  · refine exists_mem_entries_collect ?_
    rw [contributions_flatten]
    exact List.mem_flatMap.2 ⟨sheet, mem, own⟩

/-- Two stylesheets write one condition in two ways and have two rules in common. -/
theorem ofSheets_groups_by_key_of_two_spellings :
    let a (line : Nat) : Rule := .style ⟨["a"], [⟨"c", "d"⟩], some ⟨line, 1⟩⟩
    let b (line : Nat) : Rule := .style ⟨["b"], [⟨"c", "d"⟩], some ⟨line, 1⟩⟩
    let sheets : List Stylesheet := [[a 1, .group .media "all  and (p)" [b 1] none],
      [.comment "x" none, .group .media " (p)" [b 2, a 2] none, .group .media "q" [] none, a 3]]
    (∀ sheet ∈ sheets, sheet.Foldable) ∧
      ∃ m, ofSheets sheets = .ok m ∧ m.map Prod.fst = ["a", "@media (p)"] ∧
        (∀ es, ("@media (p)", es) ∈ m → es = [.ofRule (b 1), .ofRule (a 2)]) ∧
        foldSheet (sheets.getLast (by decide)) m = (none, m) := by
  intro a b sheets
  have fold : ∀ sheet ∈ sheets, sheet.Foldable := by decide
  obtain ⟨m, made, -, keys, entries, known, held⟩ := ofSheets_groups_by_key fold
  have last : sheets.getLast (by decide) ∈ sheets := List.getLast_mem _
  refine ⟨fold, m, made, keys.trans (by decide +kernel), fun es mem => ?_,
    known _ (fold _ last) (held _ last)⟩
  exact (entries _ es mem).trans (by decide +kernel)

/-! ## Tidy maps -/

/-- What every map is that rules are added to: its keys are different, each has entries, and the
entries under a key have different digests, which are those of their rules. -/
structure Tidy (m : RuleMap) : Prop where
  keys : (m.map Prod.fst).Nodup
  filled : ∀ key es, (key, es) ∈ m → es ≠ []
  digests : ∀ key es, (key, es) ∈ m → (es.map (·.digest)).Nodup
  whole : ∀ key es, (key, es) ∈ m → ∀ e ∈ es, e = .ofRule e.rule

theorem tidy_collect (cs : List (String × Rule)) : (collect cs).Tidy where
  keys := keys_collect cs ▸ nodup_eraseDups _
  filled key es mem empty := by
    obtain ⟨known, rfl⟩ := mem_collect.1 mem
    obtain ⟨⟨key, r⟩, added, rfl⟩ := List.mem_map.1 known
    obtain ⟨q, held, -⟩ := exists_mem_items_collect added
    obtain ⟨es, inside, e, deeper, -⟩ := mem_items.1 held
    rw [(mem_collect.1 inside).2, empty] at deeper
    cases deeper
  digests key es mem := by
    rw [(mem_collect.1 mem).2, digests_distinct]
    exact nodup_eraseDups _
  whole key es mem e inside := by
    rw [(mem_collect.1 mem).2] at inside
    exact (mem_distinct.1 inside).1

theorem Tidy.of_append {m : RuleMap} {last : String × List RuleMapEntry}
    (tidy : Tidy (m ++ [last])) : m.Tidy where
  keys := (List.nodup_append.1 (List.map_append ▸ tidy.keys)).1
  filled key es mem := tidy.filled key es (List.mem_append_left _ mem)
  digests key es mem := tidy.digests key es (List.mem_append_left _ mem)
  whole key es mem := tidy.whole key es (List.mem_append_left _ mem)

theorem items_append (m n : RuleMap) : items (m ++ n) = m.items ++ n.items :=
  List.flatMap_append

/-- A key that comes last is changed there. -/
theorem update_append_of_not_mem {m : RuleMap} {key : String} (new : key ∉ m.map Prod.fst)
    (f : List RuleMapEntry → List RuleMapEntry) (rest : RuleMap) :
    update key f (m ++ rest) = m ++ update key f rest := by
  induction m with
  | nil => rfl
  | cons first m ih =>
    rw [List.map_cons, List.mem_cons, not_or] at new
    rw [List.cons_append, update, if_neg (Ne.symm new.1), ih new.2]
    rfl

/-- Entries of different digests are added one behind the other. -/
theorem insertAll_entries {m : RuleMap} {key : String} (new : key ∉ m.map Prod.fst)
    {done rest : List RuleMapEntry} (digests : ((done ++ rest).map (·.digest)).Nodup)
    (whole : ∀ e ∈ rest, e = .ofRule e.rule) :
    insertAll (m ++ [(key, done)]) (rest.map fun e => (key, e.rule)) =
      m ++ [(key, done ++ rest)] := by
  induction rest generalizing done with
  | nil => rw [List.append_nil]; rfl
  | cons e rest ih =>
    obtain ⟨own, others⟩ := List.forall_mem_cons.1 whole
    have unknown : (done.any fun d => d.digest = e.digest) = false := by
      rw [List.map_append, List.map_cons, List.nodup_append] at digests
      rw [List.any_eq_false]
      intro d mem
      simpa using digests.2.2 _ (List.mem_map_of_mem mem) _ List.mem_cons_self
    have added : addEntry (.ofRule e.rule) done = done ++ [e] := by
      rw [← own, addEntry, unknown]
      rfl
    have first : insert key e.rule (m ++ [(key, done)]) = m ++ [(key, done ++ [e])] := by
      rw [insert, update_append_of_not_mem new, update, if_pos rfl, added]
    have row : done ++ e :: rest = done ++ [e] ++ rest := by
      rw [List.append_assoc, List.singleton_append]
    rw [List.map_cons, insertAll, List.foldl_cons, first, row]
    exact ih (row ▸ digests) others

/-- **A tidy map is told by its items.** -/
theorem Tidy.collect_items {m : RuleMap} (tidy : m.Tidy) : collect m.items = m := by
  induction m using List.reverseRecOn with
  | nil => rfl
  | append_singleton m last ih =>
    obtain ⟨key, es⟩ := last
    have inside : (key, es) ∈ m ++ [(key, es)] := List.mem_append_right _ List.mem_cons_self
    have new : key ∉ m.map Prod.fst := by
      have apart := tidy.keys
      rw [List.map_append, List.nodup_append] at apart
      exact fun known => apart.2.2 _ known _ List.mem_cons_self rfl
    have row : items [(key, es)] = es.map fun e => (key, e.rule) := List.flatMap_singleton _ _
    rw [items_append, row, collect, insertAll_append, ← collect, ih tidy.of_append]
    -- the first entry makes the key known, the others go behind it
    cases es with
    | nil => exact (tidy.filled key [] inside rfl).elim
    | cons e es =>
      obtain ⟨own, others⟩ := List.forall_mem_cons.1 (tidy.whole key _ inside)
      have first : insert key e.rule m = m ++ [(key, [e])] := by
        have appended := update_append_of_not_mem new (addEntry (.ofRule e.rule)) []
        rw [List.append_nil, ← own] at appended
        rw [insert, ← own, appended]
        rfl
      rw [List.map_cons, insertAll, List.foldl_cons, first]
      exact insertAll_entries new (tidy.digests key _ inside) others

end RuleMap

end CriticalCss
