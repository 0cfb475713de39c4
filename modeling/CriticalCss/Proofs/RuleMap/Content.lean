import CriticalCss.Proofs.RuleMap.Subtract

/-!
# What maps hold up to positions

`RuleMap.erased` leaves out where the rules were read. If digests tell the rules that are added
apart, a map holds just what was added to it, each content once under its key
(`RuleMap.sameRules_items_collect`, `RuleMap.nodup_erased_items`). So maps of the same contents are
`RuleMap.Similar`: in whatever order the rules were added, the maps differ in their order only.
What is left of similar maps without similar ones has the same contents again
(`RuleMap.SameRules.leftovers`). A rule whose digest a map holds under the key adds nothing to it
(`RuleMap.insertAll_eq_self`), so rules that are added again change nothing, whatever the digests
(`RuleMap.collect_append_of_subset`).

`RuleMap.keysOf` lists the keys under which a map holds a rule.
-/

namespace CriticalCss

/-! ## What does not depend on positions -/

namespace Rule

theorem kind_erase (r : Rule) : r.erase.kind = r.kind := by
  cases r <;> rfl

theorem key?_erase (r : Rule) (group : String) : r.erase.key? group = r.key? group := by
  cases r <;> rfl

theorem declarations_erase (r : Rule) : r.erase.declarations = r.declarations := by
  cases r <;> rfl

theorem payload_erase (r : Rule) : r.erase.payload = r.payload := by
  rw [payload, content_erase, payload]

/-- Rules of the same content are of one kind. -/
theorem kind_eq_of_erase {a b : Rule} (same : a.erase = b.erase) : a.kind = b.kind := by
  rw [← kind_erase, same, kind_erase]

theorem key?_eq_of_erase {a b : Rule} (same : a.erase = b.erase) (group : String) :
    a.key? group = b.key? group := by
  rw [← key?_erase, same, key?_erase]

/-- A rule that says what a style rule says is one. -/
theorem exists_style_of_erase {a : Rule} {r : StyleRule} (same : a.erase = (style r).erase) :
    ∃ q : StyleRule, a = style q ∧ q.SameAs r := by
  cases a with
  | style q => exact ⟨q, rfl, StyleRule.sameAs_iff_erase.2 same⟩
  | _ => simp [erase] at same

theorem style?_eq_none_of_erase {a b : Rule} (same : a.erase = b.erase) (other : b.style? = none) :
    a.style? = none := by
  cases a with
  | style q =>
    obtain ⟨r, rfl, -⟩ := exists_style_of_erase same.symm
    cases other
  | _ => rfl

end Rule

namespace RuleMap

/-! ## Contents with their keys -/

/-- Rules with their keys, positions left out. -/
def erased (cs : List (String × Rule)) : List (String × Rule) :=
  cs.map fun c => (c.1, c.2.erase)

theorem mem_erased {cs : List (String × Rule)} {key : String} {e : Rule} :
    (key, e) ∈ erased cs ↔ ∃ r, (key, r) ∈ cs ∧ r.erase = e := by
  simp only [erased, List.mem_map, Prod.mk.injEq, Prod.exists]
  constructor
  · intro given
    rcases given with ⟨k, r, mem, rfl, rfl⟩
    exact ⟨r, mem, rfl⟩
  · intro given
    rcases given with ⟨r, mem, rfl⟩
    exact ⟨key, r, mem, rfl, rfl⟩

theorem mem_erased_of_mem {cs : List (String × Rule)} {key : String} {r : Rule}
    (mem : (key, r) ∈ cs) : (key, r.erase) ∈ erased cs :=
  mem_erased.2 ⟨r, mem, rfl⟩

/-- The two lists have the same rules under the same keys, up to positions. -/
def SameRules (as bs : List (String × Rule)) : Prop :=
  ∀ key e, (key, e) ∈ erased as ↔ (key, e) ∈ erased bs

theorem SameRules.symm {as bs : List (String × Rule)} (same : SameRules as bs) :
    SameRules bs as :=
  fun key e => (same key e).symm

theorem SameRules.trans {as bs cs : List (String × Rule)} (first : SameRules as bs)
    (second : SameRules bs cs) : SameRules as cs :=
  fun key e => (first key e).trans (second key e)

theorem SameRules.of_perm {as bs : List (String × Rule)} (perm : as.Perm bs) :
    SameRules as bs :=
  fun _ _ => (perm.map _).mem_iff

theorem SameRules.exists_mem {as bs : List (String × Rule)} (same : SameRules as bs)
    {key : String} {r : Rule} (mem : (key, r) ∈ as) :
    ∃ q, (key, q) ∈ bs ∧ q.erase = r.erase :=
  mem_erased.1 ((same key r.erase).1 (mem_erased_of_mem mem))

/-- Digests that tell rules tell rules of the same contents. -/
theorem CollisionFree.of_erase {rs others : List Rule} (free : CollisionFree others)
    (known : ∀ r ∈ rs, ∃ q ∈ others, q.erase = r.erase) : CollisionFree rs := by
  constructor
  · intro a ha b hb same
    obtain ⟨c, hc, ca⟩ := known a ha
    obtain ⟨d, hd, db⟩ := known b hb
    have digests : c.digest = d.digest := by
      rw [Rule.digest_eq_of_erase ca, same, Rule.digest_eq_of_erase db]
    have payloads := free.rules c hc d hd digests
    rwa [← Rule.payload_erase c, ← Rule.payload_erase d, ca, db, Rule.payload_erase,
      Rule.payload_erase] at payloads
  · intro a ha b hb same
    obtain ⟨c, hc, ca⟩ := known a ha
    obtain ⟨d, hd, db⟩ := known b hb
    have own : c.declarations = a.declarations := by
      rw [← Rule.declarations_erase, ca, Rule.declarations_erase]
    have other : d.declarations = b.declarations := by
      rw [← Rule.declarations_erase, db, Rule.declarations_erase]
    rw [← own, ← other] at same ⊢
    exact free.declarations c hc d hd same

theorem CollisionFree.of_sameRules {as bs : List (String × Rule)}
    (free : CollisionFree (bs.map Prod.snd)) (same : SameRules as bs) :
    CollisionFree (as.map Prod.snd) := by
  refine free.of_erase fun r mem => ?_
  obtain ⟨⟨key, r⟩, inside, rfl⟩ := List.mem_map.1 mem
  obtain ⟨q, other, equal⟩ := same.exists_mem inside
  exact ⟨q, List.mem_map.2 ⟨_, other, rfl⟩, equal⟩

/-! ## Contents of a map -/

variable {as bs cs ds : List (String × Rule)}

/-- Under a key, a map holds each content once. -/
theorem nodup_erased_items (cs : List (String × Rule)) :
    (erased (collect cs).items).Nodup := by
  refine List.Nodup.map_on (fun a ha b hb same => ?_) (nodup_items cs)
  obtain ⟨key, r⟩ := a
  obtain ⟨other, q⟩ := b
  obtain ⟨rfl, equal⟩ := Prod.mk.inj same
  rw [eq_of_mem_items_collect ha hb (Rule.digest_eq_of_erase equal)]

/-- **A map holds what was added to it.** -/
theorem sameRules_items_collect (free : CollisionFree (cs.map Prod.snd)) :
    SameRules (collect cs).items cs := by
  intro key e
  rw [mem_erased, mem_erased]
  constructor
  · intro given
    rcases given with ⟨r, held, rfl⟩
    exact ⟨r, mem_of_mem_items_collect held, rfl⟩
  · intro given
    rcases given with ⟨r, added, rfl⟩
    obtain ⟨q, held, digests⟩ := exists_mem_items_collect added
    have payloads := free.rules q (List.mem_map.2 ⟨_, mem_of_mem_items_collect held, rfl⟩) r
      (List.mem_map.2 ⟨_, added, rfl⟩) digests
    exact ⟨q, held, Rule.erase_eq_of_payload payloads⟩

/-- Maps of the same contents hold the same. -/
theorem SameRules.items_collect (same : SameRules as bs)
    (free : CollisionFree (bs.map Prod.snd)) :
    SameRules (collect as).items (collect bs).items :=
  ((sameRules_items_collect (free.of_sameRules same)).trans same).trans
    (sameRules_items_collect free).symm

theorem keys_collect (cs : List (String × Rule)) :
    (collect cs).map Prod.fst = (cs.map Prod.fst).eraseDups := by
  rw [collect_eq, List.map_map]
  exact List.map_id' _

/-- Two maps have the same keys and the same rules under them, up to positions and to the order of
both. -/
def Similar (m n : RuleMap) : Prop :=
  (m.map Prod.fst).Perm (n.map Prod.fst) ∧ (erased m.items).Perm (erased n.items)

theorem mem_keys_of_sameRules (same : SameRules as bs) {key : String}
    (mem : key ∈ as.map Prod.fst) : key ∈ bs.map Prod.fst := by
  obtain ⟨⟨key, r⟩, inside, rfl⟩ := List.mem_map.1 mem
  obtain ⟨q, other, -⟩ := same.exists_mem inside
  exact List.mem_map.2 ⟨_, other, rfl⟩

/-- **Maps of the same contents are similar.** -/
theorem SameRules.similar (same : SameRules as bs) (free : CollisionFree (bs.map Prod.snd)) :
    Similar (collect as) (collect bs) := by
  constructor
  · rw [keys_collect, keys_collect, List.perm_ext_iff_of_nodup (nodup_eraseDups _)
      (nodup_eraseDups _)]
    intro key
    rw [List.mem_eraseDups, List.mem_eraseDups]
    exact ⟨mem_keys_of_sameRules same, mem_keys_of_sameRules same.symm⟩
  · rw [List.perm_ext_iff_of_nodup (nodup_erased_items as) (nodup_erased_items bs)]
    exact fun c => same.items_collect free c.1 c.2

/-! ## Entries -/

theorem entries_collect (cs : List (String × Rule)) (key : String) :
    (collect cs).entries key = distinct (under cs key) := by
  by_cases known : key ∈ cs.map Prod.fst
  · have mem : (key, distinct (under cs key)) ∈ collect cs := mem_collect.2 ⟨known, rfl⟩
    have nodup : ((collect cs).map Prod.fst).Nodup := by
      rw [keys_collect]
      exact nodup_eraseDups _
    rw [entries, lookup_of_mem_of_nodup nodup mem, Option.getD_some]
  · have missing : (collect cs).lookup key = none := by
      rw [List.lookup_eq_none_iff]
      intro c mem
      have other : key ≠ c.1 := by
        intro same
        rw [same] at known
        exact known (mem_collect.1 mem).1
      rw [bne, beq_eq_false_iff_ne.2 other, Bool.not_false]
    rw [entries, missing, under_eq_nil known]
    rfl

theorem mem_entries_collect {key : String} {e : RuleMapEntry} :
    e ∈ (collect cs).entries key ↔ e = .ofRule e.rule ∧ (key, e.rule) ∈ (collect cs).items := by
  rw [entries_collect, mem_distinct, mem_items_collect]

/-! ## Adding again -/

/-- A rule whose digest is held under the key adds nothing. -/
theorem insert_eq_self {m : RuleMap} {key : String} {r : Rule}
    (known : ∃ e ∈ m.entries key, e.digest = r.digest) : m.insert key r = m := by
  induction m with
  | nil =>
    obtain ⟨e, mem, -⟩ := known
    cases mem
  | cons first rest ih =>
    obtain ⟨other, es⟩ := first
    rw [entries, List.lookup_cons] at known
    rw [insert, update]
    by_cases same : other = key
    · subst same
      rw [if_pos rfl, addEntry_ofRule, if_pos]
      simpa using known
    · rw [if_neg same]
      rw [beq_eq_false_iff_ne.2 (Ne.symm same)] at known
      exact congrArg _ (ih known)

theorem insertAll_eq_self {m : RuleMap} {cs : List (String × Rule)}
    (known : ∀ c ∈ cs, ∃ e ∈ m.entries c.1, e.digest = c.2.digest) : m.insertAll cs = m := by
  induction cs with
  | nil => rfl
  | cons c cs ih =>
    obtain ⟨own, others⟩ := List.forall_mem_cons.1 known
    rw [insertAll, List.foldl_cons, insert_eq_self own]
    exact ih others

theorem exists_mem_entries_collect {cs : List (String × Rule)} {c : String × Rule}
    (mem : c ∈ cs) : ∃ e ∈ (collect cs).entries c.1, e.digest = c.2.digest := by
  obtain ⟨q, held, same⟩ := exists_mem_items_collect mem
  exact ⟨.ofRule q, mem_entries_collect.2 ⟨rfl, held⟩, same⟩

/-- **Adding again changes nothing**, not even the order. -/
theorem collect_append_of_subset (known : ds ⊆ cs) : collect (cs ++ ds) = collect cs := by
  rw [collect, insertAll_append]
  exact insertAll_eq_self fun d mem => exists_mem_entries_collect (known mem)

/-! ## The keys of a rule -/

/-- The keys under which a map holds a rule, wherever it was read. -/
def keysOf (m : RuleMap) (r : Rule) : List String :=
  (m.items.filter fun c => c.2.erase = r.erase).map Prod.fst

theorem mem_keysOf {m : RuleMap} {key : String} {r : Rule} :
    key ∈ m.keysOf r ↔ (key, r.erase) ∈ erased m.items := by
  rw [mem_erased, keysOf, List.mem_map]
  constructor
  · intro given
    rcases given with ⟨⟨key, q⟩, mem, rfl⟩
    rw [List.mem_filter, decide_eq_true_eq] at mem
    exact ⟨q, mem⟩
  · intro given
    rcases given with ⟨q, held, same⟩
    exact ⟨(key, q), List.mem_filter.2 ⟨held, decide_eq_true same⟩, rfl⟩

theorem nodup_keysOf (cs : List (String × Rule)) (r : Rule) : ((collect cs).keysOf r).Nodup := by
  refine List.Nodup.map_on (fun a ha b hb same => ?_) ((nodup_items cs).filter _)
  rw [List.mem_filter, decide_eq_true_eq] at ha hb
  obtain ⟨key, q⟩ := a
  obtain ⟨other, p⟩ := b
  cases same
  have digests := Rule.digest_eq_of_erase (ha.2.trans hb.2.symm)
  rw [eq_of_mem_items_collect ha.1 hb.1 digests]

/-! ## What is left -/

/-- The reference holds a rule with the digest under the key. -/
theorem any_entries_iff {key digest : String} :
    ((collect ds).entries key).any (fun e => e.digest = digest) = true ↔
      ∃ q, (key, q) ∈ (collect ds).items ∧ q.digest = digest := by
  simp only [List.any_eq_true, decide_eq_true_eq, mem_entries_collect]
  constructor
  · intro given
    rcases given with ⟨e, ⟨whole, held⟩, same⟩
    rw [whole] at same
    exact ⟨e.rule, held, same⟩
  · intro given
    rcases given with ⟨q, held, same⟩
    exact ⟨.ofRule q, ⟨rfl, held⟩, same⟩

/-- An other rule is left if the reference holds no rule with its digest under its key. -/
theorem leftover_eq_some_iff {known : List Identity} {key target : String} {e : RuleMapEntry}
    {r : Rule} (whole : e = .ofRule e.rule) (other : r.style? = none) :
    leftover known (collect ds) key e = some (target, r) ↔
      (key = target ∧ e.rule = r) ∧
        ∀ q, (target, q) ∈ (collect ds).items → q.digest ≠ r.digest := by
  have digest : e.digest = e.rule.digest := by
    rw [whole]
    rfl
  unfold leftover
  cases shape : e.rule with
  | style q =>
    refine iff_of_false (fun given => ?_) fun given => ?_
    · obtain ⟨q, -, pair⟩ := Option.map_eq_some_iff.1 given
      cases pair
      cases other
    · rw [← given.1.2] at other
      cases other
  | _ =>
    rw [shape] at digest
    simp only [digest]
    split
    · rename_i found
      obtain ⟨q, held, same⟩ := any_entries_iff.1 found
      refine iff_of_false nofun fun given => ?_
      obtain ⟨⟨rfl, rfl⟩, apart⟩ := given
      exact apart q held same
    · rename_i missing
      rw [any_entries_iff] at missing
      rw [Option.some.injEq, Prod.mk.injEq]
      refine (and_iff_left_of_imp fun given q held same => ?_).symm
      obtain ⟨rfl, rfl⟩ := given
      exact missing ⟨q, held, same⟩

/-- The other rules that are left. -/
theorem mem_leftovers_of_style?_eq_none {target : String} {r : Rule} (other : r.style? = none) :
    (target, r) ∈ (collect cs).leftovers (collect ds) ↔
      (target, r) ∈ (collect cs).items ∧
        ∀ q, (target, q) ∈ (collect ds).items → q.digest ≠ r.digest := by
  have whole {key : String} {es : List RuleMapEntry} (mem : (key, es) ∈ collect cs)
      {e : RuleMapEntry} (inside : e ∈ es) : e = .ofRule e.rule := by
    rw [(mem_collect.1 mem).2] at inside
    exact (mem_distinct.1 inside).1
  constructor
  · intro given
    obtain ⟨⟨key, es⟩, mem, found⟩ := List.mem_flatMap.1 given
    obtain ⟨e, inside, left⟩ := List.mem_filterMap.1 found
    obtain ⟨⟨rfl, rfl⟩, apart⟩ := (leftover_eq_some_iff (whole mem inside) other).1 left
    exact ⟨mem_items.2 ⟨es, mem, e, inside, rfl⟩, apart⟩
  · intro given
    obtain ⟨held, apart⟩ := given
    obtain ⟨es, mem, e, inside, same⟩ := mem_items.1 held
    exact List.mem_flatMap.2 ⟨_, mem, List.mem_filterMap.2
      ⟨e, inside, (leftover_eq_some_iff (whole mem inside) other).2 ⟨⟨rfl, same⟩, apart⟩⟩⟩

/-- **What is left of the other rules**: those that the reference does not hold under their key,
wherever they were read. -/
theorem mem_erased_leftovers (free : CollisionFree ((cs ++ ds).map Prod.snd)) {target : String}
    {r : Rule} (other : r.style? = none) :
    (target, r.erase) ∈ erased ((collect cs).leftovers (collect ds)) ↔
      (target, r.erase) ∈ erased cs ∧ (target, r.erase) ∉ erased ds := by
  rw [List.map_append] at free
  have rules : SameRules (collect cs).items cs :=
    sameRules_items_collect (free.mono fun _ => List.mem_append_left _)
  have reference : SameRules (collect ds).items ds :=
    sameRules_items_collect (free.mono fun _ => List.mem_append_right _)
  rw [mem_erased, ← rules, ← reference, mem_erased]
  constructor
  · intro given
    obtain ⟨q, left, same⟩ := given
    obtain ⟨held, apart⟩ :=
      (mem_leftovers_of_style?_eq_none (Rule.style?_eq_none_of_erase same other)).1 left
    refine ⟨⟨q, held, same⟩, fun known => ?_⟩
    obtain ⟨p, inReference, equal⟩ := mem_erased.1 known
    exact apart p inReference (Rule.digest_eq_of_erase (equal.trans same.symm))
  · intro given
    obtain ⟨⟨q, held, same⟩, unknown⟩ := given
    refine ⟨q, (mem_leftovers_of_style?_eq_none (Rule.style?_eq_none_of_erase same other)).2
      ⟨held, fun p inReference digests => unknown (mem_erased.2 ⟨p, inReference, ?_⟩)⟩, same⟩
    have payloads := free.rules p
      (List.mem_append_right _ (List.mem_map.2 ⟨_, mem_of_mem_items_collect inReference, rfl⟩)) q
      (List.mem_append_left _ (List.mem_map.2 ⟨_, mem_of_mem_items_collect held, rfl⟩)) digests
    exact (Rule.erase_eq_of_payload payloads).trans same

/-- The identities of a map depend only on its contents. -/
theorem mem_identities_of_sameRules {m n : RuleMap} (same : SameRules m.items n.items)
    {i : Identity} (mem : i ∈ identities m) : i ∈ identities n := by
  obtain ⟨t, said, rfl⟩ := mem_identities.1 mem
  obtain ⟨key, r, held, carried⟩ := mem_stylings.1 said
  obtain ⟨a, other, equal⟩ := same.exists_mem (mem_styled.1 held)
  obtain ⟨q, rfl, alike⟩ := Rule.exists_style_of_erase equal
  refine mem_identities.2 ⟨t, mem_stylings.2 ⟨key, q, mem_styled.2 other, ?_⟩, rfl⟩
  rwa [alike.stylings_eq]

theorem remainder_of_sameRules {m n : RuleMap} (same : SameRules m.items n.items)
    (group : String) (r : StyleRule) :
    remainder (identities m) group r = remainder (identities n) group r := by
  have known (i : Identity) : (identities m).contains i = (identities n).contains i := by
    rw [Bool.eq_iff_iff, List.contains_iff_mem, List.contains_iff_mem]
    exact ⟨mem_identities_of_sameRules same, mem_identities_of_sameRules same.symm⟩
  simp only [remainder, known]

/-- What is left of a rule is left of a rule that says the same, too. -/
theorem exists_mem_leftovers (rules : SameRules (collect as).items (collect bs).items)
    (references : SameRules (collect cs).items (collect ds).items) {target : String} {x : Rule}
    (mem : (target, x) ∈ (collect as).leftovers (collect cs)) :
    ∃ y, (target, y) ∈ (collect bs).leftovers (collect ds) ∧ y.erase = x.erase := by
  cases shape : x.style? with
  | some left =>
    -- a part of a style rule: the rule of the same content has the same part
    obtain rfl := Rule.style?_eq_some_iff.1 shape
    obtain ⟨key, r, held, part, rfl⟩ := mem_styled_leftovers.1 (mem_styled.2 mem)
    obtain ⟨a, other, equal⟩ := rules.exists_mem (mem_styled.1 held)
    obtain ⟨q, rfl, own⟩ := Rule.exists_style_of_erase equal
    rw [remainder_of_sameRules references] at part
    obtain ⟨rest, remains, alike⟩ := remainder_of_sameAs own.symm part
    refine ⟨.style rest, ?_, (StyleRule.sameAs_iff_erase.1 alike).symm⟩
    rw [keyOf_eq_of_sameAs alike]
    exact mem_styled.1 (mem_styled_leftovers.2 ⟨key, q, mem_styled.2 other, remains, rfl⟩)
  | none =>
    -- an other rule is whole: what would take the second one away would take the first one away
    obtain ⟨held, apart⟩ := (mem_leftovers_of_style?_eq_none shape).1 mem
    obtain ⟨y, other, equal⟩ := rules.exists_mem held
    refine ⟨y, (mem_leftovers_of_style?_eq_none (Rule.style?_eq_none_of_erase equal shape)).2
      ⟨other, fun q inReference same => ?_⟩, equal⟩
    obtain ⟨p, reference, alike⟩ := references.symm.exists_mem inReference
    refine apart p reference ?_
    rw [Rule.digest_eq_of_erase alike, same, Rule.digest_eq_of_erase equal]

/-- **What is left depends only on the contents.** -/
theorem SameRules.leftovers (rules : SameRules (collect as).items (collect bs).items)
    (references : SameRules (collect cs).items (collect ds).items) :
    SameRules ((collect as).leftovers (collect cs)) ((collect bs).leftovers (collect ds)) := by
  intro key e
  rw [mem_erased, mem_erased]
  constructor
  · intro given
    rcases given with ⟨x, mem, rfl⟩
    exact exists_mem_leftovers rules references mem
  · intro given
    rcases given with ⟨x, mem, rfl⟩
    exact exists_mem_leftovers rules.symm references.symm mem

end RuleMap

end CriticalCss
