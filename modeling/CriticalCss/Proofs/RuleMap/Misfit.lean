import CriticalCss.Proofs.RuleMap.Content

/-!
# Folding up to a misfit

A stylesheet cannot be folded if one of its groups holds a rule other than a style rule or a
verbatim at-rule. Its first `Misfit` tells what was added before the folding stopped: all that
stands before it, and the key of its group (`Misfit.IsFirstIn.foldSheet_eq`). Folding only lets a
map grow: what it holds stays where it is, new entries go behind the old ones of their key and new
keys behind the old keys (`RuleMap.Grows`). So what was added is found again when the folding is
repeated, which stops at the same place and adds nothing (`RuleMap.fold_stops_at_misfit`).
-/

namespace CriticalCss

/-! ## Growing -/

namespace RuleMap

/-- The second map holds what the first one holds, in the same places, and may hold more: entries
behind those of a key, and keys behind the others. -/
inductive Grows : RuleMap → RuleMap → Prop
  | nil (n : RuleMap) : Grows [] n
  | cons {key : String} {old es : List RuleMapEntry} {m n : RuleMap} :
    old <+: es → Grows m n → Grows ((key, old) :: m) ((key, es) :: n)

variable {m n : RuleMap} {key : String} {cs : List (String × Rule)}

theorem Grows.refl (m : RuleMap) : Grows m m := by
  induction m with
  | nil => exact .nil []
  | cons first m ih => exact .cons (List.prefix_refl first.2) ih

theorem Grows.trans {p : RuleMap} (first : Grows m n) (second : Grows n p) : Grows m p := by
  induction first generalizing p with
  | nil => exact .nil p
  | cons more _ ih =>
    cases second with
    | cons again rest => exact .cons (more.trans again) (ih rest)

theorem Grows.mem_keys (grows : Grows m n) (known : key ∈ m.map Prod.fst) :
    key ∈ n.map Prod.fst := by
  induction grows with
  | nil => cases known
  | cons _ _ ih =>
    rcases List.mem_cons.1 known with rfl | later
    · exact List.mem_cons_self
    · exact List.mem_cons_of_mem _ (ih later)

theorem Grows.mem_entries (grows : Grows m n) {e : RuleMapEntry} (held : e ∈ m.entries key) :
    e ∈ n.entries key := by
  induction grows with
  | nil => cases held
  | @cons other old es m n more _ ih =>
    rw [entries, List.lookup_cons] at held ⊢
    cases same : key == other with
    | true =>
      rw [same] at held
      exact more.subset held
    | false =>
      rw [same] at held
      exact ih held

theorem grows_update {f : List RuleMapEntry → List RuleMapEntry} (more : ∀ es, es <+: f es)
    (m : RuleMap) : Grows m (m.update key f) := by
  induction m with
  | nil => exact .nil _
  | cons first m ih =>
    obtain ⟨known, old⟩ := first
    rw [update]
    split
    · exact .cons (more old) (.refl m)
    · exact .cons (List.prefix_refl old) ih

theorem prefix_addEntry (new : RuleMapEntry) (old : List RuleMapEntry) :
    old <+: addEntry new old := by
  unfold addEntry
  split
  · exact List.prefix_refl old
  · exact List.prefix_append old [new]

theorem grows_insertAll (m : RuleMap) (cs : List (String × Rule)) : Grows m (m.insertAll cs) := by
  induction cs generalizing m with
  | nil => exact .refl m
  | cons c cs ih => exact (grows_update (prefix_addEntry _) m).trans (ih (m.insert c.1 c.2))

/-! ## What was added is held -/

theorem mem_keys_update (m : RuleMap) (f : List RuleMapEntry → List RuleMapEntry) :
    key ∈ (m.update key f).map Prod.fst := by
  induction m with
  | nil => exact List.mem_cons_self
  | cons first m ih =>
    obtain ⟨known, old⟩ := first
    rw [update]
    split
    · rename_i same
      exact same ▸ List.mem_cons_self
    · exact List.mem_cons_of_mem _ ih

theorem entries_update_self (m : RuleMap) (f : List RuleMapEntry → List RuleMapEntry) :
    (m.update key f).entries key = f (m.entries key) := by
  induction m with
  | nil => simp [update, entries]
  | cons first m ih =>
    obtain ⟨known, old⟩ := first
    rw [update]
    by_cases same : known = key
    · simp [same, entries]
    · have apart : (key == known) = false := beq_eq_false_iff_ne.2 (Ne.symm same)
      rw [if_neg same, entries, entries, List.lookup_cons, List.lookup_cons, apart]
      exact ih

theorem exists_mem_addEntry (new : RuleMapEntry) (old : List RuleMapEntry) :
    ∃ e ∈ addEntry new old, e.digest = new.digest := by
  unfold addEntry
  split
  · rename_i known
    simpa using known
  · exact ⟨new, List.mem_append_right old List.mem_cons_self, rfl⟩

/-- A rule that is added is held by its digest, whatever the map held before. -/
theorem exists_mem_entries_insertAll (m : RuleMap) {c : String × Rule} (mem : c ∈ cs) :
    ∃ e ∈ (m.insertAll cs).entries c.1, e.digest = c.2.digest := by
  induction cs generalizing m with
  | nil => cases mem
  | cons first cs ih =>
    rcases List.mem_cons.1 mem with rfl | later
    · rcases exists_mem_addEntry (.ofRule c.2) (m.entries c.1) with ⟨e, added, same⟩
      rw [← entries_update_self m (addEntry (.ofRule c.2))] at added
      exact ⟨e, (grows_insertAll (m.insert c.1 c.2) cs).mem_entries added, same⟩
    · exact ih (m.insert first.1 first.2) later

/-- Rules that a map was given before it grew add nothing to it. -/
theorem Grows.insertAll_eq_self (grows : Grows (m.insertAll cs) n) : n.insertAll cs = n :=
  RuleMap.insertAll_eq_self fun _ mem =>
    let ⟨e, held, same⟩ := exists_mem_entries_insertAll m mem
    ⟨e, grows.mem_entries held, same⟩

/-- The map with a key, which has no entries if it is new. -/
def withKey (m : RuleMap) (key : String) : RuleMap :=
  if key ∈ m.map Prod.fst then m else m ++ [(key, [])]

theorem update_id (m : RuleMap) (key : String) : m.update key id = m.withKey key := by
  induction m with
  | nil => rfl
  | cons first m ih =>
    obtain ⟨known, old⟩ := first
    rw [update, withKey, List.map_cons]
    by_cases same : known = key
    · rw [if_pos same, if_pos (same ▸ List.mem_cons_self)]
      rfl
    · rw [if_neg same, ih, withKey]
      simp only [List.mem_cons, Ne.symm same, false_or]
      split <;> rfl

theorem withKey_eq_self (known : key ∈ m.map Prod.fst) : m.withKey key = m :=
  if_pos known

theorem grows_withKey (m : RuleMap) (key : String) : Grows m (m.withKey key) :=
  update_id m key ▸ grows_update List.prefix_refl m

theorem mem_keys_withKey (m : RuleMap) (key : String) : key ∈ (m.withKey key).map Prod.fst :=
  update_id m key ▸ mem_keys_update m id

end RuleMap

/-! ## Misfits -/

/-- A group may hold style rules and verbatim at-rules. -/
theorem Rule.fitsGroup_iff {r : Rule} :
    RuleMap.fitsGroup r = true ↔ r.kind = .style ∨ r.kind = .atRule := by
  cases r with
  | group kind => cases kind <;> simp [RuleMap.fitsGroup, kind, GroupKind.ruleKind]
  | _ => simp [RuleMap.fitsGroup, kind]

namespace Stylesheet

variable {sheet : Stylesheet}

theorem foldable_iff_kind :
    sheet.Foldable ↔ ∀ q ∈ sheet, ∀ r ∈ q.inner, r.kind = .style ∨ r.kind = .atRule := by
  simp only [foldable_iff, Rule.fitsGroup_iff]

theorem not_foldable_iff :
    ¬sheet.Foldable ↔ ∃ q ∈ sheet, ∃ r ∈ q.inner, r.kind ≠ .style ∧ r.kind ≠ .atRule := by
  simp only [foldable_iff_kind, not_forall, not_or, exists_prop, ne_eq]

end Stylesheet

/-- A rule in a group, with what stands before it: rules of the top level, and rules of the
group. -/
structure Misfit where
  before : Stylesheet
  kind : GroupKind
  condition : String
  position : Option Position
  inner : List Rule
  rule : Rule

namespace Misfit

/-- What stands before the rule. -/
def sound (f : Misfit) : Stylesheet :=
  f.before ++ [.group f.kind f.condition f.inner f.position]

/-- The key of the group. -/
def key (f : Misfit) : String :=
  f.kind.key f.condition

def error (f : Misfit) : FoldError :=
  .unexpected f.rule.kind f.key

/-- The rule is the first of a stylesheet that stands in a group and is neither a style rule nor
an at-rule. -/
structure IsFirstIn (f : Misfit) (sheet : Stylesheet) : Prop where
  stands : ∃ later after, sheet =
    f.before ++ .group f.kind f.condition (f.inner ++ f.rule :: later) f.position :: after
  odd : f.rule.kind ≠ .style ∧ f.rule.kind ≠ .atRule
  first : ∀ q ∈ f.sound, ∀ r ∈ q.inner, r.kind = .style ∨ r.kind = .atRule

variable {f : Misfit} {sheet : Stylesheet}

/-- A stylesheet with a misfit has a first one. -/
theorem exists_isFirstIn
    (odd : ∃ q ∈ sheet, ∃ r ∈ q.inner, r.kind ≠ .style ∧ r.kind ≠ .atRule) :
    ∃ f : Misfit, f.IsFirstIn sheet := by
  have some : (sheet.find? fun q =>
      ∃ r ∈ q.inner, r.kind ≠ .style ∧ r.kind ≠ .atRule).isSome := by
    simpa using odd
  obtain ⟨g, found⟩ := Option.isSome_iff_exists.1 some
  obtain ⟨holds, before, after, rfl, whole⟩ := List.find?_eq_some_iff_append.1 found
  have some : (g.inner.find? fun r => r.kind ≠ .style ∧ r.kind ≠ .atRule).isSome := by
    simpa using holds
  obtain ⟨bad, found⟩ := Option.isSome_iff_exists.1 some
  obtain ⟨misfit, inner, later, row, fit⟩ := List.find?_eq_some_iff_append.1 found
  simp only [Bool.not_eq_true', decide_eq_true_eq, decide_eq_false_iff_not] at misfit whole fit
  cases g with
  | group kind condition rules position =>
    change rules = inner ++ bad :: later at row
    subst row
    refine ⟨⟨before, kind, condition, position, inner, bad⟩, ⟨later, after, rfl⟩, misfit, ?_⟩
    intro q mem r inside
    rcases List.mem_append.1 mem with mem | mem
    · exact or_iff_not_and_not.2 fun odd => whole q mem ⟨r, inside, odd⟩
    · rw [List.mem_singleton.1 mem] at inside
      exact or_iff_not_and_not.2 (fit r inside)
  | _ => cases List.append_ne_nil_of_right_ne_nil _ (List.cons_ne_nil _ _) row.symm

/-- What stands before the first misfit can be folded. -/
theorem IsFirstIn.foldable (first : f.IsFirstIn sheet) : f.sound.Foldable :=
  Stylesheet.foldable_iff_kind.2 first.first

end Misfit

/-! ## Folding a stylesheet with a misfit -/

namespace RuleMap

variable {m : RuleMap} {key : String}

theorem foldRule_group {kind : GroupKind} {condition : String} {inner : List Rule}
    {position : Option Position} (filled : inner ≠ []) (m : RuleMap) :
    foldRule (.group kind condition inner position) m =
      insertInner (kind.key condition) inner (m.withKey (kind.key condition)) := by
  cases inner with
  | nil => exact (filled rfl).elim
  | cons first rest =>
    rw [foldRule, update_id]
    exact filled

/-- The key of a group is known before its first rule is added. -/
theorem insertAll_withKey (key : String) (inner : List Rule) (m : RuleMap) :
    (m.withKey key).insertAll (inner.map fun r => (key, r)) =
      (m.insertAll (inner.map fun r => (key, r))).withKey key := by
  cases inner with
  | nil => rfl
  | cons first rest =>
    have known : key ∈ (m.insertAll ((first :: rest).map fun r => (key, r))).map Prod.fst :=
      (grows_insertAll (m.insert key first) _).mem_keys (mem_keys_update m _)
    rw [withKey_eq_self known, ← update_id, insertAll_update_id]

end RuleMap

namespace Misfit

open RuleMap

variable {f : Misfit} {sheet : Stylesheet}

theorem contributions_sound (f : Misfit) :
    f.sound.contributions =
      Stylesheet.contributions f.before ++ f.inner.map fun r => (f.key, r) := by
  rw [sound, Stylesheet.contributions, List.flatMap_append, List.flatMap_singleton]
  rfl

/-- **Folding stops at the first misfit**, with all that stands before it added, and the key of
its group. -/
theorem IsFirstIn.foldSheet_eq (first : f.IsFirstIn sheet) (m : RuleMap) :
    foldSheet sheet m =
      (some f.error, (m.insertAll f.sound.contributions).withKey f.key) := by
  have fold := Stylesheet.foldable_iff.1 first.foldable
  rcases first.stands with ⟨later, after, rfl⟩
  have before : Stylesheet.Foldable f.before :=
    Stylesheet.foldable_iff.2 fun q mem => fold q (List.mem_append_left _ mem)
  have inner : ∀ r ∈ f.inner, fitsGroup r = true :=
    fold _ (List.mem_append_right _ List.mem_cons_self)
  have filled : f.inner ++ f.rule :: later ≠ [] :=
    List.append_ne_nil_of_right_ne_nil _ (List.cons_ne_nil _ _)
  have stopped : ∀ m, foldRule
      (.group f.kind f.condition (f.inner ++ f.rule :: later) f.position) m =
        (some f.error, (m.insertAll (f.inner.map fun r => (f.key, r))).withKey f.key) := by
    intro m
    have misfit : fitsGroup f.rule = false :=
      Bool.eq_false_iff.2 fun fits => not_or.2 first.odd (Rule.fitsGroup_iff.1 fits)
    rw [foldRule_group filled, insertInner_append inner, insertInner, misfit, ← insertAll_withKey]
    rfl
  rw [foldSheet_append before, foldSheet, stopped, contributions_sound, insertAll_append]

end Misfit

namespace RuleMap

/-- **Folding can only fail at a misfit, and then stops cleanly.** Folding a stylesheet fails just
if one of its groups holds a rule that is neither a style rule nor an at-rule. Then the map is the
one that what stands before the first such rule makes of the old one, with the key of the group,
which has no entries if it is new. What the old map held is where it was, and folding the
stylesheet again fails in the same way and changes nothing. What is no stylesheet is not folded at
all. -/
theorem fold_stops_at_misfit (sheet : Stylesheet) (m : RuleMap) :
    ((fold (.sheet sheet) m).1.isSome = true ↔
      ∃ q ∈ sheet, ∃ r ∈ q.inner, r.kind ≠ .style ∧ r.kind ≠ .atRule) ∧
    ((∃ q ∈ sheet, ∃ r ∈ q.inner, r.kind ≠ .style ∧ r.kind ≠ .atRule) →
      ∃ f : Misfit, f.IsFirstIn sheet ∧ ∃ sound, fold (.sheet f.sound) m = (none, sound) ∧
        fold (.sheet sheet) m = (some f.error, sound.withKey f.key) ∧
        Grows m (sound.withKey f.key) ∧
        fold (.sheet sheet) (sound.withKey f.key) = (some f.error, sound.withKey f.key)) ∧
    ∀ r, fold (.rule r) m = (some (.notASheet r.kind), m) := by
  refine ⟨⟨fun fails => ?_, fun odd => ?_⟩, fun odd => ?_, fun _ => rfl⟩
  · refine Stylesheet.not_foldable_iff.1 fun foldable => ?_
    rw [fold, foldSheet_eq foldable] at fails
    cases fails
  · rcases Misfit.exists_isFirstIn odd with ⟨f, first⟩
    rw [RuleMap.fold, first.foldSheet_eq]
    rfl
  · rcases Misfit.exists_isFirstIn odd with ⟨f, first⟩
    have added := grows_withKey (m.insertAll f.sound.contributions) f.key
    have again := added.insertAll_eq_self
    refine ⟨f, first, _, foldSheet_eq first.foldable m, first.foldSheet_eq m,
      (grows_insertAll m _).trans added, ?_⟩
    rw [fold, first.foldSheet_eq, again, withKey_eq_self (mem_keys_withKey _ _)]

/-- A font face stands in the second group, behind a rule whose digest the map holds already. -/
theorem fold_stops_at_misfit_of_fontFace :
    let a : Rule := .style ⟨["a"], [⟨"c", "d"⟩], none⟩
    let b : Rule := .style ⟨["b"], [⟨"c", "d"⟩], some ⟨3, 1⟩⟩
    let face : Rule := .fontFace [⟨"src", "x"⟩] none
    let sheet : Stylesheet := [a, .group .supports "(q)" [a] none, .comment "x" none,
      .group .media "all and (p)" [b, face, a] none, face]
    let m : RuleMap := [("@media (p)", [.ofRule b]), ("x", [])]
    (∃ q ∈ sheet, ∃ r ∈ q.inner, r.kind ≠ .style ∧ r.kind ≠ .atRule) ∧
      ∃ f : Misfit, f.IsFirstIn sheet ∧ ∃ sound, fold (.sheet f.sound) m = (none, sound) ∧
        fold (.sheet sheet) m = (some f.error, sound.withKey f.key) ∧
        Grows m (sound.withKey f.key) ∧
        fold (.sheet sheet) (sound.withKey f.key) = (some f.error, sound.withKey f.key) := by
  intro a b face sheet m
  have odd : ∃ q ∈ sheet, ∃ r ∈ q.inner, r.kind ≠ .style ∧ r.kind ≠ .atRule := by decide
  exact ⟨odd, (fold_stops_at_misfit sheet m).2.1 odd⟩

end RuleMap

end CriticalCss
