import CriticalCss.Proofs.Assembly.Remnant
import CriticalCss.Proofs.RuleMap.Content

/-!
# Pages in another order, and pages again

The maps of pages depend on the order of the pages only in the order of their own keys and rules
(`Assembly.criticalOf_similar`, `Assembly.restOf_similar`), if digests do not collide: the rests
are subtracted from with a critical map that says the same, so the same is left of them. A page
that is added once more adds nothing to either map, whatever the digests.
-/

namespace CriticalCss

open RuleMap (CollisionFree SameRules)

namespace Assembly

variable {pages others : List PageResult}

/-! ## Another order -/

theorem sameRules_criticals (perm : others.Perm pages) :
    SameRules (criticals others) (criticals pages) :=
  .of_perm (perm.flatMap_right _)

theorem sameRules_rests (perm : others.Perm pages) : SameRules (rests others) (rests pages) :=
  .of_perm (perm.flatMap_right _)

section

variable (free : CollisionFree (involved pages)) (perm : others.Perm pages)

include free perm

theorem criticalOf_similar : (criticalOf others).Similar (criticalOf pages) :=
  (sameRules_criticals perm).similar (collisionFree_criticals free)

/-- The same is left of the rests. -/
theorem sameRules_remnants : SameRules (remnants others) (remnants pages) :=
  ((sameRules_rests perm).items_collect (collisionFree_rests free)).leftovers
    ((sameRules_criticals perm).items_collect (collisionFree_criticals free))

theorem restOf_similar : (restOf others).Similar (restOf pages) :=
  (sameRules_remnants free perm).similar (collisionFree_remnants free)

end

/-! ## A page again -/

section

variable {page : PageResult} (known : page ∈ pages)

include known

theorem criticalOf_append_of_mem : criticalOf (pages ++ [page]) = criticalOf pages := by
  have again : page.critical.contributions ⊆ criticals pages :=
    fun _ mem => List.mem_flatMap.2 ⟨page, known, mem⟩
  rw [criticalOf, criticals, List.flatMap_append, List.flatMap_singleton]
  exact RuleMap.collect_append_of_subset again

theorem collect_rests_append_of_mem :
    RuleMap.collect (rests (pages ++ [page])) = RuleMap.collect (rests pages) := by
  have again : page.rest.contributions ⊆ rests pages :=
    fun _ mem => List.mem_flatMap.2 ⟨page, known, mem⟩
  rw [rests, List.flatMap_append, List.flatMap_singleton]
  exact RuleMap.collect_append_of_subset again

variable (fold : ∀ p ∈ pages, p.Foldable)

include fold

theorem foldable_append_of_mem : ∀ p ∈ pages ++ [page], p.Foldable := by
  intro p mem
  rcases List.mem_append.1 mem with before | again
  · exact fold p before
  · rw [List.mem_singleton.1 again]
    exact fold page known

theorem criticalMap_append_of_mem : criticalMap (pages ++ [page]) = criticalMap pages := by
  rw [criticalMap_of_foldable fold,
    criticalMap_of_foldable (foldable_append_of_mem known fold), criticalOf_append_of_mem known]

theorem restMap_append_of_mem (critical : RuleMap) :
    restMap (pages ++ [page]) critical = restMap pages critical := by
  rw [restMap_of_foldable fold, restMap_of_foldable (foldable_append_of_mem known fold),
    collect_rests_append_of_mem known]

/-- The texts are the same, too. -/
theorem assemble_append_of_mem (options : AssemblyOptions) :
    assemble options (pages ++ [page]) = assemble options pages := by
  simp only [assemble, criticalMap_append_of_mem known fold, restMap_append_of_mem known fold]

end

/-- **Neither order nor repetition counts.** Both maps of pages in another order have the same keys
and under each key the same rules, up to positions and to the order of both. A page that comes
again leaves both maps and the finished texts just as they are. -/
theorem maps_regardless_of_order (fold : ∀ page ∈ pages, page.Foldable) :
    ∃ critical rest, criticalMap pages = .ok critical ∧ restMap pages critical = .ok rest ∧
      (CollisionFree (involved pages) → ∀ others, others.Perm pages →
        ∃ critical' rest', criticalMap others = .ok critical' ∧
          restMap others critical' = .ok rest' ∧
          critical'.Similar critical ∧ rest'.Similar rest) ∧
      ∀ page ∈ pages, criticalMap (pages ++ [page]) = .ok critical ∧
        restMap (pages ++ [page]) critical = .ok rest ∧
        ∀ options, assemble options (pages ++ [page]) = assemble options pages := by
  refine ⟨criticalOf pages, restOf pages, criticalMap_of_foldable fold,
    restMap_of_foldable fold _, fun free others perm => ?_, fun page known => ⟨?_, ?_, ?_⟩⟩
  · have fold' : ∀ page ∈ others, page.Foldable := fun page mem => fold page (perm.mem_iff.1 mem)
    exact ⟨criticalOf others, restOf others, criticalMap_of_foldable fold',
      restMap_of_foldable fold' _, criticalOf_similar free perm, restOf_similar free perm⟩
  · rw [criticalMap_append_of_mem known fold, criticalMap_of_foldable fold]
  · rw [restMap_append_of_mem known fold]
    exact restMap_of_foldable fold _
  · exact assemble_append_of_mem known fold

/-- Two pages hold a rule for one selector each, one of them from another place. -/
theorem maps_regardless_of_order_of_two_pages :
    let a (line : Nat) : Rule := .style ⟨["a"], [⟨"c", "d"⟩], some ⟨line, 1⟩⟩
    let b : Rule := .style ⟨["b"], [⟨"c", "d"⟩], none⟩
    let first : PageResult := ⟨"u", [a 1], [.group .media "p" [b] none, b]⟩
    let second : PageResult := ⟨"v", [b], [.group .media "p" [b] none, a 2]⟩
    ∃ critical rest critical' rest', criticalMap [first, second] = .ok critical ∧
      restMap [first, second] critical = .ok rest ∧ criticalMap [second, first] = .ok critical' ∧
      restMap [second, first] critical' = .ok rest' ∧
      critical'.Similar critical ∧ rest'.Similar rest ∧
      criticalMap [first, second, first] = .ok critical ∧
      restMap [first, second, first] critical = .ok rest := by
  intro a b first second
  have apart : CollisionFree [a 1, b] := ⟨by decide +kernel, by decide +kernel⟩
  have free : CollisionFree (involved [first, second]) := apart.of_erase (by decide +kernel)
  have fold : ∀ page ∈ [first, second], page.Foldable := by decide
  obtain ⟨critical, rest, made, left, anyOrder, again⟩ := maps_regardless_of_order fold
  obtain ⟨critical', rest', made', left', similar⟩ :=
    anyOrder free [second, first] (List.Perm.swap first second [])
  obtain ⟨madeAgain, leftAgain, -⟩ := again first List.mem_cons_self
  exact ⟨critical, rest, critical', rest', made, left, made', left', similar.1, similar.2,
    madeAgain, leftAgain⟩

end Assembly

end CriticalCss
