import Mathlib.Data.List.Forall2
import Mathlib.Data.List.Perm.Basic

/-!
# Interleavings

`Interleaves parts t` says that `t` is put together of the lists in `parts`: each item of `t` is
taken from the front of one of them, until all are used up. So `t` has the items of all parts
(`Interleaves.perm`), and two of its items that belong to the same part are in its order
(`Interleaves.pairwise`).
-/

namespace CriticalCss

variable {E : Type} {parts : List (List E)} {t : List E}

/-- The list is put together of the parts, each of them in its order. -/
inductive Interleaves : List (List E) → List E → Prop
  | nil {parts : List (List E)} : (∀ part ∈ parts, part = []) → Interleaves parts []
  | cons {before after : List (List E)} {e : E} {rest t : List E} :
    Interleaves (before ++ rest :: after) t → Interleaves (before ++ (e :: rest) :: after) (e :: t)

namespace Interleaves

/-- The next item may come from the front of any part. -/
theorem of_set {i : Nat} {e : E} {rest : List E} (found : parts[i]? = some (e :: rest))
    (others : Interleaves (parts.set i rest) t) : Interleaves parts (e :: t) := by
  obtain ⟨inside, here⟩ := List.getElem?_eq_some_iff.1 found
  obtain ⟨before, after, shape, -, changed⟩ : ∃ before after, parts = before ++ parts[i] :: after ∧
      before.length = i ∧ parts.set i rest = before ++ rest :: after := List.exists_of_set inside
  rw [here] at shape
  rw [changed] at others
  exact shape ▸ .cons others

theorem of_set_append {i : Nat} {first rest : List E} (found : parts[i]? = some (first ++ rest))
    (others : Interleaves (parts.set i rest) t) : Interleaves parts (first ++ t) := by
  induction first generalizing parts with
  | nil =>
    obtain ⟨inside, here⟩ := List.getElem?_eq_some_iff.1 found
    have same : parts.set i rest = parts := by
      rw [← List.nil_append rest, ← here, List.set_getElem_self]
    exact same ▸ others
  | cons e first ih =>
    obtain ⟨inside, -⟩ := List.getElem?_eq_some_iff.1 found
    refine of_set found (ih ?_ ?_)
    · exact List.getElem?_set_self inside
    · rwa [List.set_set]

/-- What is done alone is done before the others. -/
theorem append {alone : List E} (others : Interleaves parts t) :
    Interleaves (alone :: parts) (alone ++ t) := by
  induction alone with
  | nil =>
    induction others with
    | nil empty => exact .nil (List.forall_mem_cons.2 ⟨rfl, empty⟩)
    | @cons before after _ _ _ _ ih => exact @cons _ ([] :: before) after _ _ _ ih
  | cons e rest ih => exact @cons _ [] _ _ _ _ ih

theorem perm (h : Interleaves parts t) : t.Perm parts.flatten := by
  induction h with
  | nil empty => rw [List.flatten_eq_nil_iff.2 empty]
  | @cons before after e rest t _ ih =>
    refine (ih.cons e).trans ?_
    simp only [List.flatten_append, List.flatten_cons, List.cons_append]
    exact List.perm_middle.symm

theorem mem_iff (h : Interleaves parts t) {e : E} : e ∈ t ↔ ∃ part ∈ parts, e ∈ part := by
  rw [h.perm.mem_iff, List.mem_flatten]

/-- A relation between earlier and later items holds in the whole if it holds in every part, and
both ways between any two parts. -/
theorem pairwise {R : E → E → Prop} (h : Interleaves parts t)
    (within : ∀ part ∈ parts, part.Pairwise R)
    (between : parts.Pairwise fun p q => ∀ a ∈ p, ∀ b ∈ q, R a b ∧ R b a) : t.Pairwise R := by
  induction h with
  | nil => exact .nil
  | @cons before after e rest t others ih =>
    obtain ⟨early, own, late⟩ : (∀ part ∈ before, part.Pairwise R) ∧ (e :: rest).Pairwise R ∧
        ∀ part ∈ after, part.Pairwise R := by
      simpa only [List.forall_mem_append, List.forall_mem_cons] using within
    obtain ⟨first, own'⟩ := List.pairwise_cons.1 own
    obtain ⟨left, right, cross⟩ := List.pairwise_append.1 between
    obtain ⟨here, right⟩ := List.pairwise_cons.1 right
    refine .cons (fun b mem => ?_) (ih ?_ ?_)
    · -- the item before all the others: of its own part, or of another one
      obtain ⟨part, inside, mem⟩ := others.mem_iff.1 mem
      rcases List.mem_append.1 inside with earlier | later
      · exact (cross part earlier _ List.mem_cons_self b mem e List.mem_cons_self).2
      rcases List.mem_cons.1 later with rfl | later
      · exact first b mem
      · exact (here part later e List.mem_cons_self b mem).1
    · simpa only [List.forall_mem_append, List.forall_mem_cons] using ⟨early, own', late⟩
    · refine List.pairwise_append.2 ⟨left, List.pairwise_cons.2 ⟨fun q mem a inside b => ?_, right⟩,
        fun p mem q inside => ?_⟩
      · exact here q mem a (List.mem_cons_of_mem e inside) b
      · rcases List.mem_cons.1 inside with rfl | inside
        · exact fun a own b mem' => cross p mem _ List.mem_cons_self a own b
            (List.mem_cons_of_mem e mem')
        · exact cross p mem q (List.mem_cons_of_mem _ inside)

end Interleaves

end CriticalCss
