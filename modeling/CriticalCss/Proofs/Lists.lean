import Mathlib.Data.List.Induction
import Mathlib.Data.List.TakeWhile
import Mathlib.Order.Basic

/-!
# Lists

What the library does not say of lists: where taking and dropping stop, rows with gaps, lists of
pairs as tables, lists without duplicates, and lists in order.
-/

namespace CriticalCss

variable {α β γ : Type}

/-! ## Taking and dropping -/

section

variable {p : α → Bool} {s t : List α}

theorem dropWhile_append_of_forall (all : ∀ a ∈ t, p a = true) (stop : ∀ a ∈ s.head?, p a = false) :
    (t ++ s).dropWhile p = s := by
  rw [List.dropWhile_append_of_pos all]
  cases s with
  | nil => rfl
  | cons a s => rw [List.dropWhile_cons, stop a rfl, if_neg Bool.false_ne_true]

theorem dropWhile_append_of_eq_nil (none : t.dropWhile p = []) (s : List α) :
    (t ++ s).dropWhile p = s.dropWhile p :=
  List.dropWhile_append_of_pos (List.dropWhile_eq_nil_iff.1 none)

/-- Where dropping stops within a list, what follows the list does not count. -/
theorem takeWhile_append_of_ne_nil (some : t.dropWhile p ≠ []) (s : List α) :
    (t ++ s).takeWhile p = t.takeWhile p ∧ (t ++ s).dropWhile p = t.dropWhile p ++ s := by
  induction t with
  | nil => exact (some rfl).elim
  | cons a t ih =>
    cases fits : p a with
    | false => simp [fits]
    | true =>
      rw [List.dropWhile_cons_of_pos fits] at some
      obtain ⟨taken, dropped⟩ := ih some
      simp [fits, taken, dropped]

/-- What follows does not count if taking stops at it. -/
theorem takeWhile_append_of_head (stop : ∀ a ∈ s.head?, p a = false) (t : List α) :
    (t ++ s).takeWhile p = t.takeWhile p ∧ (t ++ s).dropWhile p = t.dropWhile p ++ s := by
  induction t with
  | nil =>
    cases s with
    | nil => exact ⟨rfl, rfl⟩
    | cons a s => simp [stop a rfl]
  | cons a t ih =>
    obtain ⟨taken, dropped⟩ := ih
    cases fits : p a <;> simp [fits, taken, dropped]

/-- What follows does not count if the lead does not go on with it. -/
theorem isPrefixOf_append [BEq α] [LawfulBEq α] {lead : List α}
    (foreign : ∀ a ∈ s.head?, a ∉ lead) (t : List α) :
    lead.isPrefixOf (t ++ s) = lead.isPrefixOf t := by
  induction lead generalizing t with
  | nil => simp
  | cons b lead ih =>
    cases t with
    | nil =>
      cases s with
      | nil => rfl
      | cons a s =>
        have other : a ∉ b :: lead := foreign a rfl
        have differs : (b == a) = false := by
          rw [beq_eq_false_iff_ne]
          rintro rfl
          exact other List.mem_cons_self
        simp [List.isPrefixOf, differs]
    | cons c t =>
      rw [List.cons_append, List.isPrefixOf, List.isPrefixOf,
        ih fun a head inside => foreign a head (List.mem_cons_of_mem _ inside)]

end

/-! ## Rows -/

theorem intercalate_cons (gap item : List α) (items : List (List α)) :
    gap.intercalate (item :: items) =
      item ++ ((if items.isEmpty then [] else gap) ++ gap.intercalate items) := by
  cases items with
  | nil => simp [List.intercalate]
  | cons next items => simp [List.intercalate]

theorem flatten_eq_intercalate (items : List (List α)) : items.flatten = [].intercalate items := by
  induction items with
  | nil => rfl
  | cons item items ih =>
    rw [intercalate_cons, List.flatten_cons, ih]
    split <;> rfl

/-! ## Tables -/

section

variable [BEq α] [LawfulBEq α]

theorem lookup_of_mem_of_nodup {pairs : List (α × β)} {a : α} {b : β}
    (nodup : (pairs.map Prod.fst).Nodup) (mem : (a, b) ∈ pairs) :
    pairs.lookup a = some b := by
  induction pairs with
  | nil => cases mem
  | cons pair pairs ih =>
    rw [List.map_cons, List.nodup_cons] at nodup
    rw [List.lookup_cons]
    rcases List.mem_cons.1 mem with rfl | later
    · simp
    · have apart : a ≠ pair.1 := by
        intro same
        subst same
        exact nodup.1 (List.mem_map.2 ⟨_, later, rfl⟩)
      rw [beq_eq_false_iff_ne.2 apart]
      exact ih nodup.2 later

theorem mem_of_lookup {pairs : List (α × β)} {a : α} {b : β} (found : pairs.lookup a = some b) :
    (a, b) ∈ pairs := by
  obtain ⟨before, after, rfl, -⟩ := List.lookup_eq_some_iff.1 found
  simp

/-- The value of a name is the one at its place. -/
theorem lookup_zip {names : List α} {a : α} (mem : a ∈ names) (values : List β) :
    (names.zip values).lookup a = values[names.idxOf a]? := by
  induction names generalizing values with
  | nil => cases mem
  | cons first others ih =>
    cases values with
    | nil => rfl
    | cons b values =>
      rw [List.zip_cons_cons, List.lookup_cons, List.idxOf_cons]
      by_cases same : a = first
      · subst same
        simp
      · have later : a ∈ others := (List.mem_cons.1 mem).resolve_left same
        rw [beq_eq_false_iff_ne.2 same, beq_eq_false_iff_ne.2 (Ne.symm same)]
        exact ih later values

end

theorem nodup_fst_zip {names : List α} (nodup : names.Nodup) (values : List β) :
    ((names.zip values).map Prod.fst).Nodup := by
  induction names generalizing values with
  | nil => exact List.nodup_nil
  | cons a names ih =>
    cases values with
    | nil => exact List.nodup_nil
    | cons b values =>
      rw [List.nodup_cons] at nodup
      rw [List.zip_cons_cons, List.map_cons, List.nodup_cons]
      refine ⟨fun mem => ?_, ih nodup.2 values⟩
      obtain ⟨⟨c, d⟩, inside, rfl⟩ := List.mem_map.1 mem
      exact nodup.1 (List.of_mem_zip inside).1

/-! ## Duplicates -/

section

variable [BEq α] [LawfulBEq α]

theorem eraseDups_append_singleton (as : List α) (a : α) :
    (as ++ [a]).eraseDups = as.eraseDups ++ if a ∈ as then [] else [a] := by
  rw [List.eraseDups_append]
  congr 1
  split <;> simp [List.removeAll, List.eraseDups_cons, *]

/-- Duplicates are erased behind the first appearance. -/
theorem pairwise_idxOf_eraseDups (as : List α) :
    as.eraseDups.Pairwise fun a b => as.idxOf a < as.idxOf b := by
  induction as using List.reverseRecOn with
  | nil => exact List.Pairwise.nil
  | append_singleton as a ih =>
    have earlier : ∀ b ∈ as.eraseDups, b ∈ as := fun b => List.mem_eraseDups.1
    rw [eraseDups_append_singleton, List.pairwise_append]
    refine ⟨ih.imp_of_mem fun {b c} hb hc less => ?_, ?_, fun b hb c hc => ?_⟩
    · rw [List.idxOf_append, if_pos (earlier b hb), List.idxOf_append, if_pos (earlier c hc)]
      exact less
    · split <;> simp
    · split at hc
      · cases hc
      · rename_i new
        rw [List.mem_singleton] at hc
        subst hc
        rw [List.idxOf_append, if_pos (earlier b hb), List.idxOf_append, if_neg new]
        exact Nat.lt_of_lt_of_le (List.idxOf_lt_length_of_mem (earlier b hb))
          (Nat.le_add_left _ _)

theorem nodup_eraseDups (as : List α) : as.eraseDups.Nodup :=
  (pairwise_idxOf_eraseDups as).imp fun less same => less.ne (congrArg as.idxOf same)

end

theorem length_le_one_of_forall_eq {as : List α} (nodup : as.Nodup)
    (same : ∀ a ∈ as, ∀ b ∈ as, a = b) : as.length ≤ 1 := by
  match as with
  | [] | [_] => simp
  | a :: b :: rest =>
    have apart := (List.nodup_cons.1 nodup).1
    rw [same a (by simp) b (by simp)] at apart
    exact (apart List.mem_cons_self).elim

/-! ## Order -/

section

variable [Preorder γ] {rank : α → γ} {f : α → Option β} {l : List α}

/-- What gives the last value stands behind everything else that gives a value. -/
theorem exists_of_getLast?_filterMap (sorted : l.Pairwise fun a b => rank a < rank b) {v : β}
    (last : (l.filterMap f).getLast? = some v) :
    ∃ a ∈ l, f a = some v ∧ ∀ b ∈ l, f b ≠ none → b = a ∨ rank b < rank a := by
  induction l using List.reverseRecOn with
  | nil => cases last
  | append_singleton l c ih =>
    rw [List.pairwise_append] at sorted
    obtain ⟨earlier, -, behind⟩ := sorted
    rw [List.filterMap_append, List.getLast?_append] at last
    cases own : f c with
    | some w =>
      rw [List.filterMap_cons, own] at last
      cases last
      refine ⟨c, by simp, own, fun b mem _ => ?_⟩
      rcases List.mem_append.1 mem with before | here
      · exact Or.inr (behind b before c List.mem_cons_self)
      · exact Or.inl (List.mem_singleton.1 here)
    | none =>
      rw [List.filterMap_cons, own] at last
      obtain ⟨a, mem, value, most⟩ := ih earlier last
      refine ⟨a, List.mem_append_left _ mem, value, fun b inside other => ?_⟩
      rcases List.mem_append.1 inside with before | here
      · exact most b before other
      · rw [List.mem_singleton.1 here, own] at other
        exact (other rfl).elim

/-- A value comes last if and only if something that gives it stands behind everything that gives
another value. -/
theorem getLast?_filterMap_eq_some_iff (sorted : l.Pairwise fun a b => rank a < rank b) {v : β} :
    (l.filterMap f).getLast? = some v ↔
      ∃ a ∈ l, f a = some v ∧ ∀ b ∈ l, f b ≠ none → f b ≠ some v → rank b < rank a := by
  constructor
  · intro last
    obtain ⟨a, mem, value, most⟩ := exists_of_getLast?_filterMap sorted last
    refine ⟨a, mem, value, fun b inside other apart => ?_⟩
    rcases most b inside other with rfl | less
    · exact (apart value).elim
    · exact less
  · intro given
    rcases given with ⟨a, mem, value, behind⟩
    cases last : (l.filterMap f).getLast? with
    | none =>
      rw [List.getLast?_eq_none_iff, List.filterMap_eq_nil_iff] at last
      rw [last a mem] at value
      cases value
    | some w =>
      obtain ⟨b, inside, other, most⟩ := exists_of_getLast?_filterMap sorted last
      by_contra apart
      have less : rank b < rank a :=
        behind b inside (by rw [other]; exact Option.some_ne_none w) (by rwa [other])
      rcases most a mem (by rw [value]; exact Option.some_ne_none v) with rfl | more
      · exact lt_irrefl _ less
      · exact lt_asymm less more

end

/-- Elements that the order does not tell apart stay in the order in which they stood. -/
theorem pairwise_mergeSort_stable {le : α → α → Bool} {stood : α → α → Prop}
    (trans : ∀ a b c, le a b = true → le b c = true → le a c = true)
    (total : ∀ a b, (le a b || le b a) = true) {as : List α} (ordered : as.Pairwise stood) :
    (as.mergeSort le).Pairwise fun a b => le a b = true ∧ (le b a = true → stood a b) := by
  induction ordered with
  | nil =>
    rw [List.mergeSort_nil]
    exact List.Pairwise.nil
  | @cons a as first _ ih =>
    -- the first element goes behind those that are less, and all others stay as they were sorted
    obtain ⟨before, after, whole, others, less⟩ := List.mergeSort_cons trans total a as
    have sorted := List.pairwise_mergeSort trans total (a :: as)
    rw [whole, List.pairwise_append, List.pairwise_cons] at sorted
    rw [others, List.pairwise_append] at ih
    have held : ∀ b ∈ after, b ∈ as := by
      intro b mem
      have inside : b ∈ as.mergeSort le := others ▸ List.mem_append_right _ mem
      exact List.mem_mergeSort.1 inside
    rw [whole, List.pairwise_append, List.pairwise_cons]
    refine ⟨ih.1, ⟨fun b mem => ⟨sorted.2.1.1 b mem, fun _ => first b (held b mem)⟩, ih.2.1⟩, ?_⟩
    intro b hb c hc
    rcases List.mem_cons.1 hc with rfl | later
    · refine ⟨sorted.2.2 b hb c hc, fun given => ?_⟩
      have greater := less b hb
      rw [given] at greater
      cases greater
    · exact ih.2.2 b hb c later

end CriticalCss
