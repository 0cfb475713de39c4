import CriticalCss.Proofs.Css.Origin

/-!
# Values of declarations

What is known of a value depends on its significant components only, not on the white space and
the comments between them (`Progress.alike_ofValue`). So a value that is written and read again
is known to be the same, with `!important` behind it or without.
-/

namespace CriticalCss.Css

/-! ## The significant components of what is written -/

theorem Component.IsFiller.not_isSignificant {c : Component} (filler : c.IsFiller) :
    c.isSignificant = false := by
  cases filler <;> rfl

theorem filter_isSignificant_eq_nil {cs : List Component}
    (none : ∀ c ∈ cs, c.isSignificant = false) : cs.filter Component.isSignificant = [] := by
  refine List.filter_eq_nil_iff.2 fun c mem => ?_
  rw [none c mem]
  exact Bool.false_ne_true

theorem filter_isSignificant_writtenList (left : Option Contact) (cs : List Component) :
    (writtenList left cs).filter Component.isSignificant =
      (cs.filter Component.isSignificant).map Component.written := by
  induction cs generalizing left with
  | nil => rfl
  | cons c rest ih =>
    have gap : (Contact.gap left c.contact).filter Component.isSignificant = [] :=
      filter_isSignificant_eq_nil fun d mem =>
        (Contact.isFiller_of_mem_gap mem).not_isSignificant
    rw [writtenList, List.filter_append, gap, List.nil_append]
    cases significant : c.isSignificant with
    | true =>
      rw [List.filter_cons_of_pos (by rw [Component.isSignificant_written, significant]),
        List.filter_cons_of_pos significant, List.map_cons, ih]
    | false =>
      have skipped : ¬c.isSignificant = true := by rw [significant]; exact Bool.false_ne_true
      rw [List.filter_cons_of_neg (by rwa [Component.isSignificant_written]),
        List.filter_cons_of_neg skipped, ih]

theorem isSignificant_of_isWhitespace {c : Component} (space : c.isWhitespace = true) :
    c.isSignificant = false := by
  rw [Component.isSignificant, space]
  rfl

theorem filter_isSignificant_blank (w : List Char) :
    (blank w).filter Component.isSignificant = [] := by
  refine filter_isSignificant_eq_nil fun c mem => ?_
  obtain ⟨text, rfl⟩ := isWhitespace_of_mem_blank mem
  rfl

/-- White space around components and what goes between them is not significant. -/
theorem filter_isSignificant_written (value : List Component) (v w : List Char) :
    (blank v ++ writtenList none (stripped value) ++ blank w).filter Component.isSignificant =
      (value.filter Component.isSignificant).map Component.written := by
  obtain ⟨before, after, whole, left, right⟩ := exists_stripped value
  have kept : value.filter Component.isSignificant =
      (stripped value).filter Component.isSignificant := by
    have filtered := congrArg (List.filter Component.isSignificant) whole
    rwa [List.filter_append, List.filter_append,
      filter_isSignificant_eq_nil fun c mem => isSignificant_of_isWhitespace (left c mem),
      filter_isSignificant_eq_nil fun c mem => isSignificant_of_isWhitespace (right c mem),
      List.nil_append, List.append_nil] at filtered
  rw [List.filter_append, List.filter_append, filter_isSignificant_blank,
    filter_isSignificant_blank, List.nil_append, List.append_nil,
    filter_isSignificant_writtenList, kept]

/-- The text of sound components that are written out with white space around them is the text
of the components, but for white space at its ends. -/
theorem trim_text_written {closer : Option Bracket} {value : List Component}
    (sound : Sound closer value) {v w : List Char} (left : IsSpaces v) (right : IsSpaces w) :
    Text.trim (text (blank v ++ writtenList none (stripped value) ++ blank w)) =
      Text.trim (text value) := by
  obtain ⟨before, after, whole, spaceBefore, spaceAfter⟩ := exists_stripped value
  have within : ∀ c ∈ before ++ after, c ∈ value := by
    intro c mem
    rw [whole]
    rcases List.mem_append.1 mem with inside | inside
    · exact List.mem_append_left _ (List.mem_append_left _ inside)
    · exact List.mem_append_right _ inside
  have trimmed := trim_text_append
    (fun c mem => sound.isSpace (within c (List.mem_append_left _ mem)) (spaceBefore c mem))
    (fun c mem => sound.isSpace (within c (List.mem_append_right _ mem)) (spaceAfter c mem))
    (stripped value)
  rw [← whole] at trimmed
  rw [trim_text_append (isSpace_of_mem_blank left) (isSpace_of_mem_blank right),
    text_writtenList, trimmed]

namespace Entry

/-! ## One component -/

namespace Progress

/-- What one component does to what is known of a value. -/
inductive Step (s : Progress) (c : Component) : Progress → Prop
  | mark {p : Position} : s.importance = .plain → c = .token p (.literal ['!']) →
    Step s c { s with count := s.count + 1, importance := .mark s.count }
  | important {p : Position} {name : List Char} {before : Nat} : s.importance = .mark before →
    c = .token p (.ident name) → name.map Char.toLower = "important".toList →
    Step s c { s with count := s.count + 1, importance := .important before }
  | skipped : c.isSignificant = false → Step s c { s with count := s.count + 1 }
  | kept {block : Bool} : c.isSignificant = true → (s.block = true → block = true) →
    Step s c ⟨s.count + 1, .plain, true, block⟩

theorem step_shape (s : Progress) (c : Component) : Step s c (s.step c) := by
  unfold step
  split
  · rename_i plain
    exact .mark plain rfl
  · rename_i before p name mark
    simp only
    split
    · rename_i lower
      exact .important mark rfl (by simpa using lower)
    · exact .kept rfl id
  · simp only
    split
    · rename_i significant
      exact .kept significant (by simp +contextual)
    · rename_i insignificant
      exact .skipped (by simpa using insignificant)

/-! ### Where the mark of `!important` stands -/

theorem ofValue_concat (value : List Component) (c : Component) :
    ofValue (value ++ [c]) = (ofValue value).step c := by
  rw [ofValue, List.foldl_append]
  rfl

/-- The value could end before the component with the number `before`. -/
structure EndsAt (value : List Component) (before : Nat) : Prop where
  within : before ≤ value.length
  plain : (ofValue (value.take before)).importance = .plain
  block : (ofValue (value.take before)).block = true → (ofValue value).block = true

theorem EndsAt.concat {value : List Component} {before : Nat} (ends : EndsAt value before)
    {c : Component}
    (block : (ofValue value).block = true → (ofValue (value ++ [c])).block = true) :
    EndsAt (value ++ [c]) before := by
  have same : (value ++ [c]).take before = value.take before :=
    List.take_append_of_le_length ends.within
  refine ⟨?_, ?_, ?_⟩
  · rw [List.length_append]
    exact Nat.le_add_right_of_le ends.within
  · rw [same]
    exact ends.plain
  · rw [same]
    exact fun inner => block (ends.block inner)

/-- The components were counted, and the value could end before the mark of `!important`. -/
structure Counts (value : List Component) : Prop where
  count : (ofValue value).count = value.length
  mark : ∀ before, (ofValue value).importance = .mark before → EndsAt value before
  important : ∀ before, (ofValue value).importance = .important before → EndsAt value before

theorem Counts.concat {value : List Component} (counts : Counts value) (c : Component) :
    Counts (value ++ [c]) := by
  have shape := step_shape (ofValue value) c
  have next := ofValue_concat value c
  generalize (ofValue value).step c = s at shape next
  have kept : (ofValue value).block = true → (ofValue (value ++ [c])).block = true := by
    rw [next]
    cases shape with
    | kept _ more => exact more
    | mark | important | skipped => exact id
  have later {before : Nat} (ends : EndsAt value before) : EndsAt (value ++ [c]) before :=
    ends.concat kept
  have count : (ofValue (value ++ [c])).count = (value ++ [c]).length := by
    rw [next, List.length_append, ← counts.count]
    cases shape <;> rfl
  refine ⟨count, fun before same => ?_, fun before same => ?_⟩
  · rw [next] at same
    cases shape with
    | mark plain =>
      -- the value could have ended where the mark stands
      cases same
      rw [counts.count]
      refine later ⟨Nat.le_refl _, ?_, ?_⟩
      · rw [List.take_length]
        exact plain
      · rw [List.take_length]
        exact id
    | skipped => exact later (counts.mark _ same)
    | important | kept => cases same
  · rw [next] at same
    cases shape with
    | important mark =>
      cases same
      exact later (counts.mark _ mark)
    | skipped => exact later (counts.important _ same)
    | mark | kept => cases same

theorem counts (value : List Component) : Counts value := by
  have run (before after : List Component) (holds : Counts before) : Counts (before ++ after) := by
    induction after generalizing before with
    | nil => rwa [List.append_nil]
    | cons c after ih =>
      rw [← List.singleton_append, ← List.append_assoc]
      exact ih _ (holds.concat c)
  have none : Counts [] := ⟨rfl, nofun, nofun⟩
  exact run [] value none

/-! ### What is known of a written value -/

/-- How much of `!important` was read. -/
def stage : Importance → Importance
  | .plain => .plain
  | .mark _ => .mark 0
  | .important _ => .important 0

/-- The same is known of two values, but for the counts. -/
structure Alike (s t : Progress) : Prop where
  importance : stage s.importance = stage t.importance
  occupied : s.occupied = t.occupied
  block : s.block = t.block

theorem step_written (s : Progress) (c : Component) : s.step c.written = s.step c := by
  cases c with
  | token p t => rw [Component.written_token]
  | block p b content =>
    rw [Component.written_block]
    obtain ⟨count, importance, occupied, block⟩ := s
    cases b <;> cases importance <;> rfl
  | function p name arguments =>
    rw [Component.written_function]
    obtain ⟨count, importance, occupied, block⟩ := s
    cases importance <;> rfl

theorem Alike.step {s t : Progress} (alike : Alike s t) (c : Component) :
    Alike (s.step c) (t.step c) := by
  obtain ⟨count, importance, occupied, block⟩ := s
  obtain ⟨count', importance', occupied', block'⟩ := t
  obtain ⟨sameImportance, rfl, rfl⟩ := alike
  cases importance <;> cases importance' <;> cases sameImportance
  · unfold Progress.step
    simp only
    split
    · exact ⟨rfl, rfl, rfl⟩
    · contradiction
    · split <;> exact ⟨rfl, rfl, rfl⟩
  · unfold Progress.step
    simp only
    split
    · contradiction
    · split <;> exact ⟨rfl, rfl, rfl⟩
    · rename_i other
      split <;>
      · split
        · contradiction
        · exact (other _ _ _ rfl rfl).elim
        · exact ⟨rfl, rfl, rfl⟩
  · unfold Progress.step
    simp only
    split <;> exact ⟨rfl, rfl, rfl⟩

theorem alike_step_of_not_isSignificant (s : Progress) {c : Component}
    (insignificant : c.isSignificant = false) : Alike (s.step c) s := by
  have shape := step_shape s c
  generalize s.step c = s' at shape
  cases shape with
  | mark _ same =>
    subst same
    cases insignificant
  | important _ same =>
    subst same
    cases insignificant
  | skipped => exact ⟨rfl, rfl, rfl⟩
  | kept significant =>
    rw [insignificant] at significant
    cases significant

theorem Alike.foldl {s t : Progress} (alike : Alike s t) (cs : List Component) :
    Alike (cs.foldl Progress.step s) (cs.foldl Progress.step t) := by
  induction cs generalizing s t with
  | nil => exact alike
  | cons c cs ih => exact ih (alike.step c)

/-- White space and comments only count. -/
theorem alike_foldl_filter (s : Progress) (cs : List Component) :
    Alike (cs.foldl Progress.step s)
      ((cs.filter Component.isSignificant).foldl Progress.step s) := by
  induction cs generalizing s with
  | nil => exact ⟨rfl, rfl, rfl⟩
  | cons c cs ih =>
    cases significant : c.isSignificant with
    | true =>
      rw [List.filter_cons_of_pos significant]
      exact ih _
    | false =>
      rw [List.filter_cons_of_neg (by rw [significant]; exact Bool.false_ne_true)]
      have passed := (alike_step_of_not_isSignificant s significant).foldl cs
      have later := ih s
      exact ⟨passed.importance.trans later.importance, passed.occupied.trans later.occupied,
        passed.block.trans later.block⟩

/-- The same is known of values with the same significant components, written out or not. -/
theorem alike_ofValue {cs ds : List Component}
    (same : ds.filter Component.isSignificant =
      (cs.filter Component.isSignificant).map Component.written) :
    Alike (ofValue ds) (ofValue cs) := by
  have left := alike_foldl_filter ⟨0, .plain, false, false⟩ ds
  have right := alike_foldl_filter ⟨0, .plain, false, false⟩ cs
  have written (cs : List Component) (s : Progress) :
      (cs.map Component.written).foldl Progress.step s = cs.foldl Progress.step s := by
    induction cs generalizing s with
    | nil => rfl
    | cons c cs ih => rw [List.map_cons, List.foldl_cons, List.foldl_cons, step_written, ih]
  rw [same, written] at left
  exact ⟨left.importance.trans right.importance.symm, left.occupied.trans right.occupied.symm,
    left.block.trans right.block.symm⟩

end Progress

/-! ## Entries -/

/-- The value of a declaration, with its importance cut off. -/
structure IsValue (value : List Component) (important : Bool) : Prop where
  block : (Progress.ofValue value).block = false
  plain : important = true → (Progress.ofValue value).importance = .plain
  whole : important = false → ∀ before, (Progress.ofValue value).importance ≠ .important before

/-- What a declaration is read from: its value is part of the components behind the name. -/
theorem isValue_of_ofParts {first : Component} {rest value : List Component} {p : Position}
    {name : List Char} {important : Bool}
    (parts : ofParts first rest = .declaration p name value important) :
    IsValue value important ∧ ∀ c ∈ value, c ∈ rest := by
  unfold ofParts at parts
  split at parts
  · split at parts
    · cases parts
    rename_i colon full shape
    have within : ∀ c ∈ full, c ∈ rest := by
      intro c mem
      have dropped : c ∈ rest.dropWhile fun c => !c.isSignificant := by
        rw [shape]
        exact List.mem_cons_of_mem _ mem
      exact (List.dropWhile_sublist _).subset dropped
    split at parts
    · simp only at parts
      split at parts
      · cases parts
      rename_i unblocked
      rw [Bool.not_eq_true] at unblocked
      split at parts
      · rename_i before importance
        cases parts
        have ends := (Progress.counts full).important before importance
        refine ⟨⟨?_, fun _ => ends.plain, fun other => (by cases other)⟩, fun c mem =>
          within c (List.mem_of_mem_take mem)⟩
        rw [Bool.eq_false_iff]
        intro block
        rw [ends.block block] at unblocked
        cases unblocked
      · rename_i other
        cases parts
        exact ⟨⟨unblocked, fun important => (by cases important), fun _ => other⟩, within⟩
    · cases parts
  · cases parts

theorem spanSemicolon_parts (cs : List Component) :
    (∀ c ∈ (spanSemicolon cs).1, c ∈ cs ∧ c.isLiteral [';'] = false) ∧
      ∀ c ∈ (spanSemicolon cs).2, c ∈ cs := by
  induction cs with
  | nil => exact ⟨List.forall_mem_nil _, List.forall_mem_nil _⟩
  | cons c rest ih =>
    obtain ⟨before, after⟩ := ih
    rw [spanSemicolon]
    split
    · exact ⟨List.forall_mem_nil _, fun d => List.mem_cons_of_mem _⟩
    · rename_i inside
      rw [Bool.not_eq_true] at inside
      refine ⟨List.forall_mem_cons.2 ⟨⟨List.mem_cons_self, inside⟩, fun d mem => ?_⟩,
        fun d mem => List.mem_cons_of_mem _ (after d mem)⟩
      exact ⟨List.mem_cons_of_mem _ (before d mem).1, (before d mem).2⟩

/-- The value of a declaration is sound, and no semicolon is part of it. -/
def IsSound (closer : Option Bracket) : Entry → Prop
  | declaration _ _ value important =>
    Sound closer value ∧ (∀ c ∈ value, c.isLiteral [';'] = false) ∧ IsValue value important
  | atRule _ _ | invalid _ _ => True

theorem isSound_of_mem_ofBlock {closer : Option Bracket} {cs : List Component}
    (sound : Sound closer cs) : ∀ entry ∈ ofBlock cs, entry.IsSound closer := by
  fun_induction ofBlock cs with
  | case1 => exact List.forall_mem_nil _
  | case2 c rest skipped ih => exact ih (sound.of_subset fun _ => List.mem_cons_of_mem _)
  | case3 rest p keyword kept ih =>
    have later : Sound closer rest := sound.of_subset fun _ => List.mem_cons_of_mem _
    exact List.forall_mem_cons.2
      ⟨trivial, ih (later.of_subset (Node.isCut_spanAtRule rest).left)⟩
  | case4 c rest kept noKeyword ih =>
    have later : Sound closer rest := sound.of_subset fun _ => List.mem_cons_of_mem _
    obtain ⟨before, after⟩ := spanSemicolon_parts rest
    refine List.forall_mem_cons.2 ⟨?_, ih (later.of_subset after)⟩
    cases parts : ofParts c (spanSemicolon rest).1 with
    | atRule | invalid => trivial
    | declaration p name value important =>
      obtain ⟨isValue, within⟩ := isValue_of_ofParts parts
      exact ⟨later.of_subset fun d mem => (before d (within d mem)).1,
        fun d mem => (before d (within d mem)).2, isValue⟩

end Entry

end CriticalCss.Css
