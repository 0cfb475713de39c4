import CriticalCss.Dialogue.Pool
import CriticalCss.Proofs.Dialogue.Course
import CriticalCss.Proofs.Dialogue.Interleaving

/-!
# Courses of a pool

What a pool does under a discipline, as a walk from stage to stage: it admits a dialogue that
waits, passes on a question, or notes the end of a dialogue (`Pool.Moves`). `Pool.proceed` takes
exactly the walks that end where no step is left (`course_proceed_iff`), and the statements about
it are carried from one stage to the next.

* At no stage more dialogues have a place than the limit allows (`Reaches.inside_le`).
* A course of a pool interleaves courses of its dialogues, and the values are theirs, in the order
  of the list (`exists_outcomes_of_course_gather`).
* Whatever courses the dialogues can take, each pool has a course that interleaves them
  (`exists_course_gather`).
-/

namespace CriticalCss

open Dialogue

namespace Pool

variable {Q : Type} {A : Q → Type} {α : Type} {d : Discipline Q} {t : List (Exchange Q A)}

/-! ## Slots -/

namespace Slot

/-- The dialogue has a place. -/
def isRunning (slot : Slot Q A α) : Bool :=
  slot.turn?.isSome

/-- What is left of a dialogue takes a course to a value. -/
def Course : Slot Q A α → List (Exchange Q A) → α → Prop
  | waiting task, t, value | running task _, t, value => task.Course t value
  | finished known, t, value => t = [] ∧ value = known

end Slot

variable {slots : List (Slot Q A α)}

theorem mem_turns {i : Nat} {turn : Turn} :
    (i, turn) ∈ turns slots ↔ ∃ task, slots[i]? = some (.running task turn) := by
  have shape : ∀ slot : Slot Q A α, slot.turn? = some turn ↔ ∃ task, slot = .running task turn := by
    rintro (_ | _ | _) <;> simp [Slot.turn?, eq_comm]
  simp only [turns, List.mem_filterMap, List.mem_mapIdx, id_eq, exists_eq_right]
  constructor
  · rintro ⟨j, inside, same⟩
    obtain ⟨_, own, pair⟩ := Option.map_eq_some_iff.1 same
    obtain ⟨rfl, rfl⟩ := Prod.mk.inj pair
    obtain ⟨task, here⟩ := (shape _).1 own
    exact ⟨task, List.getElem?_eq_some_iff.2 ⟨inside, here⟩⟩
  · rintro ⟨task, found⟩
    obtain ⟨inside, here⟩ := List.getElem?_eq_some_iff.1 found
    exact ⟨i, inside, by rw [here]; rfl⟩

theorem length_turns : (turns slots).length = slots.countP Slot.isRunning := by
  rw [turns, List.length_filterMap_eq_countP, List.mapIdx_eq_zipIdx_map, List.countP_map]
  calc slots.zipIdx.countP _ = (slots.zipIdx.map Prod.fst).countP Slot.isRunning := by
        rw [List.countP_map]
        refine List.countP_congr fun pair _ => ?_
        simp [Slot.isRunning]
    _ = slots.countP Slot.isRunning := by rw [List.zipIdx_map_fst]

/-- The next step is that of a dialogue that waits while there is room, or of one that runs. -/
theorem next?_eq_some {step i : Nat} (h : next? d step slots = some i) :
    (hasRoom d.limit slots = true ∧ ∃ task, slots[i]? = some (.waiting task)) ∨
      ∃ task turn, slots[i]? = some (.running task turn) := by
  have chosen : ∀ {entry : Option (Nat × Turn)}, (∀ e ∈ entry, e ∈ turns slots) →
      entry.map (·.1) = some i → ∃ task turn, slots[i]? = some (.running task turn) := by
    rintro entry known same
    obtain ⟨⟨_, turn⟩, held, rfl⟩ := Option.map_eq_some_iff.1 same
    obtain ⟨task, found⟩ := mem_turns.1 (known _ held)
    exact ⟨task, turn, found⟩
  have known : ∀ e ∈ (turns slots)[d.choose step ((turns slots).map (·.2))]?.or
      (turns slots).head?, e ∈ turns slots := by
    intro e held
    rcases Option.or_eq_some_iff.1 held with here | ⟨-, here⟩
    · exact List.mem_of_getElem? here
    · exact List.mem_of_head? here
  unfold next? at h
  dsimp only at h
  split at h
  · rename_i room
    rcases Option.or_eq_some_iff.1 h with waits | ⟨-, runs⟩
    · obtain ⟨inside, waits, -⟩ := List.findIdx?_eq_some_iff_getElem.1 waits
      refine .inl ⟨room, ?_⟩
      cases shape : slots[i] with
      | waiting task => exact ⟨task, List.getElem?_eq_some_iff.2 ⟨inside, shape⟩⟩
      | _ => simp [shape, Slot.isWaiting] at waits
    · exact .inr (chosen known runs)
  · exact .inr (chosen known h)

/-- Where no step is left all dialogues have ended, if there are places at all. -/
theorem exists_finished_of_next? {step : Nat} (places : d.limit ≠ some 0)
    (h : next? d step slots = none) : ∀ slot ∈ slots, ∃ value, slot = .finished value := by
  have idle : turns slots = [] := by
    unfold next? at h
    dsimp only at h
    have none : (turns slots).head? = Option.none := by
      split at h
      · exact (Option.or_eq_none_iff.1 (Option.map_eq_none_iff.1 (Option.or_eq_none_iff.1 h).2)).2
      · exact (Option.or_eq_none_iff.1 (Option.map_eq_none_iff.1 h)).2
    exact List.head?_eq_none_iff.1 none
  have room : hasRoom d.limit slots = true := by
    unfold hasRoom
    cases limit : d.limit with
    | none => rfl
    | some k =>
      have : k ≠ 0 := fun zero => places (by rw [limit, zero])
      simp [idle, Nat.pos_of_ne_zero this]
  unfold next? at h
  dsimp only at h
  rw [if_pos room] at h
  intro slot mem
  cases slot with
  | waiting task =>
    have := List.findIdx?_eq_none_iff.1 (Option.or_eq_none_iff.1 h).1 _ mem
    simp [Slot.isWaiting] at this
  | running task turn =>
    obtain ⟨i, found⟩ := List.mem_iff_getElem?.1 mem
    have := mem_turns.2 ⟨task, found⟩
    rw [idle] at this
    cases this
  | finished value => exact ⟨value, rfl⟩

/-! ## Stages -/

/-- How far a pool has come. -/
structure Stage (Q : Type) (A : Q → Type) (α : Type) where
  step : Nat
  now : Nat
  slots : List (Slot Q A α)

/-- All dialogues wait. -/
def Stage.start (tasks : List (Dialogue Q A α)) : Stage Q A α :=
  ⟨0, 0, tasks.map .waiting⟩

/-- The number of dialogues that have a place. -/
def Stage.inside (s : Stage Q A α) : Nat :=
  s.slots.countP Slot.isRunning

/-- What one dialogue does in a step that is made at some time: the question that it asks, if any,
its next state, and the time then. -/
inductive Slot.Moves (d : Discipline Q) (step now : Nat) :
    Slot Q A α → List (Exchange Q A) → Slot Q A α → Nat → Prop
  | admitted (task : Dialogue Q A α) :
    Moves d step now (waiting task) [] (running task ⟨now, step⟩) now
  | answered (q : Q) (next : A q → Dialogue Q A α) (answer : A q) (turn : Turn) :
    Moves d step now (running (.ask q next) turn) [⟨q, answer⟩]
      (running (next answer)
        (if d.duration q = 0 then turn else ⟨turn.time + d.duration q, step⟩)) turn.time
  | ended (value : α) (turn : Turn) :
    Moves d step now (running (.done value) turn) [] (finished value) turn.time

/-- One step of a pool: the dialogue that is next makes it. -/
inductive Moves (d : Discipline Q) : Stage Q A α → List (Exchange Q A) → Stage Q A α → Prop
  | mk {s : Stage Q A α} {i : Nat} {slot slot' : Slot Q A α} {t : List (Exchange Q A)} {now : Nat} :
    next? d s.step s.slots = some i → s.slots[i]? = some slot →
    slot.Moves d s.step s.now t slot' now →
    Moves d s t ⟨s.step + 1, now, s.slots.set i slot'⟩

/-- A walk from stage to stage, with the questions that are asked on it. -/
inductive Reaches (d : Discipline Q) : Stage Q A α → List (Exchange Q A) → Stage Q A α → Prop
  | refl (s : Stage Q A α) : Reaches d s [] s
  | step {s s' last : Stage Q A α} {first rest : List (Exchange Q A)} :
    Moves d s first s' → Reaches d s' rest last → Reaches d s (first ++ rest) last

variable {s s' last : Stage Q A α}

theorem Slot.Moves.follows {step now now' : Nat} {slot slot' : Slot Q A α}
    (move : slot.Moves d step now t slot' now') : Slot.Follows slot' slot := by
  cases move with
  | admitted task => exact .admitted task _
  | answered q next answer turn => exact .answered q next answer turn _
  | ended value turn => exact .ended value turn

theorem Moves.progress (move : Moves d s t s') : Progress s'.slots s.slots := by
  obtain ⟨-, found, move⟩ := move
  exact ⟨_, _, _, found, move.follows, rfl⟩

/-- What is left to do takes the course of the next step and then one of the others. -/
theorem course_proceed_of_next? {step now i : Nat} {slot : Slot Q A α} {values : List α}
    (h : next? d step slots = some i) (found : slots[i]? = some slot) :
    (proceed d step now slots).Course t values ↔
      ∃ first rest slot' now', t = first ++ rest ∧ slot.Moves d step now first slot' now' ∧
        (proceed d (step + 1) now' (slots.set i slot')).Course rest values := by
  have shape := next?_eq_some h
  rw [found] at shape
  rw [proceed, h]
  dsimp only
  split
  · rename_i task here
    cases found.symm.trans here
    constructor
    · exact fun course => ⟨[], t, _, _, rfl, .admitted task, course⟩
    · rintro ⟨_, rest, _, _, rfl, ⟨⟩, course⟩
      exact course
  · rename_i value turn here
    cases found.symm.trans here
    constructor
    · exact fun course => ⟨[], t, _, _, rfl, .ended value turn, course⟩
    · rintro ⟨_, rest, _, _, rfl, ⟨⟩, course⟩
      exact course
  · rename_i q next turn here
    cases found.symm.trans here
    constructor
    · rintro (_ | course)
      exact ⟨[_], _, _, _, rfl, .answered q next _ turn, course⟩
    · rintro ⟨_, rest, _, _, rfl, ⟨⟩, course⟩
      exact .ask course
  · rename_i other₁ other₂ other₃
    rcases shape with ⟨-, task, here⟩ | ⟨task, turn, here⟩
    · cases here
      exact (other₁ task found).elim
    · cases here
      cases task with
      | done value => exact (other₂ value turn found).elim
      | ask q next => exact (other₃ q next turn found).elim

theorem course_proceed_of_next?_eq_none {step now : Nat} {result : List α}
    (h : next? d step slots = none) :
    (proceed d step now slots).Course t result ↔ t = [] ∧ result = values slots := by
  rw [proceed, h]
  exact course_done_iff

/-- **A pool takes the walks that end where no step is left.** -/
theorem course_proceed_iff {result : List α} :
    (proceed d s.step s.now s.slots).Course t result ↔
      ∃ last, Reaches d s t last ∧ next? d last.step last.slots = none ∧
        result = values last.slots := by
  obtain ⟨step, now, slots⟩ := s
  dsimp only
  -- the clock may stand still, so the induction is on what is left to do in the slots
  induction Progress.acc slots generalizing step now t with
  | intro slots _ ih =>
    cases h : next? d step slots with
    | none =>
      rw [course_proceed_of_next?_eq_none h]
      constructor
      · rintro ⟨rfl, rfl⟩
        exact ⟨_, .refl _, h, rfl⟩
      · rintro ⟨last, walk, ended, rfl⟩
        cases walk with
        | refl => exact ⟨rfl, rfl⟩
        | step move _ =>
          obtain ⟨h', -, -⟩ := move
          cases h.symm.trans h'
    | some i =>
      obtain ⟨slot, found⟩ : ∃ slot, slots[i]? = some slot := by
        rcases next?_eq_some h with ⟨-, task, found⟩ | ⟨task, turn, found⟩
        · exact ⟨_, found⟩
        · exact ⟨_, found⟩
      rw [course_proceed_of_next? h found]
      constructor
      · rintro ⟨first, rest, slot', now', rfl, move, course⟩
        have move := Moves.mk (s := ⟨step, now, slots⟩) h found move
        obtain ⟨last, walk, ended, same⟩ := (ih _ move.progress _ _).1 course
        exact ⟨last, .step move walk, ended, same⟩
      · rintro ⟨last, walk, ended, same⟩
        cases walk with
        | refl => cases h.symm.trans ended
        | step move walk =>
          have progress := move.progress
          obtain ⟨h', found', move⟩ := move
          cases h.symm.trans h'
          cases found.symm.trans found'
          exact ⟨_, _, _, _, rfl, move, (ih _ progress _ _).2 ⟨last, walk, ended, same⟩⟩

theorem course_gather_iff {tasks : List (Dialogue Q A α)} {result : List α} :
    (gather d tasks).Course t result ↔
      ∃ last, Reaches d (.start tasks) t last ∧ next? d last.step last.slots = none ∧
        result = values last.slots :=
  course_proceed_iff (s := .start tasks)

/-! ## Places -/

theorem Moves.inside_le {k : Nat} (limit : d.limit = some k) (move : Moves d s t s')
    (bound : s.inside ≤ k) : s'.inside ≤ k := by
  obtain ⟨h, found, move⟩ := move
  obtain ⟨here, own⟩ := List.getElem?_eq_some_iff.1 found
  unfold Stage.inside at bound ⊢
  dsimp only
  rw [List.countP_set here, own]
  cases move with
  | admitted task =>
    -- a dialogue is admitted only where there is room
    have room : hasRoom d.limit s.slots = true := by
      rcases next?_eq_some h with ⟨room, -⟩ | ⟨task', turn, found'⟩
      · exact room
      · cases found.symm.trans found'
    rw [hasRoom, limit, Option.all_some, decide_eq_true_eq, length_turns] at room
    simp only [Slot.isRunning, Slot.turn?, Option.isSome_none, Option.isSome_some,
      Bool.false_eq_true, if_true, if_false]
    omega
  | answered q next answer turn =>
    have : 0 < s.slots.countP Slot.isRunning :=
      List.countP_pos_iff.2 ⟨_, List.mem_of_getElem? found, rfl⟩
    simp only [Slot.isRunning, Slot.turn?, Option.isSome_some, if_true]
    omega
  | ended value turn =>
    simp only [Slot.isRunning, Slot.turn?, Option.isSome_some, Option.isSome_none,
      Bool.false_eq_true, if_true, if_false]
    omega

/-- **At no stage more dialogues have a place than the limit allows.** -/
theorem Reaches.inside_le {k : Nat} (limit : d.limit = some k) (walk : Reaches d s t last)
    (bound : s.inside ≤ k) : last.inside ≤ k := by
  induction walk with
  | refl => exact bound
  | step move _ ih => exact ih (move.inside_le limit bound)

theorem inside_start (tasks : List (Dialogue Q A α)) : (Stage.start tasks).inside = 0 := by
  unfold Stage.inside Stage.start
  rw [List.countP_eq_zero]
  intro slot mem
  obtain ⟨task, -, rfl⟩ := List.mem_map.1 mem
  exact Bool.false_ne_true

/-! ## Interleaving -/

theorem Slot.Moves.course {step now now' : Nat} {slot slot' : Slot Q A α}
    {first rest : List (Exchange Q A)} {value : α} (move : slot.Moves d step now first slot' now')
    (later : slot'.Course rest value) : slot.Course (first ++ rest) value := by
  cases move with
  | admitted task => exact later
  | answered q next answer turn => exact .ask later
  | ended known turn =>
    obtain ⟨rfl, rfl⟩ := later
    exact .done value

/-- A dialogue with a course can make the next step on it. -/
theorem Slot.Course.moves {slot : Slot Q A α} {value : α} (course : slot.Course t value)
    (unfinished : ∀ known, slot ≠ finished known) (d : Discipline Q) (step now : Nat) :
    ∃ first rest slot' now', t = first ++ rest ∧ slot.Moves d step now first slot' now' ∧
      slot'.Course rest value := by
  cases slot with
  | waiting task => exact ⟨[], t, _, _, rfl, .admitted task, course⟩
  | running task turn =>
    cases course with
    | done value => exact ⟨[], [], _, _, rfl, .ended value turn, rfl, rfl⟩
    | ask course => exact ⟨[_], _, _, _, rfl, .answered _ _ _ turn, course⟩
  | finished known => exact (unfinished known rfl).elim

/-- A course and the value in the end. -/
abbrev Outcome (Q : Type) (A : Q → Type) (α : Type) : Type :=
  List (Exchange Q A) × α

theorem exists_map_finished (ended : ∀ slot ∈ slots, ∃ value, slot = .finished value) :
    ∃ known : List α, slots = known.map .finished := by
  induction slots with
  | nil => exact ⟨[], rfl⟩
  | cons slot slots ih =>
    obtain ⟨⟨value, rfl⟩, others⟩ := List.forall_mem_cons.1 ended
    obtain ⟨known, rfl⟩ := ih others
    exact ⟨value :: known, rfl⟩

theorem values_map_finished (known : List α) :
    values (known.map (.finished : α → Slot Q A α)) = known := by
  rw [values, List.filterMap_map]
  exact List.filterMap_some

/-- The slots take the courses of the outcomes, each to its value. -/
abbrev Comes (slots : List (Slot Q A α)) (outcomes : List (Outcome Q A α)) : Prop :=
  List.Forall₂ (fun slot outcome => slot.Course outcome.1 outcome.2) slots outcomes

theorem Comes.set {outcomes : List (Outcome Q A α)} (comes : Comes slots outcomes) {i : Nat}
    {slot : Slot Q A α} {outcome : Outcome Q A α} (own : slot.Course outcome.1 outcome.2) :
    Comes (slots.set i slot) (outcomes.set i outcome) := by
  induction comes generalizing i with
  | nil => exact .nil
  | cons first others ih =>
    cases i with
    | zero => exact .cons own others
    | succ i => exact .cons first ih

theorem Comes.exists_getElem? {outcomes : List (Outcome Q A α)} (comes : Comes slots outcomes)
    {i : Nat} {slot : Slot Q A α} (found : slots[i]? = some slot) :
    ∃ outcome, outcomes[i]? = some outcome ∧ slot.Course outcome.1 outcome.2 := by
  induction comes generalizing i with
  | nil => cases found
  | @cons _ outcome _ _ first others ih =>
    cases i with
    | zero =>
      cases found
      exact ⟨outcome, rfl, first⟩
    | succ i => exact ih found

theorem comes_map_finished_iff {known : List α} {outcomes : List (Outcome Q A α)} :
    Comes (known.map .finished) outcomes ↔ outcomes = known.map ([], ·) := by
  rw [Comes, List.forall₂_map_left_iff]
  constructor
  · intro comes
    induction comes with
    | nil => rfl
    | cons first _ ih =>
      obtain ⟨no, same⟩ := first
      exact congrArg₂ List.cons (Prod.ext no same) ih
  · rintro rfl
    rw [List.forall₂_map_right_iff, List.forall₂_same]
    exact fun value _ => ⟨rfl, rfl⟩

/-- The next step of a pool is one on the course of a dialogue, and leaves the others alone. -/
theorem interleaves_set {outcomes : List (Outcome Q A α)} {i : Nat}
    {outcome : Outcome Q A α} (known : outcomes[i]? = some outcome)
    {first rest : List (Exchange Q A)} (split : outcome.1 = first ++ rest)
    (others : Interleaves ((outcomes.set i (rest, outcome.2)).map (·.1)) t) :
    Interleaves (outcomes.map (·.1)) (first ++ t) := by
  have found : (outcomes.map (·.1))[i]? = some (first ++ rest) := by
    rw [List.getElem?_map, known, Option.map_some, split]
  rw [List.map_set] at others
  exact .of_set_append found others

theorem map_snd_set {outcomes : List (Outcome Q A α)} {i : Nat} {outcome : Outcome Q A α}
    (known : outcomes[i]? = some outcome) (own : List (Exchange Q A)) :
    (outcomes.set i (own, outcome.2)).map (·.2) = outcomes.map (·.2) := by
  obtain ⟨inside, rfl⟩ := List.getElem?_eq_some_iff.1 known
  rw [List.map_set]
  exact List.ext_getElem (by simp) fun j _ _ => by
    rw [List.getElem_set]
    split
    · simp [*]
    · rfl

/-- Where all dialogues have ended, the questions on the way there interleave courses of what was
left of them. -/
theorem Reaches.exists_outcomes (walk : Reaches d s t last)
    (ended : ∀ slot ∈ last.slots, ∃ value, slot = .finished value) :
    ∃ outcomes, Comes s.slots outcomes ∧ Interleaves (outcomes.map (·.1)) t ∧
      outcomes.map (·.2) = values last.slots := by
  induction walk with
  | refl s =>
    obtain ⟨known, shape⟩ := exists_map_finished ended
    rw [shape, values_map_finished]
    exact ⟨_, comes_map_finished_iff.2 rfl, .nil (by simp), by simp [Function.comp_def]⟩
  | @step s s' last first rest move walk ih =>
    obtain ⟨outcomes, comes, mixed, same⟩ := ih ended
    obtain ⟨-, found, move⟩ := move
    rename_i i slot slot' now
    obtain ⟨inside, here⟩ := List.getElem?_eq_some_iff.1 found
    obtain ⟨outcome, known, own⟩ := comes.exists_getElem? (List.getElem?_set_self inside)
    obtain ⟨there, is⟩ := List.getElem?_eq_some_iff.1 known
    -- what the step asks goes before the course of the slot that makes it
    refine ⟨outcomes.set i (first ++ outcome.1, outcome.2), ?_, ?_, ?_⟩
    · have whole : slot.Course (first ++ outcome.1, outcome.2).1 outcome.2 := move.course own
      have := comes.set (i := i) whole
      rwa [List.set_set, ← here, List.set_getElem_self] at this
    · refine interleaves_set (List.getElem?_set_self there) rfl ?_
      rw [List.set_set, ← is, List.set_getElem_self]
      exact mixed
    · rw [map_snd_set known, same]

/-- Whatever courses the dialogues can take, the pool has a walk that interleaves them. -/
theorem exists_reaches (places : d.limit ≠ some 0) (step now : Nat)
    {outcomes : List (Outcome Q A α)} (comes : Comes slots outcomes) :
    ∃ t last, Reaches d ⟨step, now, slots⟩ t last ∧ next? d last.step last.slots = none ∧
      Interleaves (outcomes.map (·.1)) t ∧ outcomes.map (·.2) = values last.slots := by
  induction Progress.acc slots generalizing step now outcomes with
  | intro slots _ ih =>
    cases h : next? d step slots with
    | none =>
      obtain ⟨known, rfl⟩ := exists_map_finished (exists_finished_of_next? places h)
      obtain rfl := comes_map_finished_iff.1 comes
      refine ⟨[], _, .refl _, h, .nil (by simp), ?_⟩
      rw [values_map_finished]
      simp [Function.comp_def]
    | some i =>
      obtain ⟨slot, found, unfinished⟩ :
          ∃ slot, slots[i]? = some slot ∧ ∀ known, slot ≠ .finished known := by
        rcases next?_eq_some h with ⟨-, task, found⟩ | ⟨task, turn, found⟩
        · exact ⟨_, found, nofun⟩
        · exact ⟨_, found, nofun⟩
      obtain ⟨outcome, known, own⟩ := comes.exists_getElem? found
      obtain ⟨first, rest, slot', now', split, move, own'⟩ := own.moves unfinished d step now
      have move := Moves.mk (s := ⟨step, now, slots⟩) h found move
      have comes' : Comes (slots.set i slot') (outcomes.set i (rest, outcome.2)) := comes.set own'
      obtain ⟨t, last, walk, ended, mixed, same⟩ := ih _ move.progress (step + 1) now' comes'
      exact ⟨_, last, .step move walk, ended, interleaves_set known split mixed,
        (map_snd_set known rest).symm.trans same⟩

/-! ## Gathering -/

section Gather

variable {tasks : List (Dialogue Q A α)}

theorem comes_start_iff {outcomes : List (Outcome Q A α)} :
    Comes (Stage.start tasks).slots outcomes ↔
      List.Forall₂ (fun task outcome => task.Course outcome.1 outcome.2) tasks outcomes :=
  List.forall₂_map_left_iff

/-- **A course of a pool interleaves courses of its dialogues, and the values are theirs, in the
order of the list.** -/
theorem exists_outcomes_of_course_gather (places : d.limit ≠ some 0) {result : List α}
    (course : (gather d tasks).Course t result) :
    ∃ outcomes : List (Outcome Q A α),
      List.Forall₂ (fun task outcome => task.Course outcome.1 outcome.2) tasks outcomes ∧
      Interleaves (outcomes.map (·.1)) t ∧ result = outcomes.map (·.2) := by
  obtain ⟨last, walk, ended, rfl⟩ := course_gather_iff.1 course
  obtain ⟨outcomes, comes, mixed, same⟩ :=
    walk.exists_outcomes (exists_finished_of_next? places ended)
  exact ⟨outcomes, comes_start_iff.1 comes, mixed, same.symm⟩

theorem exists_task_of_mem {outcomes : List (Outcome Q A α)}
    (comes : List.Forall₂ (fun task outcome => task.Course outcome.1 outcome.2) tasks outcomes)
    {outcome : Outcome Q A α} (mem : outcome ∈ outcomes) :
    ∃ task ∈ tasks, task.Course outcome.1 outcome.2 := by
  induction comes with
  | nil => cases mem
  | cons first _ ih =>
    rcases List.mem_cons.1 mem with rfl | mem
    · exact ⟨_, List.mem_cons_self, first⟩
    · obtain ⟨task, inside, course⟩ := ih mem
      exact ⟨task, List.mem_cons_of_mem _ inside, course⟩

/-- **Whatever courses the dialogues can take, the pool has a course that interleaves them.** -/
theorem exists_course_gather (places : d.limit ≠ some 0) {outcomes : List (Outcome Q A α)}
    (comes : List.Forall₂ (fun task outcome => task.Course outcome.1 outcome.2) tasks outcomes) :
    ∃ t, (gather d tasks).Course t (outcomes.map (·.2)) ∧ Interleaves (outcomes.map (·.1)) t := by
  obtain ⟨t, last, walk, ended, mixed, same⟩ :=
    exists_reaches places 0 0 (comes_start_iff.2 comes)
  exact ⟨t, course_gather_iff.2 ⟨last, walk, ended, same⟩, mixed⟩

end Gather

end Pool

end CriticalCss
