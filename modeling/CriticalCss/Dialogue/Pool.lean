import CriticalCss.Dialogue.Basic

/-!
# Several dialogues at a time

A pool carries out a list of dialogues side by side, at most so many at a time. Between two
questions of one dialogue the others may have their turns; which one is next is the business of
the discipline. The values come back in the order of the list, whatever order the dialogues end
in. `Pool.gather` is again one dialogue, the interleaving of all.

A dialogue that has no place yet waits, and gets one in the order of the list as soon as another
one ends. Under the discipline `earliest` time passes only where a question takes time: a
dialogue keeps its turn until it has to wait for an answer, and who has waited longest is next.
-/

namespace CriticalCss

namespace Pool

variable {Q : Type} {A : Q → Type} {α : Type}

/-- When a dialogue may go on: at a time, and at equal times in the order of arrival. -/
structure Turn where
  time : Nat
  arrival : Nat
deriving DecidableEq, Repr

/-- This turn is not after that one. -/
def Turn.le (a b : Turn) : Bool :=
  a.time < b.time || (a.time = b.time && a.arrival ≤ b.arrival)

/-- The state of one dialogue. -/
inductive Slot (Q : Type) (A : Q → Type) (α : Type) where
  | waiting (task : Dialogue Q A α)
  | running (task : Dialogue Q A α) (turn : Turn)
  | finished (value : α)

namespace Slot

/-- The dialogue waits for a place. -/
def isWaiting : Slot Q A α → Bool
  | waiting _ => true
  | _ => false

/-- The next turn of a dialogue that has a place. -/
def turn? : Slot Q A α → Option Turn
  | running _ turn => some turn
  | _ => none

/-- The value of a dialogue that has ended. -/
def value? : Slot Q A α → Option α
  | finished value => some value
  | _ => none

/-- The first state comes directly after the second one. -/
inductive Follows : Slot Q A α → Slot Q A α → Prop
  | admitted (task : Dialogue Q A α) (turn : Turn) : Follows (running task turn) (waiting task)
  | answered (q : Q) (next : A q → Dialogue Q A α) (answer : A q) (before after : Turn) :
    Follows (running (next answer) after) (running (.ask q next) before)
  | ended (value : α) (turn : Turn) : Follows (finished value) (running (.done value) turn)

theorem acc_finished (value : α) : Acc Follows (finished value : Slot Q A α) :=
  ⟨_, fun _ h => nomatch h⟩

theorem acc_running (task : Dialogue Q A α) (turn : Turn) : Acc Follows (running task turn) := by
  induction task generalizing turn with
  | done value =>
    refine ⟨_, fun _ h => ?_⟩
    cases h
    exact acc_finished value
  | ask q next ih =>
    refine ⟨_, fun _ h => ?_⟩
    cases h
    exact ih _ _

/-- Every dialogue ends. -/
theorem acc (slot : Slot Q A α) : Acc Follows slot := by
  cases slot with
  | waiting task =>
    refine ⟨_, fun _ h => ?_⟩
    cases h
    exact acc_running _ _
  | running task turn => exact acc_running task turn
  | finished value => exact acc_finished value

end Slot

/-- One slot of the list has made a step, the others are as before. -/
def Progress (after before : List (Slot Q A α)) : Prop :=
  ∃ i slot next, before[i]? = some slot ∧ Slot.Follows next slot ∧ after = before.set i next

theorem Progress.acc_cons {slot : Slot Q A α} (first : Acc Slot.Follows slot)
    {slots : List (Slot Q A α)} (others : Acc Progress slots) : Acc Progress (slot :: slots) := by
  induction first generalizing slots with
  | intro slot _ ihFirst =>
    induction others with
    | intro slots reach ihOthers =>
      refine ⟨_, fun after h => ?_⟩
      obtain ⟨i, held, next, found, follows, rfl⟩ := h
      cases i with
      | zero =>
        cases found
        exact ihFirst next follows ⟨slots, reach⟩
      | succ i => exact ihOthers (slots.set i next) ⟨i, held, next, found, follows, rfl⟩

theorem Progress.acc (slots : List (Slot Q A α)) : Acc Progress slots := by
  induction slots with
  | nil =>
    refine ⟨_, fun after h => ?_⟩
    obtain ⟨i, held, next, found, _, _⟩ := h
    simp at found
  | cons slot slots ih => exact acc_cons slot.acc ih

/-- A pool makes only finitely many steps. -/
instance : WellFoundedRelation (List (Slot Q A α)) where
  rel := Progress
  wf := ⟨Progress.acc⟩

/-- How a pool shares its places and its time. -/
structure Discipline (Q : Type) where
  /-- The number of places; without a number there is one for everybody. -/
  limit : Option Nat
  /-- How long the answer to a question takes. -/
  duration : Q → Nat
  /-- At the given step, and with the given turns to choose from, the position of the next one. -/
  choose : Nat → List Turn → Nat

/-- The position of the earliest of some turns. -/
def earliest : List Turn → Nat
  | [] => 0
  | turn :: others =>
    if others.all turn.le then 0 else earliest others + 1

/-- Who has waited longest is next. -/
def inOrder (limit : Option Nat) (duration : Q → Nat) : Discipline Q where
  limit := limit
  duration := duration
  choose _ := earliest

/-- The places of the running dialogues in the list, with their turns. -/
def turns (slots : List (Slot Q A α)) : List (Nat × Turn) :=
  (slots.mapIdx fun i slot => slot.turn?.map (i, ·)).filterMap id

def hasRoom (limit : Option Nat) (slots : List (Slot Q A α)) : Bool :=
  limit.all fun places => (turns slots).length < places

/-- The slot that makes the next step: the first one that waits if there is a free place, else
the running one that the discipline chooses. -/
def next? (d : Discipline Q) (step : Nat) (slots : List (Slot Q A α)) : Option Nat :=
  let running := turns slots
  let chosen := (running[d.choose step (running.map (·.2))]?.or running.head?).map (·.1)
  if hasRoom d.limit slots then (slots.findIdx? Slot.isWaiting).or chosen else chosen

/-- The values of the dialogues that have ended, in the order of the list. -/
def values (slots : List (Slot Q A α)) : List α :=
  slots.filterMap Slot.value?

/-- Carries out what is left to do from a step on, at a time. -/
def proceed (d : Discipline Q) (step now : Nat) (slots : List (Slot Q A α)) :
    Dialogue Q A (List α) :=
  match next? d step slots with
  | none => .done (values slots)
  | some i =>
    match h : slots[i]? with
    | some (.waiting task) =>
      proceed d (step + 1) now (slots.set i (.running task ⟨now, step⟩))
    | some (.running (.done value) turn) =>
      proceed d (step + 1) turn.time (slots.set i (.finished value))
    | some (.running (.ask q next) turn) =>
      .ask q fun answer =>
        let after := if d.duration q = 0 then turn else ⟨turn.time + d.duration q, step⟩
        proceed d (step + 1) turn.time (slots.set i (.running (next answer) after))
    | _ => .done (values slots)
termination_by slots
decreasing_by
  · exact ⟨i, _, _, h, .admitted task _, rfl⟩
  · exact ⟨i, _, _, h, .ended value turn, rfl⟩
  · exact ⟨i, _, _, h, .answered q next answer turn _, rfl⟩

/-- All dialogues side by side, as one. -/
def gather (d : Discipline Q) (tasks : List (Dialogue Q A α)) : Dialogue Q A (List α) :=
  proceed d 0 0 (tasks.map .waiting)

end Pool

end CriticalCss
