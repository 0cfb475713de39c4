import CriticalCss.Options.Run
import CriticalCss.Proofs.Lists

/-!
# Where problems are

A problem tells its place by keys and indices. They lead to a value of the input (`Json.Leads`),
with the keys as they are written there, so a reader can be followed from the input to the value
that it complains about (`RunOptions.complains_ofMembers`). What is missing is the exception: it
has no place in the input.
-/

namespace CriticalCss

/-- Keys and indices that lead from a value to a value inside, or to the value itself. -/
inductive Json.Leads : Json → List String → Prop
  | here {j : Json} : Leads j []
  | member {members : Members} {key : String} {value : Json} {place : List String} :
    (key, value) ∈ members → Leads value place → Leads (.obj members) (key :: place)
  | item {items : List Json} {i : Nat} {value : Json} {place : List String} :
    items[i]? = some value → Leads value place → Leads (.arr items) (toString i :: place)

/-! ## Problems of checked values -/

namespace Checked

variable {α β : Type} {P Q : Problem → Prop}

/-- All problems are of one sort. -/
def Complains (P : Problem → Prop) : Checked α → Prop
  | good _ => True
  | bad problems => ∀ p ∈ problems, P p

theorem complains_fail {complaint : Complaint} (about : P ⟨[], complaint⟩) :
    (fail complaint : Checked α).Complains P :=
  List.forall_mem_singleton.2 about

theorem Complains.mono {x : Checked α} (all : ∀ p, P p → Q p) (about : x.Complains P) :
    x.Complains Q := by
  cases x with
  | good a => trivial
  | bad problems => exact fun p mem => all p (about p mem)

theorem complains_map {f : α → β} {x : Checked α} : (f <$> x).Complains P ↔ x.Complains P := by
  cases x <;> exact Iff.rfl

theorem complains_seq {f : Checked (α → β)} {x : Checked α} :
    (f <*> x).Complains P ↔ f.Complains P ∧ x.Complains P := by
  cases f with
  | good f =>
    cases x with
    | good a => exact (iff_of_eq (and_self True)).symm
    | bad problems => exact (iff_of_eq (true_and _)).symm
  | bad problems =>
    cases x with
    | good a => exact (iff_of_eq (and_true _)).symm
    | bad others => exact List.forall_mem_append

theorem complains_seqLeft {x : Checked α} {y : Checked β} :
    (x <* y).Complains P ↔ x.Complains P ∧ y.Complains P := by
  change (Function.const β <$> x <*> y).Complains P ↔ _
  rw [complains_seq, complains_map]

theorem complains_within {key : String} {x : Checked α} :
    (x.within key).Complains P ↔ x.Complains fun p => P (p.within key) := by
  cases x with
  | good a => exact Iff.rfl
  | bad problems => exact List.forall_mem_map

theorem Complains.andThen {x : Checked α} {f : α → Checked β} (first : x.Complains P)
    (second : ∀ a, (f a).Complains P) : (x.andThen f).Complains P := by
  cases x with
  | good a => exact second a
  | bad problems => exact first

theorem complains_sequence {xs : List (Checked α)} (each : ∀ x ∈ xs, x.Complains P) :
    (sequence xs).Complains P := by
  induction xs with
  | nil => trivial
  | cons x xs ih =>
    obtain ⟨first, others⟩ := List.forall_mem_cons.1 each
    exact complains_seq.2 ⟨complains_map.2 first, ih others⟩

end Checked

/-! ## Single values -/

/-- What a reader complains about is inside the value that it reads. -/
def Locates {α : Type} (read : Json → Checked α) : Prop :=
  ∀ j, (read j).Complains fun p => j.Leads p.location

namespace OptionValue

open Checked

variable {α : Type}

theorem locates_whole : Locates whole := by
  intro j
  unfold whole
  split
  · trivial
  · trivial
  · split
    · exact complains_fail .here
    · split
      · exact complains_fail .here
      · split
        · trivial
        · exact complains_fail .here
  · split
    · exact complains_fail .here
    · split
      · exact complains_fail .here
      · trivial
  · exact complains_fail .here

theorem locates_positive : Locates positive := by
  intro j
  refine (locates_whole j).andThen fun n => ?_
  split
  · trivial
  · exact complains_fail .here

theorem locates_natural : Locates natural := by
  intro j
  refine (locates_whole j).andThen fun n => ?_
  split
  · exact complains_fail .here
  · trivial

theorem locates_number : Locates number := by
  intro j
  unfold number
  split
  · trivial
  · trivial
  · dsimp only
    split
    · exact complains_fail .here
    · trivial
  · dsimp only
    split
    · trivial
    · exact complains_fail .here
  · exact complains_fail .here

theorem locates_positiveNumber : Locates positiveNumber := by
  intro j
  refine (locates_number j).andThen fun x => ?_
  split
  · exact complains_fail .here
  · trivial

theorem complains_flagOfWhole {P : Problem → Prop} {n : Int} (about : ∀ c, P ⟨[], c⟩) :
    (flagOfWhole n).Complains P := by
  unfold flagOfWhole
  split
  · trivial
  · split
    · trivial
    · exact complains_fail (about _)

theorem locates_flag : Locates flag := by
  intro j
  unfold flag
  split
  · trivial
  · split
    · exact complains_flagOfWhole fun _ => .here
    · exact complains_fail .here
  · split
    · exact complains_flagOfWhole fun _ => .here
    · exact complains_fail .here
  · dsimp only
    split
    · trivial
    · split
      · trivial
      · exact complains_fail .here
  · exact complains_fail .here

theorem locates_text : Locates text := by
  intro j
  cases j with
  | str s => trivial
  | _ => exact complains_fail .here

theorem locates_strictText (field : String) : Locates (strictText field) := by
  intro j
  cases j with
  | str s => trivial
  | _ => exact complains_fail .here

theorem locates_optional {read : Json → Checked α} (locates : Locates read) :
    Locates (optional read) := by
  intro j
  cases j with
  | null => trivial
  | _ => exact complains_map.2 (locates _)

/-- A text of a list is checked at its index. -/
theorem complains_textItems (items : List Json) :
    (textItems items).Complains fun p => (Json.arr items).Leads p.location := by
  refine complains_sequence fun x mem => ?_
  obtain ⟨i, bound, rfl⟩ := List.mem_mapIdx.1 mem
  have here : items[i]? = some items[i] := List.getElem?_eq_getElem bound
  exact complains_within.2 ((locates_text items[i]).mono fun _ inside => .item here inside)

theorem locates_texts : Locates texts := by
  intro j
  cases j with
  | arr items => exact complains_textItems items
  | _ => exact complains_fail .here

end OptionValue

/-! ## Objects -/

namespace Members

variable {α : Type} {members : Members} {name : FieldName} {key : String} {j : Json}

theorem mem_of_field? (given : members.field? name = some (key, j)) : (key, j) ∈ members := by
  unfold field? at given
  split at given
  · cases given
    exact mem_of_lookup (by assumption)
  · obtain ⟨value, found, ⟨⟩⟩ := Option.map_eq_some_iff.1 given
    exact mem_of_lookup found

theorem complains_optional {read : Json → Checked α} {fallback : α} (locates : Locates read) :
    (members.optional name read fallback).Complains fun p =>
      (Json.obj members).Leads p.location := by
  rw [optional]
  cases given : members.field? name with
  | none => trivial
  | some field =>
    obtain ⟨key, j⟩ := field
    refine Checked.complains_within.2 ((locates j).mono fun _ inside => ?_)
    exact .member (mem_of_field? given) inside

theorem complains_forbidden {complaint : Complaint} :
    (members.forbidden name complaint).Complains fun p => (Json.obj members).Leads p.location := by
  rw [forbidden]
  cases given : members.field? name with
  | none => trivial
  | some field =>
    obtain ⟨key, j⟩ := field
    refine Checked.complains_within.2 (Checked.complains_fail ?_)
    exact .member (mem_of_field? given) .here

theorem complains_nothingElse {names : List FieldName} :
    (members.nothingElse names).Complains fun p => (Json.obj members).Leads p.location := by
  have each : ∀ member ∈ members.filter fun member => !members.isTaken names member.1,
      (Json.obj members).Leads [member.1] :=
    fun member mem => .member (List.mem_filter.1 mem).1 .here
  unfold nothingElse
  split
  · trivial
  · exact List.forall_mem_map.2 each

end Members

namespace DeviceOptions

theorem complains_ofMembers (members : Members) :
    (ofMembers members).Complains fun p => (Json.obj members).Leads p.location := by
  simp only [ofMembers, Checked.complains_seqLeft, Checked.complains_seq, Checked.complains_map,
    and_assoc]
  exact ⟨Members.complains_optional OptionValue.locates_positive,
    Members.complains_optional OptionValue.locates_positive,
    Members.complains_optional OptionValue.locates_positiveNumber,
    Members.complains_optional OptionValue.locates_flag,
    Members.complains_optional OptionValue.locates_flag,
    Members.complains_optional OptionValue.locates_flag, Members.complains_nothingElse⟩

theorem locates_ofJson : Locates ofJson := by
  intro j
  unfold ofJson
  split
  · split
    · trivial
    · exact Checked.complains_fail .here
  · unfold ofObject
    split
    · exact complains_ofMembers _
    · exact Checked.complains_fail .here

end DeviceOptions

namespace BrowserOptions

theorem complains_ofMembers (members : Members) :
    (ofMembers members).Complains fun p => (Json.obj members).Leads p.location := by
  simp only [ofMembers, Checked.complains_seqLeft, Checked.complains_seq, Checked.complains_map,
    and_assoc]
  exact ⟨Members.complains_optional OptionValue.locates_text,
    Members.complains_optional OptionValue.locates_flag,
    Members.complains_optional OptionValue.locates_flag,
    Members.complains_optional (OptionValue.locates_optional OptionValue.locates_positive),
    Members.complains_optional OptionValue.locates_flag,
    Members.complains_optional (OptionValue.locates_optional OptionValue.locates_text),
    Members.complains_nothingElse⟩

theorem locates_ofJson : Locates ofJson := by
  intro j
  unfold ofJson
  split
  · exact complains_ofMembers _
  · exact Checked.complains_fail .here

end BrowserOptions

namespace RunOptions

theorem locates_pagesOfJson : Locates pagesOfJson := by
  intro j
  unfold pagesOfJson
  split
  · exact Checked.complains_fail .here
  · refine (OptionValue.complains_textItems _).andThen fun urls => ?_
    cases urls with
    | nil => exact Checked.complains_fail .here
    | cons url rest => trivial
  · exact Checked.complains_fail .here

/-- The problem is at a place in the object, or it is that the pages are missing. -/
def Shows (members : Members) (p : Problem) : Prop :=
  (Json.obj members).Leads p.location ∨ p = ⟨[urlsName.camel], .missing⟩

/-- Every problem shows the way to what is wrong, with the keys that stand in the object. -/
theorem complains_ofMembers (members : Members) :
    (ofMembers members).Complains (Shows members) := by
  have field {α : Type} {name : FieldName} {read : Json → Checked α} {fallback : α}
      (locates : Locates read) :
      (members.optional name read fallback).Complains (Shows members) :=
    (Members.complains_optional locates).mono fun _ => Or.inl
  have pages : (members.required urlsName pagesOfJson).Complains (Shows members) := by
    rw [Members.required]
    cases given : members.field? urlsName with
    | none => exact Checked.complains_within.2 (Checked.complains_fail (Or.inr rfl))
    | some field =>
      obtain ⟨key, j⟩ := field
      refine Checked.complains_within.2 ((locates_pagesOfJson j).mono fun _ inside => ?_)
      exact Or.inl (.member (Members.mem_of_field? given) inside)
  simp only [ofMembers, Checked.complains_seqLeft, Checked.complains_seq, Checked.complains_map,
    and_assoc]
  exact ⟨field (OptionValue.locates_optional (OptionValue.locates_strictText _)), pages,
    field OptionValue.locates_positive, field OptionValue.locates_positive,
    field OptionValue.locates_natural, field DeviceOptions.locates_ofJson,
    field BrowserOptions.locates_ofJson, field OptionValue.locates_texts,
    field OptionValue.locates_texts, field OptionValue.locates_flag,
    field OptionValue.locates_flag, field OptionValue.locates_texts,
    field OptionValue.locates_flag, field (OptionValue.locates_strictText _),
    Members.complains_forbidden.mono fun _ => Or.inl, field OptionValue.locates_flag,
    field OptionValue.locates_text, field OptionValue.locates_positive,
    Members.complains_nothingElse.mono fun _ => Or.inl⟩

end RunOptions

end CriticalCss
