import CriticalCss.Proofs.Options.Location
import CriticalCss.Proofs.Options.Standard

/-!
# Both spellings of a field

Options mean the same in both spellings of their fields. If no field is given in both, keys can be
spelled the other way wherever fields stand, in the object of the options and in those of its
device and its browser. Reading finds the same values, and what it complains about is the same but
for the keys that lead there (`RunOptions.build_respelled`).

A change of keys that leaves all fields the same is a `Relabelling`. Each way to take a field from
an object commutes with it, and so does reading an object, which takes one field after the other.
-/

namespace CriticalCss

/-! ## Spellings -/

namespace FieldName

/-- The key is one of the spellings of the field. -/
def Spells (name : FieldName) (key : String) : Prop :=
  key = name.camel ∨ key = name.snake

instance (name : FieldName) (key : String) : Decidable (name.Spells key) :=
  inferInstanceAs (Decidable (_ ∨ _))

/-- No key is a spelling of two of the fields. -/
def Distinct (names : List FieldName) : Prop :=
  ∀ a ∈ names, ∀ b ∈ names, b.Spells a.camel ∨ b.Spells a.snake → a = b

instance (names : List FieldName) : Decidable (Distinct names) :=
  inferInstanceAs (Decidable (∀ a ∈ names, _))

theorem Distinct.eq {names : List FieldName} (distinct : Distinct names) {a b : FieldName}
    (memA : a ∈ names) (memB : b ∈ names) {key : String} (first : a.Spells key)
    (second : b.Spells key) : a = b := by
  refine distinct a memA b memB ?_
  rcases first with rfl | rfl
  · exact Or.inl second
  · exact Or.inr second

/-- The other spelling of a key of the fields. -/
def otherSpelling (names : List FieldName) (key : String) : String :=
  match names.find? fun name => name.Spells key with
  | some name => if key = name.camel then name.snake else name.camel
  | none => key

theorem otherSpelling_cases (names : List FieldName) (key : String) :
    otherSpelling names key = key ∨
      ∃ name ∈ names, name.Spells key ∧ name.Spells (otherSpelling names key) := by
  rw [otherSpelling]
  split
  · rename_i name found
    have spells := List.find?_some found
    refine Or.inr ⟨name, List.mem_of_find?_eq_some found, of_decide_eq_true spells, ?_⟩
    split
    · exact Or.inr rfl
    · exact Or.inl rfl
  · exact Or.inl rfl

end FieldName

/-- The field is given at most once, in one of its spellings. -/
def Members.GivesOnce (members : Members) (name : FieldName) : Prop :=
  (members.filter fun member => name.Spells member.1).length ≤ 1

instance (members : Members) (name : FieldName) : Decidable (members.GivesOnce name) :=
  inferInstanceAs (Decidable (_ ≤ 1))

/-- The members of an object; another value has none. -/
def Json.members : Json → Members
  | .obj members => members
  | _ => []

namespace Members

variable {members : Members} {name : FieldName}

theorem lookup_eq_none_of_filter_eq_nil {key : String} (spells : name.Spells key)
    (absent : (members.filter fun member => name.Spells member.1) = []) :
    members.lookup key = none := by
  refine List.lookup_eq_none_iff.2 fun member mem => ?_
  have other := List.filter_eq_nil_iff.1 absent member mem
  refine bne_iff_ne.2 fun same => other ?_
  rw [← same]
  exact decide_eq_true spells

theorem filter_eq_nil_of_givesOnce {key : String} {value : Json} (spells : name.Spells key)
    (once : GivesOnce ((key, value) :: members) name) :
    (members.filter fun member => name.Spells member.1) = [] := by
  rw [GivesOnce, List.filter_cons_of_pos (by exact decide_eq_true spells), List.length_cons] at once
  exact List.eq_nil_of_length_eq_zero (by omega)

theorem GivesOnce.of_cons {member : String × Json} (once : GivesOnce (member :: members) name) :
    members.GivesOnce name :=
  Nat.le_trans ((List.sublist_cons_self member members).filter _).length_le once

/-- A field that is given once is the first member with one of its spellings. -/
theorem field?_eq_find? (once : members.GivesOnce name) :
    members.field? name = members.find? fun member => name.Spells member.1 := by
  induction members with
  | nil => rfl
  | cons member members ih =>
    obtain ⟨key, value⟩ := member
    by_cases spells : name.Spells key
    · have alone := filter_eq_nil_of_givesOnce spells once
      rw [List.find?_cons_of_pos (by exact decide_eq_true spells), field?]
      by_cases camel : key = name.camel
      · rw [camel, List.lookup_cons_self]
      · have snake : key = name.snake := spells.resolve_left camel
        rw [List.lookup_cons, beq_eq_false_iff_ne.2 (Ne.symm camel),
          lookup_eq_none_of_filter_eq_nil (Or.inl rfl) alone, snake, List.lookup_cons_self]
        rfl
    · have other : name.camel ≠ key ∧ name.snake ≠ key :=
        ⟨fun same => spells (Or.inl same.symm), fun same => spells (Or.inr same.symm)⟩
      rw [List.find?_cons_of_neg (by simpa using spells), ← ih once.of_cons, field?, field?,
        List.lookup_cons, List.lookup_cons, beq_eq_false_iff_ne.2 other.1,
        beq_eq_false_iff_ne.2 other.2]

/-- A member with a spelling of a field that is given once is taken for the field. -/
theorem field?_eq_some (once : members.GivesOnce name) {member : String × Json}
    (mem : member ∈ members) (spells : name.Spells member.1) :
    members.field? name = some member := by
  rw [field?_eq_find? once, ← List.head?_filter]
  have inside : member ∈ members.filter fun member => name.Spells member.1 :=
    List.mem_filter.2 ⟨mem, decide_eq_true spells⟩
  rw [GivesOnce] at once
  obtain ⟨first, rest, shape⟩ := List.exists_cons_of_ne_nil (List.ne_nil_of_mem inside)
  rw [shape, List.length_cons] at once
  rw [shape, List.eq_nil_of_length_eq_zero (by omega : rest.length = 0)] at inside ⊢
  rw [List.mem_singleton.1 inside]
  rfl

theorem spells_of_field?_eq_some (once : members.GivesOnce name) {member : String × Json}
    (given : members.field? name = some member) : name.Spells member.1 := by
  rw [field?_eq_find? once] at given
  have spells := List.find?_some given
  exact of_decide_eq_true spells

/-- The members that no field takes have keys that are spellings of no field. -/
theorem isTaken_iff {names : List FieldName} (once : ∀ name ∈ names, members.GivesOnce name)
    {member : String × Json} (mem : member ∈ members) :
    members.isTaken names member.1 = true ↔ ∃ name ∈ names, name.Spells member.1 := by
  rw [isTaken, List.any_eq_true]
  refine exists_congr fun name => and_congr_right fun known => ?_
  rw [Option.any_eq_true]
  constructor
  · intro given
    obtain ⟨other, given, same⟩ := given
    rw [← of_decide_eq_true same]
    exact spells_of_field?_eq_some (once name known) given
  · intro spells
    exact ⟨member, field?_eq_some (once name known) mem spells, decide_eq_true rfl⟩

end Members

/-! ## Problems at other places -/

/-- The same complaint at another place. -/
def Problem.moved (place : List String → List String) (p : Problem) : Problem :=
  { p with location := place p.location }

namespace Checked

variable {α β : Type} {place : List String → List String}

/-- The checked value with all its problems at other places. -/
def moved (place : List String → List String) : Checked α → Checked α
  | good a => good a
  | bad problems => bad (problems.map (Problem.moved place))

theorem moved_id (x : Checked α) : x.moved (fun place => place) = x := by
  cases x with
  | good a => rfl
  | bad problems => exact congrArg bad (List.map_id problems)

theorem moved_map {f : α → β} {x : Checked α} : (f <$> x).moved place = f <$> x.moved place := by
  cases x <;> rfl

theorem moved_seq {f : Checked (α → β)} {x : Checked α} :
    (f <*> x).moved place = f.moved place <*> x.moved place := by
  cases f with
  | good f => cases x <;> rfl
  | bad problems =>
    cases x with
    | good a => rfl
    | bad others => exact congrArg bad List.map_append

theorem moved_seqLeft {x : Checked α} {y : Checked β} :
    (x <* y).moved place = x.moved place <* y.moved place := by
  change (Function.const β <$> x <*> y).moved place = _
  rw [moved_seq, moved_map]
  rfl

/-- The problems of a part move with the key of the part and inside the part. -/
theorem moved_within {key key' : String} {inside : List String → List String}
    (moves : ∀ rest, place (key :: rest) = key' :: inside rest) (x : Checked α) :
    (x.within key).moved place = (x.moved inside).within key' := by
  cases x with
  | good a => rfl
  | bad problems =>
    refine congrArg bad ?_
    rw [List.map_map, List.map_map]
    refine List.map_congr_left fun p _ => ?_
    exact congrArg (Problem.mk · p.complaint) (moves p.location)

end Checked

/-! ## Changes of keys -/

/-- A change of the keys of an object, and of what stands inside its values. -/
structure Relabelling where
  key : String → String
  /-- The value under a key. -/
  value : String → Json → Json
  /-- A place in the value under a key. -/
  inside : String → List String → List String

namespace Relabelling

def member (r : Relabelling) (member : String × Json) : String × Json :=
  (r.key member.1, r.value member.1 member.2)

def members (r : Relabelling) (members : Members) : Members :=
  List.map r.member members

/-- A place in the object. -/
def place (r : Relabelling) : List String → List String
  | [] => []
  | key :: rest => r.key key :: r.inside key rest

/-- The fields stay the same. -/
structure Keeps (r : Relabelling) (names : List FieldName) : Prop where
  spells_iff : ∀ name ∈ names, ∀ key, name.Spells (r.key key) ↔ name.Spells key
  inside_nil : ∀ key, r.inside key [] = []

section Fields

variable {r : Relabelling} {names : List FieldName} {ms : Members} {name : FieldName}
  {α : Type} {read : Json → Checked α}

theorem Keeps.spells_comp_member (keeps : r.Keeps names) (known : name ∈ names) :
    (fun m : String × Json => decide (name.Spells m.1)) ∘ r.member =
      fun m => decide (name.Spells m.1) :=
  funext fun m => decide_eq_decide.2 (keeps.spells_iff name known m.1)

theorem givesOnce_members (keeps : r.Keeps names) (known : name ∈ names)
    (once : ms.GivesOnce name) : (r.members ms).GivesOnce name := by
  rw [Members.GivesOnce, members, List.filter_map, List.length_map,
    keeps.spells_comp_member known]
  exact once

theorem field?_members (keeps : r.Keeps names) (known : name ∈ names)
    (once : ms.GivesOnce name) : (r.members ms).field? name = (ms.field? name).map r.member := by
  rw [Members.field?_eq_find? (givesOnce_members keeps known once), Members.field?_eq_find? once,
    members, List.find?_map, keeps.spells_comp_member known]

/-- The reader of a field finds the same in the value of the field after the change. -/
def Reads (r : Relabelling) (ms : Members) (name : FieldName) (read : Json → Checked α) : Prop :=
  ∀ m ∈ ms, name.Spells m.1 → read (r.value m.1 m.2) = (read m.2).moved (r.inside m.1)

theorem within_key (reads : r.Reads ms name read) (once : ms.GivesOnce name)
    {m : String × Json} (given : ms.field? name = some m) :
    (read (r.value m.1 m.2)).within (r.key m.1) = ((read m.2).within m.1).moved r.place := by
  have moves : ∀ rest, r.place (m.1 :: rest) = r.key m.1 :: r.inside m.1 rest := fun _ => rfl
  rw [reads m (Members.mem_of_field? given) (Members.spells_of_field?_eq_some once given),
    Checked.moved_within moves]

theorem optional_members (keeps : r.Keeps names) (known : name ∈ names)
    (once : ms.GivesOnce name) (reads : r.Reads ms name read) (fallback : α) :
    (r.members ms).optional name read fallback =
      (ms.optional name read fallback).moved r.place := by
  rw [Members.optional, Members.optional, field?_members keeps known once]
  cases given : ms.field? name with
  | none => rfl
  | some m => exact within_key reads once given

/-- A field that has to be there and has one spelling only. -/
theorem required_members (keeps : r.Keeps names) (known : name ∈ names)
    (once : ms.GivesOnce name) (reads : r.Reads ms name read) (plain : name.camel = name.snake) :
    (r.members ms).required name read = (ms.required name read).moved r.place := by
  rw [Members.required, Members.required, field?_members keeps known once]
  cases given : ms.field? name with
  | some m => exact within_key reads once given
  | none =>
    have spells := (keeps.spells_iff name known name.camel).2 (Or.inl rfl)
    have same : r.key name.camel = name.camel := by
      rcases spells with camel | snake
      · exact camel
      · exact snake.trans plain.symm
    have moves : r.place [name.camel] = [name.camel] := by
      rw [place, same, keeps.inside_nil]
    exact congrArg (fun location => Checked.bad [⟨location, .missing⟩]) moves.symm

theorem forbidden_members (keeps : r.Keeps names) (known : name ∈ names)
    (once : ms.GivesOnce name) (complaint : Complaint) :
    (r.members ms).forbidden name complaint = (ms.forbidden name complaint).moved r.place := by
  rw [Members.forbidden, Members.forbidden, field?_members keeps known once]
  cases ms.field? name with
  | none => rfl
  | some member =>
    have moves : r.place [member.1] = [r.key member.1] := by
      rw [place, keeps.inside_nil]
    exact congrArg (fun location => Checked.bad [⟨location, complaint⟩]) moves.symm

theorem isTaken_members (keeps : r.Keeps names) (once : ∀ name ∈ names, ms.GivesOnce name)
    {member : String × Json} (mem : member ∈ ms) :
    (r.members ms).isTaken names (r.key member.1) = ms.isTaken names member.1 := by
  have again : ∀ name ∈ names, (r.members ms).GivesOnce name :=
    fun name known => givesOnce_members keeps known (once name known)
  have moved : r.member member ∈ r.members ms := List.mem_map_of_mem mem
  rw [Bool.eq_iff_iff, Members.isTaken_iff once mem]
  refine (Members.isTaken_iff again moved).trans ?_
  exact exists_congr fun name => and_congr_right fun known => keeps.spells_iff name known member.1

theorem nothingElse_members (keeps : r.Keeps names) (once : ∀ name ∈ names, ms.GivesOnce name) :
    (r.members ms).nothingElse names = (ms.nothingElse names).moved r.place := by
  have others : (r.members ms).filter (fun m => !(r.members ms).isTaken names m.1) =
      (ms.filter fun m => !ms.isTaken names m.1).map r.member := by
    change List.filter _ (List.map r.member ms) = _
    rw [List.filter_map]
    refine congrArg (List.map r.member) (List.filter_congr fun m mem => ?_)
    exact congrArg (!·) (isTaken_members keeps once mem)
  have moves : ∀ m : String × Json, r.place [m.1] = [(r.member m).1] := by
    intro m
    rw [place, keeps.inside_nil, member]
  rw [Members.nothingElse, others, Members.nothingElse]
  cases ms.filter fun m => !ms.isTaken names m.1 with
  | nil => rfl
  | cons m rest =>
    refine congrArg Checked.bad ?_
    rw [List.map_map, List.map_map]
    refine List.map_congr_left fun m _ => ?_
    exact congrArg (Problem.mk · .unknownField) (moves m).symm

end Fields

end Relabelling

/-! ## Keys spelled the other way -/

/-- Keys of an object that are spelled the other way if they are keys of its fields. -/
structure KeyRespelling where
  names : List FieldName
  turned : List String
deriving DecidableEq, Repr

namespace KeyRespelling

/-- The key, in its other spelling if it is turned. -/
def key (s : KeyRespelling) (key : String) : String :=
  if key ∈ s.turned then FieldName.otherSpelling s.names key else key

/-- The change of an object by the keys that are turned. -/
def relabelling (s : KeyRespelling) : Relabelling :=
  ⟨s.key, fun _ j => j, fun _ place => place⟩

/-- The keys are turned in an object; another value has none. -/
def value (s : KeyRespelling) : Json → Json
  | .obj members => .obj (s.relabelling.members members)
  | j => j

theorem key_cases (s : KeyRespelling) (key : String) :
    s.key key = key ∨ ∃ name ∈ s.names, name.Spells key ∧ name.Spells (s.key key) := by
  rw [KeyRespelling.key]
  split
  · exact FieldName.otherSpelling_cases s.names key
  · exact Or.inl rfl

theorem key_of_no_names (turned : List String) (k : String) : key ⟨[], turned⟩ k = k :=
  ite_self k

theorem keeps {s : KeyRespelling} (distinct : FieldName.Distinct s.names) :
    s.relabelling.Keeps s.names where
  inside_nil _ := rfl
  spells_iff name known key := by
    change name.Spells (s.key key) ↔ _
    rcases s.key_cases key with same | ⟨other, mem, before, after⟩
    · rw [same]
    · constructor
      · intro spells
        rwa [distinct.eq known mem spells after]
      · intro spells
        rwa [distinct.eq known mem spells before]

/-- A field of the object is found under its other key, with the same value. -/
theorem optional_members {names : List FieldName} (distinct : FieldName.Distinct names)
    {ms : Members} (once : ∀ name ∈ names, ms.GivesOnce name) (turned : List String) {α : Type}
    (name : FieldName) (known : name ∈ names) (read : Json → Checked α) (fallback : α) :
    ((relabelling ⟨names, turned⟩).members ms).optional name read fallback =
      (ms.optional name read fallback).moved (relabelling ⟨names, turned⟩).place := by
  have keeps := keeps (s := ⟨names, turned⟩) distinct
  have reads : (relabelling ⟨names, turned⟩).Reads ms name read :=
    fun m _ _ => (Checked.moved_id (read m.2)).symm
  exact Relabelling.optional_members keeps known (once name known) reads fallback

theorem value_of_no_names (turned : List String) (j : Json) : value ⟨[], turned⟩ j = j := by
  cases j with
  | obj members =>
    have same : (relabelling ⟨[], turned⟩).member = id :=
      funext fun m => congrArg (·, m.2) (key_of_no_names turned m.1)
    rw [value, Relabelling.members, same, List.map_id]
  | _ => rfl

theorem place_of_no_names (turned : List String) (place : List String) :
    (relabelling ⟨[], turned⟩).place place = place := by
  cases place with
  | nil => rfl
  | cons k rest => exact congrArg (· :: rest) (key_of_no_names turned k)

end KeyRespelling

/-! ## Devices and browsers -/

section Parts

variable {turned : List String} {ms : Members}

namespace DeviceOptions

theorem distinct_names : FieldName.Distinct names := by decide

theorem ofMembers_respelled (once : ∀ name ∈ names, ms.GivesOnce name) :
    ofMembers ((KeyRespelling.relabelling ⟨names, turned⟩).members ms) =
      (ofMembers ms).moved (KeyRespelling.relabelling ⟨names, turned⟩).place := by
  have keeps := KeyRespelling.keeps (s := ⟨names, turned⟩) distinct_names
  have field {α : Type} := @KeyRespelling.optional_members names distinct_names ms once turned α
  simp only [ofMembers, Checked.moved_seqLeft, Checked.moved_seq, Checked.moved_map]
  rw [field widthName (by decide), field heightName (by decide), field scaleFactorName (by decide),
    field isMobileName (by decide), field hasTouchName (by decide),
    field isLandscapeName (by decide), Relabelling.nothingElse_members keeps once]

theorem ofJson_respelled {j : Json} (once : ∀ name ∈ names, j.members.GivesOnce name) :
    ofJson (KeyRespelling.value ⟨names, turned⟩ j) =
      (ofJson j).moved (KeyRespelling.relabelling ⟨names, turned⟩).place := by
  cases j with
  | obj inner => exact ofMembers_respelled once
  | str profile =>
    change ofJson (.str profile) = _
    rw [ofJson]
    cases ofProfile profile <;> rfl
  | _ => rfl

end DeviceOptions

namespace BrowserOptions

theorem distinct_names : FieldName.Distinct names := by decide

theorem ofMembers_respelled (once : ∀ name ∈ names, ms.GivesOnce name) :
    ofMembers ((KeyRespelling.relabelling ⟨names, turned⟩).members ms) =
      (ofMembers ms).moved (KeyRespelling.relabelling ⟨names, turned⟩).place := by
  have keeps := KeyRespelling.keeps (s := ⟨names, turned⟩) distinct_names
  have field {α : Type} := @KeyRespelling.optional_members names distinct_names ms once turned α
  simp only [ofMembers, Checked.moved_seqLeft, Checked.moved_seq, Checked.moved_map]
  rw [field userAgentName (by decide), field isCacheEnabledName (by decide),
    field isJsEnabledName (by decide), field concurrentTabsName (by decide),
    field headlessName (by decide), field executablePathName (by decide),
    Relabelling.nothingElse_members keeps once]

theorem ofJson_respelled {j : Json} (once : ∀ name ∈ names, j.members.GivesOnce name) :
    ofJson (KeyRespelling.value ⟨names, turned⟩ j) =
      (ofJson j).moved (KeyRespelling.relabelling ⟨names, turned⟩).place := by
  cases j with
  | obj inner => exact ofMembers_respelled once
  | _ => rfl

end BrowserOptions

end Parts

/-! ## Options of a run -/

namespace RunOptions

/-- Keys of the options, and of the device and the browser in them, that are spelled the other
way. -/
structure Respelling where
  keys : List String
  deviceKeys : List String
  browserKeys : List String
deriving DecidableEq, Repr

/-- The keys that are spelled the other way in the value under a key. -/
def Respelling.inner (s : Respelling) (key : String) : KeyRespelling :=
  if key = deviceName.camel then ⟨DeviceOptions.names, s.deviceKeys⟩
  else if key = browserName.camel then ⟨BrowserOptions.names, s.browserKeys⟩
  else ⟨[], []⟩

/-- The change of options by their respelling. -/
def Respelling.relabelling (s : Respelling) : Relabelling where
  key := KeyRespelling.key ⟨names, s.keys⟩
  value key := (s.inner key).value
  inside key := (s.inner key).relabelling.place

/-- No field is given in both spellings, neither in the options nor in their device or their
browser. -/
structure IsUnambiguous (members : Members) : Prop where
  options : ∀ name ∈ names, members.GivesOnce name
  device : ∀ m ∈ members, m.1 = deviceName.camel →
    ∀ name ∈ DeviceOptions.names, m.2.members.GivesOnce name
  browser : ∀ m ∈ members, m.1 = browserName.camel →
    ∀ name ∈ BrowserOptions.names, m.2.members.GivesOnce name

instance (members : Members) : Decidable (IsUnambiguous members) :=
  decidable_of_iff (_ ∧ _ ∧ _)
    ⟨fun ⟨options, device, browser⟩ => ⟨options, device, browser⟩,
      fun once => ⟨once.options, once.device, once.browser⟩⟩

variable {s : Respelling} {ms : Members}

theorem distinct_names : FieldName.Distinct names := by decide

theorem keeps_relabelling (s : Respelling) : s.relabelling.Keeps names where
  spells_iff := (KeyRespelling.keeps (s := ⟨names, s.keys⟩) distinct_names).spells_iff
  inside_nil _ := rfl

/-- Nothing changes in the value of a field other than the device and the browser. -/
theorem reads_of_ne {α : Type} {name : FieldName} (device : ¬ name.Spells deviceName.camel)
    (browser : ¬ name.Spells browserName.camel) (read : Json → Checked α) :
    s.relabelling.Reads ms name read := by
  intro m _ spells
  have notDevice : m.1 ≠ deviceName.camel := fun same => device (same ▸ spells)
  have notBrowser : m.1 ≠ browserName.camel := fun same => browser (same ▸ spells)
  have none : s.inner m.1 = ⟨[], []⟩ := by
    rw [Respelling.inner, if_neg notDevice, if_neg notBrowser]
  have same : (s.inner m.1).relabelling.place = fun place => place := by
    rw [none]
    exact funext (KeyRespelling.place_of_no_names [])
  change read ((s.inner m.1).value m.2) = (read m.2).moved (s.inner m.1).relabelling.place
  rw [same, Checked.moved_id, none, KeyRespelling.value_of_no_names]

theorem reads_device (once : IsUnambiguous ms) :
    s.relabelling.Reads ms deviceName DeviceOptions.ofJson := by
  intro m mem spells
  obtain ⟨key, j⟩ := m
  obtain rfl : key = deviceName.camel := spells.elim id id
  exact DeviceOptions.ofJson_respelled (once.device _ mem rfl)

theorem reads_browser (once : IsUnambiguous ms) :
    s.relabelling.Reads ms browserName BrowserOptions.ofJson := by
  intro m mem spells
  obtain ⟨key, j⟩ := m
  obtain rfl : key = browserName.camel := spells.elim id id
  exact BrowserOptions.ofJson_respelled (once.browser _ mem rfl)

/-- **Reading commutes with respelling.** -/
theorem ofMembers_respelled (once : IsUnambiguous ms) :
    ofMembers (s.relabelling.members ms) = (ofMembers ms).moved s.relabelling.place := by
  have keeps := keeps_relabelling s
  have field {α : Type} (name : FieldName) (known : name ∈ names) {read : Json → Checked α}
      (reads : s.relabelling.Reads ms name read) (fallback : α) :=
    Relabelling.optional_members keeps known (once.options name known) reads fallback
  have plain {α : Type} (name : FieldName)
      (known : name ∈ names ∧ ¬ name.Spells deviceName.camel ∧ ¬ name.Spells browserName.camel)
      (read : Json → Checked α) (fallback : α) :=
    field name known.1 (reads_of_ne known.2.1 known.2.2 read) fallback
  have pages := Relabelling.required_members keeps (by decide : urlsName ∈ names)
    (once.options urlsName (by decide)) (reads_of_ne (by decide) (by decide) pagesOfJson) rfl
  have generator := Relabelling.forbidden_members keeps
    (by decide : screenshotNameGeneratorName ∈ names)
    (once.options screenshotNameGeneratorName (by decide)) .notFunction
  simp only [ofMembers, Checked.moved_seqLeft, Checked.moved_seq, Checked.moved_map]
  rw [plain cssName (by decide), pages, plain timeoutName (by decide),
    plain pageLoadTimeoutName (by decide), plain pageRenderDelayName (by decide),
    field deviceName (by decide) (reads_device once),
    field browserName (by decide) (reads_browser once), plain keepSelectorsName (by decide),
    plain removeSelectorsName (by decide), plain dropKeyframesName (by decide),
    plain outputRemainingCssName (by decide), plain blockRequestsName (by decide),
    plain takeScreenshotsName (by decide), plain screenshotPathName (by decide), generator,
    plain printBrowserConsoleName (by decide), plain projectRootName (by decide),
    plain pageAcquireAttemptsName (by decide),
    Relabelling.nothingElse_members keeps once.options]

/-- **The spelling of options does not matter.** If no field is given in both spellings, options
stay the same when keys are spelled the other way, and so do the problems of options that cannot
be used, with their order and their wording. Only the keys that lead to a problem are those of the
object in which it is found. -/
theorem build_respelled (once : IsUnambiguous ms) (s : Respelling) :
    (∃ o, build (.obj ms) = .ok o ∧ build (.obj (s.relabelling.members ms)) = .ok o) ∨
      ∃ problems, build (.obj ms) = .error (.invalid problems) ∧
        build (.obj (s.relabelling.members ms)) =
          .error (.invalid (problems.map (Problem.moved s.relabelling.place))) ∧
        ∀ p ∈ problems, Shows ms p ∧
          Shows (s.relabelling.members ms) (p.moved s.relabelling.place) := by
  have moved := ofMembers_respelled (s := s) once
  have shown := complains_ofMembers ms
  have shownAgain := complains_ofMembers (s.relabelling.members ms)
  rw [build_of_members rfl, build_of_members rfl, moved]
  rw [moved] at shownAgain
  cases read : ofMembers ms with
  | good o => exact Or.inl ⟨o, rfl, rfl⟩
  | bad problems =>
    rw [read] at shown shownAgain
    refine Or.inr ⟨problems, rfl, rfl, fun p mem => ⟨shown p mem, ?_⟩⟩
    exact shownAgain _ (List.mem_map_of_mem mem)

/-- Six problems of options, and the same of options in which half of the keys are spelled the
other way. -/
theorem build_respelled_of_six_problems :
    let device : Json := .obj [("scale_factor", .int 0), ("depth", .int 1)]
    let browser : Json := .obj [("concurrentTabs", .str "many")]
    let given : Members := [("colour", .null), ("dropKeyframes", .str "no"), ("device", device),
      ("browser", browser), ("keep_selectors", .arr [.str "a", .int 1])]
    let respelled : Members := [("colour", .null), ("drop_keyframes", .str "no"),
      ("device", .obj [("scaleFactor", .int 0), ("depth", .int 1)]),
      ("browser", .obj [("concurrent_tabs", .str "many")]),
      ("keepSelectors", .arr [.str "a", .int 1])]
    let problems : List Problem := [⟨["urls"], .missing⟩,
      ⟨["device", "scale_factor"], .notPositive⟩, ⟨["device", "depth"], .unknownField⟩,
      ⟨["browser", "concurrentTabs"], .notWholeText⟩, ⟨["keep_selectors", "1"], .notText⟩,
      ⟨["colour"], .unknownField⟩]
    IsUnambiguous given ∧ build (.obj given) = .error (.invalid problems) ∧
      build (.obj respelled) = .error (.invalid [⟨["urls"], .missing⟩,
        ⟨["device", "scaleFactor"], .notPositive⟩, ⟨["device", "depth"], .unknownField⟩,
        ⟨["browser", "concurrent_tabs"], .notWholeText⟩, ⟨["keepSelectors", "1"], .notText⟩,
        ⟨["colour"], .unknownField⟩]) := by
  intro device browser given respelled problems
  have once : IsUnambiguous given := by decide +kernel
  let s : Respelling :=
    ⟨["dropKeyframes", "keep_selectors", "colour"], ["scale_factor"], ["concurrentTabs"]⟩
  have same : s.relabelling.members given = respelled := by decide +kernel
  have first : ofMembers given = .bad problems := by decide +kernel
  have built := build_of_members (j := .obj given) rfl
  rw [first] at built
  refine ⟨once, built, ?_⟩
  rcases build_respelled once s with ⟨o, good, -⟩ | ⟨_, bad, again, -⟩
  · rw [built] at good
    cases good
  · rw [built] at bad
    cases bad
    rw [← same, again]
    refine congrArg (fun problems => Except.error (OptionsError.invalid problems)) ?_
    decide +kernel

end RunOptions

end CriticalCss
