import CriticalCss.Options.Request
import CriticalCss.Proofs.Options.Standard

/-!
# Reading what was written

A checked value is good exactly if its parts are (`Checked.seq_eq_good_iff` and its like), so what
reading an object gives is told field by field. Reading has one condition that it can state of the
value alone for a device, and two for a request (`DeviceOptions.IsValid`, `Request.IsValid`); a
valid value is written as an object that is read as this value again
(`DeviceOptions.ofMembers_members`, `Request.ofMembers_members`).
-/

namespace CriticalCss

/-! ## Parts of checked values -/

namespace Checked

variable {α β : Type}

theorem map_eq_good_iff {f : α → β} {x : Checked α} {b : β} :
    f <$> x = good b ↔ ∃ a, x = good a ∧ f a = b := by
  cases x with
  | bad problems => exact ⟨nofun, nofun⟩
  | good a =>
    constructor
    · intro same
      exact ⟨a, rfl, good.inj same⟩
    · intro given
      rcases given with ⟨_, ⟨⟩, rfl⟩
      rfl

theorem seq_eq_good_iff {f : Checked (α → β)} {x : Checked α} {b : β} :
    f <*> x = good b ↔ ∃ g a, f = good g ∧ x = good a ∧ g a = b := by
  cases f with
  | bad problems => cases x <;> exact ⟨nofun, nofun⟩
  | good g =>
    cases x with
    | bad problems => exact ⟨nofun, nofun⟩
    | good a =>
      constructor
      · intro same
        exact ⟨g, a, rfl, rfl, good.inj same⟩
      · intro given
        rcases given with ⟨_, _, ⟨⟩, ⟨⟩, rfl⟩
        rfl

theorem seqLeft_eq_good_iff {x : Checked α} {y : Checked β} {a : α} :
    x <* y = good a ↔ x = good a ∧ ∃ b, y = good b := by
  change Function.const β <$> x <*> y = good a ↔ _
  rw [seq_eq_good_iff]
  simp only [map_eq_good_iff]
  constructor
  · intro given
    rcases given with ⟨g, b, ⟨c, first, rfl⟩, second, rfl⟩
    exact ⟨first, b, second⟩
  · intro given
    rcases given with ⟨first, b, second⟩
    exact ⟨_, b, ⟨a, first, rfl⟩, second, rfl⟩

theorem within_eq_good_iff {key : String} {x : Checked α} {a : α} :
    x.within key = good a ↔ x = good a := by
  cases x with
  | good a => exact Iff.rfl
  | bad problems => exact ⟨nofun, nofun⟩

theorem andThen_eq_good_iff {x : Checked α} {f : α → Checked β} {b : β} :
    x.andThen f = good b ↔ ∃ a, x = good a ∧ f a = good b := by
  cases x with
  | bad problems => exact ⟨nofun, nofun⟩
  | good a =>
    constructor
    · intro same
      exact ⟨a, rfl, same⟩
    · intro given
      rcases given with ⟨_, ⟨⟩, same⟩
      exact same

end Checked

namespace Members

variable {α : Type} {members : Members} {name : FieldName} {read : Json → Checked α} {a : α}

theorem optional_eq_good_iff {fallback : α} :
    members.optional name read fallback = .good a ↔
      (members.field? name = none ∧ fallback = a) ∨
        ∃ key j, members.field? name = some (key, j) ∧ read j = .good a := by
  rw [optional]
  cases given : members.field? name with
  | none => simp
  | some field =>
    obtain ⟨key, j⟩ := field
    simp only [Checked.within_eq_good_iff, reduceCtorEq, false_and, false_or]
    constructor
    · exact fun good => ⟨key, j, rfl, good⟩
    · intro given
      rcases given with ⟨_, _, ⟨⟩, good⟩
      exact good

theorem required_eq_good_iff :
    members.required name read = .good a ↔
      ∃ key j, members.field? name = some (key, j) ∧ read j = .good a := by
  rw [required]
  cases given : members.field? name with
  | none => simp [Checked.within_eq_good_iff, Checked.fail]
  | some field =>
    obtain ⟨key, j⟩ := field
    simp only [Checked.within_eq_good_iff]
    constructor
    · exact fun good => ⟨key, j, rfl, good⟩
    · intro given
      rcases given with ⟨_, _, ⟨⟩, good⟩
      exact good

/-- A field that is given is read. -/
theorem optional_eq_good {fallback : α} {key : String} {j : Json}
    (given : members.field? name = some (key, j)) (good : read j = .good a) :
    members.optional name read fallback = .good a :=
  optional_eq_good_iff.2 (Or.inr ⟨key, j, given, good⟩)

theorem required_eq_good {key : String} {j : Json}
    (given : members.field? name = some (key, j)) (good : read j = .good a) :
    members.required name read = .good a :=
  required_eq_good_iff.2 ⟨key, j, given, good⟩

end Members

/-! ## Single values -/

namespace OptionValue

theorem positive_int (n : Positive) : positive (.int n.1) = .good n := by
  simp [positive, whole, Checked.andThen, n.2]

theorem positiveNumber_float {x : Float} (above : ¬ x ≤ 0) :
    positiveNumber (.float x) = .good x := by
  rw [positiveNumber, number, Checked.andThen, if_neg above]

theorem not_le_of_positiveNumber {j : Json} {x : Float} (read : positiveNumber j = .good x) :
    ¬ x ≤ 0 := by
  obtain ⟨y, -, checked⟩ := Checked.andThen_eq_good_iff.1 read
  split at checked
  · cases checked
  · cases checked
    assumption

theorem texts_strings (values : List String) : texts (.strings values) = .good values :=
  textItems_map_str values

theorem optional_of_ne_null {α : Type} {read : Json → Checked α} {j : Json} (ne : j ≠ .null) :
    optional read j = (read j).map some := by
  cases j with
  | null => exact (ne rfl).elim
  | _ => rfl

/-- A value that may be missing is read again if it is read again when it is there. -/
theorem optional_elim {α : Type} {read : Json → Checked α} {write : α → Json}
    (there : ∀ a, write a ≠ .null) (back : ∀ a, read (write a) = .good a) (value : Option α) :
    optional read (value.elim .null write) = .good value := by
  cases value with
  | none => rfl
  | some a =>
    rw [Option.elim_some, optional_of_ne_null (there a), back]
    rfl

end OptionValue

/-! ## Devices -/

namespace DeviceOptions

/-- The density of the device passes its check. -/
def IsValid (d : DeviceOptions) : Prop :=
  ¬ d.scaleFactor ≤ 0

instance : DecidablePred IsValid :=
  fun d => inferInstanceAs (Decidable (¬ d.scaleFactor ≤ 0))

theorem isValid_standard : standard.IsValid := by decide

/-- What a device is read from, field by field. -/
theorem ofMembers_eq_good_iff {members : Members} {d : DeviceOptions} :
    ofMembers members = .good d ↔
      members.optional widthName OptionValue.positive standard.width = .good d.width ∧
      members.optional heightName OptionValue.positive standard.height = .good d.height ∧
      members.optional scaleFactorName OptionValue.positiveNumber standard.scaleFactor =
        .good d.scaleFactor ∧
      members.optional isMobileName OptionValue.flag standard.isMobile = .good d.isMobile ∧
      members.optional hasTouchName OptionValue.flag standard.hasTouch = .good d.hasTouch ∧
      members.optional isLandscapeName OptionValue.flag standard.isLandscape =
        .good d.isLandscape ∧
      members.nothingElse names = .good () := by
  constructor
  · intro read
    simp only [ofMembers, Checked.seqLeft_eq_good_iff, Checked.seq_eq_good_iff,
      Checked.map_eq_good_iff] at read
    rcases read with ⟨⟨_, _, ⟨_, _, ⟨_, _, ⟨_, _, ⟨_, _, ⟨_, width, rfl⟩, height, rfl⟩, scale, rfl⟩,
      mobile, rfl⟩, touch, rfl⟩, landscape, rfl⟩, ⟨⟩, rest⟩
    exact ⟨width, height, scale, mobile, touch, landscape, rest⟩
  · intro fields
    obtain ⟨width, height, scale, mobile, touch, landscape, rest⟩ := fields
    rw [ofMembers, width, height, scale, mobile, touch, landscape, rest]
    rfl

/-- A device that was read is valid. -/
theorem isValid_of_ofMembers {members : Members} {d : DeviceOptions}
    (read : ofMembers members = .good d) : d.IsValid := by
  obtain ⟨-, -, scale, -⟩ := ofMembers_eq_good_iff.1 read
  rcases Members.optional_eq_good_iff.1 scale with ⟨-, same⟩ | ⟨_, _, -, given⟩
  · rw [IsValid, ← same]
    exact isValid_standard
  · exact OptionValue.not_le_of_positiveNumber given

theorem isValid_of_ofObject {alternative : String} {j : Json} {d : DeviceOptions}
    (read : ofObject alternative j = .good d) : d.IsValid := by
  cases j with
  | obj members => exact isValid_of_ofMembers read
  | _ => cases read

/-- **A valid device is read again from its fields**, in both spellings. -/
theorem ofMembers_members {d : DeviceOptions} (valid : d.IsValid) (spelling : Spelling) :
    ofMembers (d.members spelling) = .good d := by
  rw [ofMembers_eq_good_iff]
  cases spelling with
  | camel | snake =>
    exact ⟨Members.optional_eq_good rfl (OptionValue.positive_int d.width),
      Members.optional_eq_good rfl (OptionValue.positive_int d.height),
      Members.optional_eq_good rfl (OptionValue.positiveNumber_float valid),
      Members.optional_eq_good rfl rfl, Members.optional_eq_good rfl rfl,
      Members.optional_eq_good rfl rfl, rfl⟩

end DeviceOptions

/-! ## Requests -/

namespace RequestedDevice

theorem isValid_of_ofJson {form : RequestForm} {j : Json} {d : DeviceOptions}
    (read : ofJson form j = .good (custom d)) : d.IsValid := by
  unfold ofJson at read
  split at read
  · cases read
  · split at read
    · cases read
      exact DeviceOptions.isValid_of_ofObject (by assumption)
    · cases read

/-- A requested device is read again if it is the name of a profile or valid. -/
theorem ofJson_toJson {device : RequestedDevice} (valid : ∀ d, device = custom d → d.IsValid)
    (form : RequestForm) : ofJson form device.toJson = .good device := by
  cases device with
  | profile name => rfl
  | custom d =>
    rw [toJson, ofJson, DeviceOptions.ofObject, DeviceOptions.ofMembers_members (valid d rfl)]
    -- what is written is an object, so it is not read as a name
    intro name same
    cases same

end RequestedDevice

namespace Request

/-- What reading makes sure of: a request names a page, and a device given by its fields is
valid. -/
structure IsValid (r : Request) : Prop where
  urls : r.urls ≠ []
  device : ∀ d, r.device = .custom d → d.IsValid

/-- What a request is read from, field by field. -/
theorem ofMembers_eq_good_iff {form : RequestForm} {members : Members} {r : Request} :
    ofMembers form members = .good r ↔
      members.required templateName OptionValue.text = .good r.template ∧
      members.required urlsName urlsOfJson = .good r.urls ∧
      members.optional cssName (OptionValue.optional OptionValue.text) none = .good r.css ∧
      members.optional deviceName (RequestedDevice.ofJson form) (.profile "desktop") =
        .good r.device ∧
      members.optional keepSelectorsName OptionValue.texts [] = .good r.keepSelectors ∧
      members.optional removeSelectorsName OptionValue.texts [] = .good r.removeSelectors ∧
      members.optional dropKeyframesName (OptionValue.optional OptionValue.flag) none =
        .good r.dropKeyframes ∧
      members.optional outputRemainingCssName (OptionValue.optional OptionValue.flag) none =
        .good r.outputRemainingCss ∧
      members.optional blockRequestsName (OptionValue.optional OptionValue.texts) none =
        .good r.blockRequests := by
  constructor
  · intro read
    simp only [ofMembers, Checked.seq_eq_good_iff, Checked.map_eq_good_iff] at read
    rcases read with ⟨_, _, ⟨_, _, ⟨_, _, ⟨_, _, ⟨_, _, ⟨_, _, ⟨_, _, ⟨_, _, ⟨_, template, rfl⟩,
      urls, rfl⟩, css, rfl⟩, device, rfl⟩, keep, rfl⟩, remove, rfl⟩, drop, rfl⟩, remaining, rfl⟩,
      block, rfl⟩
    exact ⟨template, urls, css, device, keep, remove, drop, remaining, block⟩
  · intro fields
    obtain ⟨template, urls, css, device, keep, remove, drop, remaining, block⟩ := fields
    rw [ofMembers, template, urls, css, device, keep, remove, drop, remaining, block]
    rfl

theorem urlsOfJson_eq_good_iff {j : Json} {urls : List String} :
    urlsOfJson j = .good urls ↔ OptionValue.texts j = .good urls ∧ urls ≠ [] := by
  rw [urlsOfJson, Checked.andThen_eq_good_iff]
  constructor
  · intro given
    rcases given with ⟨texts, read, checked⟩
    cases texts with
    | nil => cases checked
    | cons first others =>
      cases checked
      exact ⟨read, List.cons_ne_nil _ _⟩
  · intro given
    rcases given with ⟨read, some⟩
    obtain ⟨first, others, rfl⟩ := List.exists_cons_of_ne_nil some
    exact ⟨_, read, rfl⟩

/-- A request that was read is valid. -/
theorem isValid_of_ofMembers {form : RequestForm} {members : Members} {r : Request}
    (read : ofMembers form members = .good r) : r.IsValid := by
  obtain ⟨-, urls, -, device, -⟩ := ofMembers_eq_good_iff.1 read
  constructor
  · obtain ⟨_, _, -, given⟩ := Members.required_eq_good_iff.1 urls
    exact (urlsOfJson_eq_good_iff.1 given).2
  · intro d custom
    rw [custom] at device
    rcases Members.optional_eq_good_iff.1 device with ⟨-, same⟩ | ⟨_, _, -, given⟩
    · cases same
    · exact RequestedDevice.isValid_of_ofJson given

/-- **A valid request is read again from its fields**, however it is handed over. -/
theorem ofMembers_members {r : Request} (valid : r.IsValid) (form : RequestForm) :
    ofMembers form r.members = .good r := by
  have text : ∀ value : Option String,
      OptionValue.optional OptionValue.text (value.elim .null .str) = .good value :=
    OptionValue.optional_elim nofun fun _ => rfl
  have flag : ∀ value : Option Bool,
      OptionValue.optional OptionValue.flag (value.elim .null .bool) = .good value :=
    OptionValue.optional_elim nofun fun _ => rfl
  have blocks : OptionValue.optional OptionValue.texts (r.blockRequests.elim .null .strings) =
      .good r.blockRequests :=
    OptionValue.optional_elim nofun OptionValue.texts_strings r.blockRequests
  have urls : urlsOfJson (.strings r.urls) = .good r.urls :=
    urlsOfJson_eq_good_iff.2 ⟨OptionValue.texts_strings r.urls, valid.urls⟩
  rw [ofMembers_eq_good_iff]
  exact ⟨Members.required_eq_good rfl rfl, Members.required_eq_good rfl urls,
    Members.optional_eq_good rfl (text r.css),
    Members.optional_eq_good rfl (RequestedDevice.ofJson_toJson valid.device form),
    Members.optional_eq_good rfl (OptionValue.texts_strings r.keepSelectors),
    Members.optional_eq_good rfl (OptionValue.texts_strings r.removeSelectors),
    Members.optional_eq_good rfl (flag r.dropKeyframes),
    Members.optional_eq_good rfl (flag r.outputRemainingCss),
    Members.optional_eq_good rfl blocks⟩

end Request

end CriticalCss
