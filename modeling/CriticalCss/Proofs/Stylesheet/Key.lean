import CriticalCss.Proofs.Text.Blank
import CriticalCss.Stylesheet.Key

/-!
# Keys of groups and of selectors

The key of a group names the kind and the normalized condition of the group. The key of a style
rule is taken for the key of a group exactly if its first selector begins like one: the leads of
group keys hold no comma, so they cannot reach past a selector. Normalizing a condition once more
changes it only if it still repeats the media type.
-/

namespace CriticalCss

theorem Text.dropLead?_eq_some_iff {lead cs rest : List Char} :
    Text.dropLead? lead cs = some rest ↔ cs = lead ++ rest := by
  unfold Text.dropLead?
  constructor
  · intro h
    split at h
    · rename_i starts
      obtain ⟨tail, rfl⟩ := List.isPrefixOf_iff_prefix.1 starts
      cases h
      simp
    · cases h
  · intro same
    subst same
    simp

namespace GroupKind

theorem ofKey?_eq_some_iff {kind : GroupKind} {key condition : String} :
    kind.ofKey? key = some condition ↔ key = kind.keyLead ++ condition := by
  simp only [ofKey?, Option.map_eq_some_iff, Text.dropLead?_eq_some_iff]
  constructor
  · intro given
    rcases given with ⟨rest, shape, rfl⟩
    rw [← String.toList_inj, shape, String.toList_append, String.toList_ofList]
  · intro same
    subst same
    exact ⟨condition.toList, String.toList_append, String.ofList_toList⟩

/-- The two leads differ in their second character. -/
theorem ofKey?_of_ne {kind other : GroupKind} (ne : kind ≠ other) (condition : String) :
    kind.ofKey? (other.keyLead ++ condition) = none := by
  rw [ofKey?, String.toList_append, Option.map_eq_none_iff, Text.dropLead?, if_neg]
  intro starts
  have heads := List.isPrefixOf_iff_prefix.1 starts
  cases kind <;> cases other
  · exact ne rfl
  · simp [keyLead] at heads
  · simp [keyLead] at heads
  · exact ne rfl

end GroupKind

theorem groupOfKey?_append (kind : GroupKind) (condition : String) :
    groupOfKey? (kind.keyLead ++ condition) = some (kind, condition) := by
  have own : kind.ofKey? (kind.keyLead ++ condition) = some condition :=
    GroupKind.ofKey?_eq_some_iff.2 rfl
  cases kind with
  | media => rw [groupOfKey?, own]
  | supports => rw [groupOfKey?, GroupKind.ofKey?_of_ne (by decide), own, Option.map_some]

@[simp] theorem groupOfKey?_key (kind : GroupKind) (condition : String) :
    groupOfKey? (kind.key condition) = some (kind, kind.normalize condition) :=
  groupOfKey?_append kind _

@[simp] theorem isGroupKey_key (kind : GroupKind) (condition : String) :
    isGroupKey (kind.key condition) = true := by
  rw [isGroupKey, groupOfKey?_key, Option.isSome_some]

theorem groupOfKey?_eq_some_iff {key : String} {kind : GroupKind} {condition : String} :
    groupOfKey? key = some (kind, condition) ↔ key = kind.keyLead ++ condition := by
  constructor
  · intro h
    unfold groupOfKey? at h
    split at h
    · rename_i found
      cases h
      exact GroupKind.ofKey?_eq_some_iff.1 found
    · obtain ⟨c, found, pair⟩ := Option.map_eq_some_iff.1 h
      cases pair
      exact GroupKind.ofKey?_eq_some_iff.1 found
  · intro same
    subst same
    exact groupOfKey?_append kind condition

/-- A text is a group's key exactly if it begins with the lead of a kind of groups. -/
theorem isGroupKey_iff {key : String} :
    isGroupKey key = true ↔ ∃ kind : GroupKind, kind.keyLead.toList <+: key.toList := by
  simp only [isGroupKey, Option.isSome_iff_exists, Prod.exists, groupOfKey?_eq_some_iff]
  constructor
  · intro given
    rcases given with ⟨kind, condition, rfl⟩
    exact ⟨kind, condition.toList, String.toList_append.symm⟩
  · intro given
    rcases given with ⟨kind, tail, shape⟩
    refine ⟨kind, String.ofList tail, ?_⟩
    rw [← String.toList_inj, ← shape, String.toList_append, String.toList_ofList]

/-- The key of no group is empty. -/
theorem GroupKind.key_ne_empty (kind : GroupKind) (condition : String) :
    kind.key condition ≠ "" := by
  intro empty
  have := isGroupKey_key kind condition
  rw [empty] at this
  exact absurd this (by decide)

/-! ## Normalizing twice -/

theorem normalizeSupports_normalizeSupports (condition : String) :
    normalizeSupports (normalizeSupports condition) = normalizeSupports condition := by
  simp [normalizeSupports]

/-- The media condition still begins with `all and` in the form in which it is compared. -/
def repeatsAll (condition : String) : Bool :=
  "all and ".toList.isPrefixOf (normalizeMedia condition).toList

/-- A media condition is normalized at once, unless its media type `all` is repeated. -/
theorem normalizeMedia_normalizeMedia {condition : String}
    (settled : repeatsAll condition = false) :
    normalizeMedia (normalizeMedia condition) = normalizeMedia condition := by
  rw [repeatsAll] at settled
  have twice : Text.dropLead? "all and ".toList (normalizeMedia condition).toList = none := by
    rw [Text.dropLead?, settled]
    rfl
  have collapsed : Text.collapse (normalizeMedia condition).toList =
      (normalizeMedia condition).toList := by
    rw [normalizeMedia, String.toList_ofList]
    cases lead : Text.dropLead? "all and ".toList (Text.collapse condition.toList) with
    | none => exact Text.collapse_collapse _
    | some rest =>
      have whole := Text.dropLead?_eq_some_iff.1 lead
      have fixed := Text.collapse_collapse condition.toList
      rw [whole] at fixed
      have all : Text.IsWord "all".toList := Text.isWord_iff.2 (by decide)
      have and : Text.IsWord "and".toList := Text.isWord_iff.2 (by decide)
      exact Text.collapse_of_collapse_append and (Text.collapse_of_collapse_append all fixed)
  generalize normalizeMedia condition = media at twice collapsed ⊢
  rw [normalizeMedia, collapsed, twice, Option.getD_none, String.ofList_toList]

theorem GroupKind.normalize_normalize {kind : GroupKind} {condition : String}
    (settled : kind = .media → repeatsAll condition = false) :
    kind.normalize (kind.normalize condition) = kind.normalize condition := by
  cases kind with
  | media => exact normalizeMedia_normalizeMedia (settled rfl)
  | supports => exact normalizeSupports_normalizeSupports condition

/-! ## Selector lists -/

theorem toList_selectorList_cons (s : String) (rest : List String) :
    ∃ tail, (selectorList (s :: rest)).toList = s.toList ++ tail ∧
      (tail = [] ∨ ∃ more, tail = ',' :: more) := by
  cases rest with
  | nil => exact ⟨[], by simp [selectorList, List.intercalate], Or.inl rfl⟩
  | cons t rest =>
    refine ⟨',' :: [','].intercalate ((t :: rest).map String.toList), ?_, Or.inr ⟨_, rfl⟩⟩
    simp [selectorList, List.intercalate]

/-- A lead without a comma that begins a selector list begins its first selector. -/
theorem isPrefix_of_isPrefix_selectorList {lead : List Char} (noComma : ',' ∉ lead) {s : String}
    {rest : List String} (starts : lead <+: (selectorList (s :: rest)).toList) :
    lead <+: s.toList := by
  obtain ⟨tail, shape, ends⟩ := toList_selectorList_cons s rest
  rw [shape] at starts
  rcases List.prefix_or_prefix_of_prefix starts (List.prefix_append _ tail) with
    inside | ⟨more, rfl⟩
  · exact inside
  · rw [List.prefix_append_right_inj] at starts
    rcases ends with rfl | ⟨others, rfl⟩
    · exact ⟨[], by rw [List.prefix_nil.1 starts, List.append_nil, List.append_nil]⟩
    · cases more with
      | nil => exact ⟨[], by rw [List.append_nil, List.append_nil]⟩
      | cons c more =>
        obtain rfl := (List.cons_prefix_cons.1 starts).1
        exact (noComma (by simp)).elim

theorem isGroupKey_selectorList_cons {s : String} {rest : List String}
    (apart : isGroupKey s = false) : isGroupKey (selectorList (s :: rest)) = false := by
  rw [← Bool.not_eq_true] at apart ⊢
  intro group
  obtain ⟨kind, starts⟩ := isGroupKey_iff.1 group
  refine apart (isGroupKey_iff.2 ⟨kind, isPrefix_of_isPrefix_selectorList ?_ starts⟩)
  cases kind <;> decide

end CriticalCss
