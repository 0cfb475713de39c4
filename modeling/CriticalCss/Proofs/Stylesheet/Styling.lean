import CriticalCss.Extraction
import CriticalCss.Proofs.Stylesheet.Key
import CriticalCss.Proofs.Stylesheet.Reader

/-!
# Stylings

A style rule in a group says as many things as it has selectors: each of them gets the rule's
declarations there. A `Styling` is one of these things. Parts of a rule are its narrowings: they
keep some of the selectors, in order, and all declarations.
-/

namespace CriticalCss

/-- A selector with the group that it stands in, the empty text at the top level, and the
declarations that it gets there. -/
structure Styling where
  group : String
  selector : String
  declarations : List Declaration
deriving DecidableEq, Repr

namespace StyleRule

/-- The stylings of a style rule in a group. -/
def stylings (group : String) (r : StyleRule) : List Styling :=
  r.selectors.map fun s => ⟨group, s, r.declarations⟩

theorem mem_stylings {group : String} {r : StyleRule} {t : Styling} :
    t ∈ r.stylings group ↔
      t.group = group ∧ t.selector ∈ r.selectors ∧ t.declarations = r.declarations := by
  obtain ⟨g, s, ds⟩ := t
  simp only [stylings, List.mem_map, Styling.mk.injEq]
  constructor
  · intro given
    rcases given with ⟨s, mem, rfl, rfl, rfl⟩
    exact ⟨rfl, mem, rfl⟩
  · intro given
    rcases given with ⟨rfl, mem, rfl⟩
    exact ⟨s, mem, rfl, rfl, rfl⟩

/-! ## Parts of a rule -/

/-- The part of a style rule with the selectors that stay; none if no selector does. -/
def narrow (stays : String → Bool) (r : StyleRule) : Option StyleRule :=
  let selectors := r.selectors.filter stays
  if selectors.isEmpty then none else some { r with selectors }

theorem narrow_eq_none_iff {stays : String → Bool} {r : StyleRule} :
    r.narrow stays = none ↔ ∀ s ∈ r.selectors, stays s = false := by
  simp [narrow]

theorem narrow_eq_some_iff {stays : String → Bool} {r left : StyleRule} :
    r.narrow stays = some left ↔
      r.selectors.filter stays ≠ [] ∧ { r with selectors := r.selectors.filter stays } = left := by
  simp [narrow]

theorem selectors_of_narrow {stays : String → Bool} {r left : StyleRule}
    (part : r.narrow stays = some left) : left.selectors = r.selectors.filter stays :=
  (narrow_eq_some_iff.1 part).2 ▸ rfl

theorem declarations_of_narrow {stays : String → Bool} {r left : StyleRule}
    (part : r.narrow stays = some left) : left.declarations = r.declarations :=
  (narrow_eq_some_iff.1 part).2 ▸ rfl

theorem narrow_congr {p q : String → Bool} {r : StyleRule}
    (same : ∀ s ∈ r.selectors, p s = q s) : r.narrow p = r.narrow q := by
  rw [narrow, narrow, List.filter_congr same]

/-- A part of a part keeps what stays both times. -/
theorem narrow_of_narrow {p q : String → Bool} {r left : StyleRule}
    (part : r.narrow p = some left) : left.narrow q = r.narrow fun s => p s && q s := by
  obtain ⟨-, rfl⟩ := narrow_eq_some_iff.1 part
  simp only [narrow, List.filter_filter, Bool.and_comm]

/-- If all that stays the second time stays the first time, the first time does not count. -/
theorem narrow_of_narrow_of_imp {p q : String → Bool} {r left : StyleRule}
    (part : r.narrow p = some left) (imp : ∀ s ∈ r.selectors, q s = true → p s = true) :
    left.narrow q = r.narrow q := by
  rw [narrow_of_narrow part]
  refine narrow_congr fun s mem => ?_
  cases stays : q s with
  | false => rw [Bool.and_false]
  | true => rw [imp s mem stays, Bool.and_true]

/-- Something is left of a rule if a selector stays. -/
theorem exists_narrow_iff {stays : String → Bool} {r : StyleRule} :
    (∃ left, r.narrow stays = some left) ↔ ∃ s ∈ r.selectors, stays s = true := by
  simp only [narrow_eq_some_iff, exists_and_left, exists_eq', and_true, ne_eq,
    List.filter_eq_nil_iff, Classical.not_forall, Classical.not_not, exists_prop]

theorem mem_stylings_of_narrow {stays : String → Bool} {group : String} {r left : StyleRule}
    (part : r.narrow stays = some left) {t : Styling} :
    t ∈ left.stylings group ↔ t ∈ r.stylings group ∧ stays t.selector = true := by
  rw [mem_stylings, mem_stylings, selectors_of_narrow part, declarations_of_narrow part,
    List.mem_filter]
  constructor
  · intro given
    rcases given with ⟨group, ⟨mem, stays⟩, declarations⟩
    exact ⟨⟨group, mem, declarations⟩, stays⟩
  · intro given
    rcases given with ⟨⟨group, mem, declarations⟩, stays⟩
    exact ⟨group, ⟨mem, stays⟩, declarations⟩

/-! ## Rules that say the same -/

/-- Two style rules say the same; where they stand does not count. -/
def SameAs (a b : StyleRule) : Prop :=
  a.selectors = b.selectors ∧ a.declarations = b.declarations

instance (a b : StyleRule) : Decidable (a.SameAs b) :=
  inferInstanceAs (Decidable (_ ∧ _))

theorem SameAs.symm {a b : StyleRule} (same : a.SameAs b) : b.SameAs a :=
  ⟨same.1.symm, same.2.symm⟩

theorem SameAs.trans {a b c : StyleRule} (ab : a.SameAs b) (bc : b.SameAs c) : a.SameAs c :=
  ⟨ab.1.trans bc.1, ab.2.trans bc.2⟩

theorem sameAs_iff_erase {a b : StyleRule} :
    a.SameAs b ↔ (Rule.style a).erase = (Rule.style b).erase := by
  simp [SameAs, Rule.erase]

theorem SameAs.stylings_eq {a b : StyleRule} (same : a.SameAs b) (group : String) :
    a.stylings group = b.stylings group := by
  rw [stylings, stylings, same.1, same.2]

/-- The same part of rules that say the same. -/
theorem SameAs.narrow {a b left : StyleRule} (same : a.SameAs b) {stays : String → Bool}
    (part : a.narrow stays = some left) : ∃ other, b.narrow stays = some other ∧
      left.SameAs other := by
  obtain ⟨some, rfl⟩ := narrow_eq_some_iff.1 part
  rw [same.1] at some
  exact ⟨_, narrow_eq_some_iff.2 ⟨some, rfl⟩, congrArg (List.filter stays) same.1, same.2⟩

end StyleRule

/-! ## The style rules of a stylesheet -/

/-- The style rule that a rule is. -/
def Rule.style? : Rule → Option StyleRule
  | style r => some r
  | _ => none

theorem Rule.style?_eq_some_iff {r : Rule} {q : StyleRule} : r.style? = some q ↔ r = style q := by
  cases r <;> simp [style?]

/-- The rule is not a group. -/
def Rule.IsFlat : Rule → Prop
  | group .. => False
  | _ => True

instance : DecidablePred Rule.IsFlat
  | .group .. => isFalse id
  | .style _ | .atRule _ | .fontFace .. | .charset .. | .keyframes .. | .keyframe _
  | .comment .. => isTrue trivial

/-- The rule is neither a style rule nor a group. -/
def Rule.IsOther : Rule → Prop
  | style _ | group .. => False
  | _ => True

theorem Rule.isOther_iff {r : Rule} : r.IsOther ↔ r.IsFlat ∧ r.style? = none := by
  cases r <;> simp [IsOther, IsFlat, style?]

theorem Rule.isOther_iff_kind {r : Rule} :
    r.IsOther ↔ r.kind ∉ [.style, .media, .supports] := by
  cases r with
  | group kind => cases kind <;> simp [IsOther, kind, GroupKind.ruleKind]
  | _ => simp [IsOther, kind]

/-- The rules directly inside a rule. -/
def Rule.inner : Rule → List Rule
  | group _ _ inner _ => inner
  | _ => []

/-- No group is in a group. -/
def Stylesheet.Shallow (sheet : Stylesheet) : Prop :=
  ∀ q ∈ sheet, ∀ r ∈ q.inner, r.IsFlat

instance (sheet : Stylesheet) : Decidable sheet.Shallow :=
  inferInstanceAs (Decidable (∀ q ∈ sheet, ∀ r ∈ q.inner, r.IsFlat))

namespace Extraction

/-- The stylings of a style rule at its site. -/
def Site.stylings (site : Site) : List Styling :=
  site.rule.stylings site.group

theorem sites_append (as bs : Stylesheet) : sites (as ++ bs) = sites as ++ sites bs :=
  List.flatMap_append

theorem sites_group (kind : GroupKind) (condition : String) (inner : List Rule)
    (position : Option Position) :
    sites [.group kind condition inner position] = (inner.filterMap Rule.style?).map fun r =>
      ⟨r, kind.key condition, if kind = .media then some condition else none⟩ := by
  rw [sites, List.flatMap_singleton, List.map_filterMap]
  refine congrArg (fun f => List.filterMap f inner) (funext fun r => ?_)
  cases r <;> rfl

/-- A site is at the top level or directly inside a group. -/
theorem mem_sites {sheet : Stylesheet} {site : Site} (mem : site ∈ sites sheet) :
    (site.group = "" ∧ .style site.rule ∈ sheet) ∨
      ∃ kind condition inner position, .group kind condition inner position ∈ sheet ∧
        .style site.rule ∈ inner ∧ site.group = GroupKind.key kind condition ∧
        site.media = if kind = .media then some condition else none := by
  obtain ⟨r, inside, found⟩ := List.mem_flatMap.1 mem
  cases r with
  | style r =>
    rw [List.mem_singleton] at found
    subst found
    exact Or.inl ⟨rfl, inside⟩
  | group kind condition inner position =>
    obtain ⟨q, deeper, shape⟩ := List.mem_filterMap.1 found
    cases q with
    | style q =>
      cases shape
      exact Or.inr ⟨kind, condition, inner, position, inside, deeper, rfl, rfl⟩
    | _ => cases shape
  | _ => cases found

theorem isGroupKey_of_mem_sites {sheet : Stylesheet} {site : Site} (mem : site ∈ sites sheet)
    (inner : site.group ≠ "") : isGroupKey site.group = true := by
  rcases mem_sites mem with ⟨top, -⟩ | ⟨kind, condition, -, -, -, -, shape, -⟩
  · exact (inner top).elim
  · rw [shape]
    exact isGroupKey_key kind condition

/-- The style rules of a stylesheet that was read have selectors. -/
theorem hasSelectors_of_mem_sites {sheet : Stylesheet} (read : sheet.IsRead) {site : Site}
    (mem : site ∈ sites sheet) : site.rule.HasSelectors := by
  rcases mem_sites mem with ⟨-, inside⟩ | ⟨kind, condition, inner, position, inside, deeper, -, -⟩
  · cases read _ inside with
    | style has => exact has
  · cases read _ inside with
    | group grouped =>
      cases grouped _ deeper with
      | style has => exact has

end Extraction

/-- The stylings of a stylesheet. -/
def Stylesheet.stylings (sheet : Stylesheet) : List Styling :=
  (Extraction.sites sheet).flatMap Extraction.Site.stylings

theorem Stylesheet.mem_stylings {sheet : Stylesheet} {t : Styling} :
    t ∈ sheet.stylings ↔ ∃ site ∈ Extraction.sites sheet, t ∈ site.stylings :=
  List.mem_flatMap

/-- No selector at the top level begins like the key of a group. -/
def Stylesheet.Plain (sheet : Stylesheet) : Prop :=
  ∀ site ∈ Extraction.sites sheet, site.group = "" →
    ∀ s ∈ site.rule.selectors, isGroupKey s = false

/-- No media condition around a style rule repeats the media type `all`. -/
def Stylesheet.Settled (sheet : Stylesheet) : Prop :=
  ∀ site ∈ Extraction.sites sheet, ∀ condition ∈ site.media, repeatsAll condition = false

instance (sheet : Stylesheet) : Decidable sheet.Settled :=
  inferInstanceAs (Decidable (∀ site ∈ Extraction.sites sheet, ∀ condition ∈ site.media,
    repeatsAll condition = false))

instance (sheet : Stylesheet) : Decidable sheet.Plain :=
  inferInstanceAs (Decidable (∀ site ∈ Extraction.sites sheet, site.group = "" →
    ∀ s ∈ site.rule.selectors, isGroupKey s = false))

end CriticalCss
