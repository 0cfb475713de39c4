import CriticalCss.Proofs.Stylesheet.ReadBack

/-!
# Stylesheets of letters

The simplest stylesheets: every selector is a class of lower-case letters, and every property,
value and condition consists of such letters. They are legible, so reading undoes printing on
them, in both layouts (`parseStrict_print_of_isLetters`).
-/

namespace CriticalCss

open Css

/-- One or more lower-case letters. -/
structure IsLetters (w : List Char) : Prop where
  nonempty : w ≠ []
  lower : ∀ c ∈ w, c.isLower = true

/-- A point and one or more lower-case letters. -/
def IsClass (s : String) : Prop :=
  ∃ w, s.toList = '.' :: w ∧ IsLetters w

structure Declaration.IsLetters (d : Declaration) : Prop where
  property : CriticalCss.IsLetters d.property.toList
  value : CriticalCss.IsLetters d.value.toList

structure StyleRule.IsLetters (r : StyleRule) : Prop where
  nonempty : r.selectors ≠ []
  selectors : ∀ s ∈ r.selectors, IsClass s
  declarations : ∀ d ∈ r.declarations, d.IsLetters

/-- A style rule or a font face of letters, or a group of such style rules. -/
inductive Rule.IsLetters : Rule → Prop
  | style {r : StyleRule} : r.IsLetters → IsLetters (style r)
  | fontFace {ds : List Declaration} {position : Option Position} :
    (∀ d ∈ ds, d.IsLetters) → IsLetters (fontFace ds position)
  | group {kind : GroupKind} {condition : String} {inner : List Rule}
      {position : Option Position} :
    CriticalCss.IsLetters condition.toList →
      (∀ r ∈ inner, ∃ style : StyleRule, r = .style style ∧ style.IsLetters) →
      IsLetters (group kind condition inner position)

theorem isLetters_of_all {w : List Char} (letters : (!w.isEmpty && w.all Char.isLower) = true) :
    IsLetters w := by
  rw [Bool.and_eq_true] at letters
  exact ⟨by simpa using letters.1, List.all_eq_true.1 letters.2⟩

/-! ## Letters as text -/

namespace IsLetters

variable {w : List Char}

theorem isNameStart_of_isLower {c : Char} (lower : c.isLower = true) : isNameStart c = true := by
  have alpha : c.isAlpha = true := by
    change (c.isUpper || c.isLower) = true
    rw [lower, Bool.or_true]
  rw [isNameStart, alpha]
  rfl

theorem range_of_isLower {c : Char} (lower : c.isLower = true) : 97 ≤ c.toNat ∧ c.toNat ≤ 122 := by
  have both : (decide (c.val ≥ 'a'.val) && decide (c.val ≤ 'z'.val)) = true := lower
  simpa [UInt32.le_iff_toNat_le, ← Char.toNat_val] using both

theorem isDigit_of_isLower {c : Char} (lower : c.isLower = true) : c.isDigit = false := by
  obtain ⟨least, -⟩ := range_of_isLower lower
  rw [Bool.eq_false_iff]
  intro digit
  have most : c.toNat ≤ 57 := by
    have both : 48 ≤ c.toNat ∧ c.toNat ≤ 57 := by
      simpa [Char.isDigit, UInt32.le_iff_toNat_le, ← Char.toNat_val] using digit
    exact both.2
  omega

theorem isBlank_of_isLower {c : Char} (lower : c.isLower = true) : Text.isBlank c = false := by
  have range := range_of_isLower lower
  simp only [Text.isBlank, Bool.or_eq_false_iff, Bool.and_eq_false_iff, decide_eq_false_iff_not,
    beq_eq_false_iff_ne]
  omega

theorem isPlainName (letters : IsLetters w) : IsPlainName w := by
  obtain ⟨nonempty, lower⟩ := letters
  refine ⟨?_, fun c mem => isNameChar_of_isNameStart (isNameStart_of_isLower (lower c mem))⟩
  rcases w with _ | ⟨c, w⟩
  · exact (nonempty rfl).elim
  · exact startsName_of_isNameStart (isNameStart_of_isLower (lower c List.mem_cons_self)) w

theorem isBlank_eq_false (letters : IsLetters w) : ∀ c ∈ w, Text.isBlank c = false :=
  fun c mem => isBlank_of_isLower (letters.lower c mem)

end IsLetters

/-! ## Letters as components -/

theorem conditionText_of_blank {v w s : List Char} {cs : List Component}
    (shown : textApart cs = s) (solid : ∀ c ∈ s, Text.isBlank c = false) :
    Stylesheet.conditionText (blank v ++ cs ++ blank w) = String.ofList s := by
  rw [Stylesheet.conditionText, textApart_blank, shown]
  have trimmed := trim_of_forall .nil .nil solid
  rw [List.nil_append, List.append_nil] at trimmed
  rw [trimmed]

theorem textApart_name {name : List Char} (plain : IsPlainName name) :
    textApart [.token .start (.ident name)] = name := by
  have only : textApart [.token .start (.ident name)] = identText name ++ [] := rfl
  rw [only, plain.identText_eq, List.append_nil]

theorem textApart_point {name : List Char} (plain : IsPlainName name) :
    textApart [.token .start (.literal ['.']), .token .start (.ident name)] = '.' :: name := by
  have only : textApart [.token .start (.literal ['.']), .token .start (.ident name)] =
      '.' :: (identText name ++ []) := rfl
  rw [only, plain.identText_eq, List.append_nil]

theorem forall_mem_blank {P : Component → Prop}
    (holds : ∀ text, P (.token .start (.whitespace text))) (w : List Char) :
    ∀ c ∈ blank w, P c := by
  intro c mem
  obtain ⟨text, rfl⟩ := isWhitespace_of_mem_blank mem
  exact holds text

namespace IsLetters

variable {w : List Char}

theorem isCondition {p : String} (letters : IsLetters p.toList) (closer : Option Bracket) :
    Stylesheet.IsCondition closer p := by
  have plain := letters.isPlainName
  intro v w left right
  obtain ⟨cs, spelled, u, t, rfl, -, -⟩ :=
    readsAs_of_spells (spells_name plain) plain.unspaced_append v w left right
  refine ⟨_, spelled, ?_, ?_⟩
  · rw [conditionText_of_blank (textApart_name plain) letters.isBlank_eq_false,
      String.ofList_toList]
  · refine List.forall_mem_append.2 ⟨List.forall_mem_append.2 ⟨?_, ?_⟩, ?_⟩
    · exact forall_mem_blank (fun _ => ⟨rfl, rfl⟩) u
    · exact List.forall_mem_singleton.2 ⟨rfl, rfl⟩
    · exact forall_mem_blank (fun _ => ⟨rfl, rfl⟩) t

theorem text_name (v t : List Char) (plain : IsPlainName w) :
    Css.text (blank v ++ [.token .start (.ident w)] ++ blank t) = v ++ w ++ t := by
  have only : Css.text [.token .start (.ident w)] = identText w ++ [] := rfl
  have apart : ∀ c ∈ [Component.token .start (.ident w)], c.contact ≠ .mark '\\' :=
    List.forall_mem_singleton.2 (Contact.noConfusion : Contact.name ≠ .mark '\\')
  rw [text_blank apart, only, plain.identText_eq, List.append_nil]

theorem valueOf?_name (v t name : List Char) :
    Stylesheet.valueOf? (blank v ++ [.token .start (.ident name)] ++ blank t) =
      some (Stylesheet.valueText (blank v ++ [.token .start (.ident name)] ++ blank t) false) := by
  have passed (s : Entry.Progress) (w : List Char) : ∃ count,
      (blank w).foldl Entry.Progress.step s = { s with count := count } := by
    unfold blank
    split
    · exact ⟨s.count, rfl⟩
    · obtain ⟨count, importance, occupied, block⟩ := s
      exact ⟨count + 1, by cases importance <;> rfl⟩
  have read : (Entry.Progress.ofValue
      (blank v ++ [.token .start (.ident name)] ++ blank t)).block = false ∧
      (Entry.Progress.ofValue
        (blank v ++ [.token .start (.ident name)] ++ blank t)).importance = .plain := by
    obtain ⟨count, before⟩ := passed ⟨0, .plain, false, false⟩ v
    rw [Entry.Progress.ofValue, List.foldl_append, List.foldl_append, before, List.foldl_cons,
      List.foldl_nil]
    obtain ⟨total, after⟩ := passed
      (Entry.Progress.step ⟨count, .plain, false, false⟩ (.token .start (.ident name))) t
    rw [after]
    exact ⟨rfl, rfl⟩
  rw [Stylesheet.valueOf?, read.1, read.2, if_neg Bool.false_ne_true]

end IsLetters

theorem Declaration.IsLetters.isLegible {d : Declaration} (letters : d.IsLetters) :
    d.IsLegible := by
  have plain := letters.value.isPlainName
  refine ⟨letters.property.isPlainName, fun v w left right => ?_⟩
  obtain ⟨cs, spelled, u, t, rfl, before, after⟩ :=
    readsAs_of_spells (spells_name plain) plain.unspaced_append v w left right
  refine ⟨_, spelled, ?_, ?_⟩
  · have trimmed := trim_of_forall before after letters.value.isBlank_eq_false
    rw [CriticalCss.IsLetters.valueOf?_name, Stylesheet.valueText,
      CriticalCss.IsLetters.text_name u t plain, trimmed]
    simp
  · refine List.forall_mem_append.2 ⟨List.forall_mem_append.2 ⟨?_, ?_⟩, ?_⟩
    · exact forall_mem_blank (fun _ => rfl) u
    · exact List.forall_mem_singleton.2 rfl
    · exact forall_mem_blank (fun _ => rfl) t

theorem IsClass.isSelector {s : String} (isClass : IsClass s) (closer : Option Bracket) :
    Stylesheet.IsSelector closer (Node.CanBegin closer) s := by
  obtain ⟨name, shape, letters⟩ := isClass
  have plain := letters.isPlainName
  have spelled : Spells closer Stops ('.' :: name)
      [.token .start (.literal ['.']), .token .start (.ident name)] := by
    refine spells_point.append (spells_name plain) fun k _ c first => ?_
    rcases name with _ | ⟨d, name⟩
    · exact (letters.nonempty rfl).elim
    · cases first
      have lower : c.isLower = true := letters.lower c List.mem_cons_self
      refine ⟨IsLetters.isDigit_of_isLower lower, ?_⟩
      rintro rfl
      cases lower
  refine ⟨?_, fun v w left right => ?_⟩
  · rintro rfl
    cases shape
  · have begins (k : List Char) : Unspaced ('.' :: name ++ k) := by
      intro c first
      cases first
      rfl
    obtain ⟨cs, whole, u, t, rfl, before, after⟩ :=
      readsAs_of_spells spelled begins v w left right
    rw [← shape] at whole
    have solid : ∀ c ∈ '.' :: name, Text.isBlank c = false :=
      List.forall_mem_cons.2 ⟨rfl, letters.isBlank_eq_false⟩
    refine ⟨_, whole, ?_, ?_, .token .start (.literal ['.']), ?_, rfl, rfl, fun _ => rfl⟩
    · rw [conditionText_of_blank (textApart_point plain) solid, ← shape, String.ofList_toList]
    · refine List.forall_mem_append.2 ⟨List.forall_mem_append.2 ⟨?_, ?_⟩, ?_⟩
      · exact forall_mem_blank (fun _ => ⟨rfl, rfl⟩) u
      · exact List.forall_mem_cons.2 ⟨⟨rfl, rfl⟩, List.forall_mem_singleton.2 ⟨rfl, rfl⟩⟩
      · exact forall_mem_blank (fun _ => ⟨rfl, rfl⟩) t
    · unfold blank
      split <;> rfl

theorem StyleRule.IsLetters.isLegible {r : StyleRule} (letters : r.IsLetters)
    (closer : Option Bracket) : r.IsLegible closer := by
  refine ⟨?_, fun d mem => (letters.declarations d mem).isLegible⟩
  cases shape : r.selectors with
  | nil => exact (letters.nonempty shape).elim
  | cons first others =>
    have each : ∀ s ∈ first :: others, IsClass s := shape ▸ letters.selectors
    refine ⟨first, others, rfl, (each first List.mem_cons_self).isSelector closer,
      fun s mem => ?_⟩
    obtain ⟨nonempty, reads⟩ := (each s (List.mem_cons_of_mem _ mem)).isSelector closer
    refine ⟨nonempty, fun v w left right => ?_⟩
    obtain ⟨cs, spelled, shown, free, c, leads, -⟩ := reads v w left right
    exact ⟨cs, spelled, shown, free, c, leads, trivial⟩

theorem Rule.IsLetters.isLegible {r : Rule} (letters : r.IsLetters) : r.IsLegible none := by
  cases letters with
  | style letters => exact .style (letters.isLegible none)
  | fontFace letters => exact .fontFace fun d mem => (letters d mem).isLegible
  | group condition inner =>
    refine .group (condition.isCondition none) fun r mem => ?_
    obtain ⟨style, rfl, letters⟩ := inner r mem
    exact .style (letters.isLegible (some .curly))

namespace Stylesheet

/-- **Reading undoes printing on stylesheets of letters.** -/
theorem parseStrict_print_of_isLetters {sheet : Stylesheet} (letters : ∀ r ∈ sheet, r.IsLetters)
    (layout : Layout) :
    ∃ sheet', parseStrict (print layout sheet) = .ok sheet' ∧
      sheet'.map Rule.erase = sheet.map Rule.erase :=
  parseStrict_print_of_legible (fun r mem => (letters r mem).isLegible) layout

theorem parseStrict_print_of_isLetters_of_three_rules :
    ∃ sheet', parseStrict (print .pretty
        [.group .media "print" [.style ⟨[".a", ".bc"], [], none⟩] none,
          .fontFace [⟨"src", "x"⟩] (some ⟨7, 1⟩),
          .style ⟨[".a"], [⟨"color", "red"⟩, ⟨"width", "auto"⟩], none⟩]) = .ok sheet' ∧
      sheet'.map Rule.erase =
        [.group .media "print" [.style ⟨[".a", ".bc"], [], none⟩] none,
          .fontFace [⟨"src", "x"⟩] none,
          .style ⟨[".a"], [⟨"color", "red"⟩, ⟨"width", "auto"⟩], none⟩] := by
  have letters (s : String) (lower : (!s.toList.isEmpty && s.toList.all Char.isLower) = true) :
      IsLetters s.toList := isLetters_of_all lower
  have two : StyleRule.IsLetters ⟨[".a", ".bc"], [], none⟩ := by
    refine ⟨nofun, List.forall_mem_cons.2 ⟨⟨['a'], rfl, ?_⟩, List.forall_mem_singleton.2
      ⟨['b', 'c'], rfl, ?_⟩⟩, nofun⟩
    · exact letters "a" (by decide)
    · exact letters "bc" (by decide)
  have one : StyleRule.IsLetters ⟨[".a"], [⟨"color", "red"⟩, ⟨"width", "auto"⟩], none⟩ := by
    refine ⟨nofun, List.forall_mem_singleton.2 ⟨['a'], rfl, letters "a" (by decide)⟩,
      List.forall_mem_cons.2 ⟨⟨?_, ?_⟩, List.forall_mem_singleton.2 ⟨?_, ?_⟩⟩⟩
    · exact letters "color" (by decide)
    · exact letters "red" (by decide)
    · exact letters "width" (by decide)
    · exact letters "auto" (by decide)
  have face : ∀ d ∈ [(⟨"src", "x"⟩ : Declaration)], d.IsLetters :=
    List.forall_mem_singleton.2 ⟨letters "src" (by decide), letters "x" (by decide)⟩
  have all : ∀ r ∈ [.group .media "print" [.style ⟨[".a", ".bc"], [], none⟩] none,
      .fontFace [⟨"src", "x"⟩] (some ⟨7, 1⟩),
      .style ⟨[".a"], [⟨"color", "red"⟩, ⟨"width", "auto"⟩], none⟩], Rule.IsLetters r := by
    refine List.forall_mem_cons.2 ⟨?_, List.forall_mem_cons.2 ⟨.fontFace face,
      List.forall_mem_singleton.2 (.style one)⟩⟩
    exact .group (letters "print" (by decide)) (List.forall_mem_singleton.2 ⟨_, rfl, two⟩)
  exact parseStrict_print_of_isLetters all .pretty

end Stylesheet

end CriticalCss
