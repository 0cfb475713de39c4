import CriticalCss.Proofs.Stylesheet.Content
import CriticalCss.Stylesheet.Duplicate
import Mathlib.Data.List.Perm.Basic

/-!
# Duplicates say the same

Rules are `Rule.Alike` if they say the same up to the order of their own declarations and to the
places where they were read. These are the rules that are found to be duplicates
(`Rule.isDuplicate_iff_alike`).

A comparison may leave out more members than the places. `Rule.AlikeBut` says which rules it then
finds to be duplicates, as long as the two parts of a declaration are not left out
(`Rule.isDuplicate_iff_alikeBut`). It is an equivalence, and it grows with what is left out.
-/

namespace CriticalCss

namespace Json

mutual

/-- Stripping depends only on which names are excluded. -/
theorem strip_congr {as bs : List String} (same : ∀ name, name ∈ as ↔ name ∈ bs) :
    ∀ j : Json, j.strip as = j.strip bs
  | .arr items => congrArg arr (stripItems_congr same items)
  | .obj members => congrArg obj (stripMembers_congr same members)
  | .null | .bool _ | .int _ | .float _ | .str _ => rfl

theorem stripItems_congr {as bs : List String} (same : ∀ name, name ∈ as ↔ name ∈ bs) :
    ∀ items : List Json, strip.stripItems as items = strip.stripItems bs items
  | [] => rfl
  | item :: rest => by
    rw [strip.stripItems, strip.stripItems, strip_congr same item, stripItems_congr same rest]

theorem stripMembers_congr {as bs : List String} (same : ∀ name, name ∈ as ↔ name ∈ bs) :
    ∀ members : List (String × Json),
      strip.stripMembers as members = strip.stripMembers bs members
  | [] => rfl
  | (name, value) :: rest => by
    simp only [strip.stripMembers, same name, strip_congr same value, stripMembers_congr same rest]

end

mutual

/-- What is stripped first may as well be stripped later. -/
theorem strip_strip {as bs : List String} (sub : as ⊆ bs) :
    ∀ j : Json, (j.strip as).strip bs = j.strip bs
  | .arr items => congrArg arr (stripItems_stripItems sub items)
  | .obj members => congrArg obj (stripMembers_stripMembers sub members)
  | .null | .bool _ | .int _ | .float _ | .str _ => rfl

theorem stripItems_stripItems {as bs : List String} (sub : as ⊆ bs) :
    ∀ items : List Json,
      strip.stripItems bs (strip.stripItems as items) = strip.stripItems bs items
  | [] => rfl
  | item :: rest => by
    simp only [strip.stripItems, strip_strip sub item, stripItems_stripItems sub rest]

theorem stripMembers_stripMembers {as bs : List String} (sub : as ⊆ bs) :
    ∀ members : List (String × Json),
      strip.stripMembers bs (strip.stripMembers as members) = strip.stripMembers bs members
  | [] => rfl
  | (name, value) :: rest => by
    rw [strip.stripMembers, strip.stripMembers]
    by_cases gone : name ∈ as
    · rw [if_pos gone, if_pos (sub gone), stripMembers_stripMembers sub rest]
    · rw [if_neg gone, strip.stripMembers, strip_strip sub value,
        stripMembers_stripMembers sub rest]

end

/-! ## One member set apart -/

/-- The object with one more member in front, if one is given. -/
def withMember (name : String) : Option Json → Json → Json
  | some value, obj members => obj ((name, value) :: members)
  | _, j => j

theorem lookup_stripMembers (excluded : List String) (name : String)
    (members : List (String × Json)) :
    (strip.stripMembers excluded members).lookup name =
      if name ∈ excluded then none else (members.lookup name).map (strip excluded) := by
  induction members with
  | nil => simp [strip.stripMembers]
  | cons member rest ih =>
    obtain ⟨key, value⟩ := member
    rw [strip.stripMembers]
    by_cases same : name = key
    · subst same
      by_cases gone : name ∈ excluded
      · rw [if_pos gone, ih, if_pos gone, if_pos gone]
      · rw [if_neg gone, if_neg gone, List.lookup_cons_self, List.lookup_cons_self,
          Option.map_some]
    · have apart : (name == key) = false := beq_eq_false_iff_ne.2 same
      rw [List.lookup_cons, apart, ← ih]
      by_cases gone : key ∈ excluded
      · rw [if_pos gone]
      · rw [if_neg gone, List.lookup_cons, apart]

theorem filter_stripMembers (excluded : List String) (stays : String → Bool)
    (members : List (String × Json)) :
    (strip.stripMembers excluded members).filter (fun m => stays m.1) =
      strip.stripMembers excluded (members.filter fun m => stays m.1) := by
  induction members with
  | nil => rfl
  | cons member rest ih =>
    obtain ⟨key, value⟩ := member
    by_cases gone : key ∈ excluded <;> cases kept : stays key <;>
      simp [strip.stripMembers, gone, kept, ih]

/-- Stripping leaves a member set apart from the others. -/
theorem splitMember_strip (excluded : List String) (name : String) (j : Json) :
    (j.strip excluded).splitMember name =
      (if name ∈ excluded then none else (j.splitMember name).1.map (strip excluded),
        (j.splitMember name).2.strip excluded) := by
  cases j with
  | obj members =>
    refine Prod.ext (lookup_stripMembers excluded name members) (congrArg obj ?_)
    exact filter_stripMembers excluded (fun key => key ≠ name) members
  | _ => simp [strip, splitMember]

theorem strip_withMember (excluded : List String) (name : String) (value : Option Json) (j : Json) :
    (withMember name value j).strip excluded =
      if name ∈ excluded then j.strip excluded
      else withMember name (value.map (strip excluded)) (j.strip excluded) := by
  cases value with
  | none => simp [withMember]
  | some value =>
    cases j with
    | obj members =>
      by_cases gone : name ∈ excluded <;> simp [withMember, strip, strip.stripMembers, gone]
    | _ => simp [withMember, strip]

end Json

theorem sameCounts_iff_perm {α : Type} [DecidableEq α] {as bs : List α} :
    sameCounts as bs = true ↔ as.Perm bs := by
  rw [sameCounts, List.all_eq_true, List.perm_iff_count]
  constructor
  · intro given a
    by_cases mem : a ∈ as ++ bs
    · simpa using given a mem
    · rw [List.mem_append, not_or] at mem
      rw [List.count_eq_zero_of_not_mem mem.1, List.count_eq_zero_of_not_mem mem.2]
  · intro given a _
    simpa using given a

namespace Rule

/-! ## Rules that say the same -/

/-- The rule without its own declarations. -/
def withoutDeclarations : Rule → Rule
  | style r => style { r with declarations := [] }
  | fontFace _ position => fontFace [] position
  | keyframe f => keyframe { f with declarations := [] }
  | r => r

/-- The two rules say the same, where the order of their own declarations does not count, nor do
positions at any depth. -/
def Alike (a b : Rule) : Prop :=
  a.withoutDeclarations.erase = b.withoutDeclarations.erase ∧ a.declarations.Perm b.declarations

theorem Alike.refl (a : Rule) : a.Alike a :=
  ⟨rfl, List.Perm.refl _⟩

theorem Alike.symm {a b : Rule} (alike : a.Alike b) : b.Alike a :=
  ⟨alike.1.symm, alike.2.symm⟩

theorem Alike.trans {a b c : Rule} (ab : a.Alike b) (bc : b.Alike c) : a.Alike c :=
  ⟨ab.1.trans bc.1, ab.2.trans bc.2⟩

theorem kind_withoutDeclarations (r : Rule) : r.withoutDeclarations.kind = r.kind := by
  cases r <;> rfl

theorem erase_withoutDeclarations (r : Rule) :
    r.withoutDeclarations.erase = r.erase.withoutDeclarations := by
  cases r <;> rfl

/-- Rules that differ in positions only are alike. -/
theorem Alike.of_erase {a b : Rule} (same : a.erase = b.erase) : a.Alike b := by
  have own : ∀ r : Rule, r.erase.declarations = r.declarations := fun r => by cases r <;> rfl
  constructor
  · rw [erase_withoutDeclarations, same, erase_withoutDeclarations]
  · rw [← own a, same, own b]

/-- The two rules say the same apart from the excluded members, where the order of their own
declarations does not count, nor do positions at any depth. -/
structure AlikeBut (excluded : List String) (a b : Rule) : Prop where
  kind : a.kind = b.kind
  others : a.withoutDeclarations.content (positionMembers ++ excluded) =
    b.withoutDeclarations.content (positionMembers ++ excluded)
  own : "declarations" ∉ excluded → a.declarations.Perm b.declarations

namespace AlikeBut

variable {excluded : List String} {a b c : Rule}

theorem refl (a : Rule) : a.AlikeBut excluded a :=
  ⟨rfl, rfl, fun _ => .refl _⟩

theorem symm (alike : a.AlikeBut excluded b) : b.AlikeBut excluded a :=
  ⟨alike.kind.symm, alike.others.symm, fun stays => (alike.own stays).symm⟩

theorem trans (ab : a.AlikeBut excluded b) (bc : b.AlikeBut excluded c) :
    a.AlikeBut excluded c :=
  ⟨ab.kind.trans bc.kind, ab.others.trans bc.others,
    fun stays => (ab.own stays).trans (bc.own stays)⟩

/-- More rules are alike if more is left out. -/
theorem mono {larger : List String} (sub : excluded ⊆ larger) (alike : a.AlikeBut excluded b) :
    a.AlikeBut larger b where
  kind := alike.kind
  others := by
    have deeper : ∀ j : Json, (j.strip (positionMembers ++ excluded)).strip
        (positionMembers ++ larger) = j.strip (positionMembers ++ larger) :=
      Json.strip_strip (List.append_subset.2
        ⟨List.subset_append_left _ _, List.subset_append_of_subset_right _ sub⟩)
    rw [content, content, ← deeper, ← content, alike.others, content, deeper]
  own := fun stays => alike.own fun gone => stays (sub gone)

end AlikeBut

/-! ## The data of a rule in two parts -/

/-- The data of a rule apart from the declarations. -/
def otherJson (r : Rule) : Json :=
  (r.toJson.splitMember "declarations").2

theorem splitMember_toJson (r : Rule) :
    r.toJson.splitMember "declarations" =
      (r.declarations?.map Declaration.listToJson, r.otherJson) := by
  refine Prod.ext ?_ rfl
  cases r with
  | group kind => cases kind <;> rfl
  | _ => rfl

theorem otherJson_withoutDeclarations (r : Rule) :
    r.withoutDeclarations.otherJson = r.otherJson := by
  cases r <;> rfl

/-- The kind of a rule tells whether it has declarations. -/
theorem declarations?_withoutDeclarations (r : Rule) :
    r.withoutDeclarations.declarations? =
      if r.kind ∈ [.style, .fontFace, .keyframe] then some [] else none := by
  cases r with
  | group kind => cases kind <;> rfl
  | _ => rfl

/-- The data of a rule is put together from its two parts. -/
theorem toJson_eq_withMember (r : Rule) :
    r.toJson = Json.withMember "declarations"
      (r.declarations?.map Declaration.listToJson) r.otherJson := by
  cases r with
  | group kind => cases kind <;> rfl
  | _ => rfl

/-- Rules of one kind agree without their declarations if the rest of their data does. -/
theorem content_withoutDeclarations_eq_iff {excluded : List String} {a b : Rule}
    (kinds : a.kind = b.kind) :
    a.withoutDeclarations.content excluded = b.withoutDeclarations.content excluded ↔
      a.otherJson.strip excluded = b.otherJson.strip excluded := by
  have rest : ∀ r : Rule, ((r.withoutDeclarations.content excluded).splitMember
      "declarations").2 = r.otherJson.strip excluded := fun r => by
    rw [content, Json.splitMember_strip, ← otherJson, otherJson_withoutDeclarations]
  constructor
  · intro same
    rw [← rest a, same, rest b]
  · intro same
    simp only [content, toJson_eq_withMember, Json.strip_withMember,
      declarations?_withoutDeclarations, otherJson_withoutDeclarations, kinds, same]

/-- The declarations that are compared one by one. -/
theorem items_splitMember_content {excluded : List String} (property : "property" ∉ excluded)
    (value : "value" ∉ excluded) (r : Rule) :
    ((r.content excluded).splitMember "declarations").1.elim [] Json.items =
      if "declarations" ∈ excluded then [] else r.declarations.map Declaration.toJson := by
  rw [content, Json.splitMember_strip, splitMember_toJson]
  by_cases gone : "declarations" ∈ excluded
  · rw [if_pos gone, if_pos gone, Option.elim_none]
  · rw [if_neg gone, if_neg gone, declarations]
    cases r.declarations? with
    | none => rfl
    | some ds =>
      simp only [Option.map_some, Declaration.strip_listToJson_of property value]
      rfl

/-- Declarations are compared in any order, unless they are left out. -/
theorem sameCounts_items_iff {excluded : List String} (property : "property" ∉ excluded)
    (value : "value" ∉ excluded) {a b : Rule} :
    sameCounts (((a.content excluded).splitMember "declarations").1.elim [] Json.items)
        (((b.content excluded).splitMember "declarations").1.elim [] Json.items) = true ↔
      ("declarations" ∉ excluded → a.declarations.Perm b.declarations) := by
  rw [items_splitMember_content property value, items_splitMember_content property value,
    sameCounts_iff_perm]
  by_cases gone : "declarations" ∈ excluded
  · simp [gone]
  · rw [if_neg gone, if_neg gone, List.map_perm_map_iff fun _ _ => Declaration.toJson_inj]
    exact (imp_iff_right gone).symm

/-! ## Duplicates -/

/-- **Duplicates are the rules that say the same**, apart from what is left out. -/
theorem isDuplicate_iff_alikeBut {excluded : List String} (property : "property" ∉ excluded)
    (value : "value" ∉ excluded) {a b : Rule} :
    a.isDuplicate excluded b = true ↔ a.AlikeBut excluded b := by
  have here : ∀ name, name ≠ "position" → (name ∈ positionMembers ++ excluded ↔ name ∈ excluded) :=
    fun name other => by simp [other]
  have rest : ∀ r : Rule, ((r.content (positionMembers ++ excluded)).splitMember
      "declarations").2 = r.otherJson.strip (positionMembers ++ excluded) := fun r => by
    rw [content, Json.splitMember_strip, ← otherJson]
  rw [← here _ (by decide)] at property value
  rw [isDuplicate]
  simp only [Bool.and_eq_true, decide_eq_true_eq, rest, sameCounts_items_iff property value,
    here "declarations" (by decide)]
  constructor
  · intro given
    rcases given with ⟨⟨kinds, others⟩, own⟩
    exact ⟨kinds, (content_withoutDeclarations_eq_iff kinds).2 others, own⟩
  · intro alike
    exact ⟨⟨alike.kind, (content_withoutDeclarations_eq_iff alike.kind).1 alike.others⟩,
      alike.own⟩

/-- Rules that say the same are alike, whatever is left out. -/
theorem Alike.alikeBut {excluded : List String} {a b : Rule} (alike : a.Alike b) :
    a.AlikeBut excluded b := by
  have same : a.withoutDeclarations.content positionMembers =
      b.withoutDeclarations.content positionMembers := by
    rw [← content_erase, alike.1, content_erase]
  have kinds := kind_eq_of_content same
  rw [kind_withoutDeclarations, kind_withoutDeclarations] at kinds
  have whole : a.AlikeBut [] b := ⟨kinds, by rw [List.append_nil, same], fun _ => alike.2⟩
  exact whole.mono (List.nil_subset excluded)

/-- **Duplicates are the rules that say the same.** -/
theorem isDuplicate_iff_alike {a b : Rule} :
    a.isDuplicate positionMembers b = true ↔ a.Alike b := by
  rw [isDuplicate_iff_alikeBut (by decide) (by decide)]
  refine ⟨fun alike => ?_, Alike.alikeBut⟩
  have contents : ∀ r : Rule, r.content (positionMembers ++ positionMembers) =
      r.content positionMembers := fun r => Json.strip_congr (by simp) r.toJson
  have same := alike.others
  rw [contents, contents] at same
  exact ⟨erase_eq_of_content _ same, alike.own (by decide)⟩

/-- **Being a duplicate is an equivalence.** Whatever is left out, as long as it is neither part of
a declaration, duplicates are the rules that are alike apart from it. So rules that say the same
are duplicates, and duplicates stay duplicates if more is left out. -/
theorem isDuplicate_equivalence (excluded : List String) (property : "property" ∉ excluded)
    (value : "value" ∉ excluded) :
    Equivalence (fun a b : Rule => a.isDuplicate excluded b = true) ∧
    (∀ a b : Rule, a.isDuplicate excluded b = true ↔ a.AlikeBut excluded b) ∧
    (∀ a b : Rule, a.Alike b → a.isDuplicate excluded b = true) ∧
    ∀ larger, excluded ⊆ larger → "property" ∉ larger → "value" ∉ larger →
      ∀ a b : Rule, a.isDuplicate excluded b = true → a.isDuplicate larger b = true := by
  have means : ∀ a b : Rule, a.isDuplicate excluded b = true ↔ a.AlikeBut excluded b :=
    fun _ _ => isDuplicate_iff_alikeBut property value
  refine ⟨?_, means, fun a b alike => (means a b).2 alike.alikeBut, ?_⟩
  · simp only [means]
    exact ⟨AlikeBut.refl, AlikeBut.symm, AlikeBut.trans⟩
  · intro larger sub property value a b duplicate
    exact (isDuplicate_iff_alikeBut property value).2 (((means a b).1 duplicate).mono sub)

/-- The selectors are left out, then the declarations, too. The rules repeat a declaration, and the
first one is a duplicate of the last by way of the second. -/
theorem isDuplicate_equivalence_without_selectors :
    let a : Rule := .style ⟨["s"], [⟨"p", "1"⟩, ⟨"q", "2"⟩, ⟨"p", "1"⟩], none⟩
    let b : Rule := .style ⟨["t", "s"], [⟨"p", "1"⟩, ⟨"p", "1"⟩, ⟨"q", "2"⟩], some ⟨1, 1⟩⟩
    let c : Rule := .style ⟨["t", "s"], [⟨"q", "2"⟩, ⟨"p", "1"⟩, ⟨"p", "1"⟩], some ⟨2, 5⟩⟩
    b.Alike c ∧ b.isDuplicate ["selectors"] c = true ∧ a.isDuplicate ["selectors"] c = true ∧
      c.isDuplicate ["declarations", "selectors"] a = true := by
  intro a b c
  have alike : b.Alike c := ⟨rfl, by decide⟩
  obtain ⟨equivalence, -, same, grows⟩ :=
    isDuplicate_equivalence ["selectors"] (by decide) (by decide)
  have first : a.isDuplicate ["selectors"] b = true := by decide +kernel
  have second := same b c alike
  have whole := equivalence.trans first second
  exact ⟨alike, second, whole, grows ["declarations", "selectors"] (by decide) (by decide)
    (by decide) c a (equivalence.symm whole)⟩

/-- Duplicates are of one kind. -/
theorem kind_eq_of_isDuplicate {excluded : List String} {a b : Rule}
    (duplicate : a.isDuplicate excluded b = true) : a.kind = b.kind := by
  rw [isDuplicate] at duplicate
  simp only [Bool.and_eq_true, decide_eq_true_eq] at duplicate
  exact duplicate.1.1

theorem isDuplicate_comm (a b : Rule) :
    a.isDuplicate positionMembers b = b.isDuplicate positionMembers a := by
  rw [Bool.eq_iff_iff, isDuplicate_iff_alike, isDuplicate_iff_alike]
  exact ⟨Alike.symm, Alike.symm⟩

end Rule

end CriticalCss
