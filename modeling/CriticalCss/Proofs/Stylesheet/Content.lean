import CriticalCss.Proofs.Json.Text
import CriticalCss.Stylesheet.Content

/-!
# The digested texts identify content

The text whose digest names a rule tells the rule up to positions: `Rule.payload` agrees on two
rules exactly when `Rule.erase` does. The text of a list of declarations tells the list.
-/

namespace CriticalCss

/-! ## Stripped data -/

@[simp] theorem mem_positionMembers {name : String} :
    name ∈ positionMembers ↔ name = "position" :=
  List.mem_singleton

namespace Json

@[simp] theorem strip_str (excluded : List String) (s : String) :
    strip excluded (str s) = str s := rfl

@[simp] theorem strip_ofOption (excluded : List String) (s : Option String) :
    strip excluded (ofOption s) = ofOption s := by
  cases s <;> rfl

theorem ofOption_inj {a b : Option String} (h : ofOption a = ofOption b) : a = b := by
  cases a <;> cases b <;> simp_all [ofOption]

@[simp] theorem strip_strings (excluded texts : List String) :
    strip excluded (.strings texts) = .strings texts := by
  have items : ∀ ts : List String, strip.stripItems excluded (ts.map str) = ts.map str := by
    intro ts
    induction ts with
    | nil => rfl
    | cons t ts ih => rw [List.map_cons, strip.stripItems, ih, strip_str]
  rw [Json.strings, strip, items]

theorem strings_inj {as bs : List String} (h : Json.strings as = Json.strings bs) : as = bs :=
  (List.map_inj_right fun _ _ => Json.str.inj).1 (Json.arr.inj h)

theorem numberless_strings (texts : List String) : (Json.strings texts).Numberless := by
  have items : ∀ ts : List String, Numberless.allItems (ts.map str) := by
    intro ts
    induction ts with
    | nil => trivial
    | cons t ts ih => exact ⟨trivial, ih⟩
  exact items texts

end Json

namespace Declaration

/-- Declarations are left whole if neither part of them is excluded. -/
theorem strip_listToJson_of {excluded : List String} (property : "property" ∉ excluded)
    (value : "value" ∉ excluded) (ds : List Declaration) :
    (listToJson ds).strip excluded = listToJson ds := by
  have items : ∀ ds : List Declaration,
      Json.strip.stripItems excluded (ds.map toJson) = ds.map toJson := by
    intro ds
    induction ds with
    | nil => rfl
    | cons d ds ih =>
      rw [List.map_cons, Json.strip.stripItems, ih]
      simp [toJson, Json.strip, Json.strip.stripMembers, property, value]
  rw [listToJson, Json.strip, items]

@[simp] theorem strip_listToJson (ds : List Declaration) :
    (listToJson ds).strip positionMembers = listToJson ds :=
  strip_listToJson_of (by decide) (by decide) ds

theorem toJson_inj {d e : Declaration} (h : d.toJson = e.toJson) : d = e := by
  cases d
  cases e
  simpa [toJson] using h

theorem listToJson_inj {ds es : List Declaration} (h : listToJson ds = listToJson es) : ds = es :=
  (List.map_inj_right fun _ _ => toJson_inj).1 (Json.arr.inj h)

theorem numberless_listToJson (ds : List Declaration) : (listToJson ds).Numberless := by
  have items : ∀ ds : List Declaration, Json.Numberless.allItems (ds.map toJson) := by
    intro ds
    induction ds with
    | nil => trivial
    | cons d ds ih => exact ⟨⟨trivial, trivial, trivial⟩, ih⟩
  exact items ds

theorem numberless_pairs (ds : List Declaration) :
    (Json.arr (ds.map fun d => .strings [d.property, d.value])).Numberless := by
  induction ds with
  | nil => trivial
  | cons d ds ih => exact ⟨Json.numberless_strings _, ih⟩

/-- The digested text of declarations tells them. -/
theorem payload_inj {ds es : List Declaration} (h : payload ds = payload es) : ds = es := by
  have pairs := Json.arr.inj (Json.text_inj (numberless_pairs ds) (numberless_pairs es) h)
  refine (List.map_inj_right fun d e same => ?_).1 pairs
  cases d
  cases e
  simpa using Json.strings_inj same

end Declaration

/-! ## The content of each kind of rule -/

/-- A keyframe as data, its place left out. -/
def Keyframe.contentJson (f : Keyframe) : Json :=
  .obj [("declarations", Declaration.listToJson f.declarations),
    ("type", .str RuleKind.keyframe.tag), ("values", .strings f.values)]

theorem Keyframe.strip_toJson (f : Keyframe) :
    f.toJson.strip positionMembers = f.contentJson := by
  simp [toJson, contentJson, Json.strip, Json.strip.stripMembers]

theorem Keyframe.contentJson_inj {f g : Keyframe} (h : f.contentJson = g.contentJson) :
    { f with position := none } = { g with position := none } := by
  simp only [contentJson, Json.obj.injEq, List.cons.injEq, Prod.mk.injEq, true_and,
    and_true] at h
  rw [Declaration.listToJson_inj h.1, Json.strings_inj h.2]

namespace Rule

/-- The contents of rules. -/
def contents (rules : List Rule) : List Json :=
  rules.map (content positionMembers)

/-- A rule as data, member by member, every place left out. -/
def contentJson : Rule → Json
  | style r =>
    .obj [("declarations", Declaration.listToJson r.declarations),
      ("selectors", .strings r.selectors), ("type", .str RuleKind.style.tag)]
  | atRule r =>
    .obj [("block", .ofOption r.block), ("name", .str r.name), ("prelude", .str r.prelude),
      ("type", .str RuleKind.atRule.tag)]
  | group .media condition inner _ =>
    .obj [("media", .str condition), ("rules", .arr (contents inner)),
      ("type", .str RuleKind.media.tag)]
  | group .supports condition inner _ =>
    .obj [("rules", .arr (contents inner)), ("supports", .str condition),
      ("type", .str RuleKind.supports.tag)]
  | fontFace ds _ =>
    .obj [("declarations", Declaration.listToJson ds), ("type", .str RuleKind.fontFace.tag)]
  | charset c _ => .obj [("charset", .str c), ("type", .str RuleKind.charset.tag)]
  | keyframes name vendor frames _ =>
    .obj [("keyframes", .arr (frames.map Keyframe.contentJson)), ("name", .str name),
      ("type", .str RuleKind.keyframes.tag), ("vendor", .str vendor)]
  | keyframe f => f.contentJson
  | comment t _ => .obj [("comment", .str t), ("type", .str RuleKind.comment.tag)]

theorem stripItems_listToJson (rules : List Rule) :
    Json.strip.stripItems positionMembers (toJson.listToJson rules) = contents rules := by
  induction rules with
  | nil => rfl
  | cons r rules ih =>
    rw [toJson.listToJson, Json.strip.stripItems, ih]
    rfl

theorem stripItems_keyframes (frames : List Keyframe) :
    Json.strip.stripItems positionMembers (frames.map Keyframe.toJson) =
      frames.map Keyframe.contentJson := by
  induction frames with
  | nil => rfl
  | cons f frames ih =>
    rw [List.map_cons, Json.strip.stripItems, ih, Keyframe.strip_toJson, List.map_cons]

theorem content_eq (r : Rule) : r.content positionMembers = r.contentJson := by
  cases r with
  | keyframe f => rw [content, toJson, Keyframe.strip_toJson, contentJson]
  | group kind condition inner position =>
    cases kind <;>
      simp [content, contentJson, toJson, Rule.kind, GroupKind.ruleKind, Json.strip,
        Json.strip.stripMembers, stripItems_listToJson]
  | _ =>
    simp [content, contentJson, toJson, kind, Json.strip, Json.strip.stripMembers,
      stripItems_keyframes]

/-! ## Content tells the rule -/

theorem get_type_content (r : Rule) :
    (r.content positionMembers).get "type" = .str r.kind.tag := by
  rw [content_eq]
  cases r with
  | group kind => cases kind <;> rfl
  | _ => rfl

theorem kind_eq_of_content {a b : Rule}
    (same : a.content positionMembers = b.content positionMembers) : a.kind = b.kind := by
  have tags := get_type_content a
  rw [same, get_type_content, Json.str.injEq] at tags
  generalize a.kind = k at tags ⊢
  generalize b.kind = l at tags ⊢
  cases k <;> cases l <;> first | rfl | simp [RuleKind.tag] at tags

/-- Two rules of one kind, each with its own parts. -/
inductive SameKind : Rule → Rule → Prop
  | style (r q : StyleRule) : SameKind (.style r) (.style q)
  | atRule (r q : AtRule) : SameKind (.atRule r) (.atRule q)
  | group (kind : GroupKind) (c d : String) (inner rules : List Rule) (p q : Option Position) :
    SameKind (.group kind c inner p) (.group kind d rules q)
  | fontFace (ds es : List Declaration) (p q : Option Position) :
    SameKind (.fontFace ds p) (.fontFace es q)
  | charset (c d : String) (p q : Option Position) : SameKind (.charset c p) (.charset d q)
  | keyframes (name name' vendor vendor' : String) (frames frames' : List Keyframe)
    (p q : Option Position) :
    SameKind (.keyframes name vendor frames p) (.keyframes name' vendor' frames' q)
  | keyframe (f g : Keyframe) : SameKind (.keyframe f) (.keyframe g)
  | comment (t u : String) (p q : Option Position) : SameKind (.comment t p) (.comment u q)

theorem sameKind_of_kind_eq {a b : Rule} (same : a.kind = b.kind) : SameKind a b := by
  cases a with
  | group k =>
    cases b with
    | group l => cases k <;> cases l <;> first | constructor | cases same
    | _ => cases k <;> cases same
  | _ =>
    cases b with
    | group l => cases l <;> cases same
    | _ => first | constructor | cases same

/-- The contents of keyframes tell them up to positions. -/
theorem map_bare_eq_of_contentJson {fs gs : List Keyframe}
    (same : fs.map Keyframe.contentJson = gs.map Keyframe.contentJson) :
    fs.map (fun f => { f with position := none }) =
      gs.map fun g => { g with position := none } := by
  induction fs generalizing gs with
  | nil =>
    obtain rfl := List.map_eq_nil_iff.1 same.symm
    rfl
  | cons f fs ih =>
    cases gs with
    | nil => cases same
    | cons g gs =>
      rw [List.map_cons, List.map_cons, List.cons.injEq] at same
      rw [List.map_cons, List.map_cons, Keyframe.contentJson_inj same.1, ih same.2]

mutual

/-- Rules with the same content are the same up to positions. -/
theorem erase_eq_of_content (a : Rule) {b : Rule}
    (same : a.content positionMembers = b.content positionMembers) : a.erase = b.erase := by
  have kinds := sameKind_of_kind_eq (kind_eq_of_content same)
  rw [content_eq, content_eq] at same
  cases kinds with
  | style r q =>
    simp only [contentJson, Json.obj.injEq, List.cons.injEq, Prod.mk.injEq, true_and,
      and_true] at same
    rw [erase, erase, Declaration.listToJson_inj same.1, Json.strings_inj same.2]
  | atRule r q =>
    simp only [contentJson, Json.obj.injEq, List.cons.injEq, Prod.mk.injEq, true_and, and_true,
      Json.str.injEq] at same
    rw [erase, erase, Json.ofOption_inj same.1, same.2.1, same.2.2]
  | group kind c d inner rules p q =>
    cases kind with
    | media =>
      simp only [contentJson, Json.obj.injEq, List.cons.injEq, Prod.mk.injEq, true_and, and_true,
        Json.str.injEq, Json.arr.injEq] at same
      rw [erase, erase, same.1, eraseAll_eq_of_contents inner same.2]
    | supports =>
      simp only [contentJson, Json.obj.injEq, List.cons.injEq, Prod.mk.injEq, true_and, and_true,
        Json.str.injEq, Json.arr.injEq] at same
      rw [erase, erase, same.2, eraseAll_eq_of_contents inner same.1]
  | fontFace ds es p q =>
    simp only [contentJson, Json.obj.injEq, List.cons.injEq, Prod.mk.injEq, true_and,
      and_true] at same
    rw [erase, erase, Declaration.listToJson_inj same]
  | charset c d p q | comment c d p q =>
    simp only [contentJson, Json.obj.injEq, List.cons.injEq, Prod.mk.injEq, true_and, and_true,
      Json.str.injEq] at same
    rw [erase, erase, same]
  | keyframes name name' vendor vendor' frames frames' p q =>
    simp only [contentJson, Json.obj.injEq, List.cons.injEq, Prod.mk.injEq, true_and, and_true,
      Json.str.injEq, Json.arr.injEq] at same
    rw [erase, erase, map_bare_eq_of_contentJson same.1, same.2.1, same.2.2]
  | keyframe f g => rw [erase, erase, Keyframe.contentJson_inj same]

theorem eraseAll_eq_of_contents (as : List Rule) {bs : List Rule}
    (same : contents as = contents bs) : erase.eraseAll as = erase.eraseAll bs := by
  match as, bs with
  | [], [] => rfl
  | [], _ :: _ | _ :: _, [] => simp [contents] at same
  | a :: as, b :: bs =>
    rw [contents, contents, List.map_cons, List.map_cons, List.cons.injEq] at same
    rw [erase.eraseAll, erase.eraseAll, erase_eq_of_content a same.1,
      eraseAll_eq_of_contents as same.2]

end

/-! ## The digested text tells the rule -/

theorem numberless_keyframes (frames : List Keyframe) :
    Json.Numberless.allItems (frames.map Keyframe.contentJson) := by
  induction frames with
  | nil => trivial
  | cons f frames ih =>
    exact ⟨⟨Declaration.numberless_listToJson _, trivial, Json.numberless_strings _, trivial⟩, ih⟩

mutual

theorem numberless_content (r : Rule) : (r.content positionMembers).Numberless := by
  rw [content_eq]
  match r with
  | .style _ =>
    exact ⟨Declaration.numberless_listToJson _, Json.numberless_strings _, trivial, trivial⟩
  | .atRule r =>
    refine ⟨?_, trivial, trivial, trivial, trivial⟩
    cases r.block <;> trivial
  | .group .media _ inner _ => exact ⟨trivial, numberless_contents inner, trivial, trivial⟩
  | .group .supports _ inner _ => exact ⟨numberless_contents inner, trivial, trivial, trivial⟩
  | .fontFace .. => exact ⟨Declaration.numberless_listToJson _, trivial, trivial⟩
  | .charset .. | .comment .. => exact ⟨trivial, trivial, trivial⟩
  | .keyframes _ _ frames _ =>
    exact ⟨numberless_keyframes frames, trivial, trivial, trivial, trivial⟩
  | .keyframe _ =>
    exact ⟨Declaration.numberless_listToJson _, trivial, Json.numberless_strings _, trivial⟩

theorem numberless_contents : ∀ rules : List Rule, Json.Numberless.allItems (contents rules)
  | [] => trivial
  | r :: rules => ⟨numberless_content r, numberless_contents rules⟩

end

/-- **Digested texts identify rules.** Two rules with the same text are the same up to
positions. -/
theorem erase_eq_of_payload {a b : Rule} (same : a.payload = b.payload) : a.erase = b.erase :=
  erase_eq_of_content a (Json.text_inj (numberless_content a) (numberless_content b) same)

mutual

theorem content_erase (r : Rule) :
    r.erase.content positionMembers = r.content positionMembers := by
  rw [content_eq, content_eq]
  match r with
  | .group .media _ inner _ | .group .supports _ inner _ =>
    rw [erase, contentJson, contentJson, contents_eraseAll inner]
  | .keyframes .. =>
    rw [erase, contentJson, contentJson, List.map_map]
    rfl
  | .style _ | .atRule _ | .fontFace .. | .charset .. | .keyframe _ | .comment .. => rfl

theorem contents_eraseAll : ∀ rules : List Rule, contents (erase.eraseAll rules) = contents rules
  | [] => rfl
  | r :: rules => by
    rw [erase.eraseAll, contents, contents, List.map_cons, List.map_cons, content_erase r]
    exact congrArg _ (contents_eraseAll rules)

end

/-- Positions do not count for the digest. -/
theorem digest_eq_of_erase {a b : Rule} (same : a.erase = b.erase) : a.digest = b.digest := by
  rw [digest, digest, payload, payload, ← content_erase a, same, content_erase b]

end Rule

end CriticalCss
