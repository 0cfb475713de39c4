import CriticalCss.Json.Basic
import CriticalCss.Stylesheet.Rule

/-!
# Rules as data

A rule as a JSON object and back. The object has a member `type` with the tag of the rule's kind,
a member `position`, and one for each part of the rule. The members stand in alphabetical order,
so equal rules give equal objects. When a rule is read, parts that may be empty may be missing.
-/

namespace CriticalCss

namespace Position

def toJson (p : Position) : Json :=
  .obj [("column", .int p.column), ("line", .int p.line)]

/-- A place that may be unknown. -/
def optionToJson : Option Position → Json
  | some p => p.toJson
  | none => .null

/-- Reads a place; anything but a place is an unknown one. -/
def ofJson? (j : Json) : Option Position :=
  match j.get "line", j.get "column" with
  | .int line, .int column => some ⟨line.toNat, column.toNat⟩
  | _, _ => none

end Position

namespace Declaration

def toJson (d : Declaration) : Json :=
  .obj [("property", .str d.property), ("value", .str d.value)]

def listToJson (ds : List Declaration) : Json :=
  .arr (ds.map toJson)

def ofJson? (j : Json) : Option Declaration :=
  match j.get "property", j.get "value" with
  | .str property, .str value => some ⟨property, value⟩
  | _, _ => none

/-- Reads declarations; a missing list is empty. -/
def listOfJson? : Json → Option (List Declaration)
  | .null => some []
  | .arr items => items.mapM ofJson?
  | _ => none

end Declaration

def Keyframe.toJson (f : Keyframe) : Json :=
  .obj [("declarations", Declaration.listToJson f.declarations),
    ("position", Position.optionToJson f.position), ("type", .str RuleKind.keyframe.tag),
    ("values", .strings f.values)]

/-- Reads a keyframe; its tag may be missing. -/
def Keyframe.ofJson? (j : Json) : Option Keyframe := do
  return ⟨← (j.get? "values").elim (some []) Json.strings?,
    ← Declaration.listOfJson? (j.get "declarations"), Position.ofJson? (j.get "position")⟩

namespace Rule

def toJson (r : Rule) : Json :=
  let tag : String × Json := ("type", .str r.kind.tag)
  let position : String × Json := ("position", Position.optionToJson r.position)
  match r with
  | style r =>
    .obj [("declarations", Declaration.listToJson r.declarations), position,
      ("selectors", .strings r.selectors), tag]
  | atRule r =>
    .obj [("block", .ofOption r.block), ("name", .str r.name), position,
      ("prelude", .str r.prelude), tag]
  | group .media condition inner _ =>
    .obj [("media", .str condition), position, ("rules", .arr (listToJson inner)), tag]
  | group .supports condition inner _ =>
    .obj [position, ("rules", .arr (listToJson inner)), ("supports", .str condition), tag]
  | fontFace ds _ => .obj [("declarations", Declaration.listToJson ds), position, tag]
  | charset c _ => .obj [("charset", .str c), position, tag]
  | keyframes name vendor frames _ =>
    .obj [("keyframes", .arr (frames.map Keyframe.toJson)), ("name", .str name), position, tag,
      ("vendor", .str vendor)]
  | keyframe f => f.toJson
  | comment text _ => .obj [("comment", .str text), position, tag]
where
  listToJson : List Rule → List Json
    | [] => []
    | r :: rest => r.toJson :: listToJson rest

/-- A member that holds a string; a missing one has the default value. -/
def optionalText (j : Json) (name default : String) : Option String :=
  match j.get? name with
  | none => some default
  | some (.str s) => some s
  | some _ => none

/-- A member that must hold a string. -/
def requiredText (j : Json) (name : String) : Option String :=
  match j.get? name with
  | some (.str s) => some s
  | _ => none

/-- The members of an object that hold its rules. -/
def innerRules (members : List (String × Json)) :
    { items : List Json // sizeOf items < sizeOf members + 1 } :=
  match found : members.lookup "rules" with
  | some (.arr items) =>
    ⟨items, by
      have := Json.sizeOf_lt_of_lookup found
      simp at this
      omega⟩
  | _ => ⟨[], by
    cases members <;> simp only [List.nil.sizeOf_spec, List.cons.sizeOf_spec] <;> omega⟩

def ofJson? (j : Json) : Option Rule :=
  match j with
  | .obj members => do
    let j : Json := .obj members
    let position := Position.ofJson? (j.get "position")
    let tag ← requiredText j "type"
    if tag = RuleKind.style.tag then
      return style ⟨← (j.get? "selectors").elim (some []) Json.strings?,
        ← Declaration.listOfJson? (j.get "declarations"), position⟩
    else if tag = RuleKind.atRule.tag then
      let block ←
        match j.get "block" with
        | .str s => some (some s)
        | .null => some none
        | _ => none
      return atRule ⟨← requiredText j "name", ← optionalText j "prelude" "", block, position⟩
    else if tag = RuleKind.media.tag || tag = RuleKind.supports.tag then
      let kind : GroupKind := if tag = RuleKind.media.tag then .media else .supports
      let inner ← (innerRules members).val.attach.mapM fun ⟨item, _⟩ => ofJson? item
      return group kind (← requiredText j kind.keyword) inner position
    else if tag = RuleKind.fontFace.tag then
      return fontFace (← Declaration.listOfJson? (j.get "declarations")) position
    else if tag = RuleKind.charset.tag then
      return charset (← requiredText j "charset") position
    else if tag = RuleKind.keyframes.tag then
      let frames ←
        match j.get "keyframes" with
        | .arr items => items.mapM Keyframe.ofJson?
        | .null => some []
        | _ => none
      return keyframes (← requiredText j "name") (← optionalText j "vendor" "") frames position
    else if tag = RuleKind.keyframe.tag then
      return keyframe (← Keyframe.ofJson? j)
    else if tag = RuleKind.comment.tag then
      return comment (← optionalText j "comment" "") position
    else none
  | _ => none
termination_by sizeOf j
decreasing_by
  rename_i inside
  have := List.sizeOf_lt_of_mem inside
  have := (innerRules members).property
  simp
  omega

end Rule

namespace Stylesheet

def toJson (sheet : Stylesheet) : Json :=
  .arr (sheet.map Rule.toJson)

def ofJson? : Json → Option Stylesheet
  | .arr items => items.mapM Rule.ofJson?
  | _ => none

end Stylesheet

end CriticalCss
