import CriticalCss.Json.Basic
import CriticalCss.Options.Checked

/-!
# Fields of an options object

A field has two spellings, one in camel case and one with underscores. If both are given, the
first counts and the second is an unknown field like any other name that no field takes.
-/

namespace CriticalCss

/-- The members of an object, in order. -/
abbrev Members : Type := List (String × Json)

/-- The name of a field in both spellings. -/
structure FieldName where
  camel : String
  snake : String
deriving DecidableEq, Repr

/-- One of the two spellings. -/
inductive Spelling where
  | camel
  | snake
deriving DecidableEq, Repr

namespace FieldName

/-- A name of one word, which has one spelling. -/
def plain (word : String) : FieldName :=
  ⟨word, word⟩

def spelled (name : FieldName) : Spelling → String
  | .camel => name.camel
  | .snake => name.snake

end FieldName

namespace Members

/-- The key that a field is given under, and its value. -/
def field? (members : Members) (name : FieldName) : Option (String × Json) :=
  match members.lookup name.camel with
  | some value => some (name.camel, value)
  | none => (members.lookup name.snake).map (name.snake, ·)

/-- A field that may be left out. -/
def optional {α : Type} (members : Members) (name : FieldName) (read : Json → Checked α)
    (fallback : α) : Checked α :=
  match members.field? name with
  | some (key, value) => (read value).within key
  | none => .good fallback

/-- A field that has to be there. -/
def required {α : Type} (members : Members) (name : FieldName) (read : Json → Checked α) :
    Checked α :=
  match members.field? name with
  | some (key, value) => (read value).within key
  | none => (Checked.fail .missing).within name.camel

/-- A field that nothing can be given for. -/
def forbidden (members : Members) (name : FieldName) (complaint : Complaint) : Checked Unit :=
  match members.field? name with
  | some (key, _) => (Checked.fail complaint).within key
  | none => .good ()

/-- Some field takes its value from `key`. -/
def isTaken (members : Members) (names : List FieldName) (key : String) : Bool :=
  names.any fun name => (members.field? name).any (·.1 = key)

/-- No member is left that no field takes. -/
def nothingElse (members : Members) (names : List FieldName) : Checked Unit :=
  match members.filter fun member => !members.isTaken names member.1 with
  | [] => .good ()
  | others => .bad (others.map fun member => ⟨[member.1], .unknownField⟩)

end Members

end CriticalCss
