import CriticalCss.Json.Reader
import CriticalCss.Options.Request
import CriticalCss.Text.Blank

/-!
# Messages of the service

A message asks for a path with a method, and may bring a body. A body counts as JSON only if the
header of the message says so. An answer has a status and a body, which is always JSON here.
-/

namespace CriticalCss.Api

/-- The body of a message. -/
inductive Body where
  | none
  /-- JSON that is sent as such. -/
  | data (value : Json)
  | text (content : String)
deriving DecidableEq, Repr

/-- A message to the service. -/
structure Message where
  method : String
  path : String
  headers : List (String × String)
  body : Body
deriving DecidableEq, Repr

/-- An answer of the service. -/
structure Answer where
  status : Nat
  body : Json
deriving DecidableEq, Repr

namespace Answer

/-- An answer that only says what is wrong. -/
def detail (status : Nat) (detail : Json) : Answer :=
  ⟨status, .obj [("detail", detail)]⟩

/-- The answer to a body that is not valid. -/
def invalid (problems : List Problem) : Answer :=
  .detail 422 (.arr (problems.map fun p => .arr [.str p.place, .str p.complaint.message]))

end Answer

namespace Message

/-- The value of a header field, whose name may be written in any letter case. -/
def header? (m : Message) (name : String) : Option String :=
  (m.headers.find? fun field => field.1.map Char.toLower = name.map Char.toLower).map (·.2)

/-- The type of a body, without its parameters and in lower case. -/
def mediaType (value : String) : String :=
  let type := value.toList.takeWhile (· != ';')
  String.ofList ((Text.trim type).map Char.toLower)

/-- The type of a body says that it is JSON. -/
def isJsonType (value : String) : Bool :=
  match Text.pieces (· == '/') (mediaType value).toList with
  | [main, part] =>
    main == "application".toList &&
      (part == "json".toList || "+json".toList.isSuffixOf part)
  | _ => false

/-- A value that a body brings, if any: JSON, or a text that is taken as it is. -/
inductive Content where
  | absent
  | json (value : Json)
  | plain (text : String)
  /-- JSON was announced, but there is none from the given place on. -/
  | broken (place : Nat)
deriving DecidableEq, Repr

/-- JSON as the content of a body; null brings nothing. -/
def Content.ofJson : Json → Content
  | .null => .absent
  | value => .json value

def content (m : Message) : Content :=
  match m.body with
  | .none => .absent
  | .data value =>
    match value, (m.header? "content-type").all isJsonType with
    | .null, _ => .absent
    | value, true => .json value
    | _, false => .plain ""
  | .text "" => .absent
  | .text text =>
    if (m.header? "content-type").any isJsonType then
      match Json.parse text.toList with
      | .ok value => .ofJson value
      | .error place => .broken place
    else .plain text

end Message

end CriticalCss.Api
