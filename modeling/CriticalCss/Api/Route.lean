import CriticalCss.Text.Blank

/-!
# Routes of the service

Which place of the service a path leads to. A path that leads nowhere may still do so without the
slashes at its end.
-/

namespace CriticalCss.Api

/-- A place of the service. -/
inductive Place where
  | health
  | authCheck
  | generate
  | job (id : String)
deriving DecidableEq, Repr

/-- Where a message goes. -/
inductive Route where
  | found (place : Place)
  /-- The path is known, but not with this method. -/
  | wrongMethod
  | nowhere
deriving DecidableEq, Repr

namespace Route

/-- The value of a hexadecimal digit. -/
def hexValue? (c : Char) : Option Nat :=
  if c.isDigit then some (c.toNat - '0'.toNat)
  else if 'a' ≤ c && c ≤ 'f' then some (c.toNat - 'a'.toNat + 10)
  else if 'A' ≤ c && c ≤ 'F' then some (c.toNat - 'A'.toNat + 10)
  else none

/-- The ASCII character that two hexadecimal digits stand for. -/
def asciiChar? (high low : Char) : Option Char := do
  let code := (← hexValue? high) * 16 + (← hexValue? low)
  guard (code < 0x80)
  return Char.ofNat code

/-- The path with its escaped ASCII characters. -/
def unescaped : List Char → List Char
  | '%' :: high :: low :: rest =>
    match asciiChar? high low with
    | some c => c :: unescaped rest
    | none => '%' :: unescaped (high :: low :: rest)
  | c :: rest => c :: unescaped rest
  | [] => []

/-- The names of a path, which starts with one slash and ends before a query or a fragment. -/
def names (path : String) : List (List Char) :=
  let path := path.toList.takeWhile fun c => c ≠ '?' && c ≠ '#'
  Text.pieces (· == '/') (unescaped (path.dropWhile (· == '/')))

/-- The route of a path with a method. -/
def ofNames (method : String) (names : List (List Char)) : Route :=
  match names.map String.ofList with
  | ["healthz"] => if method = "GET" then .found .health else .wrongMethod
  | ["auth-check"] => if method = "GET" then .found .authCheck else .wrongMethod
  | ["v1", "critical-css", name] =>
    if method = "POST" && name = "generate" then .found .generate
    else if name = "" then .nowhere
    else if method = "GET" then .found (.job name)
    else .wrongMethod
  | _ => .nowhere

/-- The names of a path without slashes at its end. -/
def withoutEnd (names : List (List Char)) : List (List Char) :=
  (names.reverse.dropWhile (·.isEmpty)).reverse

def find (method path : String) : Route :=
  let method := method.map Char.toUpper
  match ofNames method (names path) with
  | .nowhere => ofNames method (withoutEnd (names path))
  | route => route

end Route

end CriticalCss.Api
