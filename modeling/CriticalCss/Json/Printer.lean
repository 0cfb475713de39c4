import CriticalCss.Json.Basic
import CriticalCss.Number.Shortest

/-!
# JSON text

The compact text of a JSON value in ASCII: no white space, and every character that is a control
character or outside ASCII as the escapes of its UTF-16 units. Two different values that hold no
doubles have different texts.
-/

namespace CriticalCss.Json

/-- One hexadecimal digit, in lower case. -/
def hexDigit (n : Nat) : Char :=
  Nat.digitChar (n % 16)

/-- The escape of one UTF-16 unit. -/
def unitEscape (unit : Nat) : List Char :=
  ['\\', 'u', hexDigit (unit / 4096), hexDigit (unit / 256), hexDigit (unit / 16), hexDigit unit]

/-- One character of a string literal. Those between the space and the tilde stand for
themselves. -/
def quoteChar (c : Char) : List Char :=
  if c = '"' then ['\\', '"']
  else if c = '\\' then ['\\', '\\']
  else if c = '\n' then ['\\', 'n']
  else if c = '\r' then ['\\', 'r']
  else if c = '\t' then ['\\', 't']
  else if c = '\x0c' then ['\\', 'f']
  else if c = '\x08' then ['\\', 'b']
  else if c.toNat < 0x20 then unitEscape c.toNat
  else if c.toNat < 0x7F then [c]
  else if c.toNat < 0x10000 then unitEscape c.toNat
  else
    let offset := c.toNat - 0x10000
    unitEscape (0xD800 + offset / 0x400) ++ unitEscape (0xDC00 + offset % 0x400)

def quote (s : String) : List Char :=
  '"' :: s.toList.flatMap quoteChar ++ ['"']

def integer (n : Int) : List Char :=
  (if n < 0 then ['-'] else []) ++ Nat.toDigits 10 n.natAbs

/-- The compact text of a value. -/
def text : Json → List Char
  | null => ['n', 'u', 'l', 'l']
  | bool true => ['t', 'r', 'u', 'e']
  | bool false => ['f', 'a', 'l', 's', 'e']
  | int n => integer n
  | float x => Number.text x
  | str s => quote s
  | arr [] => ['[', ']']
  | arr (first :: rest) => '[' :: text first ++ textItems rest
  | obj [] => ['\x7b', '\x7d']
  | obj ((name, value) :: rest) => '\x7b' :: quote name ++ ':' :: text value ++ textMembers rest
where
  /-- The items of an array after the first, with the closing bracket. -/
  textItems : List Json → List Char
    | [] => [']']
    | item :: rest => ',' :: text item ++ textItems rest
  /-- The members of an object after the first, with the closing brace. -/
  textMembers : List (String × Json) → List Char
    | [] => ['\x7d']
    | (name, value) :: rest => ',' :: quote name ++ ':' :: text value ++ textMembers rest

/-- `text` as a string. -/
def compact (j : Json) : String :=
  String.ofList j.text

end CriticalCss.Json
