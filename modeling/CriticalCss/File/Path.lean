import CriticalCss.Text.Blank

/-!
# File paths

A path as written in a text, without a look at any file: the slashes in front and the names
between the other slashes. Empty names and single dots say nothing and are left out; two dots
stay, because only the files can tell where they lead. Two slashes in front are kept apart from
one, three and more count as one.
-/

namespace CriticalCss

/-- A path: nothing, one slash or two in front, and names. -/
structure FilePath where
  lead : String
  names : List String
deriving DecidableEq, Repr

namespace FilePath

/-- The slashes in front of a path. -/
def leadOf (cs : List Char) : String :=
  match (cs.takeWhile (· == '/')).length with
  | 0 => ""
  | 2 => "//"
  | _ => "/"

/-- The path that a text writes. -/
def ofText (text : String) : FilePath where
  lead := leadOf text.toList
  names :=
    ((Text.pieces (· == '/') text.toList).map String.ofList).filter fun name =>
      name ≠ "" && name ≠ "."

/-- The text of a path. The path without names that leads nowhere is the dot. -/
def toText (path : FilePath) : String :=
  if path.lead = "" && path.names.isEmpty then "." else path.lead ++ "/".intercalate path.names

/-- The path starts at the root of all files. -/
def isAbsolute (path : FilePath) : Bool :=
  path.lead ≠ ""

/-- The second path as seen from the first one. -/
def join (base path : FilePath) : FilePath :=
  if path.isAbsolute then path else ⟨base.lead, base.names ++ path.names⟩

end FilePath

end CriticalCss
