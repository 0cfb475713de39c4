import CriticalCss.File.Path
import CriticalCss.Text.Printable

/-!
# Reading files

Text files below one directory, and the ways in which reading one can go wrong. A path is walked
name by name; two dots lead back, but only out of a directory that is there. Line ends are read
as line feeds, however they are written.
-/

namespace CriticalCss

/-- Why a file cannot be read. -/
inductive FileFault where
  /-- The operating system does not open the file. -/
  | opening (number : Nat) (wording : String)
  /-- The operating system breaks off the reading of an open file. -/
  | reading (number : Nat) (wording : String)
  /-- The path holds a character that no path can hold. -/
  | nullByte
  /-- The bytes of the file are no text. -/
  | undecodable (message : String)
deriving DecidableEq, Repr

namespace FileFault

def missing : FileFault :=
  opening 2 "No such file or directory"

def notDirectory : FileFault :=
  opening 20 "Not a directory"

def directory : FileFault :=
  opening 21 "Is a directory"

/-- The name of a fault that is not the operating system's. -/
def foreignName? : FileFault → Option String
  | opening _ _ | reading _ _ => none
  | nullByte => some "ValueError"
  | undecodable _ => some "UnicodeDecodeError"

/-- The wording of a fault at a path. -/
def message (fault : FileFault) (path : FilePath) : String :=
  match fault with
  | opening number wording =>
    "[Errno " ++ toString number ++ "] " ++ wording ++ ": " ++ Text.quoted path.toText
  | reading number wording => "[Errno " ++ toString number ++ "] " ++ wording
  | nullByte => "embedded null byte"
  | undecodable message => message

end FileFault

/-- Text files below a directory. -/
structure FileTree where
  root : FilePath
  /-- The texts, by the names that lead from the root to the file. -/
  files : List (List String × String)
deriving DecidableEq, Repr

namespace FileTree

def empty : FileTree where
  root := ⟨"/", []⟩
  files := []

/-- The tree with the given files, whose paths are relative to the root. -/
def ofTexts (root : String) (texts : List (String × String)) : FileTree where
  root := .ofText root
  files := texts.map fun (name, text) => ((FilePath.ofText name).names, text)

/-- Text with every line end as a line feed. -/
def withLineFeeds : List Char → List Char
  | '\r' :: '\n' :: rest => '\n' :: withLineFeeds rest
  | '\r' :: rest => '\n' :: withLineFeeds rest
  | c :: rest => c :: withLineFeeds rest
  | [] => []

/-- The names lead to a directory: the root, or one that some file is in. -/
def isDirectory (tree : FileTree) (place : List String) : Bool :=
  place.isEmpty || tree.files.any fun file =>
    place.isPrefixOf file.1 && place.length < file.1.length

/-- Follows names from a directory, given by the names that lead to it. -/
def follow (tree : FileTree) : List String → List String → Except FileFault (List String)
  | place, [] => .ok place
  | place, name :: rest =>
    if tree.isDirectory place then
      if name = ".." then
        if place.isEmpty then .error .missing else tree.follow place.dropLast rest
      else tree.follow (place ++ [name]) rest
    else if (tree.files.lookup place).isSome then .error .notDirectory
    else .error .missing

/-- The text of the file at a path. -/
def read (tree : FileTree) (path : FilePath) : Except FileFault String := do
  if path.toText.toList.contains '\x00' then throw .nullByte
  if path.lead ≠ tree.root.lead then throw .missing
  let names ←
    match Text.dropLead? tree.root.names path.names with
    | some names => pure names
    | none => throw .missing
  let place ← tree.follow [] names
  if tree.isDirectory place then throw .directory
  match tree.files.lookup place with
  | some text => return String.ofList (withLineFeeds text.toList)
  | none => throw .missing

end FileTree

end CriticalCss
