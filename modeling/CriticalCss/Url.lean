import CriticalCss.File.Path
import CriticalCss.Text.Alphanumeric
import CriticalCss.Text.Blank
import CriticalCss.Url.Authority

/-!
# Addresses of pages

A page is named by an address: that of a site, or the path of a file of the project. An address
is of a site if it has a scheme and, behind two slashes, an authority, or if its scheme is `file`.
Any other text is the path of a file, of which neither a query nor a fragment is part.
-/

namespace CriticalCss

namespace Url

/-- The address without control characters and spaces at its start, and without line breaks and
tabs anywhere. -/
def cleaned (cs : List Char) : List Char :=
  (cs.dropWhile fun c => c.toNat ≤ 0x20).filter fun c => c ≠ '\t' && c ≠ '\n' && c ≠ '\r'

def isSchemeChar (c : Char) : Bool :=
  c.isAlphanum || c = '+' || c = '-' || c = '.'

/-- The scheme of an address in lower case, empty if there is none, and what follows. -/
def scheme (cs : List Char) : List Char × List Char :=
  let name := cs.takeWhile (· != ':')
  match name, cs.drop name.length with
  | first :: _, _ :: rest =>
    if first.isAlpha && name.all isSchemeChar then (name.map Char.toLower, rest) else ([], cs)
  | _, _ => ([], cs)

/-- The authority that stands behind two slashes. -/
def authority : List Char → List Char
  | '/' :: '/' :: rest => rest.takeWhile fun c => c ≠ '/' && c ≠ '?' && c ≠ '#'
  | _ => []

/-- The address is the path of a file of the project. -/
def isLocal (url : String) : Except AddressFault Bool := do
  let (scheme, rest) := scheme (cleaned url.toList)
  let authority := authority rest
  checkAuthority authority
  return scheme.isEmpty || (authority.isEmpty && scheme != "file".toList)

/-- The path of a local page below the root of the project. -/
def localPath (root url : String) : FilePath :=
  let page := url.toList.takeWhile fun c => c ≠ '?' && c ≠ '#'
  let page := page.dropWhile fun c => c = '/' || c = '\\'
  (FilePath.ofText root).join (.ofText (String.ofList page))

/-- The name of the file that shows a page: what is neither part of a word nor white space is
replaced. -/
def screenshotName (url : String) : String :=
  let safe (c : Char) : Char := if Text.isWordChar c || Text.isBlank c then c else '_'
  String.ofList (url.toList.map safe) ++ ".png"

/-- A request for the address is not made: the address contains one of the blocked texts. -/
def isBlocked (blocked : List String) (url : String) : Bool :=
  blocked.any fun part => Text.contains part.toList url.toList

end Url

end CriticalCss
