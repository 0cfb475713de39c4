import CriticalCss.Digest
import CriticalCss.Json.Printer
import CriticalCss.Stylesheet.Data

/-!
# The content of a rule

What a rule says, without the members that are excluded from a comparison. The digest of the text
of a rule's content, positions left out, names the rule in a rule map.
-/

namespace CriticalCss

/-- The members that tell where a rule comes from rather than what it says. -/
def positionMembers : List String := ["position"]

namespace Rule

/-- The rule as data without the excluded members, at every depth. -/
def content (excluded : List String) (r : Rule) : Json :=
  r.toJson.strip excluded

/-- The text of the rule's content. -/
def payload (r : Rule) : List Char :=
  (r.content positionMembers).text

/-- The digest of the rule's content. -/
def digest (r : Rule) : String :=
  Digest.ofAscii r.payload

/-- The declarations of a rule; none if its kind has none. -/
def declarations (r : Rule) : List Declaration :=
  r.declarations?.getD []

end Rule

/-- The text of declarations in order, as pairs of property and value. -/
def Declaration.payload (ds : List Declaration) : List Char :=
  (Json.arr (ds.map fun d => .strings [d.property, d.value])).text

/-- The digest of declarations in order. -/
def Declaration.digest (ds : List Declaration) : String :=
  Digest.ofAscii (payload ds)

end CriticalCss
