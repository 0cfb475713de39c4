import CriticalCss.Stylesheet.Content
import CriticalCss.Stylesheet.Key

/-!
# Rule maps

A rule map holds the different rules of some stylesheets under their keys, in the order of their
first occurrence. Rules are told apart by the digest of their content, so a rule that is found on
many pages is held once. Folding a stylesheet into a map adds its rules; it stops at a group that
holds a rule other than a style rule or a verbatim at-rule, with all added that stands before.
-/

namespace CriticalCss

/-- A rule with the digest of its content. -/
structure RuleMapEntry where
  digest : String
  rule : Rule
deriving DecidableEq, Repr

/-- The entry of a rule. -/
def RuleMapEntry.ofRule (r : Rule) : RuleMapEntry :=
  ⟨r.digest, r⟩

/-- Keys with the rules that share them. -/
abbrev RuleMap : Type := List (String × List RuleMapEntry)

/-- Why a stylesheet cannot be folded. -/
inductive FoldError where
  /-- A group holds a rule that it may not hold. -/
  | unexpected (kind : RuleKind) (group : String)
  /-- A single rule stands where a stylesheet is expected. -/
  | notASheet (kind : RuleKind)
deriving DecidableEq, Repr

def FoldError.message : FoldError → String
  | unexpected kind group => s!"Unexpected {kind.title} inside {group}"
  | notASheet kind => s!"Expected a stylesheet, got {kind.title}"

namespace RuleMap

/-- The entries under a key; none if the key is unknown. -/
def entries (m : RuleMap) (key : String) : List RuleMapEntry :=
  (m.lookup key).getD []

/-- Changes the entries of a key. A new key starts without entries and goes to the end. -/
def update (key : String) (f : List RuleMapEntry → List RuleMapEntry) : RuleMap → RuleMap
  | [] => [(key, f [])]
  | (known, old) :: rest =>
    if known = key then (known, f old) :: rest else (known, old) :: update key f rest

/-- Adds an entry behind the others, unless one of them has its digest. -/
def addEntry (new : RuleMapEntry) (old : List RuleMapEntry) : List RuleMapEntry :=
  if old.any fun e => e.digest = new.digest then old else old ++ [new]

/-- Adds a rule under a key. -/
def insert (key : String) (r : Rule) (m : RuleMap) : RuleMap :=
  m.update key (addEntry (.ofRule r))

/-- A group may hold the rule. -/
def fitsGroup : Rule → Bool
  | .style _ | .atRule _ => true
  | _ => false

/-- Adds the rules of a group under its key, up to the first that it may not hold. -/
def insertInner (key : String) : List Rule → RuleMap → Option FoldError × RuleMap
  | [], m => (none, m)
  | r :: rest, m =>
    if fitsGroup r then insertInner key rest (m.insert key r)
    else (some (.unexpected r.kind key), m)

/-- Adds a rule of the top level. Comments and rules without a key add nothing, nor do groups
without rules. -/
def foldRule (r : Rule) (m : RuleMap) : Option FoldError × RuleMap :=
  match r with
  | .group _ _ [] _ => (none, m)
  | .group kind condition inner _ =>
    let key := kind.key condition
    insertInner key inner (m.update key id)
  | r =>
    match r.key? "" with
    | none => (none, m)
    | some key => (none, m.insert key r)

/-- Adds the rules of a stylesheet, up to the first fault. -/
def foldSheet : Stylesheet → RuleMap → Option FoldError × RuleMap
  | [], m => (none, m)
  | r :: rest, m =>
    match foldRule r m with
    | (none, m) => foldSheet rest m
    | (some e, m) => (some e, m)

/-- What is offered for folding. -/
inductive Offer where
  | sheet (rules : Stylesheet)
  | rule (r : Rule)
deriving Repr

/-- Adds what is offered; only a stylesheet can be added. -/
def fold (offer : Offer) (m : RuleMap) : Option FoldError × RuleMap :=
  match offer with
  | .sheet rules => foldSheet rules m
  | .rule r => (some (.notASheet r.kind), m)

/-- The map of some stylesheets, folded one after another. -/
def ofSheets (sheets : List Stylesheet) : Except FoldError RuleMap :=
  sheets.foldlM (fun m sheet =>
    match foldSheet sheet m with
    | (none, m) => .ok m
    | (some e, _) => .error e) []

end RuleMap

end CriticalCss
