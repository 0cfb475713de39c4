import CriticalCss.Json.Basic
import CriticalCss.Stylesheet.Key

/-!
# Splitting a stylesheet

A stylesheet is split into its critical part and the rest. A selector map tells, under the key of
a style rule, which of the rule's selectors are critical. The critical part is taken first, and a
ledger keeps account of the selectors that were taken under each key; the rest is what the ledger
does not hold. Style rules that are left without selectors and groups that are left without rules
go. Other rules are in the rest; at the top level they are in the critical part too, if their
kind is kept there.
-/

namespace CriticalCss

/-- The critical selectors of one key. -/
structure CriticalEntry where
  selectors : List String
  /-- The media condition around the rule, if there is one. -/
  media : Option String
  /-- The first rule that was found under the key. -/
  source : Option StyleRule
deriving DecidableEq, Repr

/-- Keys of style rules with their critical selectors, in the order of their first occurrence. -/
abbrev SelectorMap : Type := List (String × CriticalEntry)

namespace SelectorMap

/-- The critical selectors under a key; none if the key is unknown. -/
def selectorsOf (map : SelectorMap) (key : String) : List String :=
  (map.lookup key).elim [] (·.selectors)

/-- Reads the entry of a key: a list of selectors, or an object that may hold one. -/
def entryOfJson? : Json → Option CriticalEntry
  | .null => some ⟨[], none, none⟩
  | .arr items => (Json.strings? (.arr items)).map fun selectors => ⟨selectors, none, none⟩
  | .obj members =>
    match members.lookup "selectors" with
    | none => some ⟨[], none, none⟩
    | some items => (Json.strings? items).map fun selectors => ⟨selectors, none, none⟩
  | _ => none

/-- Sets the entry of a key: a new key goes to the end, a known one keeps its place. -/
def set (key : String) (entry : CriticalEntry) : SelectorMap → SelectorMap
  | [] => [(key, entry)]
  | (known, old) :: rest =>
    if known = key then (known, entry) :: rest else (known, old) :: set key entry rest

/-- Reads a map from a list of keys with their entries; the last entry of a key counts. -/
def ofJson? (j : Json) : Option SelectorMap :=
  match j with
  | .arr items =>
    items.foldlM (fun map item =>
      match item with
      | .arr [.str key, entry] => (entryOfJson? entry).map fun e => set key e map
      | _ => none) []
  | _ => none

end SelectorMap

namespace Partition

/-- The selectors that were taken into the critical part, under the key of their rule. -/
abbrev Ledger : Type := List (String × List String)

namespace Ledger

/-- The selectors that were taken under a key. -/
def taken (ledger : Ledger) (key : String) : List String :=
  (ledger.lookup key).getD []

/-- Adds the selectors that are not yet noted. -/
def extend (known : List String) : List String → List String
  | [] => known
  | s :: rest => extend (if s ∈ known then known else known ++ [s]) rest

/-- Notes selectors under a key. -/
def note (key : String) (selectors : List String) : Ledger → Ledger
  | [] => [(key, extend [] selectors)]
  | (known, old) :: rest =>
    if known = key then (known, extend old selectors) :: rest
    else (known, old) :: note key selectors rest

end Ledger

/-- The critical part of a style rule inside the group with key `group`, and the ledger behind
it. -/
def criticalStyle (map : SelectorMap) (group : String) (r : StyleRule) (ledger : Ledger) :
    Option StyleRule × Ledger :=
  match r.key? group with
  | none => (none, ledger)
  | some key =>
    let wanted := map.selectorsOf key
    let selectors := r.selectors.filter (· ∈ wanted)
    (if selectors.isEmpty then none else some { r with selectors }, ledger.note key selectors)

/-- The rest of a style rule: the selectors that were not taken. -/
def restStyle (ledger : Ledger) (group : String) (r : StyleRule) : Option StyleRule :=
  match r.key? group with
  | none => none
  | some key =>
    match ledger.taken key with
    | [] => some r
    | taken =>
      let selectors := r.selectors.filter (· ∉ taken)
      if selectors.isEmpty then none else some { r with selectors }

/-- A group around its rules; none if there are none. -/
def regroup (kind : GroupKind) (condition : String) (position : Option Position) :
    List Rule → Option Rule
  | [] => none
  | first :: others => some (.group kind condition (first :: others) position)

mutual

/-- The critical part of a rule. Inside a group only style rules and groups are critical. -/
def criticalRule (map : SelectorMap) (group : String) (ledger : Ledger) :
    Rule → Option Rule × Ledger
  | .group kind condition inner position =>
    let (rules, ledger) := criticalRules map (kind.key condition) ledger inner
    (regroup kind condition position rules, ledger)
  | .style r =>
    let (kept, ledger) := criticalStyle map group r ledger
    (kept.map .style, ledger)
  | r => (if group = "" then some r else none, ledger)

/-- The critical parts of rules in a row. -/
def criticalRules (map : SelectorMap) (group : String) (ledger : Ledger) :
    List Rule → List Rule × Ledger
  | [] => ([], ledger)
  | r :: rest =>
    let (kept, ledger) := criticalRule map group ledger r
    let (others, ledger) := criticalRules map group ledger rest
    (kept.toList ++ others, ledger)

end

mutual

/-- The rest of a rule. -/
def restRule (ledger : Ledger) (group : String) : Rule → Option Rule
  | .group kind condition inner position =>
    regroup kind condition position (restRules ledger (kind.key condition) inner)
  | .style r => (restStyle ledger group r).map .style
  | r => some r

/-- The rests of rules in a row. -/
def restRules (ledger : Ledger) (group : String) : List Rule → List Rule
  | [] => []
  | r :: rest => (restRule ledger group r).toList ++ restRules ledger group rest

end

/-- The kinds of rules that the critical part may hold at the top level. -/
def criticalKinds (dropKeyframes : Bool) : List RuleKind :=
  [.media, .style, .charset, .fontFace, .supports] ++ if dropKeyframes then [] else [.keyframes]

end Partition

open CriticalCss.Partition in
/-- The critical part of a stylesheet, and the rest. -/
def Stylesheet.partition (dropKeyframes : Bool) (map : SelectorMap) (sheet : Stylesheet) :
    Stylesheet × Stylesheet :=
  let candidates := sheet.filter fun r => (criticalKinds dropKeyframes).contains r.kind
  let (critical, ledger) := criticalRules map "" [] candidates
  (critical, restRules ledger "" sheet)

end CriticalCss
