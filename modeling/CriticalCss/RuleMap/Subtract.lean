import CriticalCss.RuleMap.Basic

/-!
# What one rule map holds beyond another

A style rule loses every selector that the other map carries in the same group with the same
declarations, and goes if none is left; what is left of it stands under a key of its own, unless
it is in a group. Any other rule goes if the other map holds it under the same key.
-/

namespace CriticalCss

/-- A selector with the group that it stands in, the empty text at the top level, and the digest
of its declarations. -/
structure Identity where
  group : String
  selector : String
  declarations : String
deriving DecidableEq, Repr

namespace RuleMap

/-- The group that the rules under a key stand in. -/
def groupOf (key : String) : String :=
  if isGroupKey key then key else ""

/-- The identities of a style rule in a group. -/
def identitiesOf (group : String) (r : StyleRule) : List Identity :=
  r.selectors.map fun s => ⟨group, s, Declaration.digest r.declarations⟩

/-- The identities of all style rules of a map. -/
def identities (m : RuleMap) : List Identity :=
  m.flatMap fun (key, entries) =>
    entries.flatMap fun e =>
      match e.rule with
      | .style r => identitiesOf (groupOf key) r
      | _ => []

/-- What is left of a style rule without the known identities; none if no selector is left. -/
def remainder (known : List Identity) (group : String) (r : StyleRule) : Option StyleRule :=
  let digest := Declaration.digest r.declarations
  let selectors := r.selectors.filter fun s => !known.contains ⟨group, s, digest⟩
  if selectors.isEmpty then none else some { r with selectors }

/-- Adds what is left of an entry of `key`. -/
def subtractEntry (known : List Identity) (reference : RuleMap) (key : String)
    (result : RuleMap) (e : RuleMapEntry) : RuleMap :=
  match e.rule with
  | .style r =>
    match remainder known (groupOf key) r with
    | none => result
    | some left =>
      let target := if isGroupKey key then key else (left.key? "").getD key
      result.insert target (.style left)
  | r =>
    if (reference.entries key).any fun other => other.digest = e.digest then result
    else result.insert key r

/-- What the map holds beyond the reference. -/
def subtract (m reference : RuleMap) : RuleMap :=
  let known := identities reference
  m.foldl (fun result (key, entries) =>
    entries.foldl (subtractEntry known reference key) result) []

end RuleMap

end CriticalCss
