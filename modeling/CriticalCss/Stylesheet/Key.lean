import CriticalCss.Stylesheet.Rule
import CriticalCss.Text.Blank

/-!
# Keys of rules

The key under which a rule is looked up: the selectors of a style rule behind the key of its
group, the condition of a group, the name of an at-rule. Comments and style rules without
selectors have none. Conditions of media rules are compared without the media type `all`, which
is what a condition without a type means.
-/

namespace CriticalCss

/-- A media condition with single spaces and without a leading `all and`. -/
def normalizeMedia (media : String) : String :=
  let collapsed := Text.collapse media.toList
  String.ofList ((Text.dropLead? "all and ".toList collapsed).getD collapsed)

/-- The two media conditions say the same. -/
def sameMedia (a b : String) : Bool :=
  normalizeMedia a = normalizeMedia b

/-- A supports condition with single spaces. -/
def normalizeSupports (condition : String) : String :=
  String.ofList (Text.collapse condition.toList)

namespace GroupKind

/-- What the keys of groups of a kind begin with. -/
def keyLead (kind : GroupKind) : String :=
  match kind with
  | media => "@media "
  | supports => "@supports "

/-- A condition in the form in which conditions of the kind are compared. -/
def normalize (kind : GroupKind) (condition : String) : String :=
  match kind with
  | media => normalizeMedia condition
  | supports => normalizeSupports condition

def key (kind : GroupKind) (condition : String) : String :=
  kind.keyLead ++ kind.normalize condition

/-- The condition in a key of a group of the kind. -/
def ofKey? (kind : GroupKind) (key : String) : Option String :=
  (Text.dropLead? kind.keyLead.toList key.toList).map String.ofList

end GroupKind

/-- The kind and the condition of the group that a key names. -/
def groupOfKey? (key : String) : Option (GroupKind × String) :=
  match GroupKind.media.ofKey? key with
  | some condition => some (.media, condition)
  | none => (GroupKind.supports.ofKey? key).map (.supports, ·)

/-- The key is that of a group. -/
def isGroupKey (key : String) : Bool :=
  (groupOfKey? key).isSome

/-- The selectors of a rule with commas between them. -/
def selectorList (selectors : List String) : String :=
  String.ofList ([','].intercalate (selectors.map String.toList))

/-- The key of a style rule inside the group with key `group`, the empty text at the top level. -/
def StyleRule.key? (r : StyleRule) (group : String) : Option String :=
  if r.selectors.isEmpty then none else some (group ++ selectorList r.selectors)

namespace Rule

/-- The key of a rule; only that of a style rule depends on the group around it. -/
def key? (r : Rule) (group : String) : Option String :=
  match r with
  | style r => r.key? group
  | Rule.group kind condition _ _ => some (kind.key condition)
  | fontFace _ _ => some "@font-face"
  | charset _ _ => some "@charset"
  | keyframes name vendor _ _ => some ("@" ++ vendor ++ "keyframes " ++ name)
  | atRule r => some (String.ofList (Text.trimRight ("@" ++ r.name ++ " " ++ r.prelude).toList))
  | keyframe _ | comment _ _ => none

/-- What the keys of style rules inside the rule begin with. -/
def groupKey : Rule → String
  | Rule.group kind condition _ _ => kind.key condition
  | _ => ""

end Rule

end CriticalCss
