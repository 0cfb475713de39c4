import CriticalCss.Position

/-!
# Rules of a stylesheet

A stylesheet is a list of rules. Media and supports rules group further rules; the reader puts
only style rules and verbatim at-rules into them, but a group may hold any rule. Positions tell
where a rule was read; they are no part of what a rule says, and `Rule.erase` drops them.
-/

namespace CriticalCss

/-- A property with its value. A mark of importance is part of the value. -/
structure Declaration where
  property : String
  value : String
deriving DecidableEq, Repr

/-- Declarations for the elements that one of the selectors matches. -/
structure StyleRule where
  selectors : List String
  declarations : List Declaration
  position : Option Position
deriving DecidableEq, Repr

/-- An at-rule that is kept as it was written. -/
structure AtRule where
  name : String
  prelude : String
  block : Option String
  position : Option Position
deriving DecidableEq, Repr

/-- Declarations for some moments of an animation. -/
structure Keyframe where
  values : List String
  declarations : List Declaration
  position : Option Position
deriving DecidableEq, Repr

/-- The two kinds of rules that group others under a condition. -/
inductive GroupKind where
  | media
  | supports
deriving DecidableEq, Repr

/-- A rule of a stylesheet. -/
inductive Rule where
  | style (rule : StyleRule)
  | atRule (rule : AtRule)
  | group (kind : GroupKind) (condition : String) (rules : List Rule)
      (position : Option Position)
  | fontFace (declarations : List Declaration) (position : Option Position)
  | charset (charset : String) (position : Option Position)
  | keyframes (name vendor : String) (frames : List Keyframe) (position : Option Position)
  | keyframe (frame : Keyframe)
  | comment (text : String) (position : Option Position)
deriving Repr

/-- A stylesheet: its rules in the order of the source. -/
abbrev Stylesheet : Type := List Rule

/-- The kinds of rules. -/
inductive RuleKind where
  | style
  | atRule
  | media
  | supports
  | fontFace
  | charset
  | keyframes
  | keyframe
  | comment
deriving DecidableEq, Repr

namespace RuleKind

/-- The tag of a kind in data. -/
def tag : RuleKind → String
  | style => "rule"
  | atRule => "at-rule"
  | media => "media"
  | supports => "supports"
  | fontFace => "font-face"
  | charset => "charset"
  | keyframes => "keyframes"
  | keyframe => "keyframe"
  | comment => "comment"

/-- The name of a kind in messages. -/
def title : RuleKind → String
  | style => "StyleRule"
  | atRule => "AtRule"
  | media => "MediaRule"
  | supports => "SupportsRule"
  | fontFace => "FontFaceRule"
  | charset => "CharsetRule"
  | keyframes => "KeyframesRule"
  | keyframe => "KeyframeRule"
  | comment => "CommentRule"

end RuleKind

/-- The kind of a group as a kind of rules. -/
def GroupKind.ruleKind : GroupKind → RuleKind
  | media => .media
  | supports => .supports

/-- The word behind the at-sign of a group. -/
def GroupKind.keyword (kind : GroupKind) : String :=
  kind.ruleKind.tag

namespace Rule

def kind : Rule → RuleKind
  | style _ => .style
  | atRule _ => .atRule
  | group kind _ _ _ => kind.ruleKind
  | fontFace _ _ => .fontFace
  | charset _ _ => .charset
  | keyframes _ _ _ _ => .keyframes
  | keyframe _ => .keyframe
  | comment _ _ => .comment

/-- The place where a rule was read. -/
def position : Rule → Option Position
  | style r => r.position
  | atRule r => r.position
  | group _ _ _ p | fontFace _ p | charset _ p | keyframes _ _ _ p | comment _ p => p
  | keyframe f => f.position

/-- The declarations of a rule of a kind that has them. -/
def declarations? : Rule → Option (List Declaration)
  | style r => some r.declarations
  | fontFace ds _ => some ds
  | keyframe f => some f.declarations
  | _ => none

/-- The rule without any position, at every depth. -/
def erase : Rule → Rule
  | style r => style { r with position := none }
  | atRule r => atRule { r with position := none }
  | group kind condition rules _ => group kind condition (eraseAll rules) none
  | fontFace ds _ => fontFace ds none
  | charset c _ => charset c none
  | keyframes name vendor frames _ =>
    keyframes name vendor (frames.map fun f => { f with position := none }) none
  | keyframe f => keyframe { f with position := none }
  | comment text _ => comment text none
where
  /-- `erase` on each of the rules. -/
  eraseAll : List Rule → List Rule
    | [] => []
    | r :: rest => r.erase :: eraseAll rest

/-! ## Equality -/

mutual

def decEq : (a b : Rule) → Decidable (a = b)
  | .style a, .style b =>
    if h : a = b then isTrue (h ▸ rfl) else isFalse fun e => h (Rule.style.inj e)
  | .atRule a, .atRule b =>
    if h : a = b then isTrue (h ▸ rfl) else isFalse fun e => h (Rule.atRule.inj e)
  | .group k c as p, .group l d bs q =>
    if h : k = l ∧ c = d ∧ p = q then
      match decEqAll as bs with
      | isTrue t => isTrue (h.1 ▸ h.2.1 ▸ h.2.2 ▸ t ▸ rfl)
      | isFalse t => isFalse fun e => t (Rule.group.inj e).2.2.1
    else
      isFalse fun e =>
        h ⟨(Rule.group.inj e).1, (Rule.group.inj e).2.1, (Rule.group.inj e).2.2.2⟩
  | .fontFace a p, .fontFace b q =>
    if h : a = b ∧ p = q then isTrue (h.1 ▸ h.2 ▸ rfl)
    else isFalse fun e => h (Rule.fontFace.inj e)
  | .charset a p, .charset b q =>
    if h : a = b ∧ p = q then isTrue (h.1 ▸ h.2 ▸ rfl)
    else isFalse fun e => h (Rule.charset.inj e)
  | .keyframes a v as p, .keyframes b w bs q =>
    if h : a = b ∧ v = w ∧ as = bs ∧ p = q then
      isTrue (h.1 ▸ h.2.1 ▸ h.2.2.1 ▸ h.2.2.2 ▸ rfl)
    else isFalse fun e => h (Rule.keyframes.inj e)
  | .keyframe a, .keyframe b =>
    if h : a = b then isTrue (h ▸ rfl) else isFalse fun e => h (Rule.keyframe.inj e)
  | .comment a p, .comment b q =>
    if h : a = b ∧ p = q then isTrue (h.1 ▸ h.2 ▸ rfl)
    else isFalse fun e => h (Rule.comment.inj e)
  | .style _, .atRule _ | .style _, .group .. | .style _, .fontFace .. | .style _, .charset ..
  | .style _, .keyframes .. | .style _, .keyframe _ | .style _, .comment ..
  | .atRule _, .style _ | .atRule _, .group .. | .atRule _, .fontFace ..
  | .atRule _, .charset .. | .atRule _, .keyframes .. | .atRule _, .keyframe _
  | .atRule _, .comment .. | .group .., .style _ | .group .., .atRule _
  | .group .., .fontFace .. | .group .., .charset .. | .group .., .keyframes ..
  | .group .., .keyframe _ | .group .., .comment .. | .fontFace .., .style _
  | .fontFace .., .atRule _ | .fontFace .., .group .. | .fontFace .., .charset ..
  | .fontFace .., .keyframes .. | .fontFace .., .keyframe _ | .fontFace .., .comment ..
  | .charset .., .style _ | .charset .., .atRule _ | .charset .., .group ..
  | .charset .., .fontFace .. | .charset .., .keyframes .. | .charset .., .keyframe _
  | .charset .., .comment .. | .keyframes .., .style _ | .keyframes .., .atRule _
  | .keyframes .., .group .. | .keyframes .., .fontFace .. | .keyframes .., .charset ..
  | .keyframes .., .keyframe _ | .keyframes .., .comment .. | .keyframe _, .style _
  | .keyframe _, .atRule _ | .keyframe _, .group .. | .keyframe _, .fontFace ..
  | .keyframe _, .charset .. | .keyframe _, .keyframes .. | .keyframe _, .comment ..
  | .comment .., .style _ | .comment .., .atRule _ | .comment .., .group ..
  | .comment .., .fontFace .. | .comment .., .charset .. | .comment .., .keyframes ..
  | .comment .., .keyframe _ => isFalse nofun

def decEqAll : (as bs : List Rule) → Decidable (as = bs)
  | [], [] => isTrue rfl
  | a :: as, b :: bs =>
    match decEq a b, decEqAll as bs with
    | isTrue h, isTrue t => isTrue (h ▸ t ▸ rfl)
    | isFalse h, _ => isFalse fun e => h (List.cons.inj e).1
    | _, isFalse t => isFalse fun e => t (List.cons.inj e).2
  | [], _ :: _ | _ :: _, [] => isFalse nofun

end

instance : DecidableEq Rule := decEq

end Rule

/-- The number of style rules of a stylesheet, those directly inside a group included. -/
def Stylesheet.countStyleRules : Stylesheet → Nat
  | [] => 0
  | .style _ :: rest => countStyleRules rest + 1
  | .group _ _ inner _ :: rest => inner.countP (fun r => r.kind == .style) + countStyleRules rest
  | _ :: rest => countStyleRules rest

end CriticalCss
