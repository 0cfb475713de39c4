import CriticalCss.Stylesheet.Rule

/-!
# Writing a stylesheet

A stylesheet is written in one of two layouts: pretty, with one declaration a line and two spaces
of indentation for each level, or compressed, without white space of its own. The two differ in
white space and in the semicolon behind the last declaration.
-/

namespace CriticalCss

/-- How a stylesheet is laid out. -/
inductive Layout where
  | pretty
  | compressed
deriving DecidableEq, Repr

def indentation (level : Nat) : List Char :=
  List.replicate (2 * level) ' '

namespace Layout

/-- The indentation of a level in a layout; compressed text has none. -/
def indent (layout : Layout) (level : Nat) : List Char :=
  match layout with
  | pretty => indentation level
  | compressed => []

def declaration (layout : Layout) (level : Nat) (d : Declaration) : List Char :=
  match layout with
  | pretty =>
    indentation (level + 1) ++ d.property.toList ++ ':' :: ' ' :: d.value.toList ++ [';']
  | compressed => d.property.toList ++ ':' :: d.value.toList

def declarations (layout : Layout) (level : Nat) (ds : List Declaration) : List Char :=
  let lines := ds.map (layout.declaration level)
  match layout with
  | pretty =>
    [' ', '\x7b', '\n'] ++ ['\n'].intercalate lines ++ '\n' :: indentation level ++ ['\x7d']
  | compressed => '\x7b' :: [';'].intercalate lines ++ ['\x7d']

/-- The selectors of a style rule. -/
def selectors (layout : Layout) (level : Nat) (texts : List String) : List Char :=
  let separator :=
    match layout with
    | pretty => ',' :: '\n' :: indentation level
    | compressed => [',']
  separator.intercalate (texts.map String.toList)

/-- A block of rules that are already written, with the blank between two of them. -/
def rules (layout : Layout) (level : Nat) (gap : List Char) (body : List (List Char)) :
    List Char :=
  match layout with
  | pretty =>
    [' ', '\x7b', '\n'] ++ gap.intercalate body ++ '\n' :: indentation level ++ ['\x7d']
  | compressed => '\x7b' :: body.flatten ++ ['\x7d']

def keyframe (layout : Layout) (level : Nat) (f : Keyframe) : List Char :=
  layout.indent level ++ [','].intercalate (f.values.map String.toList) ++
    layout.declarations level f.declarations

/-- An at-rule that is kept as it was written. -/
def atRule (layout : Layout) (level : Nat) (r : AtRule) : List Char :=
  let head := layout.indent level ++ '@' :: r.name.toList ++
    (if r.prelude = "" then [] else ' ' :: r.prelude.toList)
  match r.block, layout with
  | none, _ => head ++ [';']
  | some block, pretty => head ++ [' ', '\x7b', ' '] ++ block.toList ++ [' ', '\x7d']
  | some block, compressed => head ++ '\x7b' :: block.toList ++ ['\x7d']

end Layout

/-- A rule at a level of nesting. A keyframe outside of keyframes is not written. -/
def Rule.text (layout : Layout) (level : Nat) : Rule → List Char
  | style r =>
    layout.indent level ++ layout.selectors level r.selectors ++
      layout.declarations level r.declarations
  | group kind condition inner _ =>
    layout.indent level ++ '@' :: kind.keyword.toList ++ ' ' :: condition.toList ++
      layout.rules level ['\n', '\n'] (texts inner)
  | fontFace ds _ =>
    layout.indent level ++ "@font-face".toList ++ layout.declarations level ds
  | charset c _ => layout.indent level ++ "@charset ".toList ++ c.toList ++ [';']
  | keyframes name vendor frames _ =>
    layout.indent level ++ '@' :: vendor.toList ++ "keyframes ".toList ++ name.toList ++
      layout.rules level ['\n'] (frames.map (layout.keyframe (level + 1)))
  | comment t _ => layout.indent level ++ '/' :: '*' :: t.toList ++ ['*', '/']
  | atRule r => layout.atRule level r
  | keyframe _ => []
where
  /-- The rules of a group, one level deeper. -/
  texts : List Rule → List (List Char)
    | [] => []
    | r :: rest => r.text layout (level + 1) :: texts rest

namespace Stylesheet

/-- The characters of a stylesheet in a layout. -/
def text (layout : Layout) (sheet : Stylesheet) : List Char :=
  let chunks := (sheet.map (Rule.text layout 0)).filter (!·.isEmpty)
  match layout with
  | .pretty => ['\n', '\n'].intercalate chunks
  | .compressed => chunks.flatten

/-- The text of a stylesheet in a layout. -/
def print (layout : Layout) (sheet : Stylesheet) : String :=
  String.ofList (text layout sheet)

end Stylesheet

end CriticalCss
