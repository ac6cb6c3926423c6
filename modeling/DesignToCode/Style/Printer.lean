import DesignToCode.Style.Sheet

set_option autoImplicit false

/-!
Writing stylesheets: flat, with the rules of a media block inside it; nested in the page rule, with
a mixin for widths; or flat with widths by name inside each rule. The two that nest name every
width, and a name that stands for another width already is told apart by its width.
-/
namespace DesignToCode

open DesignToCode.Text

/-- The blanks of a nesting level. -/
def indent (level : Nat) : String := "".pushn ' ' (2 * level)

def declarationLines (level : Nat) (ds : Declarations) : List String :=
  ds.map fun d => s!"{indent level}{d.1}: {d.2};"

def openBrace : String := " \x7b"

def closeBrace : String := "\x7d"

/-- A comment unless it is empty. -/
def blockComment (level : Nat) (comment : Option String) : List String :=
  (filled comment).toList.map fun c => s!"{indent level}/* {c} */"

def lineComment (level : Nat) (comment : Option String) : List String :=
  (filled comment).toList.map fun c => s!"{indent level}// {c}"

/-- The first line of a block. -/
def opening (level : Nat) (head : String) : String := indent level ++ head ++ openBrace

def closing (level : Nat) : String := indent level ++ closeBrace

namespace StyleRule

def selector (r : StyleRule) : String := "." ++ r.className

def flatLines (level : Nat) (r : StyleRule) : List String :=
  blockComment level r.comment ++ [opening level r.selector] ++
    declarationLines (level + 1) r.declarations ++ [closing level]

end StyleRule

/-- Rules with an empty line between them. -/
def spaced : List (List String) → List String
  | [] => []
  | [block] => block
  | block :: rest => block ++ "" :: spaced rest

namespace MediaBlock

def flatLines (m : MediaBlock) : List String :=
  [opening 0 s!"@media (min-width: {m.minWidth}px)"] ++
    spaced (m.effective.map (StyleRule.flatLines 1)) ++ [closing 0]

/-- The name that the label of a block comes to. -/
def key (m : MediaBlock) : String :=
  let name := nameChars m.label
  if name.isEmpty then s!"bp-{m.minWidth}" else String.ofList name

def widthKey (m : MediaBlock) : String := s!"{m.key}-{m.minWidth}"

end MediaBlock

namespace StyleSheet

/-- Rules and blocks that declare nothing are left out. -/
def css (s : StyleSheet) : String :=
  let rules := (s.rules.filter fun r => !r.declaresNothing).map (StyleRule.flatLines 0)
  let media := (s.media.filter fun m => !m.effective.isEmpty).map MediaBlock.flatLines
  let blocks := (rules ++ media).map lines
  if blocks.isEmpty then "" else "\n\n".intercalate blocks ++ "\n"

/-- Names of widths, in the order of their first use. -/
abbrev Widths := List (String × Int)

def nameWidth (widths : Widths) (m : MediaBlock) : Widths :=
  let key := if ((widths.lookup m.key).getD m.minWidth) = m.minWidth then m.key else m.widthKey
  Fields.putNew widths key m.minWidth

def widths (s : StyleSheet) : Widths := s.media.foldl nameWidth []

/-- The name under which a block finds its width. -/
def widthName (widths : Widths) (m : MediaBlock) : String :=
  if widths.contains (m.key, m.minWidth) then m.key else m.widthKey

/-- The media rules of a class, each with its block. -/
def mediaOf (s : StyleSheet) (className : String) : List (MediaBlock × StyleRule) :=
  s.media.flatMap fun m => (m.rules.filter (·.className == className)).map (Prod.mk m)

/-- The media rules of a class as blocks inside its rule, an empty line before each. -/
def innerLines (s : StyleSheet) (head : String → String) (level : Nat) (className : String) :
    List String :=
  (s.mediaOf className).flatMap fun (m, r) =>
    ["", opening level (head (widthName s.widths m))] ++
      declarationLines (level + 1) r.declarations ++ [closing level]

def respond (name : String) : String := s!"@include respond(\"{name}\")"

def widthMap (widths : Widths) : List String :=
  if widths.isEmpty then []
  else
    ["$breakpoints: ("] ++ widths.map (fun w => s!"  \"{w.1}\": {w.2}px,") ++
      [");", "", opening 0 "@mixin respond($name)",
        opening 1 "@media (min-width: map.get($breakpoints, $name))", "    @content;", closing 1,
        closing 0, ""]

/-- A rule with its media rules, up to its closing brace. -/
def nestedRule (s : StyleSheet) (level : Nat) (r : StyleRule) : List String :=
  lineComment level r.comment ++ [opening level r.selector] ++
    declarationLines (level + 1) r.declarations ++ s.innerLines respond (level + 1) r.className

def nestedRules (s : StyleSheet) : List String :=
  match s.rules with
  | [] => []
  | root :: children =>
    s.nestedRule 0 root ++
      children.flatMap (fun child => "" :: s.nestedRule 1 child ++ [closing 1]) ++ [closing 0]

def scss (s : StyleSheet) : String :=
  lines (["@use \"sass:map\";", ""] ++ widthMap s.widths ++ s.nestedRules) ++ "\n"

def customMedia (widths : Widths) : List String :=
  if widths.isEmpty then []
  else widths.map (fun w => s!"@custom-media --{w.1} (min-width: {w.2}px);") ++ [""]

def ruleWithMedia (s : StyleSheet) (r : StyleRule) : List String :=
  blockComment 0 r.comment ++ [opening 0 r.selector] ++ declarationLines 1 r.declarations ++
    s.innerLines (fun name => s!"@media (--{name})") 1 r.className ++ [closing 0]

def postcss (s : StyleSheet) : String :=
  lines (customMedia s.widths ++
    ["\n\n".intercalate (s.rules.map fun r => lines (s.ruleWithMedia r))])
    ++ "\n"

end StyleSheet

end DesignToCode
