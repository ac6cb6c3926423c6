import DesignToCode.Markup.Page
import DesignToCode.Number.Shortest
import DesignToCode.Style.Declarations
import DesignToCode.Text.Percent

set_option autoImplicit false

/-!
Utility classes. A length on the spacing scale has a class of its own, and any other value stands
between brackets; a class behind a width applies from that width on.
-/
namespace DesignToCode.Tailwind

open DesignToCode.Text

/-- The stylesheet, which asks for the classes that are used. -/
def directives : String := "@tailwind base;\n@tailwind components;\n@tailwind utilities;\n"

/-- The steps of the spacing scale, of four pixels each. -/
def spacingSteps : List Int :=
  [0, 1, 2, 3, 4, 5, 6, 7, 8, 9, 10, 11, 12, 14, 16, 20, 24, 28, 32, 36, 40, 44, 48, 52, 56, 60, 64,
    72, 80, 96]

/-- The stacking indices that have a class of their own. -/
def stackSteps : List Int := [0, 10, 20, 30, 40, 50]

/-- A value between brackets, with underscores for its spaces. -/
def arbitrary (value : String) : String :=
  String.ofList ('[' :: (trimmed value.toList).map (fun c => if c = ' ' then '_' else c) ++ [']'])

/-- An address that stays in one class. -/
def classAddress (url : String) : String := percentEncode (trim url)

/-- The class of a distance, whose text may be written in its own way. A distance that is no whole
number keeps its form as a step. -/
def spacingAs (px : Number) (written : String) : String :=
  match px with
  | .int i =>
    if i % 4 = 0 ∧ spacingSteps.contains (i / 4) then toString (i / 4)
    else arbitrary (written ++ "px")
  | .real x =>
    match spacingSteps.find? fun step =>
      px.le (.int (4 * step)) && (Number.int (4 * step)).le px with
    | some 0 => (Number.real x).text
    | some step => (Number.real (.ofInt step)).text
    | none => arbitrary (written ++ "px")

def spacing (px : Int) : String := spacingAs (.int px) (toString px)

/-- The class of a stacking index, whose text may be written in its own way. -/
def stackClassAs (value : Number) (written : String) : String :=
  if stackSteps.any fun step => value.le (.int step) && (Number.int step).le value then
    "z-" ++ written
  else "z-" ++ arbitrary written

def stackClass (z : Int) : String := stackClassAs (.int z) (toString z)

/-- The directions that a gradient can take, with the ends of their classes. -/
def gradientEnds : List (String × String) := [
  ("to top", "t"),
  ("to top right", "tr"),
  ("to right", "r"),
  ("to bottom right", "br"),
  ("to bottom", "b"),
  ("to bottom left", "bl"),
  ("to left", "l"),
  ("to top left", "tl")]

/-- Any other direction is to the bottom. -/
def gradientEnd (direction : String) : String :=
  (gradientEnds.lookup (lower (trim direction))).getD "b"

def paintClasses : BackgroundStrategy.Paint → List String
  | .solid color => ["bg-" ++ arbitrary color]
  | .gradient direction first last =>
    ["bg-gradient-to-" ++ gradientEnd direction, "from-" ++ arbitrary first,
      "to-" ++ arbitrary last]
  | .image url => ["bg-" ++ arbitrary s!"url('{classAddress url}')", "bg-cover", "bg-center"]

def backgroundClasses (b : BackgroundStrategy) : List String :=
  match b.paint? with
  | none => []
  | some paint => paintClasses paint

def layerClasses (l : LayerRule) : List String :=
  l.position :: ((if l.staysAtTop then ["top-0"] else []) ++ [stackClass l.zIndex])

def columnsClass (count : Nat) : String := s!"grid-cols-{count}"

def directionClass (direction : Option String) : String :=
  if isColumn direction then "flex-col" else "flex-row"

def gapClass (gap : Nat) : String := "gap-" ++ spacing gap

def layoutClasses (layout : Layout) (columns : Option Columns) (direction : Option String)
    (gap : Nat) : List String :=
  match layout with
  | .grid => ["grid", columnsClass (columnCount columns), gapClass gap]
  | .flex => ["flex", directionClass direction, gapClass gap]
  | .block => ["block"]

/-- What stands before the classes of a rule: its breakpoint, or its width if the breakpoint is not
the one of that width. -/
def widthMark (rule : ResponsiveRule) : String :=
  match breakpoints.lookup rule.breakpoint, rule.resolvedMinWidth with
  | some named, some width => if width = named then rule.breakpoint ++ ":" else s!"min-[{width}px]:"
  | none, some width => s!"min-[{width}px]:"
  | _, none => "min-[Nonepx]:"

def changeClasses (c : ResponsiveChange) (sec : Section) (schema : Schema) : List String :=
  if c.isHidden then ["hidden"]
  else if c.laysOut then
    layoutClasses (c.layoutIn sec) (c.columnsIn sec) (c.directionIn sec) (c.gapIn sec schema)
  else
    ((c.columnsFor sec).map fun n => columnsClass n.count).toList ++
      ((c.directionFor sec).map fun d => directionClass (some d)).toList ++
      ((c.gapFor sec).map gapClass).toList

def alignments : List (String × String) := [
  ("start", "items-start"),
  ("center", "items-center"),
  ("end", "items-end"),
  ("stretch", "items-stretch")]

def rootClasses (schema : Schema) : List String :=
  let strategy := schema.layoutStrategy
  (if strategy.isGrid then ["grid"] else ["flex", "flex-col"]) ++ [gapClass strategy.gap] ++
    (alignments.lookup strategy.alignment).toList ++
    (match strategy.maxWidth? with
      | none => []
      | some width => ["mx-auto", "w-full", "max-w-" ++ arbitrary (pixels width)]) ++
    backgroundClasses schema.backgroundStrategy ++
    (match schema.layering.zIndex? with
      | none => []
      | some z => ["relative", stackClass z])

/-- The changes of a rule that are about a section. -/
def changesFor (rule : ResponsiveRule) (sec : Section) : List ResponsiveChange :=
  rule.rules.filter fun c => c.target == everySection || c.target == sec.id

/-- The classes that a rule adds to a section; none if its width is unknown. -/
def ruleClasses (schema : Schema) (sec : Section) (rule : ResponsiveRule) : List String :=
  if rule.resolvedMinWidth.isNone then []
  else
    (changesFor rule sec).flatMap fun c =>
      (changeClasses c sec schema).map (widthMark rule ++ ·)

/-- Each class at its first place only. -/
def sectionClassList (schema : Schema) (sec : Section) : List String :=
  (layoutClasses sec.layout sec.columns sec.direction (schema.gapOf sec) ++
    ((schema.overrideOf sec).map fun color => "bg-" ++ arbitrary color).toList ++
    (schema.layersOf sec).flatMap layerClasses ++
    schema.responsiveRules.flatMap (ruleClasses schema sec)).eraseDups

/-- The classes of the kinds of components. -/
def kindClasses : List (String × List String) := [
  ("button", ["px-4", "py-2", "rounded-md", "font-medium"]),
  ("image", ["w-full", "h-auto"]),
  ("input", ["w-full", "rounded-md", "border", "px-3", "py-2"]),
  ("link", ["underline"]),
  ("list", ["list-disc", "pl-5"]),
  ("nav", ["flex", "gap-4"]),
  ("card", ["rounded-lg", "border", "p-6"])]

def headingClasses : List (Int × List String) := [
  (1, ["text-4xl", "font-bold"]),
  (2, ["text-3xl", "font-bold"]),
  (3, ["text-2xl", "font-semibold"])]

/-- The classes of a heading of any level. -/
def levelClasses (level : Int) : List String :=
  (headingClasses.lookup level).getD ["text-xl", "font-semibold"]

def componentClasses (c : Component) : List String :=
  if c.kind = "heading" then
    match c.level with
    | .ok level => levelClasses level
    | .error _ => levelClasses Component.defaultLevel
  else (kindClasses.lookup c.kind).getD []

def namer (schema : Schema) : Namer where
  root := rootClasses schema
  ofSection := sectionClassList schema
  ofComponent := fun c _ => componentClasses c

end DesignToCode.Tailwind
