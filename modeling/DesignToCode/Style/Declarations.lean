import DesignToCode.Schema.Basic

set_option autoImplicit false

/-!
The declarations that the policies of a schema come to: properties with their values, in order. A
property that is declared again keeps its place and takes the later value.
-/
namespace DesignToCode

abbrev Declarations := List (String × String)

/-- A text unless it is empty. -/
def filled (s : Option String) : Option String := s.filter (!·.isEmpty)

def pixels (n : Nat) : String := s!"{n}px"

/-- What a background comes to, if it has all that its type needs. -/
inductive BackgroundStrategy.Paint where
  | solid (color : String)
  | gradient (direction first last : String)
  | image (url : String)

def BackgroundStrategy.paint? (b : BackgroundStrategy) : Option BackgroundStrategy.Paint :=
  if b.type = "solid" then (filled b.color).map .solid
  else if b.type = "gradient" then
    (filled b.gradientFrom).bind fun first =>
      (filled b.gradientTo).map fun last => .gradient b.gradientDirection first last
  else if b.type = "image" then (filled b.imageUrl).map .image
  else none

def BackgroundStrategy.declarations (b : BackgroundStrategy) : Declarations :=
  match b.paint? with
  | none => []
  | some (.solid color) => [("background-color", color)]
  | some (.gradient direction first last) =>
    [("background-image", s!"linear-gradient({direction}, {first}, {last})")]
  | some (.image url) => [
      ("background-image", s!"url('{url}')"),
      ("background-size", "cover"),
      ("background-position", "center")]

/-- Sticky and fixed layers stay at the top. -/
def LayerRule.staysAtTop (l : LayerRule) : Bool := l.position == "sticky" || l.position == "fixed"

def LayerRule.declarations (l : LayerRule) : Declarations :=
  [("position", l.position), ("z-index", toString l.zIndex)] ++
    if l.staysAtTop then [("top", "0")] else []

def columnCount (columns : Option Columns) : Nat := (columns.map (·.count)).getD 1

def gridColumns (count : Nat) : String := s!"repeat({count}, minmax(0, 1fr))"

/-- Everything that is no column is a row. -/
def isColumn (direction : Option String) : Bool := direction == some "column"

def flexDirection (direction : Option String) : String :=
  if isColumn direction then "column" else "row"

def layoutDeclarations (layout : Layout) (columns : Option Columns) (direction : Option String)
    (gap : Nat) : Declarations :=
  match layout with
  | .grid => [
      ("display", "grid"),
      ("grid-template-columns", gridColumns (columnCount columns)),
      ("gap", pixels gap)]
  | .flex => [("display", "flex"), ("flex-direction", flexDirection direction), ("gap", pixels gap)]
  | .block => [("display", "block")]

/-- The alignments that are known, with what they are called along a flexible line. -/
def flexAlignments : List (String × String) :=
  [("start", "flex-start"), ("end", "flex-end"), ("center", "center"), ("stretch", "stretch")]

/-- A width or an index of zero counts as none. -/
def LayoutStrategy.maxWidth? (s : LayoutStrategy) : Option Nat := s.maxWidth.filter (· ≠ 0)

def Layering.zIndex? (l : Layering) : Option Int := if l.zIndex = 0 then none else some l.zIndex

namespace LayoutStrategy

def isGrid (s : LayoutStrategy) : Bool := s.approach == "grid"

def displayDeclarations (s : LayoutStrategy) : Declarations :=
  if s.isGrid then [("display", "grid"), ("gap", pixels s.gap)]
  else [("display", "flex"), ("flex-direction", "column"), ("gap", pixels s.gap)]

def alignmentDeclarations (s : LayoutStrategy) : Declarations :=
  match flexAlignments.lookup s.alignment with
  | none => []
  | some along => [("align-items", if s.isGrid then s.alignment else along)]

def widthDeclarations (s : LayoutStrategy) : Declarations :=
  match s.maxWidth? with
  | none => []
  | some width => [("width", "100%"), ("max-width", pixels width), ("margin", "0 auto")]

end LayoutStrategy

def Layering.declarations (l : Layering) : Declarations :=
  match l.zIndex? with
  | none => []
  | some z => [("position", "relative"), ("z-index", toString z)]

namespace Schema

def rootDeclarations (schema : Schema) : Declarations :=
  schema.layoutStrategy.displayDeclarations ++ schema.layoutStrategy.alignmentDeclarations ++
    schema.layoutStrategy.widthDeclarations ++ schema.backgroundStrategy.declarations ++
    schema.layering.declarations

/-- The color that a section has in place of its background. -/
def overrideOf (schema : Schema) (sec : Section) : Option String :=
  filled (schema.backgroundStrategy.sectionOverrides.lookup sec.id)

/-- The layers of a section, in order. -/
def layersOf (schema : Schema) (sec : Section) : List LayerRule :=
  schema.layering.layers.filter (·.target == sec.id)

def overrideDeclarations (schema : Schema) (sec : Section) : Declarations :=
  match schema.overrideOf sec with
  | none => []
  | some color => [("background-color", color)]

def sectionDeclarations (schema : Schema) (sec : Section) : Declarations :=
  let base := layoutDeclarations sec.layout sec.columns sec.direction (schema.gapOf sec)
  (schema.layersOf sec).foldl (fun made layer => Fields.putAll made layer.declarations)
    (base ++ schema.overrideDeclarations sec)

end Schema

namespace ResponsiveChange

def isHidden (c : ResponsiveChange) : Bool := c.hidden == some true

/-- A change that names a layout, or shows the section again, lays the section out anew. -/
def laysOut (c : ResponsiveChange) : Bool := c.layout.isSome || c.hidden == some false

def layoutIn (c : ResponsiveChange) (sec : Section) : Layout := c.layout.getD sec.layout

def columnsIn (c : ResponsiveChange) (sec : Section) : Option Columns := c.columns <|> sec.columns

def directionIn (c : ResponsiveChange) (sec : Section) : Option String :=
  filled c.direction <|> sec.direction

def gapIn (c : ResponsiveChange) (sec : Section) (schema : Schema) : Nat :=
  c.gap.getD (schema.gapOf sec)

/-- The columns, direction and gap that a change names, where the layout has a use for them. -/
def columnsFor (c : ResponsiveChange) (sec : Section) : Option Columns :=
  if c.layoutIn sec = .grid then c.columns else none

def directionFor (c : ResponsiveChange) (sec : Section) : Option String :=
  if c.layoutIn sec = .flex then c.direction else none

def gapFor (c : ResponsiveChange) (sec : Section) : Option Nat :=
  if c.layoutIn sec = .block then none else c.gap

/-- What a change declares on top of the base layout of a section. -/
def declarations (c : ResponsiveChange) (sec : Section) (schema : Schema) : Declarations :=
  if c.isHidden then [("display", "none")]
  else if c.laysOut then
    layoutDeclarations (c.layoutIn sec) (c.columnsIn sec) (c.directionIn sec) (c.gapIn sec schema)
  else
    ((c.columnsFor sec).map fun n => ("grid-template-columns", gridColumns n.count)).toList ++
      ((c.directionFor sec).map fun d => ("flex-direction", flexDirection (some d))).toList ++
      ((c.gapFor sec).map fun gap => ("gap", pixels gap)).toList

end ResponsiveChange

end DesignToCode
