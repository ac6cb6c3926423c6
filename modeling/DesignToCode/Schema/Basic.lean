import DesignToCode.Json.Basic

set_option autoImplicit false

/-!
The canonical schema of a page: sections with their components, and the policies for layout,
background, layering and width. The bounds on gaps, widths and columns belong to the types.
-/
namespace DesignToCode

inductive Layout where
  | grid
  | flex
  | block
  deriving DecidableEq, Repr

inductive InputType where
  | image
  | text
  deriving DecidableEq, Repr

inductive Confidence where
  | high
  | medium
  | low
  deriving DecidableEq, Repr

inductive Risk where
  | low
  | medium
  | high
  deriving DecidableEq, Repr

inductive Adjustment where
  | none
  | minor
  | moderate
  | major
  deriving DecidableEq, Repr

/-- The frameworks that code can be written for. -/
inductive Framework where
  | tailwind
  | bootstrap
  | css
  | scss
  | cssModules
  | postcss
  deriving DecidableEq, Repr

def Layout.named : List (String × Layout) :=
  [("grid", .grid), ("flex", .flex), ("block", .block)]

def Layout.name : Layout → String
  | .grid => "grid"
  | .flex => "flex"
  | .block => "block"

def InputType.named : List (String × InputType) := [("image", .image), ("text", .text)]

def InputType.name : InputType → String
  | .image => "image"
  | .text => "text"

def Confidence.named : List (String × Confidence) :=
  [("high", .high), ("medium", .medium), ("low", .low)]

def Confidence.name : Confidence → String
  | .high => "high"
  | .medium => "medium"
  | .low => "low"

def Risk.named : List (String × Risk) := [("low", .low), ("medium", .medium), ("high", .high)]

def Risk.name : Risk → String
  | .low => "low"
  | .medium => "medium"
  | .high => "high"

def Adjustment.named : List (String × Adjustment) :=
  [("none", .none), ("minor", .minor), ("moderate", .moderate), ("major", .major)]

def Adjustment.name : Adjustment → String
  | .none => "none"
  | .minor => "minor"
  | .moderate => "moderate"
  | .major => "major"

def Framework.name : Framework → String
  | .tailwind => "tailwind"
  | .bootstrap => "bootstrap"
  | .css => "css"
  | .scss => "scss"
  | .cssModules => "css-modules"
  | .postcss => "postcss"

def Framework.all : List Framework := [.tailwind, .bootstrap, .css, .scss, .cssModules, .postcss]

/-- The names of the frameworks that a schema may ask for. -/
def Framework.names : List String := Framework.all.map Framework.name

def layoutNames : List String := Layout.named.map (·.1)

def confidenceNames : List String := Confidence.named.map (·.1)

def inputTypeNames : List String := InputType.named.map (·.1)

/-- The number of columns of a grid. -/
structure Columns where
  count : Nat
  one_le : 1 ≤ count
  le_twelve : count ≤ 12
  deriving DecidableEq, Repr

/-- A region of the page. Its components are named in visual order. -/
structure Section where
  id : String
  name : String
  type : String
  layout : Layout := .block
  components : List String := []
  columns : Option Columns := none
  direction : Option String := none
  gap : Option Nat := none

/-- An element of the page. What only its type asks for stands in the attributes. -/
structure Component where
  id : String
  name : String
  type : String
  attributes : Fields := []

structure LayoutStrategy where
  approach : String := "flex"
  reasoning : String := ""
  maxWidth : Option Nat := none
  gap : Nat := 16
  alignment : String := "stretch"

structure BackgroundStrategy where
  type : String := "none"
  color : Option String := none
  gradientFrom : Option String := none
  gradientTo : Option String := none
  gradientDirection : String := "to bottom"
  imageUrl : Option String := none
  sectionOverrides : List (String × String) := []

structure LayerRule where
  target : String
  zIndex : Int := 0
  position : String := "relative"

structure Layering where
  zIndex : Int := 0
  layers : List LayerRule := []

/-- One change of a section from a width on. -/
structure ResponsiveChange where
  target : String
  layout : Option Layout := none
  columns : Option Columns := none
  direction : Option String := none
  gap : Option Nat := none
  hidden : Option Bool := none

structure ResponsiveRule where
  breakpoint : String
  minWidth : Option Nat := none
  rules : List ResponsiveChange := []

structure Ambiguity where
  type : String
  description : String
  assumption : String

/-- The version of the schemas that are made here. -/
def currentVersion : String := "1.0.0"

/-- The major version of the schemas that are read here. -/
def supportedMajor : Nat := 1

structure SchemaMeta where
  schemaVersion : String := currentVersion
  inputType : List InputType := [.image]
  frameworkTarget : List String := [Framework.tailwind.name]
  confidenceLevel : Confidence := .medium

structure Schema where
  info : SchemaMeta := {}
  sections : List Section := []
  components : List Component := []
  layoutStrategy : LayoutStrategy := {}
  backgroundStrategy : BackgroundStrategy := {}
  layering : Layering := {}
  responsiveRules : List ResponsiveRule := []
  assumptions : List String := []
  ambiguities : List Ambiguity := []

/-- How far a run can be relied on. -/
structure QualityAssessment where
  visualConfidence : Confidence
  structuralConfidence : Confidence
  responsiveRisk : Risk
  maintainabilityRisk : Risk
  manualAdjustmentNeeded : Adjustment
  reasoning : String := ""

/-- The least width, in pixels, of a breakpoint that goes by name. -/
def breakpoints : List (String × Nat) :=
  [("sm", 640), ("md", 768), ("lg", 1024), ("xl", 1280), ("2xl", 1536)]

/-- The width from which a rule applies: its own, or that of its breakpoint. -/
def ResponsiveRule.resolvedMinWidth (rule : ResponsiveRule) : Option Nat :=
  match rule.minWidth with
  | some width => some width
  | none => breakpoints.lookup rule.breakpoint

/-- The target that stands for every section. -/
def everySection : String := "*"

namespace Schema

def sectionIds (schema : Schema) : List String := schema.sections.map (·.id)

def componentIds (schema : Schema) : List String := schema.components.map (·.id)

/-- The first component of an id. -/
def component? (schema : Schema) (id : String) : Option Component :=
  schema.components.find? (·.id == id)

/-- The gap of a section, or that of the page. -/
def gapOf (schema : Schema) (sec : Section) : Nat := sec.gap.getD schema.layoutStrategy.gap

end Schema

end DesignToCode
