import DesignToCode.Markup.Page
import DesignToCode.Style.Printer

set_option autoImplicit false

/-!
Classes of a grid framework, and a stylesheet of overrides for what it has no class for: colors,
widths, stacking indices, breakpoints of other names and grids of more than six columns.
-/
namespace DesignToCode.Bootstrap

open DesignToCode.Text

def stylesheetPath : String := "bootstrap/dist/css/bootstrap.min.css"

def importRule : String := "@import \"" ++ stylesheetPath ++ "\";\n"

/-- The names of breakpoints, with what stands for them inside a class. -/
def infixes : List (String × String) := [
  ("sm", "sm"), ("md", "md"), ("lg", "lg"), ("xl", "xl"), ("2xl", "xxl"), ("xxl", "xxl")]

/-- The lengths of the spacers, in pixels. -/
def spacers : List Int := [0, 4, 8, 16, 24, 48]

/-- The greatest number of columns that has a class. -/
def maxRowColumns : Nat := 6

/-- The number of the nearest spacer; of two equally near ones, the smaller. -/
def spacer (px : Int) : Nat :=
  (spacers.zipIdx.foldl (fun best entry =>
    if (entry.1 - px).natAbs < (best.1 - px).natAbs then entry else best) (0, 0)).2

/-- The same for any number, by the distances as numbers of its form. -/
def spacerOf : Number → Nat
  | .int px => spacer px
  | .real x =>
    let far (length : Int) : Number := .real (x.distance length)
    (spacers.zipIdx.foldl (fun best entry =>
      if (far entry.1).lt (far best.1) then entry else best) (0, 0)).2

/-- The infix of a rule that has no width of its own, if its breakpoint is known. -/
def ruleInfix (rule : ResponsiveRule) : Option String :=
  if rule.minWidth.isSome then none else infixes.lookup rule.breakpoint

def rootClass : String := "page"

def kindClasses : List (String × List String) := [
  ("button", ["btn", "btn-primary"]),
  ("image", ["img-fluid"]),
  ("input", ["form-control"]),
  ("link", ["link-primary"]),
  ("nav", ["nav"]),
  ("card", ["card", "card-body"])]

/-- The classes that no section may take for its own. -/
def reserved : List String :=
  [rootClass, "container", "container-fluid", "row", "col"] ++ kindClasses.flatMap (·.2)

def directionWord (direction : Option String) : String :=
  if isColumn direction then "column" else "row"

/-- The classes of a base layout; none for a grid of too many columns. -/
def baseClasses (sec : Section) (gap : Nat) : List String :=
  match sec.layout with
  | .grid =>
    if columnCount sec.columns ≤ maxRowColumns then
      ["row", s!"row-cols-{columnCount sec.columns}", s!"g-{spacer gap}"]
    else []
  | .flex => ["d-flex", s!"flex-{directionWord sec.direction}", s!"gap-{spacer gap}"]
  | .block => ["d-block"]

/-- Whether the columns that a change names can be said in classes. -/
def columnsFit (c : ResponsiveChange) (sec : Section) : Bool :=
  match c.columnsFor sec with
  | none => true
  | some n => n.count ≤ maxRowColumns && columnCount sec.columns ≤ maxRowColumns

/-- What a change that lays out anew says first: the display, and the direction of a line. -/
def displayClasses (c : ResponsiveChange) (sec : Section) (mark : String) : List String :=
  s!"d-{mark}-flex" ::
    if c.layoutIn sec = .flex then [s!"flex-{mark}-{directionWord (c.directionIn sec)}"] else []

/-- The gap of a grid and that of a line have different names. -/
def gapWord (layout : Layout) : String := if layout = .grid then "g" else "gap"

/-- The columns, direction and gap that a change names. -/
def detailClasses (c : ResponsiveChange) (sec : Section) (mark : String) : List String :=
  ((c.columnsFor sec).map fun n => s!"row-cols-{mark}-{n.count}").toList ++
    (if c.layout.isNone then
      ((c.directionFor sec).map fun d => s!"flex-{mark}-{directionWord (some d)}").toList
    else []) ++
    ((c.gapFor sec).map fun gap => s!"{gapWord (c.layoutIn sec)}-{mark}-{spacer gap}").toList

/-- The classes of a change, or nothing where there are none for it. -/
def changeClasses? (c : ResponsiveChange) (sec : Section) (mark : String) : Option (List String) :=
  if c.isHidden then some [s!"d-{mark}-none"]
  else if c.laysOut && c.layoutIn sec == .grid && sec.layout != .grid then none
  else if c.laysOut && c.layoutIn sec == .block then some [s!"d-{mark}-block"]
  else if !columnsFit c sec then none
  else
    some ((if c.laysOut then displayClasses c sec mark else []) ++ detailClasses c sec mark)

def positionClasses : List (String × String) := [
  ("static", "position-static"),
  ("relative", "position-relative"),
  ("absolute", "position-absolute"),
  ("sticky", "sticky-top"),
  ("fixed", "fixed-top")]

def positionClass (position : String) : String :=
  (positionClasses.lookup position).getD "position-relative"

/-- What is said in classes, by section id, and what is left to the stylesheet. -/
structure Plan where
  sectionClasses : List (String × List String)
  selectors : ClassMap
  sheet : StyleSheet

def rootDeclarations (schema : Schema) : Declarations :=
  (schema.layoutStrategy.maxWidth?.map fun width => ("max-width", pixels width)).toList ++
    schema.backgroundStrategy.declarations ++ schema.layering.declarations

/-- The classes of a section below all breakpoints. -/
def sectionBase (schema : Schema) (sec : Section) : List String :=
  baseClasses sec (schema.gapOf sec) ++
    (schema.layersOf sec).map fun layer => positionClass layer.position

def sectionOverrides (schema : Schema) (sec : Section) : Declarations :=
  let gap := schema.gapOf sec
  let layout :=
    if (baseClasses sec gap).isEmpty then
      layoutDeclarations sec.layout sec.columns sec.direction gap
    else []
  (schema.layersOf sec).foldl (fun made layer => Fields.put made "z-index" (toString layer.zIndex))
    (layout ++ schema.overrideDeclarations sec)

/-- Declares more in the rule of a class. -/
def declareInRules (rules : List StyleRule) (className : String) (more : Declarations) :
    List StyleRule :=
  match rules with
  | [] => [⟨className, more, none⟩]
  | rule :: rest =>
    if rule.className = className then
      { rule with declarations := Fields.putAll rule.declarations more } :: rest
    else rule :: declareInRules rest className more

/-- Declares more in the block of a label and a width. -/
def declareInMedia (media : List MediaBlock) (label : String) (width : Nat) (className : String)
    (more : Declarations) : List MediaBlock :=
  match media with
  | [] => [⟨label, width, declareInRules [] className more⟩]
  | block :: rest =>
    if block.label = label ∧ block.minWidth = width then
      { block with rules := declareInRules block.rules className more } :: rest
    else block :: declareInMedia rest label width className more

def addClasses (classes : List (String × List String)) (id : String) (more : List String) :
    List (String × List String) :=
  Fields.put classes id ((classes.lookup id).getD [] ++ more)

/-- One change of one section: classes if there are any for it, or else declarations. -/
def planChange (schema : Schema) (rule : ResponsiveRule) (width : Nat) (plan : Plan)
    (pair : ResponsiveChange × Section) : Plan :=
  let (change, sec) := pair
  match (ruleInfix rule).bind (changeClasses? change sec) with
  | some classes => { plan with sectionClasses := addClasses plan.sectionClasses sec.id classes }
  | none => { plan with
      sheet := { plan.sheet with
        media := declareInMedia plan.sheet.media rule.breakpoint width
          (Schema.classIn plan.selectors sec) (change.declarations sec schema) } }

def planRule (schema : Schema) (plan : Plan) (rule : ResponsiveRule) : Plan :=
  match rule.resolvedMinWidth with
  | none => plan
  | some width => (schema.changesOf rule).foldl (planChange schema rule width) plan

/-- The plan below all breakpoints. -/
def basePlan (schema : Schema) : Plan :=
  let selectors := DesignToCode.sectionClasses kebabClass reserved schema.sectionIds
  { sectionClasses :=
      Fields.ofPairs (schema.sections.map fun sec => (sec.id, sectionBase schema sec))
    selectors := selectors
    sheet := {
      rules := ⟨rootClass, rootDeclarations schema, none⟩ ::
        schema.sections.map fun sec =>
          ⟨Schema.classIn selectors sec, sectionOverrides schema sec, none⟩ } }

def plan (schema : Schema) : Plan :=
  schema.responsiveRules.foldl (planRule schema) (basePlan schema)

namespace Plan

/-- The classes for which the stylesheet declares something. -/
def usedSelectors (p : Plan) : List String :=
  ((p.sheet.rules ++ p.sheet.media.flatMap (·.rules)).filter fun r => !r.declaresNothing).map
    (·.className)

def classesOf (p : Plan) (id : String) : List String := (p.sectionClasses.lookup id).getD []

/-- A class of the stylesheet, if it is used. -/
def usedClass (p : Plan) (className : String) : List String :=
  if p.usedSelectors.contains className then [className] else []

end Plan

def alignments : List (String × String) := [
  ("start", "align-items-start"),
  ("center", "align-items-center"),
  ("end", "align-items-end"),
  ("stretch", "align-items-stretch")]

def rootClasses (schema : Schema) (p : Plan) : List String :=
  let strategy := schema.layoutStrategy
  [if strategy.maxWidth?.isSome then "container" else "container-fluid"] ++
    (if strategy.isGrid then ["d-grid"] else ["d-flex", "flex-column"]) ++
    [s!"gap-{spacer strategy.gap}"] ++ (alignments.lookup strategy.alignment).toList ++
    p.usedClass rootClass

/-- A component in a row is a column. -/
def componentClasses (p : Plan) (c : Component) (sec : Section) : List String :=
  (if (p.classesOf sec.id).contains "row" then ["col"] else []) ++
    (kindClasses.lookup c.kind).getD []

def namer (schema : Schema) (p : Plan) : Namer where
  root := rootClasses schema p
  ofSection := fun sec => p.classesOf sec.id ++ p.usedClass (Schema.classIn p.selectors sec)
  ofComponent := componentClasses p

end DesignToCode.Bootstrap
