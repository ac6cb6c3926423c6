import DesignToCode.Capability.Output
import DesignToCode.Schema.Ids
import DesignToCode.Schema.Quality
import DesignToCode.Text.Blank

set_option autoImplicit false

/-!
Putting a schema together from what the two inference calls tell. Sections and components keep
their order and get ids; the policies are carried over from keys to ids, and a reference that names
no section is dropped. Every value that had to be chosen becomes an assumption, and everything that
could not be resolved an ambiguity.
-/
namespace DesignToCode

open DesignToCode.Text

namespace Assembly

/-- A section hint with the id of its section. -/
structure Placed where
  hint : SectionHint
  id : String

def placeSections (hints : List SectionHint) : List Placed :=
  List.zipWith Placed.mk hints (IdCounter.nextAll {} "sec" (hints.map (·.type)))

/-- The id of the first section that uses a key. -/
def sectionId? (placed : List Placed) (key : String) : Option String :=
  (placed.find? (·.hint.key == key)).map (·.id)

/-- The layout that a hint names, if it is one. -/
def layout? (hint : SectionHint) : Option Layout :=
  Layout.named.lookup (lower (trim (hint.layout.getD "")))

/-- The nearest number of columns that a grid may have. -/
def clampColumns (i : Int) : Columns :=
  ⟨(min (max i 1) 12).toNat, by omega, by omega⟩

def columnsOf (hint : SectionHint) (layout : Layout) : Option Columns :=
  if layout = .grid then hint.columns.map clampColumns else none

def directionOf (hint : SectionHint) (layout : Layout) : Option String :=
  if layout = .flex then hint.direction.filter fun d => d == "row" || d == "column" else none

/-- A component hint with the id of its component. -/
structure PlacedComponent where
  hint : ComponentHint
  id : String

def placeComponents (hints : List ComponentHint) : List PlacedComponent :=
  List.zipWith PlacedComponent.mk hints (IdCounter.nextAll {} "cmp" (hints.map (·.type)))

def PlacedComponent.component (p : PlacedComponent) : Component :=
  ⟨p.id, p.hint.name, p.hint.type, p.hint.attributes⟩

/-- The components whose key leads to a section. -/
def componentsOf (placed : List Placed) (components : List PlacedComponent) (id : String) :
    List String :=
  (components.filter fun c => sectionId? placed c.hint.sectionKey == some id).map (·.id)

def Placed.section (placed : List Placed) (components : List PlacedComponent) (p : Placed) :
    Section :=
  let layout := (layout? p.hint).getD .block
  { id := p.id
    name := p.hint.name
    type := p.hint.type
    layout := layout
    components := componentsOf placed components p.id
    columns := columnsOf p.hint layout
    direction := directionOf p.hint layout
    gap := none }

def duplicateKey (hint : SectionHint) : Ambiguity where
  type := "duplicate-section-key"
  description := s!"Vision output reused section key '{hint.key}' for '{hint.name}'"
  assumption := "Components with this key are placed in the first section using it."

/-- The hints whose key an earlier hint uses. -/
def reusedKeys (seen : List String) : List SectionHint → List SectionHint
  | [] => []
  | hint :: rest =>
    if seen.contains hint.key then hint :: reusedKeys seen rest
    else reusedKeys (hint.key :: seen) rest

def orphan (hint : ComponentHint) : Ambiguity where
  type := "orphan-component"
  description := s!"Component '{hint.name}' references unknown section '{hint.sectionKey}'"
  assumption := "Kept in components but not placed in any section."

def orphans (placed : List Placed) (hints : List ComponentHint) : List ComponentHint :=
  hints.filter fun hint => (sectionId? placed hint.sectionKey).isNone

def defaultedLayouts (hints : List SectionHint) : List SectionHint :=
  hints.filter fun hint => (layout? hint).isNone

def defaultedLayout (hint : SectionHint) : String :=
  s!"Layout of section '{hint.name}' was not detected; defaulted to block."

def unresolved (what key : String) : Ambiguity where
  type := "unresolved-reference"
  description := s!"{what} references unknown section '{key}'"
  assumption := s!"Dropped the {lower what}."

/-- The references to unknown keys among those of one kind. -/
def dropped (placed : List Placed) (what : String) (keys : List String) : List Ambiguity :=
  (keys.filter fun key => (sectionId? placed key).isNone).map (unresolved what)

def overrideKind : String := "Background override"

def layerKind : String := "Layering rule"

def changeKind (rule : ResponsiveRule) : String := s!"Responsive rule at '{rule.breakpoint}'"

def remapBackground (placed : List Placed) (b : BackgroundStrategy) : BackgroundStrategy :=
  { b with
    sectionOverrides := b.sectionOverrides.filterMap fun entry =>
      (sectionId? placed entry.1).map fun id => (id, entry.2) }

def remapLayering (placed : List Placed) (l : Layering) : Layering :=
  { l with
    layers := l.layers.filterMap fun layer =>
      (sectionId? placed layer.target).map fun id => { layer with target := id } }

/-- A change of every section is kept as it is. -/
def remapChange (placed : List Placed) (change : ResponsiveChange) : Option ResponsiveChange :=
  if change.target = everySection then some change
  else (sectionId? placed change.target).map fun id => { change with target := id }

/-- A rule whose width is unknown is dropped whole. -/
def remapRule (placed : List Placed) (rule : ResponsiveRule) : Option ResponsiveRule :=
  if rule.resolvedMinWidth.isNone then none
  else some { rule with rules := rule.rules.filterMap (remapChange placed) }

def unknownBreakpoint (rule : ResponsiveRule) : Ambiguity where
  type := "unresolved-reference"
  description :=
    s!"Responsive rule uses unknown breakpoint '{rule.breakpoint}' without a min width"
  assumption := "Dropped the responsive rule."

/-- The keys that the changes of a rule refer to. -/
def ruleKeys (rule : ResponsiveRule) : List String :=
  (rule.rules.map (·.target)).filter (· != everySection)

def ruleAmbiguities (placed : List Placed) (rule : ResponsiveRule) : List Ambiguity :=
  if rule.resolvedMinWidth.isNone then [unknownBreakpoint rule]
  else dropped placed (changeKind rule) (ruleKeys rule)

def overrideKeys (r : ReasoningOutput) : List String :=
  r.backgroundStrategy.sectionOverrides.map (·.1)

def layerKeys (r : ReasoningOutput) : List String := r.layering.layers.map (·.target)

/-- The ambiguities of all dropped references: overrides, layers, then responsive rules. -/
def referenceAmbiguities (placed : List Placed) (r : ReasoningOutput) : List Ambiguity :=
  dropped placed overrideKind (overrideKeys r) ++ dropped placed layerKind (layerKeys r) ++
    r.responsiveRules.flatMap (ruleAmbiguities placed)

/-- The references that are looked up; those of a rule that is dropped whole are not. -/
def references (r : ReasoningOutput) : Nat :=
  (overrideKeys r).length + (layerKeys r).length +
    (r.responsiveRules.flatMap fun rule =>
      if rule.resolvedMinWidth.isNone then [] else ruleKeys rule).length

def noDescription : String :=
  "No textual description supplied; structure inferred from the image only."

/-- Texts that are not empty, each at its first place only. -/
def distinctTexts (seen : List String) : List String → List String
  | [] => []
  | s :: rest =>
    if s.isEmpty || seen.contains s then distinctTexts seen rest
    else s :: distinctTexts (s :: seen) rest

def RankedAmbiguity.ambiguity (a : RankedAmbiguity) : Ambiguity :=
  ⟨a.type, a.description, a.assumption⟩

/-- By rank, and in the order in which they were told within one rank. -/
def ranked (ambiguities : List RankedAmbiguity) : List RankedAmbiguity :=
  ambiguities.mergeSort fun a b => a.rank ≤ b.rank

end Assembly

/-- A schema and what was noted while it was put together. -/
structure Assembled where
  schema : Schema
  signals : Signals

open Assembly in
def assemble (vision : VisionOutput) (reasoning : ReasoningOutput) (inputTypes : List InputType)
    (targets : List String) : Assembled :=
  let placed := placeSections vision.sections
  let components := placeComponents vision.componentHints
  let lost := orphans placed vision.componentHints
  let defaulted := defaultedLayouts vision.sections
  let dropped := referenceAmbiguities placed reasoning
  let ambiguities :=
    (reusedKeys [] vision.sections).map duplicateKey ++ lost.map orphan ++ dropped ++
      (ranked reasoning.ambiguities).map RankedAmbiguity.ambiguity
  let signals : Signals := {
    visionConfidence := .real vision.confidence
    reasoningConfidence := reasoning.confidence.map .real
    structuralItems :=
      vision.sections.length + vision.componentHints.length + references reasoning
    defaultedLayouts := defaulted.length
    orphanedComponents := lost.length
    droppedReferences := dropped.length
    responsiveAmbiguities := reasoning.ambiguities.countP (·.type == "responsive") }
  let schema : Schema := {
    info := {
      inputType := inputTypes
      frameworkTarget := targets
      confidenceLevel := Quality.overallConfidence signals ambiguities.length }
    sections := placed.map (Placed.section placed components)
    components := components.map PlacedComponent.component
    layoutStrategy := reasoning.layoutStrategy
    backgroundStrategy := remapBackground placed reasoning.backgroundStrategy
    layering := remapLayering placed reasoning.layering
    responsiveRules := reasoning.responsiveRules.filterMap (remapRule placed)
    assumptions :=
      distinctTexts []
        (defaulted.map defaultedLayout ++
          (if inputTypes.contains .text then [] else [noDescription]) ++ reasoning.assumptions)
    ambiguities := ambiguities }
  ⟨schema, signals⟩

end DesignToCode
