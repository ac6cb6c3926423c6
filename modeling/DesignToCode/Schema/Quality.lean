import DesignToCode.Number.Fixed
import DesignToCode.Schema.Basic

set_option autoImplicit false

/-!
How far the outcome of a run can be relied on, from the scores of the inference calls and from what
could not be resolved. Nothing here changes a schema.
-/
namespace DesignToCode

/-- What was noted while a schema was put together. -/
structure Signals where
  visionConfidence : Number
  reasoningConfidence : Option Number := none
  structuralItems : Int := 0
  defaultedLayouts : Int := 0
  orphanedComponents : Int := 0
  droppedReferences : Int := 0
  responsiveAmbiguities : Int := 0

namespace Signals

def unresolved (s : Signals) : Int :=
  s.defaultedLayouts + s.orphanedComponents + s.droppedReferences

def weakestConfidence (s : Signals) : Number :=
  match s.reasoningConfidence with
  | none => s.visionConfidence
  | some score => s.visionConfidence.least score

/-- The signals that a record tells; a count that it does not tell is zero. -/
def ofFields (told : Fields) : Signals :=
  let number? (key : String) : Option Number := (told.lookup key).bind Json.asNumber?
  let count (key : String) : Int :=
    match told.lookup key with
    | some (.num (.int i)) => i
    | _ => 0
  { visionConfidence := (number? "vision_confidence").getD (.int 0)
    reasoningConfidence := number? "reasoning_confidence"
    structuralItems := count "structural_items"
    defaultedLayouts := count "defaulted_layouts"
    orphanedComponents := count "orphaned_components"
    droppedReferences := count "dropped_references"
    responsiveAmbiguities := count "responsive_ambiguities" }

def toJson (s : Signals) : Json :=
  .obj [
    ("vision_confidence", .num s.visionConfidence),
    ("reasoning_confidence", .ofOption .num s.reasoningConfidence),
    ("structural_items", .int s.structuralItems),
    ("defaulted_layouts", .int s.defaultedLayouts),
    ("orphaned_components", .int s.orphanedComponents),
    ("dropped_references", .int s.droppedReferences),
    ("responsive_ambiguities", .int s.responsiveAmbiguities),
    ("unresolved", .int s.unresolved),
    ("weakest_confidence", .num s.weakestConfidence)]

end Signals

namespace Quality

def highScore : Number := .real (.ofDecimal false 8 (-1))

def mediumScore : Number := .real (.ofDecimal false 5 (-1))

def highShare : Binary64 := .ofDecimal false 1 (-1)

def mediumShare : Binary64 := .ofDecimal false 3 (-1)

/-- Above these numbers of components a page is hard to maintain, or harder. -/
def manyComponents : Nat := 20

def veryManyComponents : Nat := 50

def confidenceOf (score : Number) : Confidence :=
  if highScore.le score then .high else if mediumScore.le score then .medium else .low

/-- Whether the number nearest to `num / den` is at most `m * 2 ^ e`: the quotient lies below the
middle between that number and the next, or on it when `m` is even. -/
def nearestAtMost (num den m : Nat) (e : Int) : Bool :=
  let left := num * Nat.pow 2 (1 - e).toNat
  let right := den * (2 * m + 1) * Nat.pow 2 (e - 1).toNat
  left < right || (left == right && m % 2 == 0)

/-- The same for a positive limit and numbers of either sign. -/
def shareAtMost (num den : Int) : Binary64 → Bool
  | .finite false m e =>
    if num = 0 ∨ (num < 0 ∧ 0 < den) ∨ (0 < num ∧ den < 0) then true
    else nearestAtMost num.natAbs den.natAbs m e
  | _ => false

/-- The weakest score counts, and many ambiguities cap it. -/
def overallConfidence (s : Signals) (ambiguities : Nat) : Confidence :=
  let level := confidenceOf s.weakestConfidence
  if ambiguities > 5 then .low
  else if ambiguities > 1 ∧ level = .high then .medium
  else level

def structuralConfidence (s : Signals) : Confidence :=
  if s.structuralItems = 0 then .low
  else if shareAtMost s.unresolved s.structuralItems highShare then .high
  else if shareAtMost s.unresolved s.structuralItems mediumShare then .medium
  else .low

def responsiveRisk (schema : Schema) (s : Signals) : Risk :=
  if schema.responsiveRules.isEmpty then .high
  else if schema.responsiveRules.length < 2 ∨ s.responsiveAmbiguities ≠ 0 then .medium
  else .low

def raiseRisk : Risk → Risk
  | .low => .medium
  | _ => .high

def isOutOfFlow (layer : LayerRule) : Bool :=
  layer.position == "fixed" || layer.position == "absolute"

def componentRisk (count : Nat) : Risk :=
  if count > veryManyComponents then .high
  else if count > manyComponents then .medium
  else .low

/-- More than three layers out of the flow raise the risk by one. -/
def maintainabilityRisk (schema : Schema) : Risk :=
  let risk := componentRisk schema.components.length
  if schema.layering.layers.countP isOutOfFlow > 3 then raiseRisk risk else risk

def raiseAdjustment : Adjustment → Adjustment
  | .none => .minor
  | .minor => .moderate
  | _ => .major

def ambiguityAdjustment (count : Nat) : Adjustment :=
  if count = 0 then .none
  else if count ≤ 2 then .minor
  else if count ≤ 5 then .moderate
  else .major

/-- A low visual confidence raises the need by one. -/
def adjustment (count : Nat) (visual : Confidence) : Adjustment :=
  if visual = .low then raiseAdjustment (ambiguityAdjustment count) else ambiguityAdjustment count

def notes (schema : Schema) (s : Signals) : List String := [
  s!"vision confidence {s.visionConfidence.twoPlaces}",
  s!"{s.unresolved}/{s.structuralItems} structural items unresolved",
  s!"{schema.responsiveRules.length} breakpoint rule set(s)",
  s!"{schema.components.length} component(s)",
  s!"{schema.ambiguities.length} ambiguity(ies)"]

def assess (schema : Schema) (s : Signals) : QualityAssessment where
  visualConfidence := confidenceOf s.visionConfidence
  structuralConfidence := structuralConfidence s
  responsiveRisk := responsiveRisk schema s
  maintainabilityRisk := maintainabilityRisk schema
  manualAdjustmentNeeded :=
    adjustment schema.ambiguities.length (confidenceOf s.visionConfidence)
  reasoning := "; ".intercalate (notes schema s)

end Quality

end DesignToCode
