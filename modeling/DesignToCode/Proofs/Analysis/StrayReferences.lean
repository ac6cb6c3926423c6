import DesignToCode.Proofs.Analysis.Unresolved
import DesignToCode.Proofs.Schema.Quality

set_option autoImplicit false

namespace DesignToCode

namespace Assembly

/-- The policies with one more override or layer somewhere among the others: a reference of a kind
to a key. -/
inductive OneMore (r : ReasoningOutput) : ReasoningOutput → String → String → Prop where
  | override (front back : List (String × String)) (key color : String)
      (among : r.backgroundStrategy.sectionOverrides = front ++ back) :
      OneMore r
        { r with
          backgroundStrategy :=
            { r.backgroundStrategy with sectionOverrides := front ++ (key, color) :: back } }
        overrideKind key
  | layer (front back : List LayerRule) (l : LayerRule)
      (among : r.layering.layers = front ++ back) :
      OneMore r { r with layering := { r.layering with layers := front ++ l :: back } }
        layerKind l.target

/-- What becomes of the policies is the same but for one reference that is looked up and dropped,
and for what is told of it. -/
structure IsLost (placed : List Placed) (r extended : ReasoningOutput) (lost : Ambiguity) :
    Prop where
  layout : extended.layoutStrategy = r.layoutStrategy
  background : remapBackground placed extended.backgroundStrategy =
    remapBackground placed r.backgroundStrategy
  layering : remapLayering placed extended.layering = remapLayering placed r.layering
  rules : extended.responsiveRules = r.responsiveRules
  assumptions : extended.assumptions = r.assumptions
  ambiguities : extended.ambiguities = r.ambiguities
  confidence : extended.confidence = r.confidence
  references : references extended = references r + 1
  told : ∃ front back, referenceAmbiguities placed r = front ++ back ∧
    referenceAmbiguities placed extended = front ++ lost :: back

variable {hints : List SectionHint}

theorem sectionId?_of_notMem {key : String} (unknown : key ∉ hints.map (·.key)) :
    sectionId? (placeSections hints) key = none := by
  rw [← placeSections_keys, ← sectionId?_isSome_iff] at unknown
  exact Option.not_isSome_iff_eq_none.mp unknown

theorem dropped_append (placed : List Placed) (what : String) (front back : List String) :
    dropped placed what (front ++ back) =
      dropped placed what front ++ dropped placed what back := by
  rw [dropped, List.filter_append, List.map_append]
  rfl

/-- A key that is not known is told once more. -/
theorem dropped_append_cons {key : String} (unknown : key ∉ hints.map (·.key)) (what : String)
    (front back : List String) :
    dropped (placeSections hints) what (front ++ key :: back) =
      dropped (placeSections hints) what front ++
        unresolved what key :: dropped (placeSections hints) what back := by
  rw [dropped_append]
  refine congrArg _ ?_
  rw [dropped, List.filter_cons_of_pos (by simp [sectionId?_of_notMem unknown])]
  rfl

theorem filterMap_append_cons {α β : Type} {f : α → Option β} {a : α} (none : f a = none)
    (front back : List α) : (front ++ a :: back).filterMap f = (front ++ back).filterMap f := by
  rw [List.filterMap_append, List.filterMap_cons_none none, List.filterMap_append]

theorem OneMore.isLost {r extended : ReasoningOutput} {what key : String}
    (more : OneMore r extended what key) (unknown : key ∉ hints.map (·.key)) :
    IsLost (placeSections hints) r extended (unresolved what key) := by
  have nowhere := sectionId?_of_notMem unknown
  cases more with
  | override front back _ color among =>
    refine ⟨rfl, ?background, rfl, rfl, rfl, rfl, rfl, ?references, ?told⟩
    case background =>
      simp only [remapBackground, among]
      rw [filterMap_append_cons (by rw [nowhere]; rfl)]
    case references =>
      simp only [references, overrideKeys, layerKeys, among, List.length_map, List.length_append,
        List.length_cons]
      omega
    case told =>
      refine ⟨dropped (placeSections hints) overrideKind (front.map (·.1)),
        dropped (placeSections hints) overrideKind (back.map (·.1)) ++
          dropped (placeSections hints) layerKind (layerKeys r) ++
          r.responsiveRules.flatMap (ruleAmbiguities (placeSections hints)), ?_, ?_⟩
      · simp only [referenceAmbiguities, overrideKeys, among, List.map_append, dropped_append,
          List.append_assoc]
      · simp only [referenceAmbiguities, overrideKeys, layerKeys, List.map_append, List.map_cons,
          dropped_append_cons unknown, List.append_assoc, List.cons_append]
  | layer front back l among =>
    refine ⟨rfl, rfl, ?layering, rfl, rfl, rfl, rfl, ?references, ?told⟩
    case layering =>
      simp only [remapLayering, among]
      rw [filterMap_append_cons (by rw [nowhere]; rfl)]
    case references =>
      simp only [references, overrideKeys, layerKeys, among, List.length_map, List.length_append,
        List.length_cons]
      omega
    case told =>
      refine ⟨dropped (placeSections hints) overrideKind (overrideKeys r) ++
          dropped (placeSections hints) layerKind (front.map (·.target)),
        dropped (placeSections hints) layerKind (back.map (·.target)) ++
          r.responsiveRules.flatMap (ruleAmbiguities (placeSections hints)), ?_, ?_⟩
      · simp only [referenceAmbiguities, layerKeys, among, List.map_append, dropped_append,
          List.append_assoc]
      · simp only [referenceAmbiguities, overrideKeys, layerKeys, List.map_append, List.map_cons,
          dropped_append_cons unknown, List.append_assoc, List.cons_append]

end Assembly

open Assembly

def Assembled.quality (a : Assembled) : QualityAssessment := Quality.assess a.schema a.signals

theorem Assembled.manualAdjustment_quality (a : Assembled) :
    a.quality.manualAdjustmentNeeded =
      Quality.adjustment a.schema.ambiguities.length a.quality.visualConfidence :=
  rfl

/-- The schema differs by one more ambiguity and perhaps by its confidence, and nothing that is
assessed is better than before. -/
structure NoBetter (before after : Assembled) (lost : Ambiguity) : Prop where
  schema : ∃ front back, before.schema.ambiguities = front ++ back ∧
    after.schema =
      { before.schema with
        info := { before.schema.info with
          confidenceLevel := after.schema.info.confidenceLevel }
        ambiguities := front ++ lost :: back }
  confidence : after.schema.info.confidenceLevel ≤ before.schema.info.confidenceLevel
  structural : after.quality.structuralConfidence ≤ before.quality.structuralConfidence
  adjustment : before.quality.manualAdjustmentNeeded ≤ after.quality.manualAdjustmentNeeded
  visual : after.quality.visualConfidence = before.quality.visualConfidence
  responsive : after.quality.responsiveRisk = before.quality.responsiveRisk
  maintainability : after.quality.maintainabilityRisk = before.quality.maintainabilityRisk

variable {vision : VisionOutput} {reasoning extended : ReasoningOutput} {lost : Ambiguity}
  (inputTypes : List InputType) (targets : List String)

/-- One more item was looked up, and one more was dropped. -/
theorem Assembly.IsLost.signals
    (h : IsLost (placeSections vision.sections) reasoning extended lost) :
    (assemble vision extended inputTypes targets).signals =
      { (assemble vision reasoning inputTypes targets).signals with
        structuralItems :=
          (assemble vision reasoning inputTypes targets).signals.structuralItems + 1
        droppedReferences :=
          (assemble vision reasoning inputTypes targets).signals.droppedReferences + 1 } := by
  obtain ⟨front, back, told, retold⟩ := h.told
  simp only [assemble, told, retold, h.references, h.ambiguities, h.confidence,
    List.length_append, List.length_cons, Signals.mk.injEq, and_true, true_and]
  omega

/-- The ambiguity stands among those that are told of the references. -/
theorem Assembly.IsLost.schema
    (h : IsLost (placeSections vision.sections) reasoning extended lost) :
    ∃ front back,
      (assemble vision reasoning inputTypes targets).schema.ambiguities = front ++ back ∧
        (assemble vision extended inputTypes targets).schema =
          { (assemble vision reasoning inputTypes targets).schema with
            info := { (assemble vision reasoning inputTypes targets).schema.info with
              confidenceLevel :=
                (assemble vision extended inputTypes targets).schema.info.confidenceLevel }
            ambiguities := front ++ lost :: back } := by
  obtain ⟨front, back, told, retold⟩ := h.told
  refine ⟨(reusedKeys [] vision.sections).map duplicateKey ++
      (orphans (placeSections vision.sections) vision.componentHints).map orphan ++ front,
    back ++ (ranked reasoning.ambiguities).map RankedAmbiguity.ambiguity, ?_, ?_⟩
  · simp only [assemble, told, List.append_assoc]
  · simp only [assemble, retold, h.layout, h.background, h.layering, h.rules, h.assumptions,
      h.ambiguities, List.append_assoc, List.cons_append]

theorem counts_nonneg :
    0 ≤ (assemble vision reasoning inputTypes targets).signals.unresolved ∧
      0 ≤ (assemble vision reasoning inputTypes targets).signals.structuralItems := by
  simp only [assemble, Signals.unresolved]
  omega

/-- One more reference that leads nowhere never makes the outcome better, wherever it stands. -/
theorem noBetter_assemble {what key : String} (more : OneMore reasoning extended what key)
    (unknown : key ∉ vision.sections.map (·.key)) :
    NoBetter (assemble vision reasoning inputTypes targets)
      (assemble vision extended inputTypes targets) (unresolved what key) := by
  have stray := more.isLost unknown
  obtain ⟨front, back, among, schema⟩ := stray.schema inputTypes targets
  have signals := stray.signals inputTypes targets
  have fewer : (assemble vision reasoning inputTypes targets).schema.ambiguities.length ≤
      (assemble vision extended inputTypes targets).schema.ambiguities.length := by
    rw [among, schema, List.length_append, List.length_append, List.length_cons]
    omega
  have scores : (assemble vision extended inputTypes targets).signals.weakestConfidence =
      (assemble vision reasoning inputTypes targets).signals.weakestConfidence := by
    rw [signals]
    rfl
  have visual : (assemble vision extended inputTypes targets).quality.visualConfidence =
      (assemble vision reasoning inputTypes targets).quality.visualConfidence := by
    change Quality.confidenceOf _ = Quality.confidenceOf _
    rw [signals]
  refine ⟨⟨front, back, among, schema⟩, ?confidence, ?structural, ?adjustment, visual,
    ?responsive, ?maintainability⟩
  case confidence => exact Quality.overallConfidence_le scores fewer
  case structural =>
    apply Quality.structuralConfidence_le
    · exact (counts_nonneg inputTypes targets).1
    · exact (counts_nonneg inputTypes targets).2
    · rw [signals]
      dsimp only [Signals.unresolved]
      omega
    · rw [signals]
  case adjustment =>
    rw [Assembled.manualAdjustment_quality, Assembled.manualAdjustment_quality, visual]
    exact Quality.adjustment_le fewer _
  case responsive =>
    change Quality.responsiveRisk _ _ = Quality.responsiveRisk _ _
    rw [schema, signals]
    rfl
  case maintainability =>
    change Quality.maintainabilityRisk _ = Quality.maintainabilityRisk _
    rw [schema]
    rfl

/-- Five sections, of which four have a layer, and a layer for a section that is not there: a tenth
of all items is unresolved, which is just not too much. -/
def layeredVision : VisionOutput where
  sections := ["a", "b", "c", "d", "e"].map fun key => { key, name := key, layout := some "flex" }
  confidence := .ofInt 1

def layeredReasoning : ReasoningOutput where
  layering := { layers := ["a", "b", "x", "c", "d"].map fun target => { target } }

/-- The same with a layer for one more section that is not there. -/
def strayLayer : ReasoningOutput where
  layering := {
    layers := (["a", "b"].map fun target => { target }) ++
      { target := "y", position := "fixed" } :: (["x", "c", "d"].map fun target => { target }) }

theorem layeredVision_noBetter :
    OneMore layeredReasoning strayLayer layerKind "y" ∧
      "y" ∉ layeredVision.sections.map (·.key) ∧
      NoBetter (assemble layeredVision layeredReasoning [.image] ["css"])
        (assemble layeredVision strayLayer [.image] ["css"]) (unresolved layerKind "y") ∧
      (assemble layeredVision layeredReasoning [.image] ["css"]).quality.structuralConfidence =
        .high ∧
      (assemble layeredVision strayLayer [.image] ["css"]).quality.structuralConfidence =
        .medium := by
  have more : OneMore layeredReasoning strayLayer layerKind "y" :=
    .layer (["a", "b"].map fun target => { target }) (["x", "c", "d"].map fun target => { target })
      { target := "y", position := "fixed" } rfl
  have unknown : "y" ∉ layeredVision.sections.map (·.key) := by decide
  exact ⟨more, unknown, noBetter_assemble [.image] ["css"] more unknown, by decide, by decide⟩

end DesignToCode
