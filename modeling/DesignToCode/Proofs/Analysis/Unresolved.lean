import DesignToCode.Proofs.Analysis.Ambiguities

set_option autoImplicit false

namespace DesignToCode

namespace Assembly

/-- The keys of the references that are looked up; a rule without a width looks up none. -/
def lookedUp (r : ReasoningOutput) : List String :=
  overrideKeys r ++ layerKeys r ++
    (r.responsiveRules.filter (·.resolvedMinWidth.isSome)).flatMap ruleKeys

def rulesWithoutWidth (r : ReasoningOutput) : Nat :=
  r.responsiveRules.countP (·.resolvedMinWidth.isNone)

/-- The items that lead somewhere: sections with a layout of their own, and components and
references whose key a section uses. -/
def settledItems (vision : VisionOutput) (r : ReasoningOutput) : Nat :=
  vision.sections.countP (fun hint => (layout? hint).isSome) +
    vision.componentHints.countP (fun hint => !isUnused vision.sections hint.sectionKey) +
    (lookedUp r).countP (fun key => !isUnused vision.sections key)

variable {hints : List SectionHint}

theorem references_eq (r : ReasoningOutput) : references r = (lookedUp r).length := by
  have looked (rules : List ResponsiveRule) :
      (rules.flatMap fun rule => if rule.resolvedMinWidth.isNone then [] else ruleKeys rule) =
        (rules.filter (·.resolvedMinWidth.isSome)).flatMap ruleKeys := by
    induction rules with
    | nil => rfl
    | cons rule rest ih =>
      rw [List.flatMap_cons, ih, List.filter_cons]
      cases rule.resolvedMinWidth <;> simp
  rw [references, looked, lookedUp, List.length_append, List.length_append]

theorem length_dropped (what : String) (keys : List String) :
    (dropped (placeSections hints) what keys).length = keys.countP (isUnused hints) := by
  rw [dropped, List.length_map, ← List.countP_eq_length_filter, funext fun key =>
    isNone_sectionId? key]

/-- A rule without a width is told once, and any other for each key that no section uses. -/
theorem length_flatMap_ruleAmbiguities (rules : List ResponsiveRule) :
    (rules.flatMap (ruleAmbiguities (placeSections hints))).length =
      ((rules.filter (·.resolvedMinWidth.isSome)).flatMap ruleKeys).countP (isUnused hints) +
        rules.countP (·.resolvedMinWidth.isNone) := by
  induction rules with
  | nil => rfl
  | cons rule rest ih =>
    rw [List.flatMap_cons, List.length_append, ih, List.filter_cons, List.countP_cons,
      ruleAmbiguities]
    cases rule.resolvedMinWidth with
    | none =>
      simp
      omega
    | some width =>
      simp [length_dropped]
      omega

theorem length_referenceAmbiguities (r : ReasoningOutput) :
    (referenceAmbiguities (placeSections hints) r).length =
      (lookedUp r).countP (isUnused hints) + rulesWithoutWidth r := by
  rw [referenceAmbiguities, List.length_append, List.length_append, length_dropped, length_dropped,
    length_flatMap_ruleAmbiguities, lookedUp, List.countP_append, List.countP_append,
    rulesWithoutWidth]
  omega

end Assembly

open Assembly

variable (vision : VisionOutput) (reasoning : ReasoningOutput) (inputTypes : List InputType)
  (targets : List String)

/-- The unresolved items and those that lead somewhere are all items, and the rules without a width
besides. So no more items are unresolved than there are exactly when such rules are no more than the
items that lead somewhere. -/
theorem unresolved_le_structuralItems_iff :
    (assemble vision reasoning inputTypes targets).signals.unresolved +
          settledItems vision reasoning =
        (assemble vision reasoning inputTypes targets).signals.structuralItems +
          rulesWithoutWidth reasoning ∧
      ((assemble vision reasoning inputTypes targets).signals.unresolved ≤
          (assemble vision reasoning inputTypes targets).signals.structuralItems ↔
        rulesWithoutWidth reasoning ≤ settledItems vision reasoning) := by
  let told := assemble vision reasoning inputTypes targets
  have sections : vision.sections.length = (defaultedLayouts vision.sections).length +
      vision.sections.countP fun hint => (layout? hint).isSome := by
    rw [List.length_eq_length_filter_add fun hint => (layout? hint).isNone,
      List.countP_eq_length_filter]
    simp only [Option.not_isNone, defaultedLayouts]
  have components : vision.componentHints.length =
      (orphans (placeSections vision.sections) vision.componentHints).length +
        vision.componentHints.countP fun hint => !isUnused vision.sections hint.sectionKey := by
    rw [orphans_eq, List.countP_eq_length_filter]
    exact List.length_eq_length_filter_add _
  have lookups : references reasoning = (lookedUp reasoning).countP (isUnused vision.sections) +
      (lookedUp reasoning).countP fun key => !isUnused vision.sections key := by
    rw [references_eq, List.countP_eq_length_filter, List.countP_eq_length_filter]
    exact List.length_eq_length_filter_add _
  have unresolved : told.signals.unresolved = (defaultedLayouts vision.sections).length +
      (orphans (placeSections vision.sections) vision.componentHints).length +
      (referenceAmbiguities (placeSections vision.sections) reasoning).length := rfl
  have items : told.signals.structuralItems =
      vision.sections.length + vision.componentHints.length + references reasoning := rfl
  have balance : told.signals.unresolved + settledItems vision reasoning =
      told.signals.structuralItems + rulesWithoutWidth reasoning := by
    rw [unresolved, items, length_referenceAmbiguities, sections, components, lookups, settledItems]
    omega
  refine ⟨balance, ?_⟩
  change told.signals.unresolved ≤ told.signals.structuralItems ↔ _
  omega

/-- A page with one section, and two rules for breakpoints that are not known. -/
def lonelyVision : VisionOutput where
  sections := [{ key := "top", name := "Top", layout := some "grid" }]
  confidence := .ofInt 1

def unknownRules : ReasoningOutput where
  responsiveRules := [{ breakpoint := "tablet" }, { breakpoint := "phone" }]

/-- Two items of one are unresolved. -/
theorem not_forall_unresolved_le_structuralItems :
    ¬ ∀ (vision : VisionOutput) (reasoning : ReasoningOutput) (inputTypes : List InputType)
        (targets : List String),
      (assemble vision reasoning inputTypes targets).signals.unresolved ≤
        (assemble vision reasoning inputTypes targets).signals.structuralItems := by
  intro always
  have few := always lonelyVision unknownRules [.image] ["css"]
  revert few
  decide

end DesignToCode
