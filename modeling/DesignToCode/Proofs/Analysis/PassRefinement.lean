import Mathlib.Data.List.Basic
import DesignToCode.Proofs.Analysis.PassPlacement

set_option autoImplicit false

namespace DesignToCode.Assembly

namespace Pass

variable {p : Pass} {placed : List Placed}

/-- A pass with some more ambiguities of references, and so many more references. -/
def noted (p : Pass) (told : List Ambiguity) (references : Nat) : Pass :=
  { p with
    builder := { p.builder with ambiguities := p.builder.ambiguities ++ told }
    droppedCount := p.droppedCount + told.length
    referenceCount := p.referenceCount + references }

theorem noted_nil : p.noted [] 0 = p := by
  simp [noted]

theorem noted_noted (first second : List Ambiguity) (m n : Nat) :
    (p.noted first m).noted second n = p.noted (first ++ second) (m + n) := by
  simp [noted, Nat.add_assoc]

theorem resolve_eq (isOpen : p.builder.isSealed = false)
    (leads : ∀ key, p.ids.lookup key = sectionId? placed key) (what key : String) :
    p.resolve what key = .ok (sectionId? placed key, p.noted (dropped placed what [key]) 1) := by
  unfold resolve
  dsimp only
  rw [leads]
  cases found : sectionId? placed key with
  | some id => simp [noted, dropped, found]
  | none =>
    dsimp only
    rw [note_eq (by exact isOpen), Except.ok_bind]
    simp [noted, dropped, found]

/-- An item whose key, if it has one, is turned into an id. -/
def carried {α : Type} (placed : List Placed) (key : α → Option String) (rename : α → String → α)
    (a : α) : Option α :=
  match key a with
  | none => some a
  | some k => (sectionId? placed k).map (rename a)

theorem carryOne_eq {α : Type} (isOpen : p.builder.isSealed = false)
    (leads : ∀ key, p.ids.lookup key = sectionId? placed key) (what : String)
    (key : α → Option String) (rename : α → String → α) (a : α) :
    carryOne what key rename p a =
      .ok (carried placed key rename a,
        p.noted (dropped placed what (key a).toList) (key a).toList.length) := by
  unfold carryOne carried
  cases key a with
  | none => exact congrArg (fun q => Except.ok (some a, q)) noted_nil.symm
  | some k =>
    dsimp only
    rw [resolve_eq isOpen leads]
    rfl

theorem dropped_append (what : String) (first second : List String) :
    dropped placed what (first ++ second) =
      dropped placed what first ++ dropped placed what second := by
  rw [dropped, List.filter_append, List.map_append]
  rfl

theorem filterMap_cons_toList {α β : Type} (f : α → Option β) (a : α) (rest : List α) :
    (a :: rest).filterMap f = (f a).toList ++ rest.filterMap f := by
  rw [List.filterMap_eq_flatMap_toList, List.filterMap_eq_flatMap_toList, List.flatMap_cons]

theorem carry_eq {α : Type} (isOpen : p.builder.isSealed = false)
    (leads : ∀ key, p.ids.lookup key = sectionId? placed key) (what : String)
    (key : α → Option String) (rename : α → String → α) (items : List α) :
    carry what key rename p items =
      .ok (items.filterMap (carried placed key rename),
        p.noted (dropped placed what (items.filterMap key)) (items.filterMap key).length) := by
  induction items generalizing p with
  | nil => exact congrArg (fun q => Except.ok ([], q)) noted_nil.symm
  | cons a rest ih =>
    rw [carry, carryOne_eq isOpen leads, Except.ok_bind]
    dsimp only
    rw [ih (by exact isOpen) (by exact leads), Except.ok_bind, noted_noted, filterMap_cons_toList,
      filterMap_cons_toList, dropped_append, List.length_append]

theorem carried_changeKey (c : ResponsiveChange) :
    carried placed changeKey (fun c id => { c with target := id }) c = remapChange placed c := by
  unfold carried changeKey remapChange
  by_cases every : c.target = everySection <;> simp [every]

theorem filterMap_changeKey (rule : ResponsiveRule) :
    rule.rules.filterMap changeKey = ruleKeys rule := by
  rw [ruleKeys, ← List.filterMap_eq_filter, List.filterMap_map]
  refine List.filterMap_congr fun c _ => ?_
  unfold changeKey
  by_cases every : c.target = everySection <;> simp [every, Option.guard]

theorem carryRule_eq (isOpen : p.builder.isSealed = false)
    (leads : ∀ key, p.ids.lookup key = sectionId? placed key) (rule : ResponsiveRule) :
    p.carryRule rule =
      .ok (remapRule placed rule, p.noted (ruleAmbiguities placed rule)
        (if rule.resolvedMinWidth.isNone then [] else ruleKeys rule).length) := by
  unfold carryRule remapRule ruleAmbiguities
  split
  · rw [note_eq (by exact isOpen), Except.ok_bind]
    rfl
  · rw [carry_eq isOpen leads, Except.ok_bind, filterMap_changeKey, funext carried_changeKey]

theorem carryRules_eq (isOpen : p.builder.isSealed = false)
    (leads : ∀ key, p.ids.lookup key = sectionId? placed key) (rules : List ResponsiveRule) :
    carryRules p rules =
      .ok (rules.filterMap (remapRule placed), p.noted (rules.flatMap (ruleAmbiguities placed))
        (rules.flatMap fun rule =>
          if rule.resolvedMinWidth.isNone then [] else ruleKeys rule).length) := by
  induction rules generalizing p with
  | nil => exact congrArg (fun q => Except.ok ([], q)) noted_nil.symm
  | cons rule rest ih =>
    rw [carryRules, carryRule_eq isOpen leads, Except.ok_bind]
    dsimp only
    rw [ih (by exact isOpen) (by exact leads), Except.ok_bind, noted_noted, filterMap_cons_toList,
      List.flatMap_cons, List.flatMap_cons, List.length_append]

theorem change_setPolicies (isOpen : p.builder.isSealed = false) (new : Policies) :
    p.change (·.setPolicies new) = .ok { p with
      builder := { p.builder with
        layoutStrategy := new.layout.getD p.builder.layoutStrategy
        backgroundStrategy := new.background.getD p.builder.backgroundStrategy
        layering := new.layering.getD p.builder.layering
        responsiveRules := new.responsive.getD p.builder.responsiveRules } } :=
  change_eq (Builder.change_of_open isOpen _)

theorem policies_eq (isOpen : p.builder.isSealed = false)
    (leads : ∀ key, p.ids.lookup key = sectionId? placed key) (reasoning : ReasoningOutput) :
    policies reasoning p = .ok { p with
      builder := { p.builder with
        ambiguities := p.builder.ambiguities ++ referenceAmbiguities placed reasoning
        layoutStrategy := reasoning.layoutStrategy
        backgroundStrategy := remapBackground placed reasoning.backgroundStrategy
        layering := remapLayering placed reasoning.layering
        responsiveRules := reasoning.responsiveRules.filterMap (remapRule placed) }
      droppedCount := p.droppedCount + (referenceAmbiguities placed reasoning).length
      referenceCount := p.referenceCount + references reasoning } := by
  have overrides : reasoning.backgroundStrategy.sectionOverrides.filterMap (some ·.1) =
      overrideKeys reasoning := congrFun List.filterMap_eq_map' _
  have layers : reasoning.layering.layers.filterMap (some ·.target) = layerKeys reasoning :=
    congrFun List.filterMap_eq_map' _
  unfold policies
  dsimp only
  rw [carry_eq isOpen leads, Except.ok_bind]
  dsimp only
  rw [carry_eq (by exact isOpen) (by exact leads), Except.ok_bind, noted_noted]
  dsimp only
  rw [carryRules_eq (by exact isOpen) (by exact leads), Except.ok_bind, noted_noted]
  dsimp only
  rw [overrides, layers, change_setPolicies (by exact isOpen)]
  rfl

theorem foldlM_assume (more : List String) (isOpen : p.builder.isSealed = false)
    {texts : List String} (held : p.builder.assumptions = texts.map .str) :
    more.foldlM assume p = .ok { p with
      builder := { p.builder with
        assumptions := (more.foldl Builder.addText texts).map .str } } := by
  induction more generalizing p texts with
  | nil => simp [← held, pure, Except.pure]
  | cons text rest ih =>
    rw [List.foldlM_cons, assume_eq isOpen held, Except.ok_bind]
    exact ih (by exact isOpen) rfl

theorem foldlM_note (told : List Ambiguity) (isOpen : p.builder.isSealed = false) :
    told.foldlM note p = .ok { p with
      builder := { p.builder with ambiguities := p.builder.ambiguities ++ told } } := by
  induction told generalizing p with
  | nil => simp [pure, Except.pure]
  | cons a rest ih =>
    rw [List.foldlM_cons, note_eq isOpen, Except.ok_bind]
    refine (ih (by exact isOpen)).trans ?_
    simp

/-- What is assumed of a page that nobody described. -/
def undescribed (inputTypes : List InputType) : List String :=
  if inputTypes.contains .text then [] else [noDescription]

theorem describe_eq (isOpen : p.builder.isSealed = false) {texts : List String}
    (held : p.builder.assumptions = texts.map .str) :
    p.describe = .ok { p with
      builder := { p.builder with
        assumptions :=
          ((undescribed p.builder.inputTypes).foldl Builder.addText texts).map .str } } := by
  unfold describe undescribed
  split
  · rw [List.foldl_nil, ← held]
  · exact assume_eq isOpen held _

theorem remarks_eq (isOpen : p.builder.isSealed = false) {texts : List String}
    (held : p.builder.assumptions = texts.map .str) (reasoning : ReasoningOutput) :
    remarks reasoning p = .ok { p with
      builder := { p.builder with
        assumptions := ((undescribed p.builder.inputTypes ++ reasoning.assumptions).foldl
          Builder.addText texts).map .str
        ambiguities := p.builder.ambiguities ++
          (ranked reasoning.ambiguities).map RankedAmbiguity.ambiguity } } := by
  unfold remarks
  rw [describe_eq isOpen held, Except.ok_bind, foldlM_assume _ (by exact isOpen) rfl,
    Except.ok_bind, foldlM_note _ (by exact isOpen), List.foldl_append]

/-- Texts that are added one by one stand each at its first place. -/
theorem foldl_addText (more texts seen : List String)
    (same : ∀ text, seen.contains text = texts.contains text) :
    more.foldl Builder.addText texts = texts ++ distinctTexts seen more := by
  induction more generalizing texts seen with
  | nil => simp [distinctTexts]
  | cons text rest ih =>
    rw [List.foldl_cons, distinctTexts, Builder.addText, same]
    split
    · exact ih _ _ same
    · have added (other : String) :
          (text :: seen).contains other = (texts ++ [text]).contains other := by
        rw [List.contains_cons, same, List.contains_append, List.contains_cons,
          List.contains_nil, Bool.or_false, Bool.or_comm]
      rw [ih _ _ added, List.append_assoc]
      rfl

theorem close_eq (isOpen : p.builder.isSealed = false) {texts targets : List String}
    (held : p.builder.assumptions = texts.map .str)
    (asked : p.builder.targets = targets.map .str) (vision : VisionOutput)
    (reasoning : ReasoningOutput) :
    close vision reasoning p = .ok {
      schema := {
        info := {
          inputType := p.builder.inputTypes
          frameworkTarget := targets
          confidenceLevel := Quality.overallConfidence (p.signals vision reasoning)
            p.builder.ambiguities.length }
        sections := p.builder.sections
        components := p.builder.components
        layoutStrategy := p.builder.layoutStrategy
        backgroundStrategy := p.builder.backgroundStrategy
        layering := p.builder.layering
        responsiveRules := p.builder.responsiveRules
        assumptions := texts
        ambiguities := p.builder.ambiguities }
      signals := p.signals vision reasoning } := by
  unfold close
  dsimp only
  rw [Builder.build_of_open isOpen held asked]
  rfl

/-- Whatever the calls tell, no part is refused. -/
theorem run_eq_assemble (vision : VisionOutput) (reasoning : ReasoningOutput)
    (inputTypes : List InputType) (targets : List String) :
    run vision reasoning inputTypes targets =
      .ok (assemble vision reasoning inputTypes targets) := by
  have leads (key : String) : (claimAll [] (placeSections vision.sections)).lookup key =
      sectionId? (placeSections vision.sections) key := lookup_claimAll _ [] key
  unfold run
  rw [structural_eq, Except.ok_bind, policies_eq (by rfl) (by exact leads), Except.ok_bind,
    remarks_eq (by rfl) rfl, Except.ok_bind, close_eq (by rfl) rfl rfl]
  simp only [signals, Nat.zero_add, withDefaults, ← List.foldl_append]
  rw [foldl_addText _ [] [] fun _ => rfl, List.nil_append, ← List.append_assoc]
  rfl

end Pass

end DesignToCode.Assembly
