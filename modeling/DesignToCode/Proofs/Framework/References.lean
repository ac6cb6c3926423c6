import DesignToCode.Proofs.Framework.Alike

set_option autoImplicit false

namespace DesignToCode

namespace Schema

variable {schema : Schema} {report : Report}

/-- The sections that a target stands for are there. -/
def reaches (schema : Schema) (target : String) : Bool :=
  target == everySection || schema.sectionIds.contains target

/-- The schema without the layers, overrides and changes of anything but its sections. -/
def withoutStrays (schema : Schema) : Schema :=
  { schema with
    backgroundStrategy := { schema.backgroundStrategy with
      sectionOverrides := schema.backgroundStrategy.sectionOverrides.filter fun entry =>
        schema.sectionIds.contains entry.1 }
    layering := { schema.layering with
      layers := schema.layering.layers.filter fun layer => schema.sectionIds.contains layer.target }
    responsiveRules := schema.responsiveRules.map fun rule =>
      { rule with rules := rule.rules.filter fun c => schema.reaches c.target } }

theorem contains_sectionIds {sec : Section} (listed : sec ∈ schema.sections) :
    schema.sectionIds.contains sec.id = true :=
  List.contains_iff_mem.mpr (List.mem_map_of_mem listed)

/-- A change that reaches nothing is about no section. -/
theorem sectionsFor_of_not_reaches {target : String} (stray : schema.reaches target = false) :
    schema.sectionsFor target = [] := by
  obtain ⟨other, absent⟩ := Bool.or_eq_false_iff.mp stray
  have named : ¬ target = everySection := by simpa using other
  have nobody : schema.section? target = none := by
    cases search : schema.section? target with
    | none => rfl
    | some sec =>
      obtain ⟨listed, same⟩ := section?_eq_some search
      rw [← same, contains_sectionIds listed] at absent
      cases absent
  rw [sectionsFor, if_neg named, nobody]
  rfl

/-- Without its strays, a rule changes the same sections in the same way. -/
theorem changesOf_filter (schema : Schema) (rule : ResponsiveRule) :
    schema.changesOf { rule with rules := rule.rules.filter fun c => schema.reaches c.target } =
      schema.changesOf rule := by
  unfold changesOf
  induction rule.rules with
  | nil => rfl
  | cons c rest ih =>
    rw [List.flatMap_cons, List.filter_cons]
    cases reached : schema.reaches c.target with
    | true => exact congrArg (_ ++ ·) ih
    | false =>
      rw [sectionsFor_of_not_reaches reached]
      exact ih

theorem alike_withoutStrays (schema : Schema) : schema.Alike schema.withoutStrays where
  info := rfl
  sections := rfl
  components := rfl
  layoutStrategy := rfl
  paint := rfl
  zIndex := rfl
  overrides := by
    intro sec listed
    exact congrArg filled (Fields.lookup_filter (contains_sectionIds listed) _)
  layers := by
    intro sec listed
    show (schema.layering.layers.filter _).filter _ = schema.layering.layers.filter _
    rw [List.filter_filter]
    refine List.filter_congr fun layer _ => ?_
    by_cases own : layer.target = sec.id
    · rw [own, contains_sectionIds listed, Bool.and_true]
    · simp [own]
  rules := by
    refine List.forall₂_map_right_iff.mpr (List.forall₂_same.mpr fun rule _ => ?_)
    exact ⟨rfl, rfl, congrArg (List.map _) (schema.changesOf_filter rule)⟩

/-- References to anything but sections make no difference to the code of any framework. -/
theorem lower_withoutStrays (reported : schema.validate = .ok report)
    (valid : report.valid = true) :
    (∀ (framework : Framework) (options : EmitOptions),
      framework.lower options schema.withoutStrays = framework.lower options schema) ∧
      ∀ (targets : Json) (options : EmitOptions),
        runCodeGeneration .builtIn (.schema schema.withoutStrays) targets options =
          runCodeGeneration .builtIn (.schema schema) targets options := by
  have sound := sound_of_reported reported valid
  have alike := schema.alike_withoutStrays
  exact ⟨alike.lower sound.sectionsDistinct, alike.runCodeGeneration sound⟩

/-- A page whose policies name a component, an element that is not there and a section. -/
def strayPage : Schema where
  sections := [
    { id := "top", name := "Top", type := "hero", layout := .flex, components := ["badge"] }]
  components := [{ id := "badge", name := "New", type := "icon" }]
  backgroundStrategy := { sectionOverrides := [("ghost", "#000"), ("top", "#FFF")] }
  layering := { layers := [
    { target := "badge", zIndex := 9 }, { target := "top", zIndex := 1 }, { target := "ghost" }] }
  responsiveRules := [
    { breakpoint := "wide", minWidth := some 900, rules := [{ target := "ghost", gap := some 4 }] },
    { breakpoint := "md", rules := [
      { target := "badge", hidden := some true }, { target := "*", gap := some 8 }] }]

theorem strayPage_lower :
    (∃ report, strayPage.validate = .ok report ∧ report.valid = true) ∧
      strayPage.withoutStrays.layering.layers.map (·.target) = ["top"] ∧
      strayPage.withoutStrays.backgroundStrategy.sectionOverrides = [("top", "#FFF")] ∧
      strayPage.withoutStrays.responsiveRules.map (·.rules.length) = [0, 1] ∧
      ∀ (framework : Framework) (options : EmitOptions),
        framework.lower options strayPage.withoutStrays = framework.lower options strayPage := by
  have passed : ∃ report, strayPage.validate = .ok report ∧ report.valid = true := ⟨_, rfl, rfl⟩
  obtain ⟨report, reported, valid⟩ := passed
  exact ⟨⟨report, reported, valid⟩, rfl, rfl, rfl, (lower_withoutStrays reported valid).1⟩

/-- Changes of which some that are about every section are written out, once for each section. -/
inductive SpelledOut (schema : Schema) : List ResponsiveChange → List ResponsiveChange → Prop
  | nil : SpelledOut schema [] []
  | kept (c : ResponsiveChange) {changes others : List ResponsiveChange}
      (rest : SpelledOut schema changes others) : SpelledOut schema (c :: changes) (c :: others)
  | spelled {c : ResponsiveChange} (every : c.target = everySection)
      {changes others : List ResponsiveChange} (rest : SpelledOut schema changes others) :
      SpelledOut schema (c :: changes)
        (schema.sections.map (fun sec => c.toward sec.id) ++ others)

/-- A rule with some of its changes of every section written out. -/
structure SpellsOut (schema : Schema) (rule other : ResponsiveRule) : Prop where
  breakpoint : other.breakpoint = rule.breakpoint
  minWidth : other.minWidth = rule.minWidth
  changes : SpelledOut schema rule.rules other.rules

/-- The schema with other rules. -/
def withRules (schema : Schema) (rules : List ResponsiveRule) : Schema :=
  { schema with responsiveRules := rules }

/-- Changes of one section each are about these sections in order. -/
theorem addressed_toward (distinct : schema.sectionIds.Nodup)
    (named : everySection ∉ schema.sectionIds) (c : ResponsiveChange) {sections : List Section}
    (listed : ∀ sec ∈ sections, sec ∈ schema.sections) :
    (sections.map fun sec => c.toward sec.id).flatMap (fun change =>
        (schema.sectionsFor change.target).map (Prod.mk change)) =
      sections.map fun sec => (c.toward sec.id, sec) := by
  rw [List.flatMap_map, List.map_eq_flatMap]
  refine List.flatMap_congr fun sec member => ?_
  have other : ¬ sec.id = everySection := by
    intro every
    exact named (every ▸ List.mem_map_of_mem (listed sec member))
  show (schema.sectionsFor sec.id).map _ = _
  rw [sectionsFor, if_neg other, section?_id distinct (listed sec member)]
  rfl

/-- Written out, changes are about the same sections in the same order. -/
theorem SpelledOut.addressed {changes others : List ResponsiveChange}
    (spelled : SpelledOut schema changes others) (distinct : schema.sectionIds.Nodup)
    (named : everySection ∉ schema.sectionIds) :
    (others.flatMap fun c => (schema.sectionsFor c.target).map (Prod.mk c)).map
        (fun pair => (pair.1.toward pair.2.id, pair.2)) =
      (changes.flatMap fun c => (schema.sectionsFor c.target).map (Prod.mk c)).map
        fun pair => (pair.1.toward pair.2.id, pair.2) := by
  induction spelled with
  | nil => rfl
  | kept c rest ih =>
    rw [List.flatMap_cons, List.flatMap_cons, List.map_append, List.map_append, ih]
  | @spelled c every changes others rest ih =>
    have first : schema.sectionsFor c.target = schema.sections := if_pos every
    rw [List.flatMap_append, addressed_toward distinct named c fun _ listed => listed,
      List.flatMap_cons, List.map_append, List.map_append, ih, first, List.map_map, List.map_map]
    rfl

theorem alike_withRules (distinct : schema.sectionIds.Nodup)
    (named : everySection ∉ schema.sectionIds) {rules : List ResponsiveRule}
    (spelled : List.Forall₂ schema.SpellsOut schema.responsiveRules rules) :
    schema.Alike (schema.withRules rules) where
  info := rfl
  sections := rfl
  components := rfl
  layoutStrategy := rfl
  paint := rfl
  zIndex := rfl
  overrides _ _ := rfl
  layers _ _ := rfl
  rules := spelled.imp fun _ _ out =>
    ⟨out.breakpoint, out.minWidth, out.changes.addressed distinct named⟩

/-- A change of every section and one change of each section in order make no difference to the code
of any framework. -/
theorem lower_spelledOut (reported : schema.validate = .ok report) (valid : report.valid = true)
    (named : everySection ∉ schema.sectionIds) {rules : List ResponsiveRule}
    (spelled : List.Forall₂ schema.SpellsOut schema.responsiveRules rules) :
    (∀ (framework : Framework) (options : EmitOptions),
      framework.lower options (schema.withRules rules) = framework.lower options schema) ∧
      ∀ (targets : Json) (options : EmitOptions),
        runCodeGeneration .builtIn (.schema (schema.withRules rules)) targets options =
          runCodeGeneration .builtIn (.schema schema) targets options := by
  have sound := sound_of_reported reported valid
  have alike := alike_withRules sound.sectionsDistinct named spelled
  exact ⟨alike.lower sound.sectionsDistinct, alike.runCodeGeneration sound⟩

/-- A page that hides its sections between two changes of one of them. -/
def sweepingPage : Schema where
  sections := [
    { id := "top", name := "Top", type := "hero", layout := .grid },
    { id := "end", name := "End", type := "footer" }]
  responsiveRules := [
    { breakpoint := "md", rules := [
      { target := "end", layout := some .flex }, { target := "*", hidden := some true },
      { target := "end", hidden := some false }] },
    { breakpoint := "lg", rules := [{ target := "*", gap := some 8 }] }]

/-- The rules of the page with the first change of every section written out. -/
def sweepingRules : List ResponsiveRule := [
  { breakpoint := "md", rules := [
    { target := "end", layout := some .flex }, { target := "top", hidden := some true },
    { target := "end", hidden := some true }, { target := "end", hidden := some false }] },
  { breakpoint := "lg", rules := [{ target := "*", gap := some 8 }] }]

theorem sweepingPage_lower :
    (∃ report, sweepingPage.validate = .ok report ∧ report.valid = true) ∧
      List.Forall₂ sweepingPage.SpellsOut sweepingPage.responsiveRules sweepingRules ∧
      ∀ (framework : Framework) (options : EmitOptions),
        framework.lower options (sweepingPage.withRules sweepingRules) =
          framework.lower options sweepingPage := by
  have hides : sweepingPage.SpelledOut
      [{ target := "*", hidden := some true }, { target := "end", hidden := some false }]
      [{ target := "top", hidden := some true }, { target := "end", hidden := some true },
        { target := "end", hidden := some false }] := .spelled rfl (.kept _ .nil)
  have spelled : List.Forall₂ sweepingPage.SpellsOut sweepingPage.responsiveRules sweepingRules :=
    .cons ⟨rfl, rfl, .kept _ hides⟩ (.cons ⟨rfl, rfl, .kept _ .nil⟩ .nil)
  have passed : ∃ report, sweepingPage.validate = .ok report ∧ report.valid = true := ⟨_, rfl, rfl⟩
  obtain ⟨report, reported, valid⟩ := passed
  have same := lower_spelledOut reported valid (by decide) spelled
  exact ⟨⟨report, reported, valid⟩, spelled, same.1⟩

end Schema

end DesignToCode
