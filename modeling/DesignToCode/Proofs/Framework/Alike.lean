import DesignToCode.Pipeline.Runs
import DesignToCode.Proofs.Framework.Emission
import DesignToCode.Proofs.Schema.Verdict
import DesignToCode.Proofs.Style.Cascade

set_option autoImplicit false

namespace DesignToCode

/-- The same change, of one section. -/
def ResponsiveChange.toward (c : ResponsiveChange) (id : String) : ResponsiveChange :=
  { c with target := id }

namespace Schema

/-- The changes of a rule, each of the one section that it is about. -/
def addressed (schema : Schema) (rule : ResponsiveRule) : List (ResponsiveChange × Section) :=
  (schema.changesOf rule).map fun pair => (pair.1.toward pair.2.id, pair.2)

/-- Two rules of one label and width that change the sections in the same way. -/
structure SameChanges (s t : Schema) (rule other : ResponsiveRule) : Prop where
  breakpoint : other.breakpoint = rule.breakpoint
  minWidth : other.minWidth = rule.minWidth
  changes : t.addressed other = s.addressed rule

/-- Two schemas that say the same of the page and of each of its sections. -/
structure Alike (s t : Schema) : Prop where
  info : t.info = s.info
  sections : t.sections = s.sections
  components : t.components = s.components
  layoutStrategy : t.layoutStrategy = s.layoutStrategy
  paint : t.backgroundStrategy.paint? = s.backgroundStrategy.paint?
  zIndex : t.layering.zIndex = s.layering.zIndex
  overrides : ∀ sec ∈ s.sections, t.overrideOf sec = s.overrideOf sec
  layers : ∀ sec ∈ s.sections, t.layersOf sec = s.layersOf sec
  rules : List.Forall₂ (SameChanges s t) s.responsiveRules t.responsiveRules

theorem SameChanges.resolvedMinWidth {s t : Schema} {rule other : ResponsiveRule}
    (same : SameChanges s t rule other) : other.resolvedMinWidth = rule.resolvedMinWidth := by
  unfold ResponsiveRule.resolvedMinWidth
  rw [same.minWidth, same.breakpoint]

/-- A page depends on the classes of its own sections only. -/
theorem page_congr {s t : Schema} {namer other : Namer} (info : t.info = s.info)
    (sections : t.sections = s.sections) (components : t.components = s.components)
    (root : other.root = namer.root)
    (ofSection : ∀ sec ∈ s.sections, other.ofSection sec = namer.ofSection sec)
    (ofComponent : other.ofComponent = namer.ofComponent) (comments : Bool) :
    t.page other comments = s.page namer comments := by
  have drawn (sec : Section) (id : String) :
      t.componentNode other sec id = s.componentNode namer sec id := by
    unfold componentNode lastComponent?
    rw [components, ofComponent]
  have nodes : s.sections.mapM (t.sectionNode other comments) =
      s.sections.mapM (s.sectionNode namer comments) := by
    refine Except.mapM_congr fun sec listed => ?_
    unfold sectionNode
    rw [ofSection sec listed, funext (drawn sec)]
  unfold page
  rw [sections, nodes, info, root]

namespace Alike

variable {s t : Schema} (alike : Alike s t) {rule other : ResponsiveRule}
include alike

theorem sectionIds : t.sectionIds = s.sectionIds := by
  unfold Schema.sectionIds
  rw [alike.sections]

theorem gapOf (sec : Section) : t.gapOf sec = s.gapOf sec := by
  unfold Schema.gapOf
  rw [alike.layoutStrategy]

theorem declarations (c : ResponsiveChange) (sec : Section) :
    c.declarations sec t = c.declarations sec s := by
  unfold ResponsiveChange.declarations ResponsiveChange.gapIn
  rw [alike.gapOf]

theorem backgroundDeclarations :
    t.backgroundStrategy.declarations = s.backgroundStrategy.declarations := by
  unfold BackgroundStrategy.declarations
  rw [alike.paint]

theorem layering : t.layering.zIndex? = s.layering.zIndex? := by
  unfold Layering.zIndex?
  rw [alike.zIndex]

theorem rootDeclarations : t.rootDeclarations = s.rootDeclarations := by
  unfold Schema.rootDeclarations Layering.declarations
  rw [alike.layoutStrategy, alike.backgroundDeclarations, alike.layering]

theorem overrideDeclarations {sec : Section} (listed : sec ∈ s.sections) :
    t.overrideDeclarations sec = s.overrideDeclarations sec := by
  unfold Schema.overrideDeclarations
  rw [alike.overrides sec listed]

theorem sectionDeclarations {sec : Section} (listed : sec ∈ s.sections) :
    t.sectionDeclarations sec = s.sectionDeclarations sec := by
  unfold Schema.sectionDeclarations
  rw [alike.layers sec listed, alike.gapOf, alike.overrideDeclarations listed]

theorem mediaDeclarations (same : SameChanges s t rule other) (classOf : Section → String) :
    t.mediaDeclarations classOf other = s.mediaDeclarations classOf rule := by
  -- what a change declares for a section does not depend on how it names the section
  have addressed (schema : Schema) (rule : ResponsiveRule) :
      schema.mediaDeclarations classOf rule = (schema.addressed rule).foldl (fun made pair =>
        declareMore made (classOf pair.2) (pair.1.declarations pair.2 schema)) [] := by
    unfold Schema.addressed
    rw [List.foldl_map]
    rfl
  rw [addressed, addressed, same.changes]
  simp only [alike.declarations]

theorem mediaBlock? (same : SameChanges s t rule other) (classOf : Section → String) :
    t.mediaBlock? classOf other = s.mediaBlock? classOf rule := by
  unfold Schema.mediaBlock?
  rw [same.resolvedMinWidth, alike.mediaDeclarations same, same.breakpoint]

theorem styleSheet (classOf : Section → String) (root : String) (comments : Bool) :
    t.styleSheet classOf root comments = s.styleSheet classOf root comments := by
  have page : t.rootRule root comments = s.rootRule root comments := by
    unfold Schema.rootRule
    rw [alike.rootDeclarations, alike.layoutStrategy]
  have own : s.sections.map (t.sectionRule classOf comments) =
      s.sections.map (s.sectionRule classOf comments) := by
    refine List.map_congr_left fun sec listed => ?_
    unfold Schema.sectionRule
    rw [alike.sectionDeclarations listed]
  have blocks : t.responsiveRules.filterMap (t.mediaBlock? classOf) =
      s.responsiveRules.filterMap (s.mediaBlock? classOf) := by
    have each := map_eq_map_of_forall₂
      (alike.rules.imp fun _ _ same => (alike.mediaBlock? same classOf).symm)
    have given := congrArg (List.filterMap id) each
    rw [List.filterMap_map, List.filterMap_map] at given
    exact given.symm
  unfold Schema.styleSheet
  rw [page, alike.sections, own, blocks]

theorem tailwindRootClasses : Tailwind.rootClasses t = Tailwind.rootClasses s := by
  unfold Tailwind.rootClasses Tailwind.backgroundClasses
  rw [alike.layoutStrategy, alike.paint, alike.layering]

theorem changeClasses (c : ResponsiveChange) (sec : Section) :
    Tailwind.changeClasses c sec t = Tailwind.changeClasses c sec s := by
  unfold Tailwind.changeClasses ResponsiveChange.gapIn
  rw [alike.gapOf]

theorem changesFor (distinct : s.sectionIds.Nodup) (same : SameChanges s t rule other)
    {sec : Section} (listed : sec ∈ s.sections) :
    (Tailwind.changesFor other sec).map (·.toward sec.id) =
      (Tailwind.changesFor rule sec).map (·.toward sec.id) := by
  have reached {schema : Schema} {rule : ResponsiveRule} (distinct : schema.sectionIds.Nodup)
      (listed : sec ∈ schema.sections) :
      (Tailwind.changesFor rule sec).map (·.toward sec.id) =
        ((schema.addressed rule).filter (·.2.id == sec.id)).map (·.1) := by
    have own : schema.HasOwnClass (·.id) sec :=
      ⟨distinct, listed, fun _ again same => List.inj_on_of_nodup_map distinct again listed same⟩
    have pairs : (schema.changesOf rule).filter (·.2.id == sec.id) =
        (Tailwind.changesFor rule sec).map fun change => (change, sec) := own.filter_changesOf rule
    unfold Schema.addressed
    rw [List.filter_map, List.map_map]
    show _ = ((schema.changesOf rule).filter (·.2.id == sec.id)).map fun pair =>
      pair.1.toward pair.2.id
    rw [pairs, List.map_map]
    rfl
  rw [reached (alike.sectionIds ▸ distinct) (alike.sections ▸ listed), reached distinct listed,
    same.changes]

theorem ruleClasses (distinct : s.sectionIds.Nodup) (same : SameChanges s t rule other)
    {sec : Section} (listed : sec ∈ s.sections) :
    Tailwind.ruleClasses t sec other = Tailwind.ruleClasses s sec rule := by
  have mark : Tailwind.widthMark other = Tailwind.widthMark rule := by
    unfold Tailwind.widthMark
    rw [same.breakpoint, same.resolvedMinWidth]
  -- the classes of a change do not depend on how it names the section
  have addressed (schema : Schema) (rule : ResponsiveRule) :
      Tailwind.ruleClasses schema sec rule =
        if rule.resolvedMinWidth.isNone then []
        else ((Tailwind.changesFor rule sec).map (·.toward sec.id)).flatMap fun c =>
          (Tailwind.changeClasses c sec schema).map (Tailwind.widthMark rule ++ ·) := by
    unfold Tailwind.ruleClasses
    rw [List.flatMap_map]
    rfl
  rw [addressed, addressed, same.resolvedMinWidth, alike.changesFor distinct same listed, mark]
  simp only [alike.changeClasses]

theorem sectionClassList (distinct : s.sectionIds.Nodup) {sec : Section}
    (listed : sec ∈ s.sections) :
    Tailwind.sectionClassList t sec = Tailwind.sectionClassList s sec := by
  have rules := map_eq_map_of_forall₂
    (alike.rules.imp fun _ _ same => (alike.ruleClasses distinct same listed).symm)
  have all := congrArg List.flatten rules
  rw [← List.flatMap_def, ← List.flatMap_def] at all
  unfold Tailwind.sectionClassList
  rw [alike.gapOf, alike.overrides sec listed, alike.layers sec listed, all]

theorem basePlan : Bootstrap.basePlan t = Bootstrap.basePlan s := by
  have rootDeclarations : Bootstrap.rootDeclarations t = Bootstrap.rootDeclarations s := by
    unfold Bootstrap.rootDeclarations Layering.declarations
    rw [alike.layoutStrategy, alike.backgroundDeclarations, alike.layering]
  have classes : s.sections.map (fun sec => (sec.id, Bootstrap.sectionBase t sec)) =
      s.sections.map fun sec => (sec.id, Bootstrap.sectionBase s sec) := by
    refine List.map_congr_left fun sec listed => ?_
    unfold Bootstrap.sectionBase
    rw [alike.gapOf, alike.layers sec listed]
  have rules (classOf : Section → String) :
      s.sections.map (fun sec =>
          StyleRule.mk (classOf sec) (Bootstrap.sectionOverrides t sec) none) =
        s.sections.map fun sec =>
          StyleRule.mk (classOf sec) (Bootstrap.sectionOverrides s sec) none := by
    refine List.map_congr_left fun sec listed => ?_
    unfold Bootstrap.sectionOverrides
    rw [alike.gapOf, alike.layers sec listed, alike.overrideDeclarations listed]
  unfold Bootstrap.basePlan
  dsimp only
  rw [alike.sectionIds, alike.sections, rootDeclarations, classes, rules]

theorem planRule (same : SameChanges s t rule other) (plan : Bootstrap.Plan) :
    Bootstrap.planRule t plan other = Bootstrap.planRule s plan rule := by
  have change (width : Nat) :
      Bootstrap.planChange t other width = Bootstrap.planChange s rule width := by
    funext made pair
    obtain ⟨c, sec⟩ := pair
    unfold Bootstrap.planChange Bootstrap.ruleInfix
    dsimp only
    rw [same.minWidth, same.breakpoint, alike.declarations]
  -- a plan does not depend on how a change names its section
  have addressed (schema : Schema) (rule : ResponsiveRule) (width : Nat) :
      (schema.changesOf rule).foldl (Bootstrap.planChange schema rule width) plan =
        (schema.addressed rule).foldl (Bootstrap.planChange schema rule width) plan := by
    unfold Schema.addressed
    rw [List.foldl_map]
    rfl
  unfold Bootstrap.planRule
  rw [same.resolvedMinWidth]
  cases rule.resolvedMinWidth with
  | none => rfl
  | some width =>
    dsimp only
    rw [addressed t, addressed s, same.changes, change]

theorem plan : Bootstrap.plan t = Bootstrap.plan s := by
  have steps : s.responsiveRules.map (fun rule plan => Bootstrap.planRule s plan rule) =
      t.responsiveRules.map fun rule plan => Bootstrap.planRule t plan rule :=
    map_eq_map_of_forall₂
      (alike.rules.imp fun _ _ same => funext fun plan => (alike.planRule same plan).symm)
  have run := congrArg (List.foldl (fun plan step => step plan) (Bootstrap.basePlan s)) steps
  rw [List.foldl_map, List.foldl_map] at run
  unfold Bootstrap.plan
  rw [alike.basePlan]
  exact run.symm

theorem tree (distinct : s.sectionIds.Nodup) (framework : Framework) (comments : Bool) :
    framework.tree t comments = framework.tree s comments := by
  have stylesheet (framework : Framework) :
      framework.stylesheetClasses t = framework.stylesheetClasses s := by
    unfold Framework.stylesheetClasses
    rw [alike.sectionIds]
  have namers : (framework.namer t).root = (framework.namer s).root ∧
      (∀ sec ∈ s.sections, (framework.namer t).ofSection sec = (framework.namer s).ofSection sec) ∧
      (framework.namer t).ofComponent = (framework.namer s).ofComponent := by
    cases framework with
    | tailwind =>
      exact ⟨alike.tailwindRootClasses, fun _ listed => alike.sectionClassList distinct listed, rfl⟩
    | bootstrap =>
      refine ⟨?_, fun sec _ => ?_, ?_⟩
      · show Bootstrap.rootClasses t (Bootstrap.plan t) = Bootstrap.rootClasses s (Bootstrap.plan s)
        unfold Bootstrap.rootClasses
        rw [alike.plan, alike.layoutStrategy]
      · show (Bootstrap.namer t (Bootstrap.plan t)).ofSection sec = _
        rw [alike.plan]
        rfl
      · show (Bootstrap.namer t (Bootstrap.plan t)).ofComponent = _
        rw [alike.plan]
        rfl
    | css | scss | cssModules | postcss =>
      refine ⟨rfl, fun sec _ => ?_, rfl⟩
      show (Stylesheet.namer (Framework.stylesheetClasses _ t)).ofSection sec = _
      rw [stylesheet]
      rfl
  obtain ⟨root, ofSection, ofComponent⟩ := namers
  exact page_congr alike.info alike.sections alike.components root ofSection ofComponent comments

theorem styles (framework : Framework) (comments : Bool) :
    framework.styles t comments = framework.styles s comments := by
  cases framework with
  | tailwind => rfl
  | bootstrap =>
    show Framework.bootstrapStyles t = Framework.bootstrapStyles s
    unfold Framework.bootstrapStyles
    rw [alike.plan]
  | css | scss | cssModules | postcss =>
    unfold Framework.styles Framework.stylesheetClasses
    simp only [alike.styleSheet, alike.sectionIds]

/-- Schemas that say the same of their sections come to the same code, or are refused for the same
reason. -/
theorem lower (distinct : s.sectionIds.Nodup) (framework : Framework) (options : EmitOptions) :
    framework.lower options t = framework.lower options s := by
  unfold Framework.lower
  rw [alike.tree distinct, alike.styles]

theorem sound (sound : s.Sound) : t.Sound := by
  have ids : t.sectionIds = s.sectionIds := alike.sectionIds
  have componentIds : t.componentIds = s.componentIds := by
    unfold Schema.componentIds
    rw [alike.components]
  have widths : ∀ rule ∈ t.responsiveRules, rule.resolvedMinWidth.isSome = true := by
    intro other listed
    obtain ⟨rule, given, same⟩ := exists_mem_of_forall₂ alike.rules listed
    rw [same.resolvedMinWidth]
    exact sound.widths rule given
  exact {
    version := alike.info ▸ sound.version
    inputs := alike.info ▸ sound.inputs
    targets := alike.info ▸ sound.targets
    supported := alike.info ▸ sound.supported
    sectionsGiven := ids ▸ sound.sectionsGiven
    sectionsDistinct := ids ▸ sound.sectionsDistinct
    componentsGiven := componentIds ▸ sound.componentsGiven
    componentsDistinct := componentIds ▸ sound.componentsDistinct
    references := alike.sections ▸ componentIds ▸ sound.references
    widths := widths }

theorem unshown? : t.unshown? = s.unshown? := by
  unfold Schema.unshown?
  rw [shownRules_toJson_congr
    (alike.rules.imp fun _ _ same => ⟨same.breakpoint, same.resolvedMinWidth⟩)]

/-- The gate lets a schema pass exactly if it lets one like it pass. -/
theorem gate_validate (sound : s.Sound) : gate t.validate = gate s.validate := by
  have shallow : t.isShallow = s.isShallow := by
    unfold Schema.isShallow
    rw [alike.components]
  cases stored : s.isShallow with
  | false => rw [validate_of_not_isShallow stored, validate_of_not_isShallow (shallow.trans stored)]
  | true =>
    obtain ⟨passed, broken⟩ := validate_wire_of_sound sound
    obtain ⟨passes, breaks⟩ := validate_wire_of_sound (alike.sound sound)
    rw [validate_of_isShallow stored, validate_of_isShallow (shallow.trans stored)]
    cases shown : s.unshown? with
    | none =>
      rw [passed shown, passes (alike.unshown?.trans shown)]
      rfl
    | some why => rw [broken why shown, breaks why (alike.unshown?.trans shown)]

theorem emit (distinct : s.sectionIds.Nodup) (targets : List String) (options : EmitOptions) :
    DesignToCode.emit .builtIn t targets options =
      DesignToCode.emit .builtIn s targets options := by
  have one (target : String) : Emission.one .builtIn t options target =
      Emission.one .builtIn s options target := by
    unfold Emission.one
    cases found : Registry.builtIn.lookup target with
    | none => rfl
    | some entry =>
      obtain ⟨framework, -, same⟩ := List.mem_map.mp (Fields.mem_of_lookup found)
      obtain rfl : ⟨framework.definition, framework.lowering⟩ = entry := (Prod.mk.inj same).2
      dsimp only [Framework.lowering]
      rw [alike.lower distinct]
  unfold DesignToCode.emit
  rw [funext one]

/-- A run that makes code of a sound schema ends in the same way for every schema like it. -/
theorem runCodeGeneration (sound : s.Sound) (targets : Json) (options : EmitOptions) :
    DesignToCode.runCodeGeneration .builtIn (.schema t) targets options =
      DesignToCode.runCodeGeneration .builtIn (.schema s) targets options := by
  have gates : gate (SchemaGiven.schema t).validate = gate (SchemaGiven.schema s).validate :=
    alike.gate_validate sound
  unfold DesignToCode.runCodeGeneration
  rw [gates]
  simp only [SchemaGiven.read, alike.info, alike.emit sound.sectionsDistinct]

end Alike

end Schema

end DesignToCode
