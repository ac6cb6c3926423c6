import DesignToCode.Proofs.Analysis.Assembly
import DesignToCode.Proofs.Image.Limit
import DesignToCode.Proofs.Pipeline.CodeRuns
import DesignToCode.Proofs.Pipeline.Course
import DesignToCode.Proofs.Schema.Reread

set_option autoImplicit false

namespace DesignToCode

open Json

theorem Framework.nodup_of_request {settings : RunSettings} {v : Json} {fallback : String}
    {targets : List String} (h : Framework.request settings v fallback = .ok targets) :
    targets.Nodup := by
  unfold Framework.request at h
  split at h
  · cases h
  · cases h
    exact List.nodup_singleton _
  · split at h
    · cases h
      exact Emission.nodup_requested _
    · cases h

namespace Analysis

variable {config : RunConfig} {capability : Capability} {download : String → Download}
  {request : AnalysisRequest} {calls : List CapabilityCall} {analysis : Analysis}

/-- Only a hint of a section can be changed when a value is settled. -/
theorem componentHints_of_settle {vision : VisionMade} {keys : List String} {output : VisionOutput}
    (h : vision.settle keys = .ok output) :
    output.componentHints = vision.output.componentHints := by
  unfold VisionMade.settle at h
  split at h
  · cases h
    rfl
  · cases h
    rfl
  · obtain ⟨hint, -, rfl⟩ := Except.map_eq_ok_iff.mp h
    rfl

/-- What two calls came to: the vision call whose output was settled, and a schema that was put
together from it for the targets that were asked for. -/
structure CameOf (analysis : Analysis) (calls : List CapabilityCall) (targets : List String)
    (vision : VisionMade) : Prop where
  called : ∃ text designSystem, .reasoning text designSystem vision ∈ calls
  assembled : ∃ output reasoning inputTypes,
    output.componentHints = vision.output.componentHints ∧
      analysis.schema = (assemble output reasoning inputTypes targets).schema

theorem schema_of_combine {prepared : Prepared} {vision : VisionMade} {reasoning : ReasoningOutput}
    (h : combine capability prepared vision reasoning = .ok analysis) :
    ∃ output inputTypes, output.componentHints = vision.output.componentHints ∧
      analysis.schema = (assemble output reasoning inputTypes prepared.targets).schema := by
  unfold combine at h
  split at h
  · cases h
  · cases h
  · rename_i output settled
    cases h
    exact ⟨output, inputTypes prepared.text, componentHints_of_settle settled, rfl⟩

theorem cameOf_of_analyze
    (h : analyze config capability download request = (calls, .ok analysis)) :
    ∃ targets vision,
      Framework.request config.settings request.targets config.defaultTarget = .ok targets ∧
      analysis.CameOf calls targets vision := by
  generalize made : Except.ok analysis = result at h
  cases course_of_analyze h with
  | refused => cases made
  | unseen => cases made
  | unreasoned => cases made
  | combined accepted seen reasoned =>
    obtain ⟨output, inputTypes, hints, schema⟩ := schema_of_combine made.symm
    refine ⟨_, _, (prepare_eq_ok_iff.mp accepted).1, ?_, output, _, inputTypes, hints, schema⟩
    exact ⟨_, _, List.mem_cons_of_mem _ (List.mem_singleton_self _)⟩

end Analysis

/-- No attribute of a component that the vision call told holds a number that is not finite. -/
def RunReport.ToldFinite (report : RunReport) : Prop :=
  ∀ text designSystem vision, .reasoning text designSystem vision ∈ report.calls →
    ∀ hint ∈ vision.output.componentHints, ∀ field ∈ hint.attributes, field.2.IsFinite

variable {config : RunConfig} {registry : Registry} {capability : Capability}
  {download : String → Download} {request : AnalysisRequest} {options : AnalyzeOptions}

/-- A run is completed with code only behind the gate, and with the code that was made of the very
schema that it hands over. -/
theorem exists_code_of_completed {report : RunReport} {data : RunData}
    (made : runAnalysis config registry capability download request options = report)
    (completed : report.outcome = .completed data) (asked : options.includeCode = true) :
    ∃ analysis code,
      Analysis.analyze config capability download request = (report.calls, .ok analysis) ∧
      gate analysis.schema.validate = .ok () ∧
      emit registry analysis.schema analysis.schema.info.frameworkTarget options.emit = .ok code ∧
      data.schema = some analysis.schema ∧ data.code = some code := by
  subst made
  unfold runAnalysis at completed ⊢
  split at completed
  · rename_i stop _
    cases stop <;> cases completed
  · rename_i calls analysis analyzed
    dsimp only at completed
    split at completed
    · rename_i stop _
      cases stop <;> cases completed
    · rename_i passed
      rw [if_pos asked] at completed
      split at completed
      · cases completed
      · rename_i code emitted
        cases completed
        refine ⟨analysis, code, ?_, passed, emitted, rfl, rfl⟩
        simp [analyzed, asked, RunReport.complete]

/-- An analysis whose schema passes the gate and has its code is completed with both. -/
theorem runAnalysis_of_code {calls : List CapabilityCall} {analysis : Analysis}
    {code : List (String × Artifact)}
    (analyzed : Analysis.analyze config capability download request = (calls, .ok analysis))
    (passed : gate analysis.schema.validate = .ok ()) (asked : options.includeCode = true)
    (emitted : emit registry analysis.schema analysis.schema.info.frameworkTarget options.emit =
      .ok code) :
    runAnalysis config registry capability download request options =
      .complete (((({} : Run).enter .analyzing).enter .validating).enter .emitting) calls {
        schema := some analysis.schema
        quality := if options.includeQuality then some analysis.quality else none
        code := some code } := by
  simp only [runAnalysis, analyzed, passed, asked, if_true, emitted]

theorem Analysis.CameOf.hasFiniteAttributes {analysis : Analysis} {report : RunReport}
    {targets : List String} {vision : VisionMade}
    (came : analysis.CameOf report.calls targets vision)
    (finite : report.ToldFinite) : analysis.schema.HasFiniteAttributes := by
  obtain ⟨⟨text, designSystem, called⟩, output, reasoning, inputTypes, hints, schema⟩ := came
  rw [schema]
  intro c member field listed
  obtain ⟨placed, inside, rfl⟩ := List.mem_map.mp member
  have told : placed.hint ∈ output.componentHints := by
    rw [← Assembly.placeComponents_hints output.componentHints]
    exact List.mem_map_of_mem inside
  exact finite text designSystem vision called placed.hint (hints ▸ told) field listed

theorem Analysis.CameOf.frameworkTarget {analysis : Analysis} {calls : List CapabilityCall}
    {targets : List String} {vision : VisionMade} (came : analysis.CameOf calls targets vision) :
    analysis.schema.info.frameworkTarget = targets := by
  obtain ⟨-, output, reasoning, inputTypes, -, schema⟩ := came
  rw [schema]
  rfl

theorem Schema.isShallow_of_gate {schema : Schema} (passed : gate schema.validate = .ok ()) :
    schema.isShallow = true := by
  cases shallow : schema.isShallow with
  | true => rfl
  | false =>
    rw [Schema.validate_of_not_isShallow shallow] at passed
    cases passed

/-- A schema that has passed the gate leads to the same code when it is given back as it was
stored. -/
theorem runCodeGeneration_wire {schema : Schema} {options : EmitOptions}
    {code : List (String × Artifact)} (passed : gate schema.validate = .ok ())
    (finite : schema.HasFiniteAttributes)
    (emitted : emit registry schema schema.info.frameworkTarget options = .ok code) :
    runCodeGeneration registry (.document schema.wire) .null options =
      .complete emittingRun [] { code := some code } := by
  have looked : gate (SchemaGiven.document schema.wire).validate = .ok () := by
    rwa [Schema.validate_of_isShallow (Schema.isShallow_of_gate passed)] at passed
  have read : (SchemaGiven.document schema.wire).read = .ok schema := by
    show Schema.read schema.wire = _
    rw [Schema.read_wire, Schema.finite_eq_self_iff.mpr finite]
  have targets : codeTargets .null = .ok none := rfl
  simp only [runCodeGeneration, targets, looked, read, Option.getD_none, emitted]
  rfl

/-- An analysis that is completed with code hands over a schema whose stored form, given back with
the same options and without targets, is completed with the same code for the same targets in the
same order. -/
theorem runCodeGeneration_of_runAnalysis {report : RunReport} {data : RunData}
    (made : runAnalysis config registry capability download request options = report)
    (completed : report.outcome = .completed data) (asked : options.includeCode = true)
    (finite : report.ToldFinite) :
    ∃ stored code, data.toJson.get? "schema" = some stored ∧ data.code = some code ∧
      Framework.request config.settings request.targets config.defaultTarget =
        .ok (code.map (·.1)) ∧
      runCodeGeneration registry (.document stored) .null options.emit =
        .complete emittingRun [] { code := some code } := by
  obtain ⟨analysis, code, analyzed, passed, emitted, schema, same⟩ :=
    exists_code_of_completed made completed asked
  obtain ⟨targets, vision, requested, came⟩ := Analysis.cameOf_of_analyze analyzed
  have names : code.map (·.1) = targets := by
    rw [Emission.map_fst_of_emit emitted, came.frameworkTarget]
    exact Emission.requested_of_nodup (Framework.nodup_of_request requested)
  refine ⟨analysis.schema.wire, code, ?schema, same, names ▸ requested, ?again⟩
  case schema =>
    rw [RunData.toJson, schema]
    rfl
  case again => exact runCodeGeneration_wire passed (came.hasFiniteAttributes finite) emitted

def sketchedVision : VisionOutput where
  sections := [{ key := "top", name := "Top", layout := some " Grid ", columns := some 40 }]
  componentHints := [{
    sectionKey := "top", name := "Title", type := "heading",
    attributes := [("level", .real (.ofInt 3)), ("note", .null)] }]
  confidence := .ofInt 1

def sketchedReasoning : ReasoningOutput where
  backgroundStrategy := { sectionOverrides := [("top", "#fff"), ("side", "#000")] }
  responsiveRules := [{ breakpoint := "md", rules := [{ target := "*", hidden := some false }] }]

/-- A capability that tells the same of every image, once as a document and once as a value. -/
def sketcher : Capability where
  kind := "Sketcher"
  vision := fun _ => .document sketchedVision.toJson
  reason := fun _ _ _ => .made sketchedReasoning

def sketchRequest : AnalysisRequest where
  image := .bytes [0xff, 0xd8, 0xff]
  targets := .strings [" SCSS", "tailwind", "scss"]

def sketchedSchema : Schema :=
  (assemble sketchedVision sketchedReasoning [.image] ["scss", "tailwind"]).schema

/-- The image of the sketch as the vision call gets it. -/
def sketchImage : Image := ⟨[0xff, 0xd8, 0xff], .jpeg, .inline⟩

theorem loadImage_sketch :
    loadImage ({} : RunConfig).limits (fun _ => .broken) sketchRequest.image = .ok sketchImage := by
  have image : imageOf {} [0xff, 0xd8, 0xff] "" .inline = .ok sketchImage :=
    imageOf_eq_ok_iff.mpr ⟨by decide, by decide, jpeg_mem_accepted _, by decide, rfl, rfl⟩
  exact Except.bind_eq_ok_iff.mpr ⟨(), checkSize_eq_ok_iff.mpr (by decide), image⟩

theorem prepare_sketch :
    Analysis.prepare {} (fun _ => .broken) sketchRequest =
      .ok ⟨["scss", "tailwind"], sketchImage, none⟩ := by
  have asked : Framework.request {} sketchRequest.targets ({} : RunConfig).defaultTarget =
      .ok ["scss", "tailwind"] := by rfl
  rw [Analysis.prepare, asked]
  dsimp only
  rw [loadImage_sketch]
  rfl

theorem analyze_sketch :
    ∃ calls analysis,
      Analysis.analyze {} sketcher (fun _ => .broken) sketchRequest = (calls, .ok analysis) ∧
        calls = [.vision sketchImage, .reasoning none none ⟨sketchedVision, []⟩] ∧
        analysis.schema = sketchedSchema := by
  unfold Analysis.analyze
  rw [prepare_sketch]
  exact ⟨_, _, rfl, rfl, rfl⟩

theorem exists_code_of_sketchedSchema (options : EmitOptions) :
    gate sketchedSchema.validate = .ok () ∧
      ∃ code, emit .builtIn sketchedSchema sketchedSchema.info.frameworkTarget options =
        .ok code := by
  have supported : ∀ t ∈ ["scss", "tailwind"], t ∈ Framework.names := by decide
  have sound : sketchedSchema.Sound :=
    assemble_sound sketchedVision sketchedReasoning (by decide) (by decide) supported
  have drawable : sketchedSchema.Drawable := by
    rw [sound.drawable_iff]
    rintro ⟨c, member, -, undrawable⟩
    obtain rfl := List.mem_singleton.mp member
    exact Component.exists_element_iff.mp ⟨_, rfl⟩ undrawable
  obtain ⟨code, emitted, -⟩ :=
    Emission.emit_of_drawable options (List.cons_ne_nil _ _) supported drawable
  refine ⟨?_, code, emitted⟩
  have short : sketchedSchema.HasShortWidths :=
    hasShortWidths_assemble sketchedVision sketchedReasoning fun rule member width given => by
      obtain rfl := List.mem_singleton.mp member
      cases given
  rw [Schema.validate_of_sound rfl short sound]
  rfl

theorem sketch_given_back :
    ∃ report data,
      runAnalysis {} .builtIn sketcher (fun _ => .broken) sketchRequest
          { includeCode := true, emit := { includeComments := true } } = report ∧
        report.outcome = .completed data ∧ report.ToldFinite ∧
        ∃ stored code, data.toJson.get? "schema" = some stored ∧ data.code = some code ∧
          code.map (·.1) = ["scss", "tailwind"] ∧
          runCodeGeneration .builtIn (.document stored) .null { includeComments := true } =
            .complete emittingRun [] { code := some code } := by
  obtain ⟨calls, analysis, analyzed, listed, schema⟩ := analyze_sketch
  obtain ⟨passed, code, emitted⟩ := exists_code_of_sketchedSchema { includeComments := true }
  rw [← schema] at passed emitted
  have made : runAnalysis {} .builtIn sketcher (fun _ => .broken) sketchRequest
      { includeCode := true, emit := { includeComments := true } } = _ :=
    runAnalysis_of_code analyzed passed rfl emitted
  have told : RunReport.ToldFinite (.complete
      (((({} : Run).enter .analyzing).enter .validating).enter .emitting) calls {
        schema := some analysis.schema
        quality := some analysis.quality
        code := some code }) := by
    intro text designSystem vision called hint member
    simp only [RunReport.complete, listed, List.mem_cons, reduceCtorEq, List.not_mem_nil, or_false,
      false_or, CapabilityCall.reasoning.injEq] at called
    obtain ⟨-, -, rfl⟩ := called
    obtain rfl := List.mem_singleton.mp member
    rw [← isFinite_obj_iff, ← finiteOnly_eq_self_iff]
    rfl
  refine ⟨_, _, made, rfl, told, ?_⟩
  obtain ⟨stored, again, held, same, asked, ended⟩ :=
    runCodeGeneration_of_runAnalysis made rfl rfl told
  have requested : Framework.request {} sketchRequest.targets ({} : RunConfig).defaultTarget =
      .ok ["scss", "tailwind"] := by rfl
  exact ⟨stored, again, held, same, Except.ok.inj (asked.symm.trans requested), ended⟩

end DesignToCode
