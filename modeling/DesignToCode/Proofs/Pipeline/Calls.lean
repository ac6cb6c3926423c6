import DesignToCode.Proofs.Pipeline.Course
import DesignToCode.Proofs.Pipeline.Outcomes
import DesignToCode.Proofs.Reading.Basic

set_option autoImplicit false

namespace DesignToCode

/-- The targets of a request or its image are refused. -/
def AnalysisRequest.IsRefused (config : RunConfig) (download : String → Download)
    (request : AnalysisRequest) : Prop :=
  (∃ e, Framework.request config.settings request.targets config.defaultTarget = .error e) ∨
    ∃ e, loadImage config.limits download request.image = .error e

/-- The failures that a capability tells itself are those of a capability. -/
structure Capability.TellsOwn (capability : Capability) : Prop where
  vision : ∀ image failure, capability.vision image = .failed failure →
    failure.kind = .capability
  reason : ∀ vision text designSystem failure,
    capability.reason vision text designSystem = .failed failure → failure.kind = .capability

/-- A reply with a value of the type of vision calls, or with an object that reads as one. -/
def Reply.Shows (reply : Reply VisionMade) (vision : VisionMade) : Prop :=
  reply = .made vision ∨
    ∃ fields output, reply = .document (.obj fields) ∧
      VisionOutput.read (.obj fields) = .ok output ∧ vision = ⟨output, []⟩

namespace Analysis

variable {config : RunConfig} {capability : Capability} {download : String → Download}
  {request : AnalysisRequest}

theorem exists_prepare_eq_error_iff :
    (∃ stop, prepare config download request = .error stop) ↔
      request.IsRefused config download := by
  unfold prepare AnalysisRequest.IsRefused
  cases Framework.request config.settings request.targets config.defaultTarget with
  | error e => simp
  | ok targets => cases loadImage config.limits download request.image <;> simp

theorem callVision_eq_ok_iff {image : Image} {vision : VisionMade} :
    callVision config capability image = .ok vision ↔ (capability.vision image).Shows vision := by
  unfold callVision Reply.Shows
  cases capability.vision image with
  | document v =>
    simp only [receive, reduceCtorEq, Reply.document.injEq, false_or]
    cases read : VisionOutput.read v with
    | ok output =>
      obtain ⟨fields, rfl, -⟩ := Reader.record_eq_ok_iff.mp read
      simp [read, eq_comm]
    | faulty faults =>
      simp only [reduceCtorEq, false_iff]
      rintro ⟨fields, output, rfl, made, -⟩
      cases read.symm.trans made
  | made made => simp [receive]
  | failed failure => simp [receive]
  | raised raised => simp [receive]
  | timedOut => simp [receive]
  | cancelled => simp [receive]
  | endless =>
    simp only [receive]
    split <;> simp

theorem not_isInput_of_receive {α β : Type} {hasTimeout : Bool} {name stage : String}
    {read : Reader α} {ofRead : α → β} {reply : Reply β} {stop : Stop}
    (told : ∀ failure, reply = .failed failure → failure.kind = .capability)
    (h : receive hasTimeout name stage read ofRead reply = .error stop) :
    ¬ stop.IsFailure [.input] := by
  rcases cases_of_receive told h with ⟨-, rfl⟩ | ⟨-, failed⟩
  · exact id
  · cases stop with
    | failure failure =>
      intro input
      cases (List.mem_singleton.mp failed).symm.trans (List.mem_singleton.mp input)
    | interruption _ => exact id

theorem not_isInput_of_combine {prepared : Prepared} {vision : VisionMade}
    {reasoning : ReasoningOutput} {stop : Stop}
    (h : combine capability prepared vision reasoning = .error stop) :
    ¬ stop.IsFailure [.input] := by
  unfold combine at h
  split at h
  · cases h
    intro input
    cases List.mem_singleton.mp input
  · cases h
    exact id
  · cases h

namespace Course

variable {calls : List CapabilityCall} {result : Except Stop Analysis}

theorem calls_eq_nil_iff (course : Course config capability download request calls result) :
    calls = [] ↔ request.IsRefused config download := by
  rw [← exists_prepare_eq_error_iff]
  cases course with
  | refused refused => exact iff_of_true rfl ⟨_, refused⟩
  | unseen accepted => simp [accepted]
  | unreasoned accepted => simp [accepted]
  | combined accepted => simp [accepted]

/-- A call is made on what was accepted, and another one on what the first one shows. -/
theorem calls_cases (course : Course config capability download request calls result) :
    calls = [] ∨ ∃ image, loadImage config.limits download request.image = .ok image ∧
      (calls = [.vision image] ∧ (∀ vision, ¬ (capability.vision image).Shows vision) ∨
        ∃ vision, (capability.vision image).Shows vision ∧
          calls = [.vision image,
            .reasoning (description request.text) request.designSystem vision]) := by
  cases course with
  | refused => exact .inl rfl
  | unseen accepted ended =>
    obtain ⟨-, loaded, -⟩ := prepare_eq_ok_iff.mp accepted
    refine .inr ⟨_, loaded, .inl ⟨rfl, fun vision shows => ?_⟩⟩
    cases ended.symm.trans (callVision_eq_ok_iff.mpr shows)
  | unreasoned accepted seen =>
    obtain ⟨-, loaded, described⟩ := prepare_eq_ok_iff.mp accepted
    rw [described]
    exact .inr ⟨_, loaded, .inr ⟨_, callVision_eq_ok_iff.mp seen, rfl⟩⟩
  | combined accepted seen =>
    obtain ⟨-, loaded, described⟩ := prepare_eq_ok_iff.mp accepted
    rw [described]
    exact .inr ⟨_, loaded, .inr ⟨_, callVision_eq_ok_iff.mp seen, rfl⟩⟩

/-- An analysis that ends is told to fail for its input exactly if it made no call and its targets
can be gone through. -/
theorem isInput_iff {stop : Stop} (own : capability.TellsOwn) (inline : request.image.IsInline)
    (course : Course config capability download request calls (.error stop)) :
    stop.IsFailure [.input] ↔ calls = [] ∧ request.IsListing := by
  generalize ended : Except.error stop = result at course
  cases course with
  | refused refused =>
    cases ended
    rw [isInput_iff_of_prepare inline refused]
    simp
  | unseen accepted stopped =>
    cases ended
    exact iff_of_false (not_isInput_of_receive (own.vision _) stopped) (by simp)
  | unreasoned accepted seen stopped =>
    cases ended
    exact iff_of_false (not_isInput_of_receive (own.reason _ _ _) stopped) (by simp)
  | combined accepted seen reasoned =>
    exact iff_of_false (not_isInput_of_combine ended.symm) (by simp)

end Course

end Analysis

variable {config : RunConfig} {capability : Capability} {download : String → Download}
  {request : AnalysisRequest} {options : AnalyzeOptions} {report : RunReport}

/-- The run fails with a failure of the kind. -/
def RunReport.FailsFor (kind : FailureKind) (report : RunReport) : Prop :=
  ∃ failure, report.outcome = .failed failure ∧ failure.kind = kind

/-- Behind an analysis nothing is told as a failure of the input any more. -/
theorem not_failsFor_of_analysis {calls : List CapabilityCall} {analysis : Analysis}
    (analyzed : Analysis.analyze config capability download request = (calls, .ok analysis)) :
    ¬ (runAnalysis config .builtIn capability download request options).FailsFor .input := by
  cases reported : analysis.schema.validate with
  | error why =>
    rw [runAnalysis_of_noReport analyzed reported]
    rintro ⟨_, ⟨⟩, -⟩
  | ok verdict =>
    cases valid : verdict.valid with
    | false =>
      rw [runAnalysis_of_invalid analyzed reported valid]
      rintro ⟨_, ⟨⟩, input⟩
      cases input
    | true =>
      rw [runAnalysis_of_valid analyzed reported valid]
      split
      · split
        · rename_i failure emitted
          rintro ⟨_, ⟨⟩, input⟩
          cases (Emission.kind_of_emit emitted).symm.trans input
        · rintro ⟨_, ⟨⟩, _⟩
      · rintro ⟨_, ⟨⟩, _⟩

theorem failsFor_stop_iff {run : Run} {calls : List CapabilityCall} {stop : Stop}
    {kind : FailureKind} :
    (RunReport.stop run calls stop).FailsFor kind ↔ stop.IsFailure [kind] := by
  cases stop <;> simp [RunReport.FailsFor, RunReport.stop, RunReport.fail, Stop.IsFailure]

/-- A run makes no call exactly when its targets or its image are refused. It fails for its input
exactly when it makes none and its targets can be gone through. Otherwise the vision call is made on
the image, and behind it, if it shows something and only then, the reasoning call on what it
shows. -/
theorem runAnalysis_calls (own : capability.TellsOwn) (inline : request.image.IsInline)
    (made : runAnalysis config .builtIn capability download request options = report) :
    (report.calls = [] ↔ request.IsRefused config download) ∧
      (report.FailsFor .input ↔ report.calls = [] ∧ request.IsListing) ∧
      (report.calls = [] ∨
        ∃ image, loadImage config.limits download request.image = .ok image ∧
          (report.calls = [.vision image] ∧ (∀ vision, ¬ (capability.vision image).Shows vision) ∨
            ∃ vision, (capability.vision image).Shows vision ∧
              report.calls = [.vision image,
                .reasoning (Analysis.description request.text) request.designSystem vision])) := by
  obtain ⟨calls, result, analyzed⟩ :
      ∃ calls result, Analysis.analyze config capability download request = (calls, result) :=
    ⟨_, _, rfl⟩
  have course := Analysis.course_of_analyze analyzed
  have listed : report.calls = calls := by
    rw [← made, calls_runAnalysis analyzed]
  rw [listed]
  refine ⟨course.calls_eq_nil_iff, ?_, course.calls_cases⟩
  rw [← made]
  cases result with
  | error stop =>
    rw [runAnalysis_of_stop analyzed, failsFor_stop_iff]
    exact course.isInput_iff own inline
  | ok analysis =>
    refine iff_of_false (not_failsFor_of_analysis analyzed) ?_
    -- without calls the course was refused, and nothing came of it
    rintro ⟨rfl, -⟩
    cases course

/-- The sketcher that refuses every image as an input of its own. -/
def refusingSketcher : Capability :=
  { sketcher with vision := fun _ => .raised (.failure (.ofInput "Image is too dark" []) nofun) }

/-- What the capability refuses is no failure of the input; a target that does not exist is one. -/
theorem refusingSketcher_calls :
    let run (targets : List String) : RunReport :=
      runAnalysis {} .builtIn refusingSketcher (fun _ => .broken)
        { sketchRequest with targets := .strings targets } {}
    ((run ["css"]).calls = [.vision sketchImage] ∧ ¬ (run ["css"]).FailsFor .input) ∧
      (run ["flutter"]).calls = [] ∧ (run ["flutter"]).FailsFor .input := by
  intro run
  have own : refusingSketcher.TellsOwn := {
    vision := nofun
    reason := fun _ _ _ _ told => by cases told }
  have asked (targets : List String) := @runAnalysis_calls {} refusingSketcher (fun _ => .broken)
    { sketchRequest with targets := .strings targets } {} _ own trivial rfl
  constructor
  · obtain ⟨refused, input, order⟩ := asked ["css"]
    have called : (run ["css"]).calls ≠ [] := by
      rw [ne_eq, refused]
      rintro (⟨_, unsupported⟩ | ⟨_, unloaded⟩)
      · cases unsupported
      · cases unloaded.symm.trans loadImage_sketch
    refine ⟨?_, fun failed => called (input.mp failed).1⟩
    rcases order with none | ⟨image, loaded, ⟨calls, -⟩ | ⟨vision, made | ⟨_, _, read, -⟩, -⟩⟩
    · exact absurd none called
    · cases loaded.symm.trans loadImage_sketch
      exact calls
    · cases made
    · cases read
  · obtain ⟨refused, input, -⟩ := asked ["flutter"]
    have none : (run ["flutter"]).calls = [] := refused.mpr (.inl ⟨_, rfl⟩)
    exact ⟨none, input.mpr ⟨none, _, rfl⟩⟩

end DesignToCode
