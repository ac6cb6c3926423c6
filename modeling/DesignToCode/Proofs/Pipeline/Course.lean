import DesignToCode.Pipeline.Runs

set_option autoImplicit false

namespace DesignToCode

namespace Analysis

section

variable (config : RunConfig) (capability : Capability) (download : String → Download)
  (request : AnalysisRequest)

/-- How an analysis may go, with the calls that are made and what comes of them. -/
inductive Course : List CapabilityCall → Except Stop Analysis → Prop where
  | refused {stop : Stop} (refused : prepare config download request = .error stop) :
      Course [] (.error stop)
  | unseen {prepared : Prepared} {stop : Stop}
      (accepted : prepare config download request = .ok prepared)
      (ended : callVision config capability prepared.image = .error stop) :
      Course [.vision prepared.image] (.error stop)
  | unreasoned {prepared : Prepared} {vision : VisionMade} {stop : Stop}
      (accepted : prepare config download request = .ok prepared)
      (seen : callVision config capability prepared.image = .ok vision)
      (ended : callReasoning config capability vision prepared.text request.designSystem =
        .error stop) :
      Course [.vision prepared.image, .reasoning prepared.text request.designSystem vision]
        (.error stop)
  | combined {prepared : Prepared} {vision : VisionMade} {reasoning : ReasoningOutput}
      (accepted : prepare config download request = .ok prepared)
      (seen : callVision config capability prepared.image = .ok vision)
      (reasoned : callReasoning config capability vision prepared.text request.designSystem =
        .ok reasoning) :
      Course [.vision prepared.image, .reasoning prepared.text request.designSystem vision]
        (combine capability prepared vision reasoning)

end

variable {config : RunConfig} {capability : Capability} {download : String → Download}
  {request : AnalysisRequest} {calls : List CapabilityCall} {result : Except Stop Analysis}

theorem prepare_eq_ok_iff {prepared : Prepared} :
    prepare config download request = .ok prepared ↔
      Framework.request config.settings request.targets config.defaultTarget =
        .ok prepared.targets ∧
        loadImage config.limits download request.image = .ok prepared.image ∧
        description request.text = prepared.text := by
  obtain ⟨targets, image, text⟩ := prepared
  unfold prepare
  cases Framework.request config.settings request.targets config.defaultTarget with
  | error e => simp
  | ok targets => cases loadImage config.limits download request.image <;> simp

theorem course_of_analyze (h : analyze config capability download request = (calls, result)) :
    Course config capability download request calls result := by
  unfold analyze at h
  cases accepted : prepare config download request with
  | error stop =>
    rw [accepted] at h
    cases h
    exact .refused accepted
  | ok prepared =>
    rw [accepted] at h
    dsimp only at h
    cases seen : callVision config capability prepared.image with
    | error stop =>
      rw [seen] at h
      cases h
      exact .unseen accepted seen
    | ok vision =>
      rw [seen] at h
      dsimp only at h
      cases reasoned : callReasoning config capability vision prepared.text
        request.designSystem with
      | error stop =>
        rw [reasoned] at h
        cases h
        exact .unreasoned accepted seen reasoned
      | ok reasoning =>
        rw [reasoned] at h
        cases h
        exact .combined accepted seen reasoned

end Analysis

/-- A run makes the calls of its analysis and no others. -/
theorem calls_runAnalysis {config : RunConfig} {registry : Registry} {capability : Capability}
    {download : String → Download} {request : AnalysisRequest} {options : AnalyzeOptions}
    {calls : List CapabilityCall} {result : Except Stop Analysis}
    (analyzed : Analysis.analyze config capability download request = (calls, result)) :
    (runAnalysis config registry capability download request options).calls = calls := by
  have stopped (run : Run) (stop : Stop) : (RunReport.stop run calls stop).calls = calls := by
    cases stop <;> rfl
  unfold runAnalysis
  rw [analyzed]
  cases result with
  | error stop => exact stopped _ stop
  | ok analysis =>
    dsimp only
    split
    · exact stopped _ _
    · split
      · split <;> rfl
      · rfl

end DesignToCode
