import DesignToCode.Proofs.Pipeline.Course
import DesignToCode.Proofs.Pipeline.Outcomes

set_option autoImplicit false

namespace DesignToCode

/-- Replies that are the same, or both of which raise something. -/
def Reply.Alike {α : Type} (r s : Reply α) : Prop :=
  r = s ∨ ∃ x y, r = .raised x ∧ s = .raised y

/-- Capabilities of one name that differ at most in what they raise. -/
structure Capability.Alike (a b : Capability) : Prop where
  name : a.name = b.name
  title : a.title = b.title
  vision : ∀ image, (a.vision image).Alike (b.vision image)
  reason : ∀ vision text designSystem,
    (a.reason vision text designSystem).Alike (b.reason vision text designSystem)

namespace CapabilityCall

def stage : CapabilityCall → String
  | .vision _ => Analysis.visionStage
  | .reasoning .. => Analysis.reasoningStage

/-- A call at which a capability raises something. -/
def IsRaised (capability : Capability) : CapabilityCall → Prop
  | .vision image => ∃ raised, capability.vision image = .raised raised
  | .reasoning text designSystem seen =>
    ∃ raised, capability.reason seen text designSystem = .raised raised

/-- The failure that a call is told as, whatever was raised there. -/
def failure (capability : Capability) (call : CapabilityCall) : Failure :=
  .ofCapability s!"{call.stage} call failed" capability.title [("stage", .str call.stage)]

end CapabilityCall

namespace Analysis

variable {config : RunConfig} {capability a b : Capability} {download : String → Download}
  {request : AnalysisRequest}

theorem receive_of_alike {α β : Type} {r s : Reply β} (alike : r.Alike s) (hasTimeout : Bool)
    (name stage : String) (read : Reader α) (ofRead : α → β) :
    receive hasTimeout name stage read ofRead r = receive hasTimeout name stage read ofRead s := by
  rcases alike with rfl | ⟨x, y, rfl, rfl⟩ <;> rfl

theorem callVision_of_alike (alike : a.Alike b) (image : Image) :
    callVision config a image = callVision config b image := by
  rw [callVision, callVision, alike.title]
  exact receive_of_alike (alike.vision image) ..

theorem callReasoning_of_alike (alike : a.Alike b) (vision : VisionMade) (text : Option String)
    (designSystem : Option Json) :
    callReasoning config a vision text designSystem =
      callReasoning config b vision text designSystem := by
  rw [callReasoning, callReasoning, alike.title]
  exact receive_of_alike (alike.reason vision text designSystem) ..

theorem combine_of_alike (alike : a.Alike b) (prepared : Prepared) (vision : VisionMade)
    (reasoning : ReasoningOutput) :
    combine a prepared vision reasoning = combine b prepared vision reasoning := by
  rw [combine, combine, alike.name]

theorem analyze_of_alike (alike : a.Alike b) :
    analyze config a download request = analyze config b download request := by
  unfold analyze
  simp only [callVision_of_alike alike, callReasoning_of_alike alike, combine_of_alike alike]

theorem callVision_of_raised {image : Image}
    (raised : (CapabilityCall.vision image).IsRaised capability) :
    callVision config capability image =
      .error (.failure ((CapabilityCall.vision image).failure capability)) := by
  obtain ⟨x, raised⟩ := raised
  rw [callVision, raised]
  rfl

theorem callReasoning_of_raised {vision : VisionMade} {text : Option String}
    {designSystem : Option Json}
    (raised : (CapabilityCall.reasoning text designSystem vision).IsRaised capability) :
    callReasoning config capability vision text designSystem =
      .error (.failure
        ((CapabilityCall.reasoning text designSystem vision).failure capability)) := by
  obtain ⟨x, raised⟩ := raised
  rw [callReasoning, raised]
  rfl

theorem analyze_of_raised {calls : List CapabilityCall} {result : Except Stop Analysis}
    (h : analyze config capability download request = (calls, result)) {call : CapabilityCall}
    (made : call ∈ calls) (raised : call.IsRaised capability) :
    result = .error (.failure (call.failure capability)) := by
  cases course_of_analyze h with
  | refused => cases made
  | unseen accepted ended =>
    obtain rfl := List.mem_singleton.mp made
    cases ended.symm.trans (callVision_of_raised raised)
    rfl
  | unreasoned accepted seen ended =>
    rcases List.mem_cons.mp made with rfl | last
    · cases seen.symm.trans (callVision_of_raised raised)
    · obtain rfl := List.mem_singleton.mp last
      cases ended.symm.trans (callReasoning_of_raised raised)
      rfl
  | combined accepted seen reasoned =>
    rcases List.mem_cons.mp made with rfl | last
    · cases seen.symm.trans (callVision_of_raised raised)
    · obtain rfl := List.mem_singleton.mp last
      cases reasoned.symm.trans (callReasoning_of_raised raised)

end Analysis

variable {config : RunConfig} {registry : Registry} {a b : Capability}
  {download : String → Download} {request : AnalysisRequest} {options : AnalyzeOptions}

/-- Runs with capabilities that raise at the same calls come to the same, whatever is raised: where
it is, both fail with the failure of the call. -/
theorem runAnalysis_of_alike (alike : a.Alike b) :
    runAnalysis config registry a download request options =
        runAnalysis config registry b download request options ∧
      ∀ call ∈ (runAnalysis config registry a download request options).calls, call.IsRaised a →
        (runAnalysis config registry a download request options).outcome =
            .failed (call.failure a) ∧
          (runAnalysis config registry a download request options).run.history =
            [.received, .analyzing, .failed] := by
  constructor
  · rw [runAnalysis, runAnalysis, Analysis.analyze_of_alike alike]
  · intro call made raised
    obtain ⟨calls, result, analyzed⟩ :
        ∃ calls result, Analysis.analyze config a download request = (calls, result) :=
      ⟨_, _, rfl⟩
    rw [calls_runAnalysis analyzed] at made
    obtain rfl := Analysis.analyze_of_raised analyzed made raised
    rw [runAnalysis_of_stop analyzed]
    exact ⟨rfl, rfl⟩

/-- The sketcher with a name, which raises something instead of reasoning. -/
def raisingSketcher (raised : Raised) : Capability :=
  { sketcher with name := some "sketcher", reason := fun _ _ _ => .raised raised }

theorem analyze_raisingSketcher (raised : Raised) :
    ∃ result, Analysis.analyze {} (raisingSketcher raised) (fun _ => .broken) sketchRequest =
      ([.vision sketchImage, .reasoning none none ⟨sketchedVision, []⟩], result) := by
  unfold Analysis.analyze
  rw [prepare_sketch]
  exact ⟨_, rfl⟩

/-- A failure of the input, with a key in its details. -/
def keyFailure : Failure := .ofInput "Unknown key" [("key", .str "sk-1234")]

/-- A failure of the input and the faults of a document come to the same, and the key is not told.
-/
theorem raisingSketcher_tells :
    let run (raised : Raised) : RunReport :=
      runAnalysis {} .builtIn (raisingSketcher raised) (fun _ => .broken) sketchRequest {}
    run (.failure keyFailure nofun) = run (.unreadable []) ∧
      (run (.failure keyFailure nofun)).outcome =
        .failed ⟨.capability, "reasoning call failed",
          [("stage", .str "reasoning"), ("capability", .str "sketcher")]⟩ := by
  intro run
  have alike (x y : Raised) : (raisingSketcher x).Alike (raisingSketcher y) := {
    name := rfl
    title := rfl
    vision := fun _ => .inl rfl
    reason := fun _ _ _ => .inr ⟨x, y, rfl, rfl⟩ }
  obtain ⟨_, analyzed⟩ := analyze_raisingSketcher (.failure keyFailure nofun)
  have called : CapabilityCall.reasoning none none ⟨sketchedVision, []⟩ ∈
      (run (.failure keyFailure nofun)).calls := by
    show _ ∈ (runAnalysis _ _ _ _ _ _).calls
    rw [calls_runAnalysis analyzed]
    exact List.mem_cons_of_mem _ (List.mem_singleton_self _)
  obtain ⟨same, told⟩ := runAnalysis_of_alike (alike (.failure keyFailure nofun) (.unreadable []))
  exact ⟨same, (told _ called ⟨_, rfl⟩).1⟩

end DesignToCode
