import DesignToCode.Proofs.Image.Refusal
import DesignToCode.Proofs.Pipeline.AnalysisRuns
import DesignToCode.Proofs.Schema.Verdict

set_option autoImplicit false

namespace DesignToCode

/-- A reply that ends with a cancellation; one without end has no other way to end. -/
def Reply.IsCancelled {α : Type} (hasTimeout : Bool) : Reply α → Prop
  | .cancelled => True
  | .endless => hasTimeout = false
  | _ => False

def CapabilityCall.IsCancelled (config : RunConfig) (capability : Capability) :
    CapabilityCall → Prop
  | .vision image => (capability.vision image).IsCancelled config.hasTimeout
  | .reasoning text designSystem seen =>
    (capability.reason seen text designSystem).IsCancelled config.hasTimeout

/-- A stop for a failure of one of some kinds. -/
def Stop.IsFailure (kinds : List FailureKind) : Stop → Prop
  | .failure told => told.kind ∈ kinds
  | .interruption _ => False

theorem Stop.IsFailure.mono {stop : Stop} {kinds more : List FailureKind}
    (h : stop.IsFailure kinds) (subset : kinds ⊆ more) : stop.IsFailure more := by
  cases stop with
  | failure failure => exact subset h
  | interruption _ => exact h

/-- The targets of a request are a list of entries, which may be none. -/
def AnalysisRequest.IsListing (request : AnalysisRequest) : Prop :=
  ∃ entries, Framework.entries? request.targets = .ok entries

namespace Framework

/-- What is no list of entries cannot be gone through. -/
theorem exists_notIterable_of_entries? {v : Json} {e : RequestRefusal}
    (h : entries? v = .error e) : ∃ kind, e = .notIterable kind := by
  unfold entries? at h
  split at h
  · cases h
  · cases h
  · cases h
  · split at h
    · cases h
      exact ⟨_, rfl⟩
    · cases h

end Framework

namespace Analysis

variable {config : RunConfig} {capability : Capability} {download : String → Download}
  {request : AnalysisRequest}

theorem isListing_of_request {settings : RunSettings} {targets : List String} {fallback : String}
    (h : Framework.request settings request.targets fallback = .ok targets) :
    request.IsListing := by
  unfold Framework.request at h
  unfold AnalysisRequest.IsListing
  cases listed : Framework.entries? request.targets with
  | error e =>
    rw [listed] at h
    cases h
  | ok entries => exact ⟨entries, rfl⟩

/-- Targets that are a list of entries are refused as input, and no others. -/
theorem isInput_iff_of_request {settings : RunSettings} {e : Framework.RequestRefusal}
    {fallback : String}
    (h : Framework.request settings request.targets fallback = .error e) :
    (ofRequestRefusal e).IsFailure [.input] ↔ request.IsListing := by
  unfold Framework.request at h
  unfold AnalysisRequest.IsListing
  split at h
  · rename_i refusal listed
    cases h
    obtain ⟨kind, rfl⟩ := Framework.exists_notIterable_of_entries? listed
    exact iff_of_false id (by simp [listed])
  · cases h
  · rename_i entries _ listed
    split at h
    · cases h
    · cases h
      exact iff_of_true (List.mem_singleton_self _) ⟨entries, listed⟩

/-- A request is refused as input unless its targets are no list of entries. -/
theorem isInput_iff_of_prepare {stop : Stop} (inline : request.image.IsInline)
    (h : prepare config download request = .error stop) :
    stop.IsFailure [.input] ↔ request.IsListing := by
  unfold prepare at h
  cases asked : Framework.request config.settings request.targets config.defaultTarget with
  | error e =>
    rw [asked] at h
    cases h
    exact isInput_iff_of_request asked
  | ok targets =>
    rw [asked] at h
    cases loaded : loadImage config.limits download request.image with
    | ok image =>
      rw [loaded] at h
      cases h
    | error e =>
      rw [loaded] at h
      cases h
      refine iff_of_true ?_ (isListing_of_request asked)
      have input := isInput_of_loadImage inline loaded
      cases e with
      | rejected failure => exact List.mem_singleton.mpr input
      | badValue _ => exact input
      | badAddress _ => exact input

variable {α β : Type} {hasTimeout : Bool} {name stage : String} {read : Reader α} {ofRead : α → β}
  {reply : Reply β}

theorem receive_of_cancelled (cancelled : reply.IsCancelled hasTimeout) :
    receive hasTimeout name stage read ofRead reply = .error (.interruption .cancelled) := by
  cases reply with
  | cancelled => rfl
  | endless =>
    have unlimited : hasTimeout = false := cancelled
    rw [unlimited]
    rfl
  | _ => exact cancelled.elim

theorem isCapability_of_receive {stop : Stop} (lasting : ¬ reply.IsCancelled hasTimeout)
    (told : ∀ failure, reply = .failed failure → failure.kind = .capability)
    (h : receive hasTimeout name stage read ofRead reply = .error stop) :
    stop.IsFailure [.capability] := by
  cases reply with
  | document v =>
    simp only [receive] at h
    split at h
    · cases h
    · cases h
      exact List.mem_singleton_self _
  | made b => cases h
  | failed failure =>
    cases h
    exact List.mem_singleton.mpr (told failure rfl)
  | raised =>
    cases h
    exact List.mem_singleton_self _
  | timedOut =>
    cases h
    exact List.mem_singleton_self _
  | cancelled => exact absurd trivial lasting
  | endless =>
    have limited : hasTimeout = true := by simpa [Reply.IsCancelled] using lasting
    simp only [receive, limited, if_true] at h
    cases h
    exact List.mem_singleton_self _

/-- A call that hands over nothing is cancelled, or fails as a call of a capability. -/
theorem cases_of_receive {stop : Stop}
    (told : ∀ failure, reply = .failed failure → failure.kind = .capability)
    (h : receive hasTimeout name stage read ofRead reply = .error stop) :
    reply.IsCancelled hasTimeout ∧ stop = .interruption .cancelled ∨
      ¬ reply.IsCancelled hasTimeout ∧ stop.IsFailure [.capability] := by
  by_cases cancelled : reply.IsCancelled hasTimeout
  · exact .inl ⟨cancelled, Except.error.inj (h.symm.trans (receive_of_cancelled cancelled))⟩
  · exact .inr ⟨cancelled, isCapability_of_receive cancelled told h⟩

end Analysis

/-- The states of a run of an analysis that ends with a failure of a kind. No run ends with a
failure that is of none of the stages. -/
def FailureKind.states : FailureKind → List RunState
  | .pipeline => []
  | .input | .capability => [.received, .analyzing, .failed]
  | .validation => [.received, .analyzing, .validating, .failed]
  | .emission => [.received, .analyzing, .validating, .emitting, .failed]

/-- The states of a run of an analysis that goes through. -/
def AnalyzeOptions.states (options : AnalyzeOptions) : List RunState :=
  [.received, .analyzing, .validating] ++ (if options.includeCode then [.emitting] else []) ++
    [.completed]

variable {config : RunConfig} {registry : Registry} {capability : Capability}
  {download : String → Download} {request : AnalysisRequest} {options : AnalyzeOptions}
  {report : RunReport}

/-- The run whose image is analyzed. -/
def analyzingRun : Run := ({} : Run).enter .analyzing

/-- The run whose analysis is looked at. -/
def analyzedRun : Run := analyzingRun.enter .validating

/-- The run whose code is made. -/
def codingRun : Run := analyzedRun.enter .emitting

/-- The data of a completed run, with the code that was made, if any was. -/
def Analysis.data (analysis : Analysis) (options : AnalyzeOptions)
    (code : Option (List (String × Artifact))) : RunData where
  schema := some analysis.schema
  quality := if options.includeQuality then some analysis.quality else none
  code := code

variable {calls : List CapabilityCall} {analysis : Analysis} {verdict : Report}

theorem runAnalysis_of_stop {stop : Stop}
    (analyzed : Analysis.analyze config capability download request = (calls, .error stop)) :
    runAnalysis config registry capability download request options =
      .stop analyzingRun calls stop := by
  simp only [runAnalysis, analyzed]
  rfl

/-- Without a report on the schema, the run is left where it is. -/
theorem runAnalysis_of_noReport {why : NoReport}
    (analyzed : Analysis.analyze config capability download request = (calls, .ok analysis))
    (silent : analysis.schema.validate = .error why) :
    runAnalysis config registry capability download request options =
      ⟨analyzedRun, calls, .interrupted (.noReport why)⟩ := by
  simp only [runAnalysis, analyzed, gate, silent]
  rfl

theorem runAnalysis_of_invalid
    (analyzed : Analysis.analyze config capability download request = (calls, .ok analysis))
    (reported : analysis.schema.validate = .ok verdict) (invalid : verdict.valid = false) :
    runAnalysis config registry capability download request options =
      .fail analyzedRun calls verdict.failure := by
  simp only [runAnalysis, analyzed, gate, reported, invalid]
  rfl

theorem runAnalysis_of_valid
    (analyzed : Analysis.analyze config capability download request = (calls, .ok analysis))
    (reported : analysis.schema.validate = .ok verdict) (valid : verdict.valid = true) :
    runAnalysis config registry capability download request options =
      if options.includeCode then
        match emit registry analysis.schema analysis.schema.info.frameworkTarget options.emit with
        | .error failure => .fail codingRun calls failure
        | .ok code => .complete codingRun calls (analysis.data options (some code))
      else .complete analyzedRun calls (analysis.data options none) := by
  simp only [runAnalysis, analyzed, gate, reported, valid, if_true]
  rfl

end DesignToCode
