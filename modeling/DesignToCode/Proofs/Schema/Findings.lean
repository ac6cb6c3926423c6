import DesignToCode.Proofs.Schema.Gate

set_option autoImplicit false

namespace DesignToCode

namespace Report

/-- The errors under one of some rules, in order. -/
def errorsUnder (rules : List Rule) (r : Report) : List Issue :=
  r.errors.filter fun issue => rules.contains issue.rule

/-- Every error is under one of some rules. -/
def FindsOnly (rules : List Rule) (r : Report) : Prop := ∀ issue ∈ r.errors, issue.rule ∈ rules

theorem isPart_errorsUnder (rules : List Rule) : IsPart (errorsUnder rules) :=
  ⟨rfl, fun r s => List.filter_append r.errors s.errors⟩

variable {rules own : List Rule} {r s : Report}

theorem findsOnly_of_errors (none : r.errors = []) : FindsOnly rules r := by
  intro issue member
  rw [none] at member
  cases member

theorem findsOnly_error {rule : Rule} (path message : String) (listed : rule ∈ rules) :
    FindsOnly rules (error rule path message) := by
  intro issue member
  rw [List.mem_singleton.mp member]
  exact listed

theorem findsOnly_unless {c : Prop} [Decidable c] {rule : Rule} (path message : String)
    (listed : rule ∈ rules) : FindsOnly rules (if c then {} else error rule path message) := by
  split
  · exact findsOnly_of_errors rfl
  · exact findsOnly_error path message listed

theorem findsOnly_unless_showing {c : Prop} [Decidable c] {rule : Rule} (path message : String)
    (values : List Json) (listed : rule ∈ rules) :
    FindsOnly rules (if c then {} else (error rule path message).showing values) := by
  split
  · exact findsOnly_of_errors rfl
  · exact findsOnly_error path message listed

namespace FindsOnly

theorem mono (only : FindsOnly own r) (more : own ⊆ rules) : FindsOnly rules r :=
  fun issue member => more (only issue member)

theorem append (first : FindsOnly rules r) (second : FindsOnly rules s) :
    FindsOnly rules (r ++ s) := by
  intro issue member
  rw [errors_append, List.mem_append] at member
  rcases member with before | behind
  · exact first issue before
  · exact second issue behind

theorem each {α : Type} {check : Nat → α → Report} (one : ∀ i a, FindsOnly rules (check i a))
    (i : Nat) (items : List α) : FindsOnly rules (Report.each check i items) := by
  induction items generalizing i with
  | nil => exact findsOnly_of_errors rfl
  | cons a rest ih => exact (one i a).append (ih (i + 1))

/-- Nothing is found under the rules that a check does not have. -/
theorem errorsUnder_eq_nil (only : FindsOnly own r) (rules : List Rule)
    (apart : ∀ rule ∈ own, rule ∉ rules) : r.errorsUnder rules = [] := by
  apply List.filter_eq_nil_iff.mpr
  intro issue member
  rw [List.contains_iff_mem]
  exact apart issue.rule (only issue member)

theorem errorsUnder_eq_errors (only : FindsOnly rules r) : r.errorsUnder rules = r.errors :=
  List.filter_eq_self.mpr fun issue member => List.contains_iff_mem.mpr (only issue member)

end FindsOnly

end Report

namespace Validation

open Report

theorem findsOnly_topLevel (fields : Fields) :
    FindsOnly [.missingField, .invalidType] (topLevel fields) := by
  refine FindsOnly.each (fun _ entry => ?_) 0 requiredFields
  unfold requiredField
  split
  · exact findsOnly_error _ _ (by decide)
  · exact findsOnly_unless _ _ (by decide)

theorem findsOnly_missingInfo (about : Fields) : FindsOnly [.missingField] (missingInfo about) :=
  FindsOnly.each (fun _ _ => findsOnly_unless _ _ (by decide)) 0 requiredInfo

def versionRules : List Rule := [.versionInvalid, .versionUnsupported]

theorem findsOnly_versionOf {about : Fields} {version : Report}
    (found : versionOf about = .ok version) : FindsOnly versionRules version := by
  unfold versionOf at found
  split at found
  · cases found
    exact findsOnly_of_errors rfl
  · obtain ⟨version?, -, rfl⟩ := Except.map_eq_ok_iff.mp found
    split
    · exact findsOnly_error _ _ (by decide)
    · exact findsOnly_unless _ _ (by decide)

theorem findsOnly_inputTypes (about : Fields) :
    FindsOnly [.inputTypeEmpty, .inputTypeUnknown, .invalidType] (inputTypes about) := by
  unfold inputTypes
  split
  · exact findsOnly_of_errors rfl
  · exact findsOnly_error _ _ (by decide)
  · refine FindsOnly.each (fun i v => ?_) 0 _
    unfold inputType
    split
    · exact findsOnly_unless _ _ (by decide)
    · exact findsOnly_error _ _ (by decide)
  · exact findsOnly_error _ _ (by decide)

theorem findsOnly_targetsFrom (seen : List String) (i : Nat) (values : List Json) :
    FindsOnly [.targetUnsupported, .invalidType] (targetsFrom seen i values) := by
  induction values generalizing seen i with
  | nil => exact findsOnly_of_errors rfl
  | cons v rest ih =>
    cases v with
    | str s =>
      refine FindsOnly.append ?_ (ih (s :: seen) (i + 1))
      unfold target
      split
      · exact findsOnly_error _ _ (by decide)
      · split <;> exact findsOnly_of_errors rfl
    | _ => exact (findsOnly_error _ _ (by decide)).append (ih seen (i + 1))

theorem findsOnly_targets (about : Fields) :
    FindsOnly [.targetsEmpty, .targetUnsupported, .invalidType] (targets about) := by
  unfold targets
  split
  · exact findsOnly_of_errors rfl
  · exact findsOnly_error _ _ (by decide)
  · exact (findsOnly_targetsFrom [] 0 _).mono (by decide)
  · exact findsOnly_error _ _ (by decide)

theorem findsOnly_confidence (about : Fields) :
    FindsOnly [.confidenceInvalid] (confidence about) := by
  unfold confidence
  split
  · exact findsOnly_of_errors rfl
  · exact findsOnly_unless_showing _ _ _ (by decide)

/-- The errors under the rules of the version are those of the version. -/
theorem errorsUnder_versionRules {fields about : Fields} {version report : Report}
    (held : fields.lookup "meta" = some (.obj about)) (found : versionOf about = .ok version)
    (described : info fields = .ok report) :
    report.errorsUnder versionRules = version.errors := by
  rw [info, held] at described
  obtain ⟨_, found', rfl⟩ := Except.map_eq_ok_iff.mp described
  cases found.symm.trans found'
  simp only [(isPart_errorsUnder versionRules).append,
    (findsOnly_versionOf found).errorsUnder_eq_errors,
    (findsOnly_missingInfo about).errorsUnder_eq_nil versionRules (by decide),
    (findsOnly_inputTypes about).errorsUnder_eq_nil versionRules (by decide),
    (findsOnly_targets about).errorsUnder_eq_nil versionRules (by decide),
    (findsOnly_confidence about).errorsUnder_eq_nil versionRules (by decide),
    List.nil_append, List.append_nil]

def infoRules : List Rule :=
  versionRules ++ [.missingField, .inputTypeEmpty, .inputTypeUnknown, .invalidType, .targetsEmpty,
    .targetUnsupported, .confidenceInvalid]

theorem findsOnly_info {fields : Fields} {report : Report} (described : info fields = .ok report) :
    FindsOnly infoRules report := by
  unfold info at described
  split at described
  · rename_i about _
    obtain ⟨version, found, rfl⟩ := Except.map_eq_ok_iff.mp described
    have missing : FindsOnly infoRules (missingInfo about) :=
      (findsOnly_missingInfo about).mono (by decide)
    have version : FindsOnly infoRules version := (findsOnly_versionOf found).mono (by decide)
    have inputs : FindsOnly infoRules (inputTypes about) :=
      (findsOnly_inputTypes about).mono (by decide)
    have targets : FindsOnly infoRules (targets about) :=
      (findsOnly_targets about).mono (by decide)
    have confidence : FindsOnly infoRules (confidence about) :=
      (findsOnly_confidence about).mono (by decide)
    exact (((missing.append version).append inputs).append targets).append confidence
  · cases described
    exact findsOnly_of_errors rfl

theorem findsOnly_componentsFrom (seen : List String) (i : Nat) (items : List Json) :
    FindsOnly [.componentMissingId, .duplicateComponentId, .invalidType]
      (componentsFrom seen i items) := by
  induction items generalizing seen i with
  | nil => exact findsOnly_of_errors rfl
  | cons v rest ih =>
    rw [componentsFrom_cons]
    refine FindsOnly.append ?_ (ih _ (i + 1))
    unfold componentAt
    split
    · split
      · exact findsOnly_error _ _ (by decide)
      · split
        · exact findsOnly_error _ _ (by decide)
        · exact findsOnly_of_errors rfl
    · exact findsOnly_error _ _ (by decide)

theorem findsOnly_sectionId (seen : List String) (i : Nat) (fields : Fields) :
    FindsOnly [.sectionMissingId, .duplicateSectionId] (sectionId seen i fields) := by
  unfold sectionId
  split
  · exact findsOnly_error _ _ (by decide)
  · split
    · exact findsOnly_error _ _ (by decide)
    · exact findsOnly_of_errors rfl

theorem findsOnly_sectionLayout (i : Nat) (fields : Fields) :
    FindsOnly [.layoutInvalid] (sectionLayout i fields) :=
  findsOnly_unless_showing _ _ _ (by decide)

theorem findsOnly_assumptions (i : Nat) (items : List Json) :
    FindsOnly [.assumptionNotString] (each assumption i items) := by
  refine FindsOnly.each (fun _ v => ?_) i items
  unfold assumption
  split
  · exact findsOnly_of_errors rfl
  · exact findsOnly_error _ _ (by decide)

theorem findsOnly_ambiguities (i : Nat) (items : List Json) :
    FindsOnly [.ambiguityMalformed] (each ambiguity i items) :=
  FindsOnly.each (fun _ _ => findsOnly_unless _ _ (by decide)) i items

theorem findsOnly_ruleWidth (previous : Option Int) (i : Nat) (fields : Fields) :
    FindsOnly [.breakpointUnknown] (ruleWidth previous i fields) := by
  unfold ruleWidth
  split
  · exact findsOnly_error _ _ (by decide)
  · split
    · exact findsOnly_of_errors rfl
    · split <;> exact findsOnly_of_errors rfl

theorem findsOnly_changes (known : List String) (i : Nat) (fields : Fields) :
    FindsOnly [.invalidType] (changes known i fields) := by
  unfold changes
  split
  · exact findsOnly_of_errors rfl
  · refine FindsOnly.each (fun j v => ?_) 0 _
    unfold change
    split
    · exact findsOnly_error _ _ (by decide)
    · split <;> exact findsOnly_of_errors rfl
  · exact findsOnly_error _ _ (by decide)

theorem findsOnly_rulesFrom (known : List String) (previous : Option Int) (i : Nat)
    (items : List Json) :
    FindsOnly [.breakpointUnknown, .invalidType] (rulesFrom known previous i items) := by
  induction items generalizing previous i with
  | nil => exact findsOnly_of_errors rfl
  | cons v rest ih =>
    rw [rulesFrom_cons]
    refine FindsOnly.append ?_ (ih _ (i + 1))
    cases v with
    | obj fields =>
      exact ((findsOnly_ruleWidth previous i fields).mono (by decide)).append
        ((findsOnly_changes known i fields).mono (by decide))
    | _ => exact findsOnly_error _ _ (by decide)

theorem findsOnly_model (d : Json) :
    FindsOnly [.outOfRange, .missingField, .invalidType] (model d) := by
  unfold model
  split
  · exact findsOnly_of_errors rfl
  · intro issue member
    obtain ⟨fault, -, rfl⟩ := List.mem_map.mp member
    change Cause.rule fault.cause ∈ _
    unfold Cause.rule
    split <;> decide

theorem errorsUnder_danglingReference_gathered {fields : Fields} {about : Report}
    (described : info fields = .ok about) :
    (gathered fields about).errorsUnder [.danglingReference] =
      (sections fields).errorsUnder [.danglingReference] := by
  have layersAlone : FindsOnly [] (layers (ids (itemsOf fields "sections") ++
      ids (itemsOf fields "components")) fields) :=
    findsOnly_of_errors (errors_layers _ fields)
  have overridesAlone : FindsOnly [] (overrides (ids (itemsOf fields "sections")) fields) :=
    findsOnly_of_errors (errors_overrides _ fields)
  simp only [gathered, (isPart_errorsUnder [.danglingReference]).append,
    (findsOnly_topLevel fields).errorsUnder_eq_nil [.danglingReference] (by decide),
    (findsOnly_info described).errorsUnder_eq_nil [.danglingReference] (by decide),
    (findsOnly_componentsFrom _ _ _).errorsUnder_eq_nil [.danglingReference] (by decide),
    (findsOnly_assumptions _ _).errorsUnder_eq_nil [.danglingReference] (by decide),
    (findsOnly_ambiguities _ _).errorsUnder_eq_nil [.danglingReference] (by decide),
    (findsOnly_rulesFrom _ _ _ _).errorsUnder_eq_nil [.danglingReference] (by decide),
    layersAlone.errorsUnder_eq_nil [.danglingReference] (by decide),
    overridesAlone.errorsUnder_eq_nil [.danglingReference] (by decide),
    List.nil_append, List.append_nil]

/-- Only the references of the sections are found dangling. -/
theorem errorsUnder_danglingReference {fields : Fields} {report : Report}
    (reported : validate (.obj fields) = .ok report) :
    report.errorsUnder [.danglingReference] =
      (sections fields).errorsUnder [.danglingReference] := by
  obtain ⟨about, described, -, rfl⟩ := validate_obj_eq_ok_iff.mp reported
  split
  · rw [(isPart_errorsUnder _).append, errorsUnder_danglingReference_gathered described,
      (findsOnly_model (.obj fields)).errorsUnder_eq_nil [.danglingReference] (by decide),
      List.append_nil]
  · exact errorsUnder_danglingReference_gathered described

end Validation

end DesignToCode
