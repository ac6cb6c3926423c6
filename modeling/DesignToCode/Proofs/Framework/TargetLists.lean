import DesignToCode.Proofs.Framework.Emission
import DesignToCode.Proofs.Grouping
import DesignToCode.Proofs.Reading.Basic

set_option autoImplicit false

namespace DesignToCode

/-- Whether code of a schema can be made for a target. -/
def Registry.lowers (registry : Registry) (options : EmitOptions) (schema : Schema)
    (target : String) : Bool :=
  (registry.lookup target).any fun t => (t.lower options schema).isOk

namespace Emission

/-- A failure of emission that tells of a target, and names it in its details unless it is empty. -/
def naming (message target : String) : Failure :=
  ⟨.emission, message, if target = "" then [] else [("target", .str target)]⟩

theorem ofEmission_eq_naming (message target : String) :
    Failure.ofEmission message target [] = naming message target := by
  unfold Failure.ofEmission Failure.named naming
  by_cases empty : target = "" <;> simp [empty, Fields.putNew]

theorem unsupported_eq_naming (target : String) :
    unsupported target = naming ("Unsupported framework target: " ++ target) target :=
  ofEmission_eq_naming _ _

theorem failed_eq_naming (target : String) :
    failed target = naming ("Failed to generate " ++ target ++ " output") target :=
  ofEmission_eq_naming _ _

/-- What is told of a target whose code cannot be made: what is told of it already, or else that its
code failed. -/
def refusal (target : String) : LoweringFailure → Failure
  | .told failure => failure
  | .untold => naming ("Failed to generate " ++ target ++ " output") target

/-- The first target of a kind is the same when each is asked for once. -/
theorem find?_requested (p : String → Bool) (targets : List String) :
    (requested targets).find? p = targets.find? p := by
  unfold requested
  induction targets using induction_on_key (id : String → String) with
  | nil => rfl
  | cons first rest ih =>
    simp only [id] at ih
    rw [List.eraseDups_cons, List.find?_cons, List.find?_cons]
    cases kind : p first with
    | true => rfl
    | false =>
      -- what is left out is the first target again, which is not of the kind
      have others : (rest.filter fun target => !(target == first)).find? p = rest.find? p := by
        rw [List.find?_filter]
        congr 1
        funext target
        by_cases same : target = first
        · simp [same, kind]
        · simp [same]
      exact ih.trans others

variable {registry : Registry} {schema : Schema} {options : EmitOptions}

theorem isOk_one (target : String) :
    (one registry schema options target).isOk = registry.lowers options schema target := by
  unfold one Registry.lowers
  cases registry.lookup target with
  | none => rfl
  | some t =>
    dsimp only [Option.any_some]
    cases t.lower options schema with
    | ok artifact => rfl
    | error why => cases why <;> rfl

theorem exists_one_iff (target : String) :
    (∃ entry, one registry schema options target = .ok entry) ↔
      registry.lowers options schema target = true := by
  rw [← isOk_one]
  cases one registry schema options target <;> simp [Except.isOk, Except.toBool]

/-- A registered target that has no code is told with the reason of its own. -/
theorem exists_refusal_of_one {target : String} {failure : Failure}
    (registered : registry.isRegistered target = true)
    (h : one registry schema options target = .error failure) :
    ∃ t why, registry.lookup target = some t ∧ t.lower options schema = .error why ∧
      failure = refusal target why := by
  obtain ⟨t, found⟩ := Option.isSome_iff_exists.mp registered
  unfold one at h
  rw [found] at h
  cases made : t.lower options schema with
  | ok artifact =>
    simp only [made] at h
    cases h
  | error why =>
    refine ⟨t, why, found, made, ?_⟩
    cases why with
    | told own =>
      simp only [made] at h
      exact (Except.error.inj h).symm
    | untold =>
      simp only [made] at h
      exact (Except.error.inj h).symm.trans (failed_eq_naming target)

theorem emit_nil : emit registry schema [] options = .error noTarget := rfl

theorem emit_of_registered {targets : List String} (asked : targets ≠ [])
    (registered : targets.find? (fun target => !registry.isRegistered target) = none) :
    emit registry schema targets options =
      (requested targets).mapM (one registry schema options) := by
  obtain ⟨first, -, rest, cons⟩ := exists_cons_requested asked
  rw [← find?_requested, cons] at registered
  rw [emit, cons]
  simp only [registered]

theorem emit_of_unregistered {targets : List String} {target : String}
    (found : targets.find? (fun target => !registry.isRegistered target) = some target) :
    emit registry schema targets options = .error (unsupported target) := by
  have asked : targets ≠ [] := by
    rintro rfl
    cases found
  obtain ⟨first, -, rest, cons⟩ := exists_cons_requested asked
  rw [← find?_requested, cons] at found
  rw [emit, cons]
  simp only [found]

/-- By itself, a target that is not registered is refused like one whose code cannot be made. -/
theorem emit_singleton (target : String) :
    emit registry schema [target] options =
      (one registry schema options target).map fun entry => [entry] := by
  cases found : registry.lookup target with
  | none =>
    have first : [target].find? (fun target => !registry.isRegistered target) = some target := by
      simp [Registry.isRegistered, found]
    rw [emit_of_unregistered first]
    simp [one, found, Except.map]
  | some t =>
    rw [emit_of_registered (List.cons_ne_nil target [])
      (by simp [Registry.isRegistered, found])]
    have single : requested [target] = [target] := rfl
    rw [single, List.mapM_cons, List.mapM_nil]
    cases one registry schema options target <;> rfl

/-- Code comes for a list of targets exactly when it comes for each of them. -/
theorem exists_emit_iff {targets : List String} :
    (∃ code, emit registry schema targets options = .ok code) ↔
      targets ≠ [] ∧ ∀ target ∈ targets, registry.isRegistered target = true ∧
        registry.lowers options schema target = true := by
  by_cases asked : targets = []
  · subst asked
    simp [emit_nil]
  cases found : targets.find? fun target => !registry.isRegistered target with
  | some target =>
    rw [emit_of_unregistered found]
    refine iff_of_false (by simp) ?_
    intro each
    have registered := (each.2 target (List.mem_of_find?_eq_some found)).1
    have unregistered := List.find?_some found
    simp [registered] at unregistered
  | none =>
    rw [emit_of_registered asked found, Except.exists_mapM_eq_ok_iff, and_iff_right asked]
    have registered : ∀ target ∈ targets, registry.isRegistered target = true := by
      simpa using found
    constructor
    · intro each target member
      refine ⟨registered target member, ?_⟩
      exact (exists_one_iff target).mp (each target (List.mem_eraseDups.mpr member))
    · intro each target member
      exact (exists_one_iff target).mpr (each target (List.mem_eraseDups.mp member)).2

theorem emit_singleton_of_mem {targets : List String} {code : List (String × Artifact)}
    (h : emit registry schema targets options = .ok code) {entry : String × Artifact}
    (member : entry ∈ code) : emit registry schema [entry.1] options = .ok [entry] := by
  obtain ⟨asked, each⟩ := exists_emit_iff.mp ⟨code, h⟩
  have registered : targets.find? (fun target => !registry.isRegistered target) = none := by
    rw [List.find?_eq_none]
    intro target member
    simp [(each target member).1]
  rw [emit_of_registered asked registered] at h
  obtain ⟨target, -, made⟩ := exists_mem_of_forall₂ (Except.mapM_eq_ok_iff.mp h) member
  rw [fst_of_one made, emit_singleton, made]
  rfl

/-- The built-in targets tell no failure of their own. -/
theorem untold_of_builtIn {target : String} {t : Target} {why : LoweringFailure}
    (found : Registry.builtIn.lookup target = some t) (h : t.lower options schema = .error why) :
    why = .untold := by
  obtain ⟨framework, -, same⟩ := List.mem_map.mp (Fields.mem_of_lookup found)
  obtain rfl : ⟨framework.definition, framework.lowering⟩ = t := (Prod.mk.inj same).2
  dsimp only [Framework.lowering] at h
  cases made : framework.lower options schema with
  | ok artifact =>
    rw [made] at h
    cases h
  | error reason =>
    rw [made] at h
    cases h
    rfl

/-- Code for a list of targets is all of it or nothing. It comes exactly if there is a target and
each is registered and can be lowered by itself; then the targets have it in the order in which they
were first asked for, each the code that it has alone. Otherwise the first target that is not
registered is told by its name, or if there is none, the first one that cannot be lowered, with what
its lowering tells or else by its name; the built-in targets are always told by name. -/
theorem emit_all_or_nothing (registry : Registry) (schema : Schema) (targets : List String)
    (options : EmitOptions) :
    ((∃ code, emit registry schema targets options = .ok code) ↔
      targets ≠ [] ∧ ∀ target ∈ targets, registry.isRegistered target = true ∧
        registry.lowers options schema target = true) ∧
    (∀ code, emit registry schema targets options = .ok code →
      code.map (·.1) = targets.eraseDups ∧
        ∀ entry ∈ code, emit registry schema [entry.1] options = .ok [entry]) ∧
    ∀ failure, emit registry schema targets options = .error failure →
      (targets = [] ∧ failure = naming "No framework target requested" "") ∨
      (∃ target, targets.find? (fun target => !registry.isRegistered target) = some target ∧
        failure = naming ("Unsupported framework target: " ++ target) target) ∨
      ∃ target t why, (∀ target ∈ targets, registry.isRegistered target = true) ∧
        targets.find? (fun target => !registry.lowers options schema target) = some target ∧
        registry.lookup target = some t ∧ t.lower options schema = .error why ∧
        failure = refusal target why ∧
        (registry = .builtIn →
          failure = naming ("Failed to generate " ++ target ++ " output") target) := by
  refine ⟨exists_emit_iff, ?_, ?_⟩
  · intro code made
    exact ⟨map_fst_of_emit made, fun entry member => emit_singleton_of_mem made member⟩
  · intro failure told
    by_cases asked : targets = []
    · subst asked
      exact .inl ⟨rfl, (Except.error.inj told).symm⟩
    cases found : targets.find? fun target => !registry.isRegistered target with
    | some target =>
      rw [emit_of_unregistered found] at told
      exact .inr (.inl
        ⟨target, rfl, (Except.error.inj told).symm.trans (unsupported_eq_naming target)⟩)
    | none =>
      have registered : ∀ target ∈ targets, registry.isRegistered target = true := by
        simpa using found
      rw [emit_of_registered asked found] at told
      obtain ⟨target, first, reason⟩ := Except.mapM_eq_error_iff.mp told
      simp only [isOk_one] at first
      rw [find?_requested] at first
      obtain ⟨t, why, known, unmade, rfl⟩ :=
        exists_refusal_of_one (registered target (List.mem_of_find?_eq_some first)) reason
      refine .inr (.inr ⟨target, t, why, registered, first, known, unmade, rfl, ?_⟩)
      rintro rfl
      rw [untold_of_builtIn known unmade]
      rfl

/-- A target that is asked for in between twice is no second one, and an unknown one ends it all. -/
example (schema : Schema) (options : EmitOptions) :
    emit .builtIn schema ["css", "vue", "css", "svelte"] options = .error (unsupported "vue") :=
  emit_of_unregistered rfl

end Emission

end DesignToCode
