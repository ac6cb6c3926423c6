import DesignToCode.Framework.Emission
import DesignToCode.Proofs.Grouping
import DesignToCode.Proofs.Json.Fields
import DesignToCode.Proofs.Markup.Page

set_option autoImplicit false

namespace DesignToCode

namespace Framework

theorem exists_of_mem_names {target : String} (h : target ∈ names) :
    ∃ framework : Framework, framework.name = target := by
  obtain ⟨framework, -, rfl⟩ := List.mem_map.mp h
  exact ⟨framework, rfl⟩

theorem lookup_builtIn (framework : Framework) :
    Registry.builtIn.lookup framework.name = some ⟨framework.definition, framework.lowering⟩ := by
  cases framework <;> rfl

end Framework

namespace Emission

theorem nodup_requested (targets : List String) : (requested targets).Nodup :=
  (isFirsts_eraseDups targets).nodup

theorem requested_of_nodup {targets : List String} (distinct : targets.Nodup) :
    requested targets = targets :=
  eraseDups_of_nodup distinct

variable {schema : Schema} {options : EmitOptions} {target : String}

theorem exists_lower_iff (framework : Framework) (options : EmitOptions) :
    (∃ artifact, framework.lower options schema = .ok artifact) ↔ schema.Drawable := by
  unfold Framework.lower
  rw [Except.exists_map_eq_ok_iff]
  exact Schema.exists_page_iff

theorem fst_of_one {registry : Registry} {entry : String × Artifact}
    (h : one registry schema options target = .ok entry) : entry.1 = target := by
  unfold one at h
  split at h
  · cases h
  · split at h
    · cases h
      rfl
    all_goals cases h

/-- The code comes for the targets in the order in which they were first asked for. -/
theorem map_fst_of_emit {registry : Registry} {targets : List String}
    {code : List (String × Artifact)} (h : emit registry schema targets options = .ok code) :
    code.map (·.1) = requested targets := by
  unfold emit at h
  split at h
  · cases h
  · split at h
    · cases h
    · have names : List.Forall₂ (fun t entry => t = entry.1) (requested targets) code :=
        (Except.mapM_eq_ok_iff.mp h).imp fun _ _ one => (fst_of_one one).symm
      rw [← List.forall₂_map_right_iff, List.forall₂_eq_eq_eq] at names
      exact names.symm

theorem exists_one_of_drawable (options : EmitOptions) (supported : target ∈ Framework.names)
    (drawable : schema.Drawable) :
    ∃ artifact, one .builtIn schema options target = .ok (target, artifact) := by
  obtain ⟨framework, rfl⟩ := Framework.exists_of_mem_names supported
  obtain ⟨artifact, made⟩ := (exists_lower_iff framework options).mpr drawable
  refine ⟨artifact, ?_⟩
  simp [one, Framework.lookup_builtIn, Framework.lowering, made, Except.mapError]

theorem one_of_not_drawable (supported : target ∈ Framework.names)
    (undrawable : ¬ schema.Drawable) :
    one .builtIn schema options target = .error (failed target) := by
  obtain ⟨framework, rfl⟩ := Framework.exists_of_mem_names supported
  rw [← exists_lower_iff framework options] at undrawable
  cases made : framework.lower options schema with
  | ok artifact => exact absurd ⟨artifact, made⟩ undrawable
  | error refusal =>
    simp [one, Framework.lookup_builtIn, Framework.lowering, made, Except.mapError]

variable {targets : List String}

theorem exists_cons_requested (asked : targets ≠ []) :
    ∃ first ∈ targets, ∃ rest, requested targets = first :: rest := by
  obtain ⟨first, more, rfl⟩ := List.exists_cons_of_ne_nil asked
  exact ⟨first, List.mem_cons_self, _, List.eraseDups_cons⟩

/-- Supported targets are all registered, so each is asked for its code in turn. -/
theorem emit_of_supported (asked : targets ≠ []) (supported : ∀ t ∈ targets, t ∈ Framework.names) :
    emit .builtIn schema targets options =
      (requested targets).mapM (one .builtIn schema options) := by
  have registered :
      (requested targets).find? (fun t => !Registry.builtIn.isRegistered t) = none := by
    rw [List.find?_eq_none]
    intro t member
    obtain ⟨framework, rfl⟩ :=
      Framework.exists_of_mem_names (supported t (List.mem_eraseDups.mp member))
    simp [Registry.isRegistered, Framework.lookup_builtIn]
  obtain ⟨first, -, rest, cons⟩ := exists_cons_requested asked
  rw [cons] at registered
  rw [emit, cons]
  simp only [registered]

theorem kind_of_one {failure : Failure}
    (h : one .builtIn schema options target = .error failure) : failure.kind = .emission := by
  unfold one at h
  split at h
  · cases h
    rfl
  · rename_i t found
    obtain ⟨framework, -, same⟩ := List.mem_map.mp (Fields.mem_of_lookup found)
    obtain rfl : ⟨framework.definition, framework.lowering⟩ = t := (Prod.mk.inj same).2
    dsimp only [Framework.lowering] at h
    cases made : framework.lower options schema with
    | ok artifact =>
      rw [made] at h
      cases h
    | error refusal =>
      rw [made] at h
      cases h
      rfl

/-- Whatever stands in the way of code for built-in targets is told as a failure of emission. -/
theorem kind_of_emit {failure : Failure}
    (h : emit .builtIn schema targets options = .error failure) : failure.kind = .emission := by
  unfold emit at h
  split at h
  · cases h
    rfl
  · split at h
    · cases h
      rfl
    · obtain ⟨target, -, failed⟩ := Except.exists_mem_of_mapM_eq_error h
      exact kind_of_one failed

/-- The code of a drawable page, one target after the other. -/
theorem emit_of_drawable (options : EmitOptions) (asked : targets ≠ [])
    (supported : ∀ t ∈ targets, t ∈ Framework.names) (drawable : schema.Drawable) :
    ∃ code, emit .builtIn schema targets options = .ok code ∧
      code.map (·.1) = targets.eraseDups := by
  obtain ⟨code, made⟩ := Except.exists_mapM_eq_ok_iff.mpr fun t member =>
    (exists_one_of_drawable options (supported t (List.mem_eraseDups.mp member))
      drawable).imp' (Prod.mk t) fun _ => id
  have emitted : emit .builtIn schema targets options = .ok code :=
    (emit_of_supported asked supported).trans made
  exact ⟨code, emitted, map_fst_of_emit emitted⟩

/-- Without a tree, the first target that is asked for is told. -/
theorem emit_of_not_drawable (options : EmitOptions) (asked : targets ≠ [])
    (supported : ∀ t ∈ targets, t ∈ Framework.names) (undrawable : ¬ schema.Drawable) :
    ∃ first ∈ targets, emit .builtIn schema targets options = .error (failed first) := by
  obtain ⟨first, member, rest, cons⟩ := exists_cons_requested asked
  refine ⟨first, member, ?_⟩
  rw [emit_of_supported asked supported, cons]
  exact Except.mapM_cons_of_error (one_of_not_drawable (supported first member) undrawable) rest

end Emission

end DesignToCode
