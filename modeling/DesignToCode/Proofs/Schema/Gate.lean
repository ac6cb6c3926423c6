import DesignToCode.Proofs.Except
import DesignToCode.Proofs.Schema.RoundTrip
import DesignToCode.Schema.Validation

set_option autoImplicit false

namespace DesignToCode

namespace Report

@[simp] theorem errors_empty : ({} : Report).errors = [] := rfl

@[simp] theorem warnings_empty : ({} : Report).warnings = [] := rfl

@[simp] theorem broken_empty : ({} : Report).broken = none := rfl

@[simp] theorem broken_error (rule : Rule) (path message : String) :
    (error rule path message).broken = none := rfl

@[simp] theorem broken_warning (rule : Rule) (path message : String) :
    (warning rule path message).broken = none := rfl

@[simp] theorem errors_error (rule : Rule) (path message : String) :
    (error rule path message).errors = [⟨rule, path, message⟩] := rfl

@[simp] theorem warnings_error (rule : Rule) (path message : String) :
    (error rule path message).warnings = [] := rfl

@[simp] theorem errors_warning (rule : Rule) (path message : String) :
    (warning rule path message).errors = [] := rfl

@[simp] theorem warnings_warning (rule : Rule) (path message : String) :
    (warning rule path message).warnings = [⟨rule, path, message⟩] := rfl

@[simp] theorem append_empty (r : Report) : r ++ ({} : Report) = r := by
  obtain ⟨errors, warnings, broken⟩ := r
  show Report.mk (errors ++ []) (warnings ++ []) (broken.or none) = _
  rw [List.append_nil, List.append_nil, Option.or_none]

@[simp] theorem empty_append (r : Report) : ({} : Report) ++ r = r := by
  obtain ⟨errors, warnings, broken⟩ := r
  rfl

theorem ext {r s : Report} (errors : r.errors = s.errors) (warnings : r.warnings = s.warnings)
    (broken : r.broken = s.broken) : r = s := by
  cases r
  cases s
  simp_all

theorem each_eq_empty {α : Type} {check : Nat → α → Report} {items : List α}
    (none : ∀ i, ∀ a ∈ items, check i a = {}) (i : Nat) : each check i items = {} := by
  induction items generalizing i with
  | nil => rfl
  | cons a rest ih =>
    have later := ih (fun i b member => none i b (List.mem_cons_of_mem a member)) (i + 1)
    rw [each, none i a List.mem_cons_self, later]
    rfl

/-- Errors, or warnings: of several reports in a row, those of each in turn. -/
structure IsPart {γ : Type} (part : Report → List γ) : Prop where
  empty : part {} = []
  append (r s : Report) : part (r ++ s) = part r ++ part s

theorem isPart_errors : IsPart errors := ⟨rfl, errors_append⟩

theorem isPart_warnings : IsPart warnings := ⟨rfl, warnings_append⟩

namespace IsPart

variable {α γ : Type} {part : Report → List γ} {check : Nat → α → Report} {items : List α}

theorem each_eq_flatMap (h : IsPart part) {f : α → List γ}
    (one : ∀ i, ∀ a ∈ items, part (check i a) = f a) (i : Nat) :
    part (each check i items) = items.flatMap f := by
  induction items generalizing i with
  | nil => exact h.empty
  | cons a rest ih =>
    have first := one i a List.mem_cons_self
    have later := ih (fun i b member => one i b (List.mem_cons_of_mem a member)) (i + 1)
    rw [each, h.append, first, later, List.flatMap_cons]

/-- A check that finds one thing in some of the items. -/
theorem each_eq_map_filter (h : IsPart part) {passes : α → Bool} {f : α → γ}
    (one : ∀ i, ∀ a ∈ items, part (check i a) = if passes a then [] else [f a]) (i : Nat) :
    part (each check i items) = (items.filter (!passes ·)).map f := by
  rw [h.each_eq_flatMap one]
  clear one
  induction items with
  | nil => rfl
  | cons a rest ih =>
    rw [List.flatMap_cons, List.filter_cons, ih]
    cases passes a <;> rfl

/-- The same where what is found tells the position of the item. -/
theorem each_eq_map_filter_zipIdx (h : IsPart part) {passes : α → Bool} {f : Nat → α → γ}
    (one : ∀ i a, part (check i a) = if passes a then [] else [f i a]) (i : Nat) :
    part (each check i items) =
      ((items.zipIdx i).filter fun entry => !passes entry.1).map
        fun entry => f entry.2 entry.1 := by
  induction items generalizing i with
  | nil => exact h.empty
  | cons a rest ih =>
    rw [each, h.append, one, ih, List.zipIdx_cons, List.filter_cons]
    cases passes a <;> rfl

theorem each_eq_nil (h : IsPart part) (none : ∀ i, ∀ a ∈ items, part (check i a) = []) (i : Nat) :
    part (each check i items) = [] := by
  rw [h.each_eq_flatMap none, List.flatMap_eq_nil_iff]
  intro _ _
  rfl

theorem each_eq_nil_iff (h : IsPart part) {P : α → Prop}
    (one : ∀ i, ∀ a ∈ items, part (check i a) = [] ↔ P a) (i : Nat) :
    part (each check i items) = [] ↔ ∀ a ∈ items, P a := by
  induction items generalizing i with
  | nil => simp [each, h.empty]
  | cons a rest ih =>
    have first := one i a List.mem_cons_self
    have later := ih (fun i b member => one i b (List.mem_cons_of_mem a member)) (i + 1)
    rw [each, h.append, List.append_eq_nil_iff, first, later, List.forall_mem_cons]

end IsPart

end Report

namespace Validation

open Report

theorem errors_topLevel_eq_nil_iff {fields : Fields} :
    (topLevel fields).errors = [] ↔
      ∀ entry ∈ requiredFields, ∃ v, fields.lookup entry.1 = some v ∧ entry.2.holds v = true := by
  apply isPart_errors.each_eq_nil_iff
  intro _ entry _
  unfold requiredField
  split
  · simp [*]
  · rename_i v held
    by_cases fits : entry.2.holds v = true <;> simp [held, fits]

theorem warnings_topLevel (fields : Fields) : (topLevel fields).warnings = [] := by
  apply isPart_warnings.each_eq_nil
  intro _ entry _
  unfold requiredField
  split
  · simp
  · split <;> simp

/-- A field that has to be an array is one. -/
theorem lookup_of_topLevel {fields : Fields} (none : (topLevel fields).errors = []) {key : String}
    (required : (key, Container.array) ∈ requiredFields) :
    fields.lookup key = some (.arr (itemsOf fields key)) := by
  obtain ⟨v, held, fits⟩ := errors_topLevel_eq_nil_iff.mp none _ required
  cases v with
  | arr values => rw [itemsOf, held]
  | _ => cases fits

/-- A field that has to be an object is one. -/
theorem exists_object_of_topLevel {fields : Fields} (none : (topLevel fields).errors = [])
    (key : String) (required : (key, Container.object) ∈ requiredFields) :
    ∃ inner, fields.lookup key = some (.obj inner) := by
  obtain ⟨v, held, fits⟩ := errors_topLevel_eq_nil_iff.mp none _ required
  cases v with
  | obj inner => exact ⟨inner, held⟩
  | _ => cases fits

theorem errors_missingInfo_eq_nil_iff {about : Fields} :
    (missingInfo about).errors = [] ↔ ∀ key ∈ requiredInfo, (about.lookup key).isSome = true := by
  apply isPart_errors.each_eq_nil_iff
  intro _ key _
  by_cases here : (about.lookup key).isSome = true <;> simp [here]

/-- A version that is not at fault is that of a supported schema. -/
theorem exists_version {about : Fields} {report : Report} {v : Json}
    (found : versionOf about = .ok report) (none : report.errors = [])
    (held : about.lookup "schemaVersion" = some v) :
    ∃ s version, v = .str s ∧ Version.parse s = .ok (some version) ∧
      version.major = supportedMajor := by
  rw [versionOf, held] at found
  obtain ⟨version?, parsed, rfl⟩ := Except.map_eq_ok_iff.mp found
  cases v with
  | str s =>
    cases version? with
    | none => cases none
    | some version =>
      refine ⟨s, version, rfl, parsed, ?_⟩
      by_contra other
      simp [other] at none
  | _ =>
    cases parsed
    cases none

theorem warnings_inputType (i : Nat) (v : Json) : (inputType i v).warnings = [] := by
  unfold inputType
  split
  · split <;> rfl
  · rfl

theorem inputTypes_of_lookup {about : Fields} {values : List Json}
    (held : about.lookup "inputType" = some (.arr values)) (given : values ≠ []) :
    inputTypes about = each inputType 0 values := by
  rw [inputTypes, held]
  cases values with
  | nil => exact absurd rfl given
  | cons first rest => rfl

theorem targets_of_lookup {about : Fields} {values : List Json}
    (held : about.lookup "frameworkTarget" = some (.arr values)) (given : values ≠ []) :
    targets about = targetsFrom [] 0 values := by
  rw [targets, held]
  cases values with
  | nil => exact absurd rfl given
  | cons first rest => rfl

/-- Targets that are listed again are warned about; everything else that may be wrong is an
error. -/
theorem errors_targetsFrom_eq_nil_iff {seen : List String} {i : Nat} {values : List Json} :
    (targetsFrom seen i values).errors = [] ↔
      ∀ v ∈ values, ∃ s ∈ Framework.names, v = .str s := by
  induction values generalizing seen i with
  | nil => simp [targetsFrom]
  | cons v rest ih =>
    cases v with
    | str s =>
      rw [targetsFrom, errors_append, List.append_eq_nil_iff, ih, List.forall_mem_cons]
      refine and_congr_left fun _ => ?_
      unfold target
      by_cases known : s ∈ Framework.names
      · by_cases again : s ∈ seen <;> simp [known, again]
      · simp [known]
    | _ => simp [targetsFrom]

theorem warnings_missingInfo (m : Fields) : (missingInfo m).warnings = [] := by
  apply isPart_warnings.each_eq_nil
  intro _ key _
  split <;> rfl

theorem warnings_versionOf {m : Fields} {report : Report} (found : versionOf m = .ok report) :
    report.warnings = [] := by
  unfold versionOf at found
  split at found
  · cases found
    rfl
  · obtain ⟨version?, -, rfl⟩ := Except.map_eq_ok_iff.mp found
    split
    · rfl
    · split <;> rfl

theorem warnings_inputTypes (m : Fields) : (inputTypes m).warnings = [] := by
  unfold inputTypes
  split
  · rfl
  · rfl
  · exact isPart_warnings.each_eq_nil (fun i v _ => warnings_inputType i v) 0
  · rfl

theorem warnings_confidence (m : Fields) : (confidence m).warnings = [] := by
  unfold confidence
  split
  · rfl
  · split <;> rfl

/-- The description is warned about for its targets only. -/
theorem warnings_info {fields m : Fields} {about : Report}
    (held : fields.lookup "meta" = some (.obj m)) (described : info fields = .ok about) :
    about.warnings = (targets m).warnings := by
  rw [info, held] at described
  obtain ⟨version, found, rfl⟩ := Except.map_eq_ok_iff.mp described
  simp only [warnings_append, warnings_missingInfo, warnings_versionOf found, warnings_inputTypes,
    warnings_confidence, List.nil_append, List.append_nil]

theorem itemsOf_of_lookup {fields : Fields} {key : String} {values : List Json}
    (held : fields.lookup key = some (.arr values)) : itemsOf fields key = values := by
  rw [itemsOf, held]

theorem itemsOf_of_other {fields : Fields} {key : String}
    (other : ∀ values, fields.lookup key ≠ some (.arr values)) : itemsOf fields key = [] := by
  unfold itemsOf
  split
  · rename_i values held
    exact absurd held (other values)
  · rfl

theorem getElem?_itemsOf_iff {fields : Fields} {key : String} {i : Nat} {v : Json} :
    (itemsOf fields key)[i]? = some v ↔
      ∃ values, fields.lookup key = some (.arr values) ∧ values[i]? = some v := by
  by_cases listed : ∃ values, fields.lookup key = some (.arr values)
  · obtain ⟨values, held⟩ := listed
    simp [itemsOf_of_lookup held, held]
  · rw [not_exists] at listed
    simp [itemsOf_of_other listed, listed]

theorem mem_itemsOf_iff {fields : Fields} {key : String} {v : Json} :
    v ∈ itemsOf fields key ↔ ∃ values, fields.lookup key = some (.arr values) ∧ v ∈ values := by
  simp only [List.mem_iff_getElem?, getElem?_itemsOf_iff]
  grind

theorem id?_eq_some_iff {fields : Fields} {id : String} :
    id? fields = some id ↔ fields.lookup "id" = some (.str id) ∧ id ≠ "" := by
  unfold id?
  split
  · rename_i s held
    rw [Option.ite_none_left_eq_some, held, Option.some.injEq, Option.some.injEq, Json.str.injEq,
      String.isEmpty_iff]
    constructor
    · rintro ⟨filled, rfl⟩
      exact ⟨rfl, filled⟩
    · rintro ⟨rfl, filled⟩
      exact ⟨filled, rfl⟩
  · rename_i other
    simp only [reduceCtorEq, false_iff, not_and]
    intro held
    exact absurd held (other id)

theorem ids_cons (v : Json) (rest : List Json) :
    ids (v :: rest) = (idOf? v).toList ++ ids rest := by
  unfold ids
  rw [List.filterMap_cons]
  cases idOf? v <;> rfl

/-- What is found at one component. -/
def componentAt (seen : List String) (i : Nat) : Json → Report
  | .obj fields =>
    match id? fields with
    | none => error .componentMissingId s!"components[{i}].id" "component has no id"
    | some id =>
      if seen.contains id then
        error .duplicateComponentId s!"components[{i}].id" s!"duplicate component id '{id}'"
      else {}
  | _ => error .invalidType s!"components[{i}]" "component must be an object"

theorem componentsFrom_cons (seen : List String) (i : Nat) (v : Json) (rest : List Json) :
    componentsFrom seen i (v :: rest) =
      componentAt seen i v ++ componentsFrom ((idOf? v).toList ++ seen) (i + 1) rest := by
  cases v with
  | obj fields => cases held : id? fields <;> simp [componentsFrom, componentAt, idOf?, held]
  | _ => rfl

theorem warnings_componentAt (seen : List String) (i : Nat) (v : Json) :
    (componentAt seen i v).warnings = [] := by
  cases v with
  | obj fields =>
    simp only [componentAt]
    split
    · rfl
    · split <;> rfl
  | _ => rfl

theorem errors_componentAt_eq_nil_iff {seen : List String} {i : Nat} {v : Json} :
    (componentAt seen i v).errors = [] ↔ ∃ id, idOf? v = some id ∧ id ∉ seen := by
  cases v with
  | obj fields =>
    cases held : id? fields with
    | none => simp [componentAt, idOf?, held]
    | some id => by_cases again : id ∈ seen <;> simp [componentAt, idOf?, held, again]
  | _ => simp [componentAt, idOf?]

theorem warnings_componentsFrom (seen : List String) (i : Nat) (items : List Json) :
    (componentsFrom seen i items).warnings = [] := by
  induction items generalizing seen i with
  | nil => rfl
  | cons v rest ih => rw [componentsFrom_cons, warnings_append, warnings_componentAt, ih]; rfl

/-- No component is at fault exactly when each has an id and no two have the same. -/
theorem errors_componentsFrom_eq_nil_iff {seen : List String} {i : Nat} {items : List Json} :
    (componentsFrom seen i items).errors = [] ↔
      (∀ v ∈ items, (idOf? v).isSome = true) ∧ (ids items).Nodup ∧ ∀ id ∈ ids items, id ∉ seen := by
  induction items generalizing seen i with
  | nil => simp [componentsFrom, ids]
  | cons v rest ih =>
    rw [componentsFrom_cons, errors_append, List.append_eq_nil_iff,
      errors_componentAt_eq_nil_iff, ih, ids_cons, List.forall_mem_cons]
    cases held : idOf? v with
    | none => simp
    | some id =>
      simp only [Option.some.injEq, exists_eq_left', Option.isSome_some, Option.toList_some,
        List.singleton_append, List.nodup_cons, List.mem_cons, not_or, true_and]
      grind

theorem warnings_reference (known : List String) (owner : Json) (i j : Nat) (v : Json) :
    (reference known owner i j v).warnings = [] := by
  unfold reference
  split
  · split <;> rfl
  · rfl

theorem errors_reference_eq_nil_iff {known : List String} {owner : Json} {i j : Nat} {v : Json} :
    (reference known owner i j v).errors = [] ↔ ∃ id ∈ known, v = .str id := by
  cases v with
  | str id => by_cases listed : id ∈ known <;> simp [reference, listed]
  | _ => simp [reference]

/-- The components that a section names, if it names any, are known. -/
def RefersTo (known : List String) (fields : Fields) : Prop :=
  ∀ v, fields.lookup "components" = some v →
    ∃ refs, v = .arr refs ∧ ∀ ref ∈ refs, ∃ id ∈ known, ref = .str id

theorem warnings_references (known : List String) (i : Nat) (fields : Fields) :
    (references known i fields).warnings = [] := by
  unfold references
  split
  · rfl
  · apply isPart_warnings.each_eq_nil
    intro j v _
    exact warnings_reference known _ i j v
  · rfl

theorem errors_references_eq_nil_iff {known : List String} {i : Nat} {fields : Fields} :
    (references known i fields).errors = [] ↔ RefersTo known fields := by
  unfold references RefersTo
  split
  · rename_i none
    simp [none]
  · rename_i refs held
    rw [isPart_errors.each_eq_nil_iff (P := fun ref => ∃ id ∈ known, ref = .str id)
      fun j v _ => errors_reference_eq_nil_iff]
    simp [held]
  · rename_i v other held
    simp only [errors_error, List.cons_ne_nil, false_iff]
    intro known
    obtain ⟨refs, rfl, -⟩ := known v held
    exact other refs rfl

/-- What is found at one section. -/
def sectionAt (known seen : List String) (i : Nat) : Json → Report
  | .obj fields =>
    sectionId seen i fields ++ sectionLayout i fields ++ references known i fields
  | _ => error .invalidType s!"sections[{i}]" "section must be an object"

theorem sectionsFrom_cons (known seen : List String) (i : Nat) (v : Json) (rest : List Json) :
    sectionsFrom known seen i (v :: rest) =
      sectionAt known seen i v ++ sectionsFrom known ((idOf? v).toList ++ seen) (i + 1) rest := by
  cases v <;> rfl

/-- An object that has an id and a layout and names known components. -/
def IsSection (known : List String) (v : Json) : Prop :=
  ∃ fields, v = .obj fields ∧ (id? fields).isSome = true ∧
    isLayout ((fields.lookup "layout").getD (.str Layout.block.name)) = true ∧
    RefersTo known fields

theorem warnings_sectionAt (known seen : List String) (i : Nat) (v : Json) :
    (sectionAt known seen i v).warnings = [] := by
  cases v with
  | obj fields =>
    rw [sectionAt, warnings_append, warnings_append, warnings_references, List.append_nil,
      List.append_eq_nil_iff]
    constructor
    · unfold sectionId
      split
      · rfl
      · split <;> rfl
    · unfold sectionLayout
      dsimp only
      split <;> rfl
  | _ => rfl

theorem errors_sectionAt_eq_nil_iff {known seen : List String} {i : Nat} {v : Json} :
    (sectionAt known seen i v).errors = [] ↔
      IsSection known v ∧ ∀ id, idOf? v = some id → id ∉ seen := by
  cases v with
  | obj fields =>
    have layout : (sectionLayout i fields).errors = [] ↔
        isLayout ((fields.lookup "layout").getD (.str Layout.block.name)) = true := by
      unfold sectionLayout
      dsimp only
      split <;> simp_all
    rw [sectionAt, errors_append, errors_append, List.append_eq_nil_iff, List.append_eq_nil_iff,
      layout, errors_references_eq_nil_iff]
    cases held : id? fields with
    | none => simp [sectionId, IsSection, held]
    | some id =>
      by_cases again : id ∈ seen <;> simp [sectionId, IsSection, idOf?, held, again]
  | _ => simp [sectionAt, IsSection]

theorem warnings_sectionsFrom (known seen : List String) (i : Nat) (items : List Json) :
    (sectionsFrom known seen i items).warnings = [] := by
  induction items generalizing seen i with
  | nil => rfl
  | cons v rest ih => rw [sectionsFrom_cons, warnings_append, warnings_sectionAt, ih]; rfl

/-- No section is at fault exactly when each is one and no two have the same id. -/
theorem errors_sectionsFrom_eq_nil_iff {known seen : List String} {i : Nat} {items : List Json} :
    (sectionsFrom known seen i items).errors = [] ↔
      (∀ v ∈ items, IsSection known v) ∧ (ids items).Nodup ∧ ∀ id ∈ ids items, id ∉ seen := by
  induction items generalizing seen i with
  | nil => simp [sectionsFrom, ids]
  | cons v rest ih =>
    rw [sectionsFrom_cons, errors_append, List.append_eq_nil_iff, errors_sectionAt_eq_nil_iff, ih,
      ids_cons, List.forall_mem_cons]
    cases held : idOf? v with
    | none => simp [and_assoc]
    | some id =>
      simp only [Option.some.injEq, forall_eq', Option.toList_some, List.singleton_append,
        List.nodup_cons, List.mem_cons, not_or]
      grind

def unreferencedIssue (id : String) : Issue :=
  ⟨.componentUnreferenced, "components", s!"component '{id}' is not referenced by any section"⟩

theorem errors_unreferenced (sections components : List Json) :
    (unreferenced sections components).errors = [] := by
  apply isPart_errors.each_eq_nil
  intro _ id _
  split <;> rfl

/-- Every component that no section names is warned about, in order. -/
theorem warnings_unreferenced (sections components : List Json) :
    (unreferenced sections components).warnings =
      ((ids components).filter fun id => !(sections.flatMap referencedBy).contains id).map
        unreferencedIssue := by
  refine isPart_warnings.each_eq_map_filter (fun _ id _ => ?_) 0
  split <;> rfl

theorem isSection_of_errors_sections {fields : Fields} {items : List Json}
    (held : fields.lookup "sections" = some (.arr items)) (none : (sections fields).errors = []) :
    (∀ v ∈ items, IsSection (ids (itemsOf fields "components")) v) ∧ (ids items).Nodup := by
  simp only [sections, held, errors_append, errors_unreferenced, List.append_nil] at none
  cases items with
  | nil => exact ⟨fun v member => absurd member List.not_mem_nil, List.nodup_nil⟩
  | cons first rest =>
    have found := errors_sectionsFrom_eq_nil_iff.mp none
    exact ⟨found.1, found.2.1⟩

/-- The width of a rule that is an object and has one. -/
def widthOf? : Json → Option Int
  | .obj fields => (width? fields).map (·.value)
  | _ => none

/-- What is found at one responsive rule. -/
def ruleAt (known : List String) (previous : Option Int) (i : Nat) : Json → Report
  | .obj fields => ruleWidth previous i fields ++ changes known i fields
  | _ => error .invalidType s!"responsiveRules[{i}]" "responsive rule must be an object"

theorem rulesFrom_cons (known : List String) (previous : Option Int) (i : Nat) (v : Json)
    (rest : List Json) :
    rulesFrom known previous i (v :: rest) =
      ruleAt known previous i v ++ rulesFrom known ((widthOf? v).or previous) (i + 1) rest := by
  cases v <;> rfl

/-- A rule without a width is at fault. -/
theorem widthOf?_of_errors_rulesFrom {known : List String} {previous : Option Int} {i : Nat}
    {items : List Json} (none : (rulesFrom known previous i items).errors = []) {v : Json}
    (member : v ∈ items) : (widthOf? v).isSome = true := by
  induction items generalizing previous i with
  | nil => cases member
  | cons first rest ih =>
    rw [rulesFrom_cons, errors_append, List.append_eq_nil_iff] at none
    rcases List.mem_cons.mp member with rfl | later
    · cases v with
      | obj fields =>
        have here := none.1
        rw [ruleAt, errors_append, List.append_eq_nil_iff] at here
        cases found : width? fields with
        | none => simp [ruleWidth, found] at here
        | some width => simp [widthOf?, found]
      | _ => cases none.1
    · exact ih none.2 later

theorem errors_layer (known : List String) (i : Nat) (v : Json) :
    (layer known i v).errors = [] := by
  unfold layer
  split
  · split <;> rfl
  · rfl

theorem warnings_layer_eq_nil_iff {known : List String} {i : Nat} {v : Json} :
    (layer known i v).warnings = [] ↔ ∃ name ∈ known, targetOf? v = some name := by
  unfold layer
  split
  · rename_i name held
    by_cases listed : name ∈ known <;> simp [listed, held, layer.unknown]
  · rename_i none
    simp [none, layer.unknown]

theorem errors_layers (known : List String) (fields : Fields) :
    (layers known fields).errors = [] := by
  unfold layers
  split
  · apply isPart_errors.each_eq_nil
    intro i v _
    exact errors_layer known i v
  · rfl

theorem warnings_layers_eq_nil_iff {known : List String} {fields layering : Fields}
    (held : fields.lookup "layering" = some (.obj layering)) :
    (layers known fields).warnings = [] ↔
      ∀ v ∈ itemsOf layering "layers", ∃ name ∈ known, targetOf? v = some name := by
  simp only [layers, held]
  apply isPart_warnings.each_eq_nil_iff
  intro _ v _
  exact warnings_layer_eq_nil_iff

theorem errors_overrides (known : List String) (fields : Fields) :
    (overrides known fields).errors = [] := by
  unfold overrides
  split
  · split
    · apply isPart_errors.each_eq_nil
      intro _ entry _
      split <;> rfl
    · rfl
  · rfl

theorem warnings_assumptions (i : Nat) (items : List Json) :
    (each assumption i items).warnings = [] := by
  apply isPart_warnings.each_eq_nil
  intro _ v _
  unfold assumption
  split <;> simp

theorem warnings_ambiguities (i : Nat) (items : List Json) :
    (each ambiguity i items).warnings = [] := by
  apply isPart_warnings.each_eq_nil
  intro _ v _
  unfold ambiguity
  split <;> simp

/-- What all rules find, given what is found in the description. -/
def gathered (fields : Fields) (about : Report) : Report :=
  let components := ids (itemsOf fields "components")
  let sectionIds := ids (itemsOf fields "sections")
  topLevel fields ++ about ++
    componentsFrom [] 0 (itemsOf fields "components") ++ sections fields ++
    each assumption 0 (itemsOf fields "assumptions") ++
    each ambiguity 0 (itemsOf fields "ambiguities") ++
    rulesFrom sectionIds none 0 (itemsOf fields "responsiveRules") ++
    layers (sectionIds ++ components) fields ++
    overrides sectionIds fields

theorem structural_eq (fields : Fields) : structural fields = (info fields).map (gathered fields) :=
  rfl

theorem errors_gathered_eq_nil_iff {fields : Fields} {about : Report} :
    (gathered fields about).errors = [] ↔
      (topLevel fields).errors = [] ∧ about.errors = [] ∧
      (componentsFrom [] 0 (itemsOf fields "components")).errors = [] ∧
      (sections fields).errors = [] ∧
      (each assumption 0 (itemsOf fields "assumptions")).errors = [] ∧
      (each ambiguity 0 (itemsOf fields "ambiguities")).errors = [] ∧
      (rulesFrom (ids (itemsOf fields "sections")) none 0
        (itemsOf fields "responsiveRules")).errors = [] := by
  simp only [gathered, errors_append, errors_layers, errors_overrides, List.append_nil,
    List.append_eq_nil_iff, and_assoc]

theorem warnings_gathered (fields : Fields) (about : Report) :
    (gathered fields about).warnings =
      about.warnings ++ (sections fields).warnings ++
        (rulesFrom (ids (itemsOf fields "sections")) none 0
          (itemsOf fields "responsiveRules")).warnings ++
        (layers (ids (itemsOf fields "sections") ++ ids (itemsOf fields "components"))
          fields).warnings ++
        (overrides (ids (itemsOf fields "sections")) fields).warnings := by
  simp only [gathered, warnings_append, warnings_topLevel, warnings_componentsFrom,
    warnings_assumptions, warnings_ambiguities, List.append_nil, List.nil_append]

theorem model_of_read {d : Json} {schema : Schema} (read : Schema.read d = .ok schema) :
    model d = {} := by
  rw [model, read]

/-- The reading of a schema finds no error exactly when there is a schema. -/
theorem errors_model_eq_nil_iff {d : Json} :
    (model d).errors = [] ↔ ∃ schema, Schema.read d = .ok schema := by
  have tells := Schema.tells_read d
  unfold model
  cases read : Schema.read d with
  | ok schema => simp
  | faulty faults =>
    rw [read] at tells
    have some : faults ≠ [] := tells
    simp [some]

end Validation

open Validation

theorem Report.whole_eq_ok_iff {r s : Report} : r.whole = .ok s ↔ r = s ∧ s.broken = none := by
  unfold whole
  cases broken : r.broken with
  | none =>
    rw [Except.ok.injEq, iff_self_and]
    rintro rfl
    exact broken
  | some why =>
    refine iff_of_false (by simp) ?_
    rintro ⟨rfl, none⟩
    cases broken.symm.trans none

theorem Report.whole_eq_error_iff {r : Report} {why : NoReport} :
    r.whole = .error why ↔
      ∃ unwritable, r.broken = some unwritable ∧ .unwritable unwritable = why := by
  unfold whole
  cases r.broken <;> simp

/-- An object is not reported on because of its version, or else because of a message. -/
theorem validate_obj_eq_error_iff {fields : Fields} {why : NoReport} :
    validate (.obj fields) = .error why ↔
      (∃ overflow, info fields = .error overflow ∧ why = .overlongVersion overflow) ∨
        ∃ about unwritable, info fields = .ok about ∧
          (gathered fields about).broken = some unwritable ∧ why = .unwritable unwritable := by
  simp only [validate, structural_eq, Except.bind_eq_error_iff, Except.mapError_eq_error_iff,
    Except.mapError_eq_ok_iff, Except.map_eq_error_iff, Except.map_eq_ok_iff,
    Report.whole_eq_error_iff]
  constructor
  · rintro (⟨overflow, stopped, rfl⟩ | ⟨_, ⟨about, described, rfl⟩,
      ⟨unwritable, broken, rfl⟩ | ⟨_, -, ⟨⟩⟩⟩)
    · exact .inl ⟨overflow, stopped, rfl⟩
    · exact .inr ⟨about, unwritable, described, broken, rfl⟩
  · rintro (⟨overflow, stopped, rfl⟩ | ⟨about, unwritable, described, broken, rfl⟩)
    · exact .inl ⟨overflow, stopped, rfl⟩
    · exact .inr ⟨_, ⟨about, described, rfl⟩, .inl ⟨unwritable, broken, rfl⟩⟩

/-- The report on an object is what all rules find in it, if every message of them can be written.
-/
theorem validate_obj_eq_ok_iff {fields : Fields} {report : Report} :
    validate (.obj fields) = .ok report ↔
      ∃ about, info fields = .ok about ∧ (gathered fields about).broken = none ∧
        report = if (gathered fields about).valid then gathered fields about ++ model (.obj fields)
          else gathered fields about := by
  simp only [validate, structural_eq, Except.bind_eq_ok_iff, Except.mapError_eq_ok_iff,
    Except.map_eq_ok_iff, Report.whole_eq_ok_iff]
  constructor
  · rintro ⟨_, ⟨about, described, rfl⟩, _, ⟨rfl, whole⟩, same⟩
    exact ⟨about, described, whole, (Except.ok.inj same).symm⟩
  · rintro ⟨about, described, whole, rfl⟩
    exact ⟨_, ⟨about, described, rfl⟩, _, ⟨rfl, whole⟩, rfl⟩

/-- A document is valid exactly when it is an object in which no rule finds an error, with messages
that can be written, and which is read as a schema. -/
theorem validate_eq_ok_iff_of_valid {d : Json} {report : Report} (valid : report.errors = []) :
    validate d = .ok report ↔
      ∃ fields about schema, d = .obj fields ∧ info fields = .ok about ∧
        Schema.read d = .ok schema ∧ report = gathered fields about ∧ report.broken = none := by
  cases d with
  | obj fields =>
    rw [validate_obj_eq_ok_iff]
    constructor
    · rintro ⟨about, described, whole, rfl⟩
      split at valid
      · rename_i clear
        rw [if_pos clear]
        obtain ⟨-, none⟩ := List.append_eq_nil_iff.mp ((Report.errors_append _ _).symm.trans valid)
        obtain ⟨schema, read⟩ := errors_model_eq_nil_iff.mp none
        rw [model_of_read read, Report.append_empty]
        exact ⟨fields, about, schema, rfl, described, read, rfl, whole⟩
      · rename_i wrong
        exact absurd (List.isEmpty_iff.mpr valid) wrong
    · rintro ⟨_, about, schema, same, described, read, rfl, whole⟩
      cases same
      have clear : (gathered fields about).valid = true := List.isEmpty_iff.mpr valid
      refine ⟨about, described, whole, ?_⟩
      rw [if_pos clear, model_of_read read, Report.append_empty]
  | _ =>
    simp only [validate, Except.ok.injEq, reduceCtorEq, false_and, exists_false, iff_false]
    rintro rfl
    cases valid

end DesignToCode
