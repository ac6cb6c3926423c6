import DesignToCode.Proofs.Schema.Stored

set_option autoImplicit false

namespace DesignToCode

open Validation Reader

/-- The id of a record that was read is the one that the gate saw. -/
theorem ids_of_forall₂ {α : Type} {read : Reader α} (id : α → String) {values : List Json}
    {items : List α} (all : List.Forall₂ (fun v a => read v = .ok a) values items)
    (given : ∀ v ∈ values, (idOf? v).isSome = true)
    (same : ∀ fields a, read (.obj fields) = .ok a → fields.lookup "id" = some (.str (id a))) :
    ids values = items.map id ∧ "" ∉ items.map id := by
  induction all with
  | nil => exact ⟨rfl, List.not_mem_nil⟩
  | @cons v a values items first rest ih =>
    obtain ⟨tail, filled⟩ := ih fun w member => given w (List.mem_cons_of_mem v member)
    have here := given v List.mem_cons_self
    cases v with
    | obj fields =>
      obtain ⟨found, some⟩ := Option.isSome_iff_exists.mp here
      obtain ⟨held, nonempty⟩ := id?_eq_some_iff.mp some
      have equal : id a = found := by
        have := (same fields a first).symm.trans held
        simpa using this
      rw [ids_cons, some, tail, List.map_cons, equal]
      refine ⟨rfl, ?_⟩
      rw [List.mem_cons, not_or]
      exact ⟨fun empty => nonempty empty.symm, filled⟩
    | _ => cases here

variable {fields : Fields} {about : Report}

theorem SchemaMeta.of_valid {m : Fields} {i : SchemaMeta}
    (held : fields.lookup "meta" = some (.obj m)) (described : info fields = .ok about)
    (none : about.errors = []) (read : SchemaMeta.read (.obj m) = .ok i) :
    (∃ v, Version.parse i.schemaVersion = .ok (some v) ∧ v.major = supportedMajor) ∧
      i.inputType ≠ [] ∧ i.frameworkTarget ≠ [] ∧
      (∀ t ∈ i.frameworkTarget, t ∈ Framework.names) ∧
      targets m = targetsFrom [] 0 (i.frameworkTarget.map .str) := by
  have open_info : info fields = (versionOf m).map fun version =>
      missingInfo m ++ version ++ inputTypes m ++ targets m ++ confidence m := by
    rw [info, held]
  rw [open_info] at described
  obtain ⟨version, found, rfl⟩ := Except.map_eq_ok_iff.mp described
  simp only [Report.errors_append, List.append_eq_nil_iff] at none
  obtain ⟨⟨⟨⟨missing, version_none⟩, inputs_none⟩, targets_none⟩, -⟩ := none
  have there (key : String) (needed : key ∈ requiredInfo) : ∃ v, m.lookup key = some v :=
    Option.isSome_iff_exists.mp (errors_missingInfo_eq_nil_iff.mp missing key needed)
  obtain ⟨_, same, version_read, inputs_read, targets_read, -⟩ := SchemaMeta.read_eq_ok_iff.mp read
  cases same
  refine ⟨?version, ?inputs, ?targets⟩
  case version =>
    obtain ⟨v, held⟩ := there "schemaVersion" (by decide)
    obtain ⟨s, parsed, rfl, major⟩ := exists_version found version_none held
    have equal := string_eq_ok_iff.mp (read_of_defaulted held version_read)
    cases equal
    exact ⟨parsed, major⟩
  case inputs =>
    obtain ⟨v, held⟩ := there "inputType" (by decide)
    obtain ⟨values, rfl, all⟩ := tuple_eq_ok_iff.mp (read_of_defaulted held inputs_read)
    rintro empty
    rw [empty] at all
    cases all
    simp [inputTypes, held] at inputs_none
  case targets =>
    obtain ⟨v, held⟩ := there "frameworkTarget" (by decide)
    have listed := tuple_string_eq_ok_iff.mp (read_of_defaulted held targets_read)
    subst listed
    have given : i.frameworkTarget ≠ [] := by
      intro empty
      rw [empty] at held
      simp [targets, held, Json.strings] at targets_none
    have seen := targets_of_lookup held (by simpa using given)
    rw [seen, errors_targetsFrom_eq_nil_iff, List.forall_mem_map] at targets_none
    refine ⟨given, fun t member => ?_, seen⟩
    obtain ⟨s, supported, same⟩ := targets_none t member
    cases same
    exact supported

theorem ResponsiveRule.isSome_of_valid {v : Json} {r : ResponsiveRule}
    (read : ResponsiveRule.read v = .ok r) (width : (widthOf? v).isSome = true) :
    r.resolvedMinWidth.isSome = true := by
  obtain ⟨fields, rfl, breakpoint, minWidth, -⟩ := ResponsiveRule.read_eq_ok_iff.mp read
  unfold resolvedMinWidth
  split
  · rfl
  · rename_i none
    have unwritten : (fields.lookup "minWidth").getD .null = .null := by
      cases held : fields.lookup "minWidth" with
      | none => rfl
      | some v =>
        by_contra given
        have read := read_of_defaulted held minWidth
        rw [optional_of_ne_null (by simpa [held] using given), none] at read
        obtain ⟨n, -, some⟩ := Reading.map_eq_ok_iff.mp read
        cases some
    rw [required_string_eq_ok_iff] at breakpoint
    simp only [widthOf?, width?, unwritten, breakpoint, Option.bind_some, string?] at width
    cases found : breakpoints.lookup r.breakpoint with
    | none =>
      rw [found] at width
      cases width
    | some w => rfl

theorem Section.refersTo_of_valid {known : List String} {v : Json} {sec : Section}
    (read : Section.read v = .ok sec) (sound : IsSection known v) :
    ∀ id ∈ sec.components, id ∈ known := by
  obtain ⟨fields, rfl, -, -, refersTo⟩ := sound
  obtain ⟨_, same, -, -, -, -, components, -⟩ := Section.read_eq_ok_iff.mp read
  cases same
  intro id member
  cases held : fields.lookup "components" with
  | none =>
    rw [defaulted_of_absent _ held held, Reading.ok.injEq] at components
    rw [← components] at member
    cases member
  | some v =>
    obtain ⟨refs, rfl, known⟩ := refersTo v held
    obtain ⟨values, same, all⟩ := tuple_eq_ok_iff.mp (read_of_defaulted held components)
    cases same
    obtain ⟨ref, listed, text⟩ := exists_mem_of_forall₂ all member
    obtain ⟨found, member, rfl⟩ := known ref listed
    cases string_eq_ok_iff.mp text
    exact member

/-- A list at the top is read item by item. -/
theorem forall₂_of_topLevel {α : Type} {read : Reader α} {key long : String} {absent items : List α}
    (top : (topLevel fields).errors = []) (needed : (key, Container.array) ∈ requiredFields)
    (read_ok : defaulted fields key long (tuple read) absent = .ok items) :
    List.Forall₂ (fun v a => read v = .ok a) (itemsOf fields key) items := by
  obtain ⟨_, same, all⟩ :=
    tuple_eq_ok_iff.mp (read_of_defaulted (lookup_of_topLevel top needed) read_ok)
  cases same
  exact all

/-- The sections are those that the gate saw. -/
theorem sections_of_valid {items : List Section} (top : (topLevel fields).errors = [])
    (none : (sections fields).errors = [])
    (all : List.Forall₂ (fun v a => Section.read v = .ok a) (itemsOf fields "sections") items) :
    (items.map (·.id)).Nodup ∧ "" ∉ items.map (·.id) ∧
      ids (itemsOf fields "sections") = items.map (·.id) ∧
      ∀ sec ∈ items, ∀ id ∈ sec.components, id ∈ ids (itemsOf fields "components") := by
  obtain ⟨sound, distinct⟩ :=
    isSection_of_errors_sections (lookup_of_topLevel top (by decide)) none
  obtain ⟨same, given⟩ := ids_of_forall₂ Section.id all
    (fun v member => by
      obtain ⟨fields, rfl, named, -⟩ := sound v member
      exact named)
    (fun fields sec read => by
      obtain ⟨_, same, id, -⟩ := Section.read_eq_ok_iff.mp read
      cases same
      exact required_string_eq_ok_iff.mp id)
  rw [same] at distinct
  refine ⟨distinct, given, same, fun sec member => ?_⟩
  obtain ⟨v, inside, read⟩ := exists_mem_of_forall₂ all member
  exact Section.refersTo_of_valid read (sound v inside)

/-- The components are those that the gate saw. -/
theorem components_of_valid {items : List Component}
    (none : (componentsFrom [] 0 (itemsOf fields "components")).errors = [])
    (all : List.Forall₂ (fun v a => Component.read v = .ok a) (itemsOf fields "components") items) :
    (items.map (·.id)).Nodup ∧ "" ∉ items.map (·.id) ∧
      ids (itemsOf fields "components") = items.map (·.id) := by
  obtain ⟨named, distinct, -⟩ := errors_componentsFrom_eq_nil_iff.mp none
  obtain ⟨same, given⟩ := ids_of_forall₂ Component.id all named
    (fun fields c read => by
      obtain ⟨_, same, id, -⟩ := Component.read_eq_ok_iff.mp read
      cases same
      exact required_string_eq_ok_iff.mp id)
  rw [same] at distinct
  exact ⟨distinct, given, same⟩

theorem exists_read_of_valid {d : Json} {report : Report} (reported : validate d = .ok report)
    (valid : report.valid = true) : ∃ schema, Schema.read d = .ok schema := by
  have none : report.errors = [] := List.isEmpty_iff.mp valid
  obtain ⟨-, -, schema, -, -, read, -⟩ := (validate_eq_ok_iff_of_valid none).mp reported
  exact ⟨schema, read⟩

/-- A valid document is read as a sound schema. -/
theorem Schema.sound_of_valid {d : Json} {report : Report} {s : Schema}
    (reported : DesignToCode.validate d = .ok report) (valid : report.errors = [])
    (read : Schema.read d = .ok s) : s.Sound := by
  obtain ⟨fields, about, -, rfl, described, -, rfl, -⟩ :=
    (validate_eq_ok_iff_of_valid valid).mp reported
  obtain ⟨top, description, components, sections, -, -, rules⟩ :=
    errors_gathered_eq_nil_iff.mp valid
  obtain ⟨_, same, info_read, sections_read, components_read, -, -, -, rules_read, -⟩ :=
    Schema.read_eq_ok_iff.mp read
  cases same
  obtain ⟨m, described_by⟩ := exists_object_of_topLevel top "meta" (by decide)
  obtain ⟨version, inputs, targets, supported, -⟩ :=
    SchemaMeta.of_valid described_by described description
      (read_of_defaulted described_by info_read)
  obtain ⟨sectionsDistinct, sectionsGiven, -, references⟩ :=
    sections_of_valid top sections (forall₂_of_topLevel top (by decide) sections_read)
  obtain ⟨componentsDistinct, componentsGiven, ids⟩ :=
    components_of_valid components (forall₂_of_topLevel top (by decide) components_read)
  rw [ids] at references
  refine ⟨version, inputs, targets, supported, sectionsGiven, sectionsDistinct, componentsGiven,
    componentsDistinct, references, fun r member => ?_⟩
  obtain ⟨v, inside, read⟩ :=
    exists_mem_of_forall₂ (forall₂_of_topLevel top (by decide) rules_read) member
  exact ResponsiveRule.isSome_of_valid read (widthOf?_of_errors_rulesFrom rules inside)

end DesignToCode
