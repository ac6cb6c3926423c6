import DesignToCode.Proofs.Schema.Places
import DesignToCode.Proofs.Schema.Reread
import DesignToCode.Proofs.Schema.Verdict

set_option autoImplicit false

namespace DesignToCode

open Validation Report Reader

/-- A field that is there under its long name is there under the written one. -/
def IsWritten (fields : Fields) (written long : String) : Prop :=
  (fields.lookup long).isSome = true → (fields.lookup written).isSome = true

theorem Reader.defaulted_of_isWritten {α : Type} {fields : Fields} {written long : String}
    {read : Reader α} {absent : α} (names : IsWritten fields written long) :
    defaulted fields written long read absent = defaulted fields written written read absent := by
  cases held : fields.lookup written with
  | some v => rw [defaulted_of_lookup absent held, defaulted_of_lookup absent held]
  | none =>
    have unnamed : fields.lookup long = none := by
      by_contra found
      have written := names (Option.isSome_iff_ne_none.mpr found)
      rw [held] at written
      cases written
    rw [defaulted_of_absent absent held unnamed, defaulted_of_absent absent held held]

/-- The widths that the gate sees in a document. -/
def writtenWidths (fields : Fields) : List Int :=
  (itemsOf fields "responsiveRules").filterMap widthOf?

/-- The widths of the rules of a schema. -/
def Schema.widths (s : Schema) : List Int :=
  s.responsiveRules.filterMap fun r => r.resolvedMinWidth.map fun w : Nat => (w : Int)

/-- The gate and the reading agree on the width of a rule that goes by the written name. -/
theorem ResponsiveRule.widthOf?_of_read {rule : Fields} {r : ResponsiveRule}
    (read : ResponsiveRule.read (.obj rule) = .ok r) (names : IsWritten rule "minWidth" "min_width")
    (given : (widthOf? (.obj rule)).isSome = true) :
    widthOf? (.obj rule) = r.resolvedMinWidth.map fun w : Nat => (w : Int) := by
  obtain ⟨_, same, breakpoint, minWidth, -⟩ := ResponsiveRule.read_eq_ok_iff.mp read
  cases same
  rw [required_string_eq_ok_iff] at breakpoint
  have by_name (unwritten : (rule.lookup "minWidth").getD .null = .null) (own : r.minWidth = none) :
      widthOf? (.obj rule) = r.resolvedMinWidth.map fun w : Nat => (w : Int) := by
    simp only [widthOf?, width?, unwritten, breakpoint, Option.bind_some, string?, own,
      resolvedMinWidth]
    cases breakpoints.lookup r.breakpoint <;> rfl
  rw [defaulted_of_isWritten names, defaulted_eq_ok_iff] at minWidth
  rcases minWidth with ⟨v, held, read⟩ | ⟨absent, none⟩
  · cases v with
    | null => exact by_name (by rw [held]; rfl) (Reading.ok.inj read).symm
    | bool b =>
      have own : some (if b then 1 else 0) = r.minWidth := by cases b <;> exact Reading.ok.inj read
      simp only [widthOf?, width?, held, Option.getD_some, resolvedMinWidth, ← own, Option.map_some]
      cases b <;> rfl
    | num n =>
      cases n with
      | int i =>
        obtain ⟨n, whole, own⟩ := Reading.map_eq_ok_iff.mp read
        simp only [widthOf?, width?, held, Option.getD_some, resolvedMinWidth, ← own,
          Option.map_some, natCast_of_natural whole]
      | real x => simp [widthOf?, width?, held] at given
    | _ => simp [widthOf?, width?, held] at given
  · exact by_name (by rw [absent]; rfl) none.symm

theorem ResponsiveRule.filterMap_widthOf?_of_read {items : List Json} {rules : List ResponsiveRule}
    (all : List.Forall₂ (fun v r => ResponsiveRule.read v = .ok r) items rules)
    (names : ∀ rule, Json.obj rule ∈ items → IsWritten rule "minWidth" "min_width")
    (given : ∀ v ∈ items, (widthOf? v).isSome = true) :
    items.filterMap widthOf? =
      rules.filterMap fun r => r.resolvedMinWidth.map fun w : Nat => (w : Int) := by
  induction all with
  | nil => rfl
  | @cons v r items rules first rest ih =>
    obtain ⟨rule, rfl, -⟩ := ResponsiveRule.read_eq_ok_iff.mp first
    have width := ResponsiveRule.widthOf?_of_read first (names rule List.mem_cons_self)
      (given _ List.mem_cons_self)
    have later := ih (fun rule member => names rule (List.mem_cons_of_mem _ member))
      (fun v member => given v (List.mem_cons_of_mem _ member))
    rw [List.filterMap_cons, List.filterMap_cons, width, later]

/-- The sections with an override. -/
def BackgroundStrategy.overridden (b : BackgroundStrategy) : List String :=
  b.sectionOverrides.map (·.1)

theorem BackgroundStrategy.writtenOverrides_of_read {background : Fields} {b : BackgroundStrategy}
    (read : BackgroundStrategy.read (.obj background) = .ok b)
    (names : IsWritten background "sectionOverrides" "section_overrides") :
    writtenOverrides background = b.overridden := by
  obtain ⟨_, same, -, -, -, -, -, -, overrides⟩ := BackgroundStrategy.read_eq_ok_iff.mp read
  cases same
  rw [defaulted_of_isWritten names, defaulted_eq_ok_iff] at overrides
  rcases overrides with ⟨v, held, entries⟩ | ⟨absent, none⟩
  · cases v with
    | obj entries_given =>
      rw [writtenOverrides, fieldsOf_of_lookup held]
      exact keys_of_entries entries
    | _ => cases entries
  · rw [writtenOverrides, fieldsOf, absent, overridden, ← none]
    rfl

theorem overridePlaces_eq_nil_iff {known ids : List String} :
    overridePlaces known ids = [] ↔ ∀ id ∈ ids, id ∈ known := by
  simp [overridePlaces]

/-- The same overrides are warned about unless one that leads nowhere goes by the long name. -/
theorem BackgroundStrategy.overridePlaces_eq_iff {known : List String} {background : Fields}
    {b : BackgroundStrategy} (read : BackgroundStrategy.read (.obj background) = .ok b) :
    overridePlaces known b.overridden = overridePlaces known (writtenOverrides background) ↔
      ∀ id ∈ b.overridden, id ∈ known ∨ id ∈ writtenOverrides background := by
  cases held : background.lookup "sectionOverrides" with
  | some v =>
    have same := writtenOverrides_of_read read fun _ => by rw [held]; rfl
    rw [same]
    simp +contextual
  | none =>
    have none : writtenOverrides background = [] := by
      rw [writtenOverrides, fieldsOf, held]
      rfl
    have empty : overridePlaces known [] = [] := rfl
    rw [none, empty, overridePlaces_eq_nil_iff]
    simp

theorem Validation.rule_of_mem_targetsFrom {seen : List String} {i : Nat} {values : List Json}
    {issue : Issue} (h : issue ∈ (targetsFrom seen i values).warnings) :
    issue.rule = .targetDuplicate := by
  induction values generalizing seen i with
  | nil => cases h
  | cons v rest ih =>
    cases v with
    | str s =>
      rcases List.mem_append.mp h with own | later
      · unfold target at own
        split at own
        · cases own
        · split at own
          · rw [List.mem_singleton.mp own]
          · cases own
      · exact ih later
    | _ => exact ih h

theorem Schema.rule_of_mem_sections {s : Schema} (given : "" ∉ s.componentIds) {issue : Issue}
    (h : issue ∈ (Validation.sections s.stored).warnings) :
    issue.rule = .sectionsEmpty ∨ issue.rule = .componentUnreferenced := by
  rw [warnings_sections_stored given] at h
  rcases List.mem_append.mp h with none | unreferenced
  · split at none
    · rw [List.mem_singleton.mp none]
      exact .inl rfl
    · cases none
  · obtain ⟨id, -, rfl⟩ := List.mem_map.mp unreferenced
    exact .inr rfl

namespace Schema

/-- The places of the warnings about a schema, given which rules are narrower than the one before
them and which overrides are looked at. -/
def places (s : Schema) (narrower : List Bool) (overridden : List String) : List (Rule × String) :=
  (targetsFrom [] 0 (s.info.frameworkTarget.map .str)).places ++
    (Validation.sections s.stored).places ++
    rulePlaces s.sectionIds 0 (narrower.zip s.responsiveRules) ++
    (Validation.layers (s.sectionIds ++ s.componentIds) s.stored).places ++
    overridePlaces s.sectionIds overridden

/-- Rules other than those of the responsive rules and of the layers. -/
def otherRules : List Rule :=
  [.targetDuplicate, .sectionsEmpty, .componentUnreferenced, .overrideUnknown]

/-- Which part of the places a place belongs to is known from its rule. -/
theorem part_of_mem_places {s : Schema} (given : "" ∉ s.componentIds) {narrower : List Bool}
    {overridden : List String} {place : Rule × String} (h : place ∈ s.places narrower overridden) :
    place.1 ∈ otherRules ∨
      place ∈ rulePlaces s.sectionIds 0 (narrower.zip s.responsiveRules) ∨
      place ∈ (Validation.layers (s.sectionIds ++ s.componentIds) s.stored).places := by
  simp only [places, List.mem_append, or_assoc] at h
  rcases h with target | sections | responsive | layer | override
  · obtain ⟨issue, found, rfl⟩ := List.mem_map.mp target
    exact .inl (by simp [Issue.place, Validation.rule_of_mem_targetsFrom found, otherRules])
  · obtain ⟨issue, found, rfl⟩ := List.mem_map.mp sections
    rcases rule_of_mem_sections given found with empty | unreferenced
    · exact .inl (by simp [Issue.place, empty, otherRules])
    · exact .inl (by simp [Issue.place, unreferenced, otherRules])
  · exact .inr (.inl responsive)
  · exact .inr (.inr layer)
  · exact .inl (by simp [rule_of_mem_overridePlaces override, otherRules])

section

variable {fields : Fields} {report : Report} {s : Schema}

/-- Each rule of a valid document has a width and is read as one of the schema. -/
theorem rules_of_valid (reported : DesignToCode.validate (.obj fields) = .ok report)
    (valid : report.errors = []) (read : Schema.read (.obj fields) = .ok s) :
    List.Forall₂ (fun v r => ResponsiveRule.read v = .ok r) (itemsOf fields "responsiveRules")
        s.responsiveRules ∧
      ∀ v ∈ itemsOf fields "responsiveRules", (widthOf? v).isSome = true := by
  obtain ⟨_, about, -, same, -, -, rfl, -⟩ := (validate_eq_ok_iff_of_valid valid).mp reported
  cases same
  obtain ⟨top, -, -, -, -, -, rules⟩ := errors_gathered_eq_nil_iff.mp valid
  obtain ⟨_, same, -, -, -, -, -, -, rules_read, -⟩ := Schema.read_eq_ok_iff.mp read
  cases same
  exact ⟨forall₂_of_topLevel top (by decide) rules_read,
    fun v member => widthOf?_of_errors_rulesFrom rules member⟩

theorem exists_background_of_valid (reported : DesignToCode.validate (.obj fields) = .ok report)
    (valid : report.errors = []) (read : Schema.read (.obj fields) = .ok s) :
    ∃ background, fields.lookup "backgroundStrategy" = some (.obj background) ∧
      BackgroundStrategy.read (.obj background) = .ok s.backgroundStrategy := by
  obtain ⟨_, about, -, same, -, -, rfl, -⟩ := (validate_eq_ok_iff_of_valid valid).mp reported
  cases same
  obtain ⟨top, -⟩ := errors_gathered_eq_nil_iff.mp valid
  obtain ⟨_, same, -, -, -, -, background_read, -⟩ := Schema.read_eq_ok_iff.mp read
  cases same
  obtain ⟨background, held⟩ := exists_object_of_topLevel top "backgroundStrategy" (by decide)
  exact ⟨background, held, read_of_defaulted held background_read⟩

/-- What is warned about at a valid document is known from the schema that is read from it, its
widths and its overrides. -/
theorem places_of_valid (reported : DesignToCode.validate (.obj fields) = .ok report)
    (valid : report.errors = []) (read : Schema.read (.obj fields) = .ok s) :
    report.places = s.places (descents none (writtenWidths fields))
      (writtenOverrides (fieldsOf fields "backgroundStrategy")) := by
  obtain ⟨rules_read, widths⟩ := rules_of_valid reported valid read
  obtain ⟨background, backed, -⟩ := exists_background_of_valid reported valid read
  obtain ⟨_, about, -, same, described, -, rfl, -⟩ :=
    (validate_eq_ok_iff_of_valid valid).mp reported
  cases same
  obtain ⟨top, description, components, sections, -⟩ := errors_gathered_eq_nil_iff.mp valid
  obtain ⟨_, same, info_read, sections_read, components_read, -, -, layering_read, -⟩ :=
    Schema.read_eq_ok_iff.mp read
  cases same
  obtain ⟨m, described_by⟩ := exists_object_of_topLevel top "meta" (by decide)
  obtain ⟨-, -, -, -, targets⟩ := SchemaMeta.of_valid described_by described description
    (read_of_defaulted described_by info_read)
  have sections_all := forall₂_of_topLevel top (by decide) sections_read
  obtain ⟨-, -, sectionIds, -⟩ := sections_of_valid top sections sections_all
  obtain ⟨-, given, componentIds⟩ :=
    components_of_valid components (forall₂_of_topLevel top (by decide) components_read)
  obtain ⟨layering, layered⟩ := exists_object_of_topLevel top "layering" (by decide)
  have info_part : about.warnings =
      (targetsFrom [] 0 (s.info.frameworkTarget.map .str)).warnings := by
    rw [warnings_info described_by described, targets]
  have sections_part :
      (Validation.sections fields).warnings = (Validation.sections s.stored).warnings := by
    have empty : (itemsOf fields "sections").isEmpty = s.sections.isEmpty := by
      rw [Bool.eq_iff_iff, List.isEmpty_iff_length_eq_zero, List.isEmpty_iff_length_eq_zero,
        sections_all.length_eq]
    rw [warnings_sections (lookup_of_topLevel top (by decide)), warnings_sections_stored given,
      componentIds, Section.flatMap_referencedBy sections_all, empty]
    rfl
  have rules_part := places_rulesFrom s.sectionIds rules_read widths none 0
  have layers_part (known : List String) :
      Validation.layers known fields = Validation.layers known s.stored :=
    Layering.layers_of_read layered (read_of_defaulted layered layering_read)
  have overrides_part := places_overrides s.sectionIds backed
  rw [writtenWidths, fieldsOf_of_lookup backed, places, ← rules_part, ← overrides_part]
  simp only [Report.places, warnings_gathered, List.map_append, sectionIds, componentIds, info_part,
    sections_part, layers_part]
  rfl

end

theorem writtenWidths_stored (s : Schema) : writtenWidths s.stored = s.widths := by
  show (s.responsiveRules.map (ResponsiveRule.toJson .omitted)).filterMap widthOf? = _
  rw [List.filterMap_map]
  exact List.filterMap_congr fun r _ => widthOf?_toJson r

theorem writtenOverrides_stored (s : Schema) :
    writtenOverrides (fieldsOf s.stored "backgroundStrategy") =
      s.backgroundStrategy.overridden := by
  have background : fieldsOf s.stored "backgroundStrategy" = _ := fieldsOf_of_lookup rfl
  rw [background, writtenOverrides, fieldsOf_of_lookup (lookup_sectionOverrides rfl), List.map_map]
  rfl

/-- What is warned about at a schema. -/
theorem places_stored {s : Schema} {report : Report} (reported : s.validate = .ok report)
    (valid : report.errors = []) :
    report.places = s.places (descents none s.widths) s.backgroundStrategy.overridden := by
  -- The schema that the stored form is read as differs in attributes only, and none is looked at.
  have known : s.finite.places = s.places := by
    have stored : s.finite.stored = s.stored := by rw [Schema.stored, wire_finite, Schema.stored]
    funext narrower overridden
    rw [places, places, componentIds_finite, stored]
    rfl
  have reported_stored := (validate_eq_ok_iff.mp reported).2
  rw [wire_eq] at reported_stored
  rw [places_of_valid reported_stored valid s.read_wire, known, writtenWidths_stored,
    writtenOverrides_stored]

/-- Which rules are narrower and which overrides lead nowhere can be told from the places. -/
theorem places_inj {s : Schema} {first second : List Bool} {a b : List String}
    (length_first : first.length = s.responsiveRules.length)
    (length_second : second.length = s.responsiveRules.length) :
    s.places first a = s.places second b ↔
      first = second ∧ overridePlaces s.sectionIds a = overridePlaces s.sectionIds b := by
  constructor
  · intro same
    have other (narrower : List Bool) :
        ∀ place ∈ rulePlaces s.sectionIds 0 (narrower.zip s.responsiveRules) ++
            (Validation.layers (s.sectionIds ++ s.componentIds) s.stored).places,
          place.1 ≠ .overrideUnknown := by
      intro place member
      rcases List.mem_append.mp member with rule | layer
      · rcases rule_of_mem_rulePlaces rule with rule | rule <;> simp [rule]
      · simp [rule_of_mem_layers layer]
    simp only [places, List.append_assoc, List.append_cancel_left_eq] at same
    rw [← List.append_assoc, ← List.append_assoc] at same
    obtain ⟨rules, overrides⟩ := append_overridePlaces_inj (other first) (other second) same
    rw [List.append_cancel_right_eq] at rules
    exact ⟨rulePlaces_inj length_first length_second rules, overrides⟩
  · rintro ⟨rfl, overrides⟩
    rw [places, places, overrides]

/-- Widths and overrides stand under the names that the gate looks for. -/
structure WritesNames (fields : Fields) : Prop where
  widths : ∀ rule, Json.obj rule ∈ itemsOf fields "responsiveRules" →
    IsWritten rule "minWidth" "min_width"
  overrides : IsWritten (fieldsOf fields "backgroundStrategy") "sectionOverrides"
    "section_overrides"

/-- A valid document is read as a schema that is valid too, if it can be stored. Both are warned
about at the same places exactly when the widths that the gate sees in the document fall where those
of the schema do, and every override that leads nowhere is seen by it; so they are when the document
writes the names that the gate looks for. -/
theorem places_eq_iff_of_valid {fields : Fields} (short : (Json.obj fields).IsShort)
    {report : Report} (reported : DesignToCode.validate (.obj fields) = .ok report)
    (valid : report.valid = true) :
    ∃ s, Schema.read (.obj fields) = .ok s ∧
      (s.isShallow = true → ∃ again, s.validate = .ok again ∧ again.valid = true ∧
        (again.places = report.places ↔
          descents none s.widths = descents none (writtenWidths fields) ∧
            ∀ id ∈ s.backgroundStrategy.overridden, id ∈ s.sectionIds ∨
              id ∈ writtenOverrides (fieldsOf fields "backgroundStrategy")) ∧
        (WritesNames fields → again.places = report.places)) ∧
      (s.isShallow = false → s.validate = .error (.unstorable .tooNested)) := by
  have no_errors := List.isEmpty_iff.mp valid
  obtain ⟨s, read⟩ := exists_read_of_valid reported valid
  refine ⟨s, read, fun shallow => ?_, validate_of_not_isShallow⟩
  have sound := sound_of_valid reported no_errors read
  have reported_again := validate_of_sound shallow (hasShortWidths_of_read read short) sound
  have here := places_of_valid reported no_errors read
  have there := places_stored reported_again rfl
  obtain ⟨rules_read, given⟩ := rules_of_valid reported no_errors read
  obtain ⟨background, held, background_read⟩ := exists_background_of_valid reported no_errors read
  refine ⟨_, reported_again, rfl, ?_, fun names => ?_⟩
  · have length_widths : (descents none s.widths).length = s.responsiveRules.length := by
      rw [length_descents, widths, List.filterMap_length_eq_length]
      simpa using sound.widths
    have length_written :
        (descents none (writtenWidths fields)).length = s.responsiveRules.length := by
      rw [length_descents, writtenWidths, List.filterMap_length_eq_length.mpr given,
        rules_read.length_eq]
    rw [there, here, places_inj length_widths length_written, fieldsOf_of_lookup held,
      BackgroundStrategy.overridePlaces_eq_iff background_read]
  · have widths : writtenWidths fields = s.widths :=
      ResponsiveRule.filterMap_widthOf?_of_read rules_read names.widths given
    have overrides : writtenOverrides (fieldsOf fields "backgroundStrategy") =
        s.backgroundStrategy.overridden := by
      have written := names.overrides
      rw [fieldsOf_of_lookup held] at written ⊢
      exact BackgroundStrategy.writtenOverrides_of_read background_read written
    rw [there, here, widths, overrides]

/-- A document without sections, with an override and a rule that is narrower than the one before
it. The first width and the override stand under the names given. -/
def narrowedFields (width overrides : String) : Fields := [
  ("meta", .obj [
    ("schemaVersion", .str "1.0.0"), ("inputType", .strings ["image"]),
    ("frameworkTarget", .strings ["css"]), ("confidenceLevel", .str "medium")]),
  ("sections", .arr []),
  ("components", .arr []),
  ("layoutStrategy", .obj []),
  ("backgroundStrategy", .obj [(overrides, .obj [("aside", .str "#000")])]),
  ("layering", .obj []),
  ("responsiveRules", .arr [
    .obj [("breakpoint", .str "md"), (width, .int 2000)],
    .obj [("breakpoint", .str "lg")]]),
  ("assumptions", .arr []),
  ("ambiguities", .arr [])]

/-- What it is read as, whichever names it has. -/
def narrowedSchema : Schema where
  info := { frameworkTarget := ["css"] }
  backgroundStrategy := { sectionOverrides := [("aside", "#000")] }
  responsiveRules := [{ breakpoint := "md", minWidth := some 2000 }, { breakpoint := "lg" }]

def narrowedPlaces : List (Rule × String) :=
  [(.sectionsEmpty, "sections"), (.breakpointOrder, "responsiveRules[1].breakpoint"),
    (.overrideUnknown, "backgroundStrategy.sectionOverrides.aside")]

theorem narrowedFields_written :
    ∃ report again,
      (Json.obj (narrowedFields "minWidth" "sectionOverrides")).IsShort ∧
        DesignToCode.validate (.obj (narrowedFields "minWidth" "sectionOverrides")) = .ok report ∧
        report.valid = true ∧ report.places = narrowedPlaces ∧
        Schema.read (.obj (narrowedFields "minWidth" "sectionOverrides")) = .ok narrowedSchema ∧
        narrowedSchema.validate = .ok again ∧ again.places = narrowedPlaces := by
  have short : (Json.obj (narrowedFields "minWidth" "sectionOverrides")).IsShort :=
    (Json.unwritable?_eq_none_iff.mp (by rfl)).1
  obtain ⟨report, reported, valid, places⟩ : ∃ report,
      DesignToCode.validate (.obj (narrowedFields "minWidth" "sectionOverrides")) = .ok report ∧
        report.valid = true ∧ report.places = narrowedPlaces := ⟨_, rfl, rfl, rfl⟩
  have named : Schema.read (.obj (narrowedFields "minWidth" "sectionOverrides")) =
      .ok narrowedSchema := by rfl
  have names : WritesNames (narrowedFields "minWidth" "sectionOverrides") := by
    refine ⟨fun rule member => ?_, fun _ => rfl⟩
    have one_of : Json.obj rule ∈ [Json.obj [("breakpoint", .str "md"), ("minWidth", .int 2000)],
        Json.obj [("breakpoint", .str "lg")]] := member
    simp only [List.mem_cons, Json.obj.injEq, List.not_mem_nil, or_false] at one_of
    rcases one_of with rfl | rfl
    · exact fun _ => rfl
    · exact fun long => nomatch long
  obtain ⟨s, read, stored, -⟩ := places_eq_iff_of_valid short reported valid
  obtain rfl := Reading.ok.inj (read.symm.trans named)
  obtain ⟨again, reported_again, -, -, same⟩ := stored rfl
  exact ⟨report, again, short, reported, valid, places, named, reported_again,
    (same names).trans places⟩

/-- Under the long names neither is seen in the document, but both are in the schema. -/
theorem not_forall_places_eq : ¬ ∀ (d : Json) (report : Report) (s : Schema) (again : Report),
    DesignToCode.validate d = .ok report → report.valid = true → Schema.read d = .ok s →
      s.validate = .ok again → again.places = report.places := by
  intro agree
  have reported : DesignToCode.validate (.obj (narrowedFields "min_width" "section_overrides")) =
      .ok { warnings := [noSections] } := by rfl
  have read : Schema.read (.obj (narrowedFields "min_width" "section_overrides")) =
      .ok narrowedSchema := by rfl
  obtain ⟨again, reported_again, places⟩ :
      ∃ again, narrowedSchema.validate = .ok again ∧ again.places = narrowedPlaces := ⟨_, rfl, rfl⟩
  have same := agree _ _ _ _ reported rfl read reported_again
  rw [places] at same
  cases same

end Schema

end DesignToCode
