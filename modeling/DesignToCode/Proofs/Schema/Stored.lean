import DesignToCode.Proofs.Schema.Seen
import DesignToCode.Proofs.Schema.Shown

set_option autoImplicit false

namespace DesignToCode

open Validation Report

/-- The fields of a section, a component and a rule in stored form. -/
theorem idOf?_toJson_component (c : Component) :
    idOf? c.toJson = if c.id.isEmpty then none else some c.id := rfl

theorem idOf?_toJson_section (s : Section) :
    idOf? (s.toJson .omitted) = if s.id.isEmpty then none else some s.id := rfl

/-- Ids that are all given are found as they stand. -/
theorem ids_map {α : Type} {write : α → Json} {id : α → String}
    (found : ∀ a, idOf? (write a) = if (id a).isEmpty then none else some (id a)) {as : List α}
    (given : "" ∉ as.map id) : ids (as.map write) = as.map id := by
  induction as with
  | nil => rfl
  | cons a rest ih =>
    rw [List.map_cons, List.mem_cons, not_or] at given
    have filled : (id a).isEmpty = false := by
      rw [Bool.eq_false_iff, ne_eq, String.isEmpty_iff]
      intro empty
      exact given.1 empty.symm
    rw [List.map_cons, ids_cons, found, filled, ih given.2]
    rfl

/-- What a section in stored form names is what it holds. -/
theorem referencedBy_toJson (s : Section) : referencedBy (s.toJson .omitted) = s.components :=
  Section.referencedBy_of_read (s.read_toJson .omitted)

theorem isSection_toJson {known : List String} {s : Section} (given : s.id ≠ "")
    (references : ∀ id ∈ s.components, id ∈ known) : IsSection known (s.toJson .omitted) := by
  refine ⟨_, rfl, ?_, ?_, ?_⟩
  · show (idOf? (s.toJson .omitted)).isSome = true
    rw [idOf?_toJson_section]
    simp [given]
  · show isLayout (.str s.layout.name) = true
    cases s.layout <;> rfl
  · intro v held
    cases held
    refine ⟨_, rfl, fun ref member => ?_⟩
    obtain ⟨id, listed, rfl⟩ := List.mem_map.mp member
    exact ⟨id, references id listed, rfl⟩

theorem width?_toJson {r : ResponsiveRule} {fields : Fields}
    (stored : r.toJson .omitted = .obj fields) :
    width? fields = r.resolvedMinWidth.map fun w => ⟨w, .int w⟩ := by
  obtain ⟨breakpoint, minWidth, rules⟩ := r
  cases stored
  cases minWidth with
  | some width => rfl
  | none =>
    show (do let w ← breakpoints.lookup breakpoint; pure (w : Int)).map _ =
      (breakpoints.lookup breakpoint).map _
    cases breakpoints.lookup breakpoint <;> rfl

theorem widthOf?_toJson (r : ResponsiveRule) :
    widthOf? (r.toJson .omitted) = r.resolvedMinWidth.map fun w : Nat => (w : Int) := by
  show (width? _).map (·.value) = _
  rw [width?_toJson rfl, Option.map_map]
  rfl

/-- A rule that is narrower than the one before it, at its position. -/
def narrowing (previous : Option Nat) (i : Nat) (r : ResponsiveRule) : List Issue :=
  match previous, r.resolvedMinWidth with
  | some before, some width =>
    if width < before then
      [⟨.breakpointOrder, s!"responsiveRules[{i}].breakpoint",
        s!"breakpoint {(Json.str r.breakpoint).shown} ({width}px) " ++
          "follows a wider breakpoint; later rules win in emitted CSS"⟩]
    else []
  | _, _ => []

/-- Every rule that is narrower than the one just before it, in order. -/
def narrowings (rules : List ResponsiveRule) : List Issue :=
  ((rules.zip rules.tail).zipIdx 1).flatMap fun pair =>
    narrowing pair.1.1.resolvedMinWidth pair.2 pair.1.2

variable {known : List String} {r : ResponsiveRule}

theorem errors_ruleWidth_toJson_eq_nil_iff {previous : Option Int} {i : Nat} {fields : Fields}
    (stored : r.toJson .omitted = .obj fields) :
    (ruleWidth previous i fields).errors = [] ↔ r.resolvedMinWidth.isSome = true := by
  rw [ruleWidth, width?_toJson stored]
  cases r.resolvedMinWidth with
  | none => simp
  | some width =>
    cases previous with
    | none => simp
    | some before =>
      simp only [Option.map_some]
      split <;> simp

theorem changes_toJson {i : Nat} {fields : Fields} (stored : r.toJson .omitted = .obj fields) :
    changes known i fields = r.changesReport known i := by
  have read := r.read_toJson .omitted
  rw [stored] at read
  exact ResponsiveRule.changes_of_read read

theorem errors_changes_toJson {i : Nat} {fields : Fields}
    (stored : r.toJson .omitted = .obj fields) : (changes known i fields).errors = [] := by
  rw [changes_toJson stored, ResponsiveRule.changesReport]
  apply isPart_errors.each_eq_nil
  intro j v member
  obtain ⟨c, -, rfl⟩ := List.mem_map.mp member
  have target : targetOf? (c.toJson .omitted) = some c.target := rfl
  rw [change, target]
  dsimp only
  split <;> rfl

theorem errors_ruleAt_toJson_eq_nil_iff {previous : Option Int} {i : Nat} :
    (ruleAt known previous i (r.toJson .omitted)).errors = [] ↔
      r.resolvedMinWidth.isSome = true := by
  show (ruleWidth previous i _ ++ changes known i _).errors = [] ↔ _
  rw [errors_append, errors_changes_toJson rfl, List.append_nil,
    errors_ruleWidth_toJson_eq_nil_iff rfl]

theorem errors_rulesFrom_toJson_eq_nil_iff {previous : Option Int} {i : Nat}
    {rules : List ResponsiveRule} :
    (rulesFrom known previous i (rules.map (ResponsiveRule.toJson .omitted))).errors = [] ↔
      ∀ r ∈ rules, r.resolvedMinWidth.isSome = true := by
  induction rules generalizing previous i with
  | nil => simp [rulesFrom]
  | cons r rest ih =>
    rw [List.map_cons, rulesFrom_cons, errors_append, List.append_eq_nil_iff,
      errors_ruleAt_toJson_eq_nil_iff, ih, List.forall_mem_cons]

namespace SchemaMeta

/-- The fields of the stored form. -/
def stored (m : SchemaMeta) : Fields :=
  match m.toJson with
  | .obj fields => fields
  | _ => []

theorem versionOf_stored {m : SchemaMeta} {v : Version}
    (parsed : Version.parse m.schemaVersion = .ok (some v)) (supported : v.major = supportedMajor) :
    versionOf m.stored = .ok {} := by
  show (Version.parse m.schemaVersion).map _ = _
  simp [parsed, Except.map, supported]

theorem inputTypes_stored {m : SchemaMeta} (given : m.inputType ≠ []) :
    inputTypes m.stored = {} := by
  have values : m.inputType.map (fun t => Json.str t.name) ≠ [] := by simpa using given
  rw [inputTypes_of_lookup rfl values]
  apply each_eq_empty
  intro i v member
  obtain ⟨t, -, rfl⟩ := List.mem_map.mp member
  cases t <;> rfl

theorem targets_stored {m : SchemaMeta} (given : m.frameworkTarget ≠ []) :
    targets m.stored = targetsFrom [] 0 (m.frameworkTarget.map .str) :=
  targets_of_lookup rfl (by simpa using given)

theorem confidence_stored (m : SchemaMeta) : confidence m.stored = {} := by
  show (if isConfidence (.str m.confidenceLevel.name) then _ else _) = _
  cases m.confidenceLevel <;> rfl

end SchemaMeta

namespace Schema

/-- What the gate asks of a schema beyond its types. -/
structure Sound (s : Schema) : Prop where
  version : ∃ v, Version.parse s.info.schemaVersion = .ok (some v) ∧ v.major = supportedMajor
  inputs : s.info.inputType ≠ []
  targets : s.info.frameworkTarget ≠ []
  supported : ∀ t ∈ s.info.frameworkTarget, t ∈ Framework.names
  sectionsGiven : "" ∉ s.sectionIds
  sectionsDistinct : s.sectionIds.Nodup
  componentsGiven : "" ∉ s.componentIds
  componentsDistinct : s.componentIds.Nodup
  references : ∀ sec ∈ s.sections, ∀ id ∈ sec.components, id ∈ s.componentIds
  widths : ∀ r ∈ s.responsiveRules, r.resolvedMinWidth.isSome = true

/-- The fields of the stored form. -/
def stored (s : Schema) : Fields :=
  match s.wire with
  | .obj fields => fields
  | _ => []

theorem ids_sections {s : Schema} (given : "" ∉ s.sectionIds) :
    ids (itemsOf s.stored "sections") = s.sectionIds :=
  ids_map idOf?_toJson_section given

theorem ids_components {s : Schema} (given : "" ∉ s.componentIds) :
    ids (itemsOf s.stored "components") = s.componentIds :=
  ids_map idOf?_toJson_component given

theorem info_stored {s : Schema} (sound : s.Sound) :
    Validation.info s.stored = .ok (targetsFrom [] 0 (s.info.frameworkTarget.map .str)) := by
  obtain ⟨v, parsed, supported⟩ := sound.version
  show (versionOf s.info.stored).map (fun version => missingInfo s.info.stored ++ version ++
    inputTypes s.info.stored ++ Validation.targets s.info.stored ++ confidence s.info.stored) = _
  have missing : missingInfo s.info.stored = {} := rfl
  rw [SchemaMeta.versionOf_stored parsed supported, SchemaMeta.inputTypes_stored sound.inputs,
    SchemaMeta.targets_stored sound.targets, SchemaMeta.confidence_stored, missing]
  simp only [Except.map, empty_append, append_empty]

/-- Sections that are sound are never at fault; of a schema without any that is told. -/
theorem errors_sections_stored {s : Schema} (sound : s.Sound) :
    (Validation.sections s.stored).errors = [] := by
  show (_ ++ unreferenced _ _ : Report).errors = []
  rw [errors_append, errors_unreferenced, List.append_nil]
  split
  · rfl
  · show (sectionsFrom (ids (itemsOf s.stored "components")) [] 0
      (s.sections.map (Section.toJson .omitted))).errors = []
    rw [errors_sectionsFrom_eq_nil_iff, ids_components sound.componentsGiven]
    have ids : ids (s.sections.map (Section.toJson .omitted)) = s.sectionIds :=
      ids_sections sound.sectionsGiven
    refine ⟨?_, ids ▸ sound.sectionsDistinct, fun id _ => List.not_mem_nil⟩
    intro v member
    obtain ⟨sec, listed, rfl⟩ := List.mem_map.mp member
    have given : sec.id ≠ "" := by
      intro empty
      exact sound.sectionsGiven (empty ▸ List.mem_map_of_mem listed)
    exact isSection_toJson given (sound.references sec listed)

def noSections : Issue :=
  ⟨.sectionsEmpty, "sections", "schema has no sections; emitted markup will be empty"⟩

/-- The sections are warned about when there are none, and every component that none of them
names. -/
theorem warnings_sections {fields : Fields} {items : List Json}
    (held : fields.lookup "sections" = some (.arr items)) :
    (Validation.sections fields).warnings =
      (if items.isEmpty then [noSections] else []) ++
        ((ids (itemsOf fields "components")).filter fun id =>
          !(items.flatMap referencedBy).contains id).map unreferencedIssue := by
  simp only [Validation.sections, held, warnings_append, warnings_unreferenced]
  congr 1
  cases items with
  | nil => rfl
  | cons first rest => exact warnings_sectionsFrom _ _ _ _

theorem warnings_sections_stored {s : Schema} (given : "" ∉ s.componentIds) :
    (Validation.sections s.stored).warnings =
      (if s.sections.isEmpty then [noSections] else []) ++
        (s.componentIds.filter fun id =>
          !(s.sections.flatMap (·.components)).contains id).map unreferencedIssue := by
  have held : s.stored.lookup "sections" =
      some (.arr (s.sections.map (Section.toJson .omitted))) := rfl
  rw [warnings_sections held, ids_components given, List.flatMap_map, List.isEmpty_map]
  simp only [referencedBy_toJson]

theorem warnings_layers_stored_eq_nil_iff {s : Schema} {known : List String} :
    (layers known s.stored).warnings = [] ↔ ∀ l ∈ s.layering.layers, l.target ∈ known := by
  rw [warnings_layers_eq_nil_iff rfl]
  show (∀ v ∈ s.layering.layers.map LayerRule.toJson, _) ↔ _
  rw [List.forall_mem_map]
  refine forall₂_congr fun l _ => ?_
  constructor
  · rintro ⟨name, member, same⟩
    cases same
    exact member
  · intro member
    exact ⟨l.target, member, rfl⟩

theorem lookup_sectionOverrides {b : BackgroundStrategy} {fields : Fields}
    (stored : b.toJson .omitted = .obj fields) :
    fields.lookup "sectionOverrides" =
      some (.obj (b.sectionOverrides.map fun entry => (entry.1, .str entry.2))) := by
  have distinct : ["type", "color", "gradientFrom", "gradientTo", "gradientDirection", "imageUrl",
    "sectionOverrides"].Nodup := by decide
  cases stored
  rw [lookup_filterMap_field?]
  · rfl
  · exact distinct

theorem assumptions_stored (s : Schema) :
    each assumption 0 (itemsOf s.stored "assumptions") = {} := by
  apply each_eq_empty
  intro i v member
  obtain ⟨text, -, rfl⟩ := List.mem_map.mp member
  rfl

theorem ambiguities_stored (s : Schema) :
    each ambiguity 0 (itemsOf s.stored "ambiguities") = {} := by
  apply each_eq_empty
  intro i v member
  obtain ⟨a, -, rfl⟩ := List.mem_map.mp member
  rfl

/-- No width that a rule gives has too many digits to be written. -/
def HasShortWidths (s : Schema) : Prop :=
  ∀ r ∈ s.responsiveRules, ∀ width ∈ r.minWidth, Numeral.isWritable width = true

theorem isWritable_resolvedMinWidth {s : Schema} (short : s.HasShortWidths) {r : ResponsiveRule}
    (member : r ∈ s.responsiveRules) {width : Nat} (resolved : r.resolvedMinWidth = some width) :
    Numeral.isWritable width = true := by
  unfold ResponsiveRule.resolvedMinWidth at resolved
  split at resolved
  · rename_i given
    cases resolved
    exact short r member width given
  · have named : ∀ entry ∈ breakpoints, Numeral.isWritable entry.2 = true := by decide
    exact named _ (Fields.mem_of_lookup resolved)

/-- What messages about the width of a rule show, next to a rule of another width. -/
def shownOfRule (previous : Option Int) (r : ResponsiveRule) : List Json :=
  match r.resolvedMinWidth with
  | none => [.str r.breakpoint]
  | some width =>
    if previous.any ((width : Int) < ·) then [.str r.breakpoint, .int width] else []

theorem shownRules_toJson_cons (previous : Option Int) (r : ResponsiveRule) (rest : List Json) :
    shownRules previous (r.toJson .omitted :: rest) = shownOfRule previous r ++
      shownRules ((r.resolvedMinWidth.map fun w : Nat => (w : Int)).or previous) rest := by
  obtain ⟨fields, stored⟩ : ∃ fields, r.toJson .omitted = .obj fields := ⟨_, rfl⟩
  have breakpoint : breakpointOf fields = .str r.breakpoint := by
    cases stored
    rfl
  rw [stored, shownRules, shownRule, width?_toJson stored, breakpoint, shownOfRule]
  cases r.resolvedMinWidth <;> rfl

/-- Messages about rules show their labels and widths alone. -/
theorem shownRules_toJson_congr {previous : Option Int} {rules others : List ResponsiveRule}
    (same : List.Forall₂ (fun r other => other.breakpoint = r.breakpoint ∧
      other.resolvedMinWidth = r.resolvedMinWidth) rules others) :
    shownRules previous (others.map (ResponsiveRule.toJson .omitted)) =
      shownRules previous (rules.map (ResponsiveRule.toJson .omitted)) := by
  induction same generalizing previous with
  | nil => rfl
  | cons same _ ih =>
    obtain ⟨breakpoint, width⟩ := same
    rw [List.map_cons, List.map_cons, shownRules_toJson_cons, shownRules_toJson_cons, shownOfRule,
      shownOfRule, breakpoint, width, ih]

theorem writable_shownRules_toJson {previous : Option Int} {rules : List ResponsiveRule}
    (short : ∀ r ∈ rules, ∀ width : Nat, r.resolvedMinWidth = some width →
      Numeral.isWritable width = true) :
    ∀ v ∈ shownRules previous (rules.map (ResponsiveRule.toJson .omitted)),
      v.unwritable? = none := by
  induction rules generalizing previous with
  | nil => exact fun v none => absurd none List.not_mem_nil
  | cons r rest ih =>
    intro v member
    rw [List.map_cons, shownRules_toJson_cons] at member
    rcases List.mem_append.mp member with here | behind
    · unfold shownOfRule at here
      split at here
      · rw [List.mem_singleton.mp here, Json.unwritable?_str]
      · rename_i width resolved
        have writable := short r List.mem_cons_self width resolved
        split at here
        · rcases List.mem_pair.mp here with rfl | rfl
          · exact Json.unwritable?_str _
          · exact Json.unwritable?_int_eq_none_iff.mpr writable
        · cases here
    · exact ih (fun s later => short s (List.mem_cons_of_mem r later)) v behind

theorem writable_shownSection_toJson {known : List String} {sec : Section} :
    ∀ v ∈ shownSection known (sec.toJson .omitted), v.unwritable? = none := by
  intro v member
  rcases List.mem_append.mp member with layout | owner
  · rw [List.mem_singleton.mp (List.mem_of_mem_filter layout)]
    exact Json.unwritable?_str sec.layout.name
  · obtain ⟨_, -, rfl⟩ := List.mem_map.mp owner
    exact Json.unwritable?_str sec.id

/-- What stands in the way of the messages about a schema, if anything does. -/
def unshown? (s : Schema) : Option Json.Unwritable :=
  (shownRules none (s.responsiveRules.map (ResponsiveRule.toJson .omitted))).findSome?
    Json.unwritable?

theorem unshown?_eq_none {s : Schema} (short : s.HasShortWidths) : s.unshown? = none := by
  refine List.findSome?_eq_none_iff.mpr ?_
  refine writable_shownRules_toJson fun r member width resolved => ?_
  exact isWritable_resolvedMinWidth short member resolved

theorem writable_shownInfo_stored {s : Schema} :
    ∀ v ∈ shownInfo s.info.stored, v.unwritable? = none := by
  intro v member
  have version : s.info.stored.lookup "schemaVersion" = some (.str s.info.schemaVersion) := rfl
  have confidence : s.info.stored.lookup "confidenceLevel" =
    some (.str s.info.confidenceLevel.name) := rfl
  have string {text : String} {passes : Json → Bool}
      (held : v ∈ ((some (Json.str text)).filter passes).toList) : v.unwritable? = none := by
    obtain ⟨same, -⟩ := Option.filter_eq_some_iff.mp (Option.mem_toList.mp held)
    rw [← Option.some.inj same, Json.unwritable?_str]
  rw [shownInfo, version, confidence] at member
  rcases List.mem_append.mp member with version | confidence
  · exact string version
  · exact string confidence

theorem writable_shownLayer_toJson {known : List String} {l : LayerRule} :
    ∀ v ∈ shownLayer known l.toJson, v.unwritable? = none := by
  intro v member
  unfold shownLayer at member
  split at member
  · cases member
  · rw [List.mem_singleton.mp member]
    exact Json.unwritable?_str l.target

/-- Only the width of a rule can stand in the way of a message about a schema. -/
theorem findSome?_shown_stored (s : Schema) :
    (shownValues s.stored).findSome? Json.unwritable? = s.unshown? := by
  have info : (shownInfo (fieldsOf s.stored "meta")).findSome? Json.unwritable? = none :=
    List.findSome?_eq_none_iff.mpr writable_shownInfo_stored
  have sections (known : List String) : ((itemsOf s.stored "sections").flatMap
      (shownSection known)).findSome? Json.unwritable? = none := by
    refine List.findSome?_eq_none_iff.mpr (List.forall_mem_flatMap.mpr ?_)
    exact List.forall_mem_map.mpr fun sec _ => writable_shownSection_toJson
  have layers (known : List String) : ((itemsOf (fieldsOf s.stored "layering") "layers").flatMap
      (shownLayer known)).findSome? Json.unwritable? = none := by
    refine List.findSome?_eq_none_iff.mpr (List.forall_mem_flatMap.mpr ?_)
    exact List.forall_mem_map.mpr fun l _ => writable_shownLayer_toJson
  simp only [shownValues, List.findSome?_append, info, sections, layers, Option.none_or,
    Option.or_none]
  rfl

theorem wire_eq (s : Schema) : s.wire = .obj s.stored := rfl

/-- The warnings about a schema in stored form: those of its targets, its sections, its rules, its
layers and its overrides in turn. -/
def warned (s : Schema) : List Issue :=
  (targetsFrom [] 0 (s.info.frameworkTarget.map .str)).warnings ++
    (Validation.sections s.stored).warnings ++
    (rulesFrom s.sectionIds none 0
      (s.responsiveRules.map (ResponsiveRule.toJson .omitted))).warnings ++
    (layers (s.sectionIds ++ s.componentIds) s.stored).warnings ++
    (overrides s.sectionIds s.stored).warnings

theorem errors_components_stored {s : Schema} (sound : s.Sound) :
    (componentsFrom [] 0 (itemsOf s.stored "components")).errors = [] := by
  rw [errors_componentsFrom_eq_nil_iff, ids_components sound.componentsGiven]
  refine ⟨?_, sound.componentsDistinct, fun id _ => List.not_mem_nil⟩
  intro v member
  obtain ⟨c, listed, rfl⟩ := List.mem_map.mp member
  have given : c.id ≠ "" := by
    intro empty
    exact sound.componentsGiven (empty ▸ List.mem_map_of_mem listed)
  rw [idOf?_toJson_component]
  simp [given]

theorem errors_gathered_stored {s : Schema} (sound : s.Sound) :
    (gathered s.stored (targetsFrom [] 0 (s.info.frameworkTarget.map .str))).errors = [] := by
  have targets : (targetsFrom [] 0 (s.info.frameworkTarget.map .str)).errors = [] := by
    rw [errors_targetsFrom_eq_nil_iff, List.forall_mem_map]
    intro t member
    exact ⟨t, sound.supported t member, rfl⟩
  rw [errors_gathered_eq_nil_iff]
  refine ⟨rfl, targets, errors_components_stored sound, errors_sections_stored sound, ?_, ?_, ?_⟩
  · rw [assumptions_stored]
  · rw [ambiguities_stored]
  · exact errors_rulesFrom_toJson_eq_nil_iff.mpr sound.widths

/-- Nothing but warnings is found in a schema that is sound, if all messages about it can be
written. -/
theorem validate_wire_of_sound {s : Schema} (sound : s.Sound) :
    (s.unshown? = none → DesignToCode.validate s.wire = .ok { warnings := s.warned }) ∧
      ∀ why, s.unshown? = some why → DesignToCode.validate s.wire = .error (.unwritable why) := by
  have valid := errors_gathered_stored sound
  have broken : (gathered s.stored
      (targetsFrom [] 0 (s.info.frameworkTarget.map .str))).broken = s.unshown? :=
    (shows_gathered (info_stored sound)).trans (findSome?_shown_stored s)
  refine ⟨fun none => ?_, fun why some => ?_⟩
  · have whole := broken.trans none
    have report := (validate_eq_ok_iff_of_valid valid).mpr
      ⟨s.stored, _, s.finite, rfl, info_stored sound, s.read_wire, rfl, whole⟩
    refine report.trans (congrArg Except.ok (Report.ext valid ?_ whole))
    rw [warnings_gathered, ids_components sound.componentsGiven, ids_sections sound.sectionsGiven]
    rfl
  · exact validate_obj_eq_error_iff.mpr
      (.inr ⟨_, why, info_stored sound, broken.trans some, rfl⟩)

theorem validate_of_isShallow {s : Schema} (shallow : s.isShallow = true) :
    s.validate = DesignToCode.validate s.wire := by
  rw [validate, toWire_of_isShallow shallow]
  rfl

theorem validate_of_not_isShallow {s : Schema} (deep : s.isShallow = false) :
    s.validate = .error (.unstorable .tooNested) := by
  rw [validate, toWire_of_not_isShallow deep]
  rfl

theorem validate_of_sound {s : Schema} (shallow : s.isShallow = true) (short : s.HasShortWidths)
    (sound : s.Sound) : s.validate = .ok { warnings := s.warned } := by
  rw [validate_of_isShallow shallow, (validate_wire_of_sound sound).1 (unshown?_eq_none short)]

/-- Every target is listed once, and every target of a change, a layer or an override leads
somewhere. -/
structure Settled (s : Schema) : Prop where
  targets : s.info.frameworkTarget.Nodup
  changes : ∀ r ∈ s.responsiveRules, ∀ c ∈ r.rules,
    c.target = everySection ∨ c.target ∈ s.sectionIds
  layers : ∀ l ∈ s.layering.layers, l.target ∈ s.sectionIds ++ s.componentIds
  overrides : ∀ entry ∈ s.backgroundStrategy.sectionOverrides, entry.1 ∈ s.sectionIds

end Schema

end DesignToCode
