import Mathlib.Data.List.Nodup
import DesignToCode.Pipeline.Runs
import DesignToCode.Proofs.Framework.Emission
import DesignToCode.Proofs.Schema.Reread
import DesignToCode.Proofs.Schema.Valid

set_option autoImplicit false

namespace DesignToCode

namespace Framework

theorem nameOf?_of_mem {target : String} (h : target ∈ names) :
    nameOf? (.str target) = some target := by
  obtain ⟨framework, rfl⟩ := exists_of_mem_names h
  cases framework <;> rfl

/-- Supported names are asked for as they are, each once. -/
theorem request_strings {settings : RunSettings} {targets : List String} (asked : targets ≠ [])
    (supported : ∀ t ∈ targets, t ∈ names) (fallback : String) :
    request settings (.strings targets) fallback = .ok targets.eraseDups := by
  have name (t : String) (member : t ∈ targets) : nameOf? (.str t) = some t :=
    nameOf?_of_mem (supported t member)
  have found : (targets.map Json.str).filterMap nameOf? = targets :=
    Reader.filterMap_map_eq_self name
  have known : ((targets.map Json.str).filter fun entry => (nameOf? entry).isNone) = [] := by
    rw [List.filter_eq_nil_iff, List.forall_mem_map]
    intro t member
    rw [name t member]
    exact Bool.false_ne_true
  have entries : entries? (.strings targets) = .ok (targets.map Json.str) := rfl
  rw [request, entries]
  obtain ⟨first, rest, rfl⟩ := List.exists_cons_of_ne_nil asked
  rw [List.map_cons] at known found ⊢
  simp only [known, found]

end Framework

namespace Schema

/-- Some section lists a component that cannot be drawn. -/
def ListsUndrawable (s : Schema) : Prop :=
  ∃ c ∈ s.components, (∃ sec ∈ s.sections, c.id ∈ sec.components) ∧ c.IsUndrawable

/-- Some section lists a heading of infinite level, or a component that shows a value nested too
deep. -/
def ListsEndless (s : Schema) : Prop :=
  ∃ c ∈ s.components, (∃ sec ∈ s.sections, c.id ∈ sec.components) ∧ c.IsEndless

theorem listsUndrawable_iff_of_read {d : Json} {s : Schema} (read : Schema.read d = .ok s)
    (short : d.IsShort) : s.ListsUndrawable ↔ s.ListsEndless := by
  refine exists_congr fun c => and_congr_right fun member => and_congr_right fun _ => ?_
  refine Component.isUndrawable_iff_of_isShort (Json.isShort_obj_iff.mpr fun field listed => ?_)
  exact short.within (within_of_mem_attributes read member listed)

theorem lastComponent?_of_mem {s : Schema} (distinct : s.componentIds.Nodup) {c : Component}
    (member : c ∈ s.components) : s.lastComponent? c.id = some c := by
  obtain ⟨d, found⟩ := exists_lastComponent? (List.mem_map_of_mem member)
  have same : d.id = c.id := by simpa using List.find?_some found
  have listed := List.mem_reverse.mp (List.mem_of_find?_eq_some found)
  rw [found, List.inj_on_of_nodup_map distinct listed member same]

theorem Sound.drawable_iff {s : Schema} (sound : s.Sound) :
    s.Drawable ↔ ¬ s.ListsUndrawable := by
  constructor
  · rintro drawable ⟨c, member, ⟨sec, inside, named⟩, undrawable⟩
    obtain ⟨d, found, drawn⟩ := drawable sec inside c.id named
    rw [lastComponent?_of_mem sound.componentsDistinct member] at found
    cases found
    exact drawn undrawable
  · intro none sec inside id named
    obtain ⟨c, member, rfl⟩ := List.mem_map.mp (sound.references sec inside id named)
    refine ⟨c, lastComponent?_of_mem sound.componentsDistinct member, ?_⟩
    intro undrawable
    exact none ⟨c, member, ⟨sec, inside, named⟩, undrawable⟩

end Schema

variable {registry : Registry} {d : Json} {report : Report} {asked : Option (List String)}
  {options : EmitOptions}

/-- No targets, or some that are all supported. -/
def AsksSupported (asked : Option (List String)) : Prop :=
  ∀ targets ∈ asked, targets ≠ [] ∧ ∀ t ∈ targets, t ∈ Framework.names

theorem codeTargets_of_supported (supported : AsksSupported asked) :
    codeTargets (.ofOption .strings asked) = .ok (asked.map List.eraseDups) := by
  cases asked with
  | none => rfl
  | some targets =>
    obtain ⟨given, names⟩ := supported targets rfl
    have isGiven : (Json.strings targets).isGiven = true := by
      obtain ⟨first, rest, rfl⟩ := List.exists_cons_of_ne_nil given
      rfl
    simp [codeTargets, Json.ofOption, isGiven, Framework.request_strings given names]

/-- The run whose document is looked at. -/
def validatingRun : Run := ({} : Run).enter .validating

def emittingRun : Run := validatingRun.enter .emitting

/-- A document that is not valid ends the run with its errors. -/
theorem runCodeGeneration_of_invalid (supported : AsksSupported asked)
    (reported : validate d = .ok report) (invalid : report.valid = false) :
    runCodeGeneration registry (.document d) (.ofOption .strings asked) options =
      .fail validatingRun [] report.failure := by
  simp [runCodeGeneration, codeTargets_of_supported supported, SchemaGiven.validate, reported, gate,
    invalid, RunReport.stop, validatingRun]

/-- A valid document is a schema, for which the code of the targets is made. -/
theorem runCodeGeneration_of_valid (supported : AsksSupported asked)
    (reported : validate d = .ok report) (valid : report.valid = true) {schema : Schema}
    (read : Schema.read d = .ok schema) :
    runCodeGeneration registry (.document d) (.ofOption .strings asked) options =
      match emit registry schema ((asked.map List.eraseDups).getD schema.info.frameworkTarget)
        options with
      | .error failure => .fail emittingRun [] failure
      | .ok code => .complete emittingRun [] { code := some code } := by
  simp only [runCodeGeneration, codeTargets_of_supported supported, SchemaGiven.validate, reported,
    gate, valid, if_true, SchemaGiven.read, read]
  rfl

theorem wanted_of_supported {schema : Schema} (sound : schema.Sound)
    (supported : AsksSupported asked) :
    (asked.map List.eraseDups).getD schema.info.frameworkTarget ≠ [] ∧
      (∀ t ∈ (asked.map List.eraseDups).getD schema.info.frameworkTarget, t ∈ Framework.names) ∧
      ((asked.map List.eraseDups).getD schema.info.frameworkTarget).eraseDups =
        (asked.getD schema.info.frameworkTarget).eraseDups := by
  cases asked with
  | none => exact ⟨sound.targets, sound.supported, rfl⟩
  | some targets =>
    obtain ⟨given, names⟩ := supported targets rfl
    refine ⟨?_, ?_, ?_⟩
    · obtain ⟨first, rest, rfl⟩ := List.exists_cons_of_ne_nil given
      simp [List.eraseDups_cons]
    · intro t member
      exact names t (List.mem_eraseDups.mp member)
    · exact Emission.requested_of_nodup (Emission.nodup_requested targets)

theorem runCodeGeneration_of_drawable (options : EmitOptions) (supported : AsksSupported asked)
    (reported : validate d = .ok report) (valid : report.valid = true) {schema : Schema}
    (read : Schema.read d = .ok schema) (drawable : ¬ schema.ListsUndrawable) :
    ∃ code, code.map (·.1) = (asked.getD schema.info.frameworkTarget).eraseDups ∧
      runCodeGeneration .builtIn (.document d) (.ofOption .strings asked) options =
        .complete emittingRun [] { code := some code } := by
  have sound := Schema.sound_of_valid reported (List.isEmpty_iff.mp valid) read
  obtain ⟨given, names, once⟩ := wanted_of_supported sound supported
  obtain ⟨code, made, listed⟩ :=
    Emission.emit_of_drawable options given names (sound.drawable_iff.mpr drawable)
  refine ⟨code, listed.trans once, ?_⟩
  rw [runCodeGeneration_of_valid supported reported valid read, made]

theorem runCodeGeneration_of_undrawable (options : EmitOptions) (supported : AsksSupported asked)
    (reported : validate d = .ok report) (valid : report.valid = true) {schema : Schema}
    (read : Schema.read d = .ok schema) (undrawable : schema.ListsUndrawable) :
    ∃ target,
      runCodeGeneration .builtIn (.document d) (.ofOption .strings asked) options =
        .fail emittingRun [] (Emission.failed target) := by
  have sound := Schema.sound_of_valid reported (List.isEmpty_iff.mp valid) read
  obtain ⟨given, names, -⟩ := wanted_of_supported sound supported
  obtain ⟨target, -, told⟩ := Emission.emit_of_not_drawable options given names
    fun drawable => sound.drawable_iff.mp drawable undrawable
  refine ⟨target, ?_⟩
  rw [runCodeGeneration_of_valid supported reported valid read, told]

/-- A run for supported targets. An invalid document fails with the errors of its report. A valid
one fails where a section lists a component that cannot be drawn. Without whole numbers of too many
digits, those are the headings of infinite level and the components that show a value nested too
deep: the run is completed for the valid documents alone, and for all of them but those. -/
theorem runCodeGeneration_completed_iff (reported : validate d = .ok report)
    (supported : AsksSupported asked) {run : RunReport}
    (made : runCodeGeneration .builtIn (.document d) (.ofOption .strings asked) options = run) :
    (report.valid = false →
      run = .fail validatingRun [] report.failure ∧ report.failure.kind = .validation ∧
        report.failure.details.lookup "errors" = some (.list Issue.toJson report.errors)) ∧
    (report.valid = true → ∃ schema, Schema.read d = .ok schema ∧
      (schema.ListsUndrawable →
        ∃ target, run = .fail emittingRun [] (Emission.failed target)) ∧
      (d.IsShort → ¬ schema.ListsEndless →
        ∃ code, code.map (·.1) = (asked.getD schema.info.frameworkTarget).eraseDups ∧
          run = .complete emittingRun [] { code := some code })) ∧
    (d.IsShort → (((∃ data, run.outcome = .completed data) ↔ report.valid = true) ↔
      ∀ schema, report.valid = true → Schema.read d = .ok schema → ¬ schema.ListsEndless)) := by
  subst made
  refine ⟨?invalid, ?valid, ?both⟩
  case invalid =>
    intro invalid
    exact ⟨runCodeGeneration_of_invalid supported reported invalid, rfl, rfl⟩
  case valid =>
    intro valid
    obtain ⟨schema, read⟩ := exists_read_of_valid reported valid
    refine ⟨schema, read, runCodeGeneration_of_undrawable options supported reported valid read, ?_⟩
    intro short
    rw [← Schema.listsUndrawable_iff_of_read read short]
    exact runCodeGeneration_of_drawable options supported reported valid read
  case both =>
    intro short
    cases valid : report.valid with
    | false =>
      rw [runCodeGeneration_of_invalid supported reported valid]
      simp [RunReport.fail]
    | true =>
      obtain ⟨schema, read⟩ := exists_read_of_valid reported valid
      have same := Schema.listsUndrawable_iff_of_read read short
      by_cases undrawable : schema.ListsUndrawable
      · obtain ⟨target, told⟩ :=
          runCodeGeneration_of_undrawable options supported reported valid read undrawable
        simp [told, RunReport.fail, read, ← same, undrawable]
      · obtain ⟨code, -, ended⟩ :=
          runCodeGeneration_of_drawable options supported reported valid read undrawable
        simp [ended, RunReport.complete, read, ← same, undrawable]

/-- A page with one section that lists one heading, of the third level. -/
def titledPage : Schema where
  sections := [{ id := "top", name := "Top", type := "section", components := ["title"] }]
  components := [
    { id := "title", name := "Title", type := "heading", attributes := [("level", .int 3)] }]

theorem titledPage_completed :
    titledPage.wire.IsShort ∧ ∃ code, code.map (·.1) = ["css"] ∧
      runCodeGeneration .builtIn (.document titledPage.wire) (.ofOption .strings (some ["css"]))
          {} =
        .complete emittingRun [] { code := some code } := by
  have short : titledPage.wire.IsShort := (Json.unwritable?_eq_none_iff.mp rfl).1
  have reported : validate titledPage.wire = .ok {} := by rfl
  have supported : AsksSupported (some ["css"]) := by
    rintro _ ⟨⟩
    decide
  obtain ⟨schema, read, -, completed⟩ :=
    (runCodeGeneration_completed_iff reported supported rfl).2.1 rfl
  obtain rfl : titledPage = schema := Reading.ok.inj (titledPage.read_wire.symm.trans read)
  refine ⟨short, completed short ?_⟩
  rintro ⟨c, member, -, ⟨-, negative, level⟩ | ⟨v, shown, -⟩⟩
  · obtain rfl := List.mem_singleton.mp member
    cases level
  · obtain rfl := List.mem_singleton.mp member
    cases shown

/-- The same page with a heading whose level is an infinite number, as it is read from a numeral
that is too large. -/
def endlessPage : Json :=
  .obj (Fields.put titledPage.stored "components" (.arr [.obj [
    ("id", .str "title"), ("name", .str "Title"), ("type", .str "heading"),
    ("attributes", .obj [("level", .real (.infinite false))])]]))

/-- A document without errors may still end without code. -/
theorem not_forall_valid_completed :
    ¬ ∀ (d : Json) (report : Report) (asked : Option (List String)) (options : EmitOptions),
      validate d = .ok report → AsksSupported asked →
        ((∃ data, (runCodeGeneration .builtIn (.document d) (.ofOption .strings asked)
          options).outcome = .completed data) ↔ report.valid = true) := by
  intro always
  have reported : validate endlessPage = .ok {} := by rfl
  obtain ⟨data, completed⟩ := (always endlessPage {} none {} reported fun _ none => by
    cases none).mpr rfl
  have failed : (runCodeGeneration .builtIn (.document endlessPage) .null {}).outcome =
      .failed (Emission.failed "tailwind") := by rfl
  cases failed.symm.trans completed

end DesignToCode
