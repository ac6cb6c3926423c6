import DesignToCode.Proofs.Schema.RoundTrip
import DesignToCode.Schema.Builder

set_option autoImplicit false

namespace DesignToCode.Builder

open Reader

variable {b : Builder}

theorem change_of_open (isOpen : b.isSealed = false) (f : Builder → Builder) :
    b.change f = .ok (f b) :=
  if_neg (Bool.eq_false_iff.mp isOpen)

theorem addAmbiguity_of_open (isOpen : b.isSealed = false) (a : Ambiguity) :
    b.addAmbiguity (.str a.type) (.str a.description) (.str a.assumption) =
      .ok (a, { b with ambiguities := b.ambiguities ++ [a] }) :=
  if_neg (Bool.eq_false_iff.mp isOpen)

/-- Texts with one more, unless it is empty or there. -/
def addText (texts : List String) (text : String) : List String :=
  if text.isEmpty || texts.contains text then texts else texts ++ [text]

theorem any_same_str (texts : List String) (text : String) :
    (texts.map Json.str).any (Json.str text).same = texts.contains text := by
  rw [List.any_map, List.contains_eq_any_beq]
  rfl

/-- An assumption counts once, and not if it is empty. -/
def noted (assumptions : List Json) (assumption : Json) : List Json :=
  if !assumption.isGiven || assumptions.any assumption.same then assumptions
  else assumptions ++ [assumption]

theorem addAssumption_noted (isOpen : b.isSealed = false) (assumption : Json) :
    b.addAssumption assumption = .ok { b with assumptions := noted b.assumptions assumption } := by
  rw [addAssumption, change_of_open isOpen, noted]
  split <;> rfl

theorem noted_str (texts : List String) (text : String) :
    noted (texts.map .str) (.str text) = (addText texts text).map .str := by
  rw [noted, any_same_str, Json.isGiven, Bool.not_not, addText]
  split
  · rfl
  · rw [List.map_append]
    rfl

theorem addAssumption_of_open (isOpen : b.isSealed = false) {texts : List String}
    (held : b.assumptions = texts.map .str) (text : String) :
    b.addAssumption (.str text) =
      .ok { b with assumptions := (addText texts text).map .str } := by
  rw [addAssumption_noted isOpen, held, noted_str]

/-- The schema that has just the parts and the policies of a builder. -/
structure MadeUpOf (b : Builder) (confidence : Confidence) (s : Schema) : Prop where
  version : s.info.schemaVersion = currentVersion
  types : s.info.inputType = b.inputTypes
  targets : s.info.frameworkTarget.map .str = b.targets
  confidence : s.info.confidenceLevel = confidence
  sections : s.sections = b.sections
  components : s.components = b.components
  layout : s.layoutStrategy = b.layoutStrategy
  background : s.backgroundStrategy = b.backgroundStrategy
  layering : s.layering = b.layering
  responsive : s.responsiveRules = b.responsiveRules
  assumptions : s.assumptions.map .str = b.assumptions
  ambiguities : s.ambiguities = b.ambiguities

/-- The schema of the parts of a builder, for texts that it was given as targets and assumptions. -/
def schemaOf (b : Builder) (confidence : Confidence) (targets assumptions : List String) :
    Schema where
  info := {
    inputType := b.inputTypes
    frameworkTarget := targets
    confidenceLevel := confidence }
  sections := b.sections
  components := b.components
  layoutStrategy := b.layoutStrategy
  backgroundStrategy := b.backgroundStrategy
  layering := b.layering
  responsiveRules := b.responsiveRules
  assumptions := assumptions
  ambiguities := b.ambiguities

theorem madeUpOf_schemaOf (confidence : Confidence) {targets assumptions : List String}
    (asked : targets.map .str = b.targets) (held : assumptions.map .str = b.assumptions) :
    MadeUpOf b confidence (b.schemaOf confidence targets assumptions) :=
  ⟨rfl, rfl, asked, rfl, rfl, rfl, rfl, rfl, rfl, rfl, held, rfl⟩

/-- A builder is built into the schema of its parts, if there is one. -/
theorem assembled_eq_ok_iff {confidence : Confidence} {s : Schema} :
    b.assembled confidence = .ok s ↔ MadeUpOf b confidence s := by
  have read {key : String} {values : List Json} {texts : List String} :
      (tuple string (.arr values)).under (.key key) = .ok texts ↔ texts.map .str = values := by
    rw [Reading.under_eq_ok_iff, tuple_string_eq_ok_iff, Json.strings, Json.arr.injEq, eq_comm]
  constructor
  · intro made
    unfold assembled at made
    cases asked : (tuple string (.arr b.targets)).under (.key "framework_target") with
    | faulty faults =>
      rw [asked] at made
      cases made
    | ok targets =>
      rw [asked, Reading.andThen] at made
      cases held : (tuple string (.arr b.assumptions)).under (.key "assumptions") with
      | faulty faults =>
        rw [held] at made
        cases made
      | ok assumptions =>
        rw [held] at made
        cases made
        exact ⟨rfl, rfl, read.mp asked, rfl, rfl, rfl, rfl, rfl, rfl, rfl, read.mp held, rfl⟩
  · intro h
    obtain ⟨⟨version, inputTypes, targets, level⟩, sections, components, layout, background,
      layering, responsive, assumptions, ambiguities⟩ := s
    obtain ⟨rfl, rfl, asked, rfl, rfl, rfl, rfl, rfl, rfl, rfl, held, rfl⟩ := h
    rw [assembled, read.mpr asked, read.mpr held]
    rfl

/-- Targets and assumptions that are texts are read as they are. -/
theorem build_of_open (isOpen : b.isSealed = false) {texts targets : List String}
    (held : b.assumptions = texts.map .str) (asked : b.targets = targets.map .str)
    (confidence : Confidence) :
    (b.build confidence).1 = .ok (b.schemaOf confidence targets texts) := by
  have made := madeUpOf_schemaOf confidence asked.symm held.symm
  rw [build, if_neg (Bool.eq_false_iff.mp isOpen), assembled_eq_ok_iff.mpr made]

end DesignToCode.Builder
