import Mathlib.Data.List.Chain
import DesignToCode.Proofs.Framework.WideGrids
import DesignToCode.Proofs.Schema.Warnings

set_option autoImplicit false

namespace DesignToCode

/-- The widths of the blocks do not fall from one to the next. -/
def StyleSheet.Ascends (s : StyleSheet) : Prop := (s.media.map (·.minWidth)).Pairwise (· ≤ ·)

/-- No width is smaller than the one before it exactly if none is smaller than any before it. -/
theorem true_notMem_descents_iff {previous : Option Int} {widths : List Int} :
    true ∉ descents previous widths ↔ (previous.toList ++ widths).Pairwise (· ≤ ·) := by
  rw [← List.isChain_iff_pairwise]
  induction widths generalizing previous with
  | nil => cases previous <;> simp [descents]
  | cons width rest ih =>
    rw [descents, List.mem_cons, not_or, ih]
    cases previous with
    | none => simp
    | some before => simp

theorem breakpointOrder_mem_rulePlaces_iff {known : List String} {i : Nat} {narrower : List Bool}
    {rules : List ResponsiveRule} (length : narrower.length = rules.length) :
    (∃ place ∈ rulePlaces known i (narrower.zip rules), place.1 = .breakpointOrder) ↔
      true ∈ narrower := by
  induction rules generalizing narrower i with
  | nil => simp [List.length_eq_zero_iff.mp length, rulePlaces]
  | cons r rest ih =>
    obtain ⟨first, later, rfl⟩ := List.exists_cons_of_length_eq_add_one length
    have other : ¬ ∃ place ∈ (r.changesReport known i).places, place.1 = .breakpointOrder := by
      rintro ⟨place, member, order⟩
      cases (r.rule_of_mem_changesReport member).symm.trans order
    rw [List.zip_cons_cons, rulePlaces]
    simp only [List.mem_append, or_and_right, exists_or, ih (Nat.succ.inj length), other, or_false,
      List.mem_cons]
    refine or_congr_left ?_
    cases first <;> simp

namespace Schema

variable {s : Schema} {report : Report}

theorem length_widths (sound : s.Sound) : s.widths.length = s.responsiveRules.length := by
  rw [widths, List.filterMap_length_eq_length]
  simpa using sound.widths

/-- The gate is silent about the order of the rules exactly if their widths do not fall. -/
theorem order_unwarned_iff (reported : s.validate = .ok report) (valid : report.valid = true) :
    (∀ issue ∈ report.warnings, issue.rule ≠ .breakpointOrder) ↔ s.widths.Pairwise (· ≤ ·) := by
  have sound := sound_of_reported reported valid
  have told := places_stored reported (List.isEmpty_iff.mp valid)
  have length : (descents none s.widths).length = s.responsiveRules.length := by
    rw [length_descents, length_widths sound]
  have ascending : true ∉ descents none s.widths ↔ s.widths.Pairwise (· ≤ ·) :=
    true_notMem_descents_iff
  have told_of : (∃ place ∈ rulePlaces s.sectionIds 0
      ((descents none s.widths).zip s.responsiveRules), place.1 = .breakpointOrder) ↔
        true ∈ descents none s.widths := breakpointOrder_mem_rulePlaces_iff length
  rw [← ascending, ← told_of]
  constructor
  · rintro silent ⟨place, member, order⟩
    have inside : place ∈ report.places := by
      rw [told, places]
      exact List.mem_append_left _ (List.mem_append_left _ (List.mem_append_right _ member))
    obtain ⟨issue, listed, same⟩ := List.mem_map.mp inside
    exact silent issue listed ((congrArg Prod.fst same).trans order)
  · intro silent issue listed order
    have inside : issue.place ∈ report.places := List.mem_map_of_mem listed
    have rule : issue.place.1 = .breakpointOrder := order
    rw [told] at inside
    rcases part_of_mem_places sound.componentsGiven inside with other | responsive | layer
    · rw [rule] at other
      exact absurd other (by decide)
    · exact silent ⟨_, responsive, rule⟩
    · cases (rule_of_mem_layers layer).symm.trans rule

theorem minWidth_of_mediaBlock? {classOf : Section → String} {rule : ResponsiveRule}
    {m : MediaBlock} (built : s.mediaBlock? classOf rule = some m) :
    rule.resolvedMinWidth.map (fun w : Nat => (w : Int)) = some m.minWidth := by
  unfold mediaBlock? at built
  split at built
  · cases built
  · rename_i width resolved
    dsimp only at built
    split at built
    · cases built
    · cases built
      rw [resolved]
      rfl

/-- The rules before another one are no wider. -/
theorem pairwise_rules (ascending : s.widths.Pairwise (· ≤ ·)) :
    s.responsiveRules.Pairwise fun rule later => ∀ v w : Nat,
      rule.resolvedMinWidth = some v → later.resolvedMinWidth = some w → v ≤ w := by
  refine (List.pairwise_filterMap.mp ascending).imp ?_
  intro rule later ordered v w first second
  have cast := ordered v (by rw [first]; rfl) w (by rw [second]; rfl)
  omega

theorem styleSheet_ascends (ascending : s.widths.Pairwise (· ≤ ·)) (classOf : Section → String)
    (root : String) (comments : Bool) : (s.styleSheet classOf root comments).Ascends := by
  rw [StyleSheet.Ascends, List.pairwise_map]
  refine (pairwise_rules ascending).filterMap (s.mediaBlock? classOf) ?_
  intro rule later ordered m built n built_later
  obtain ⟨v, first, width⟩ := Option.map_eq_some_iff.mp (minWidth_of_mediaBlock? built)
  obtain ⟨w, second, width_later⟩ := Option.map_eq_some_iff.mp (minWidth_of_mediaBlock? built_later)
  have := ordered v w first second
  omega

end Schema

namespace Bootstrap

variable {schema : Schema}

/-- What is declared in the block of a width goes to a block that is there, or makes one behind all
others. -/
theorem widths_declareInMedia (media : List MediaBlock) (label : String) (width : Nat)
    (className : String) (more : Declarations) :
    ((declareInMedia media label width className more).map (·.minWidth)).Sublist
      (media.map (·.minWidth) ++ [(width : Int)]) := by
  induction media with
  | nil => exact List.Sublist.refl _
  | cons block rest ih =>
    rw [declareInMedia]
    split
    · exact (List.sublist_append_left _ _).cons_cons _
    · exact ih.cons_cons _

theorem widths_planTurn (p : Plan) (t : Turn) :
    ((planTurn schema p t).sheet.media.map (·.minWidth)).Sublist
      (p.sheet.media.map (·.minWidth) ++ [(t.width : Int)]) := by
  unfold planTurn planChange
  dsimp only
  split
  · exact List.sublist_append_left _ _
  · exact widths_declareInMedia _ _ _ _ _

theorem widths_foldl_planTurn (p : Plan) (taken : List Turn) :
    ((taken.foldl (planTurn schema) p).sheet.media.map (·.minWidth)).Sublist
      (p.sheet.media.map (·.minWidth) ++ taken.map fun t => (t.width : Int)) := by
  induction taken generalizing p with
  | nil => simp
  | cons t rest ih =>
    refine (ih (planTurn schema p t)).trans ?_
    rw [List.map_cons, List.append_cons]
    exact (widths_planTurn p t).append_right _

/-- The widths of the blocks stand among those of the turns. -/
theorem widths_plan (schema : Schema) :
    ((plan schema).sheet.media.map (·.minWidth)).Sublist
      ((turns schema).map fun t => (t.width : Int)) := by
  rw [plan_eq_foldl_turns]
  exact widths_foldl_planTurn (basePlan schema) (turns schema)

theorem pairwise_turns (ascending : schema.widths.Pairwise (· ≤ ·)) :
    ((turns schema).map fun t => (t.width : Int)).Pairwise (· ≤ ·) := by
  rw [List.pairwise_map, turns, List.pairwise_flatMap]
  constructor
  · intro rule _
    cases rule.resolvedMinWidth with
    | none => exact List.Pairwise.nil
    | some width =>
      rw [List.pairwise_map]
      exact List.pairwise_of_forall fun _ _ => Int.le_refl width
  · refine (Schema.pairwise_rules ascending).imp ?_
    intro rule later ordered t here u there
    cases first : rule.resolvedMinWidth with
    | none => simp [first] at here
    | some v =>
      cases second : later.resolvedMinWidth with
      | none => simp [second] at there
      | some w =>
        rw [first] at here
        rw [second] at there
        obtain ⟨_, -, rfl⟩ := List.mem_map.mp here
        obtain ⟨_, -, rfl⟩ := List.mem_map.mp there
        exact Int.ofNat_le.mpr (ordered v w first second)

theorem plan_ascends (ascending : schema.widths.Pairwise (· ≤ ·)) : (plan schema).sheet.Ascends :=
  (pairwise_turns ascending).sublist (widths_plan schema)

end Bootstrap

namespace Schema

variable {s : Schema} {report : Report}

/-- Of a schema without errors, every rule has a width, and the gate is silent about the order of
the rules exactly if their widths do not fall. Where it is silent, the blocks stand in the order of
their widths, both in a stylesheet, whatever the classes of its sections are, and in the overrides.
-/
theorem blocks_ascend_of_unwarned (reported : s.validate = .ok report)
    (valid : report.valid = true) :
    (∀ rule ∈ s.responsiveRules, rule.resolvedMinWidth.isSome = true) ∧
      ((∀ issue ∈ report.warnings, issue.rule ≠ .breakpointOrder) ↔ s.widths.Pairwise (· ≤ ·)) ∧
      ((∀ issue ∈ report.warnings, issue.rule ≠ .breakpointOrder) →
        (∀ classOf root comments, (s.styleSheet classOf root comments).Ascends) ∧
          (Bootstrap.plan s).sheet.Ascends) := by
  have order := order_unwarned_iff reported valid
  refine ⟨(sound_of_reported reported valid).widths, order, ?_⟩
  intro silent
  have ascending := order.mp silent
  exact ⟨styleSheet_ascends ascending, Bootstrap.plan_ascends ascending⟩

/-- Two rules of one label and width, one that changes nothing, and a wider one. -/
def climbingPage : Schema where
  sections := [Framework.row]
  responsiveRules := [Framework.gapRule "tablet" 700 8, Framework.gapRule "tablet" 700 24,
    { breakpoint := "md" }, Framework.gapRule "wide" 1000 16]

theorem climbingPage_ascends :
    ∃ report, climbingPage.validate = .ok report ∧ report.valid = true ∧
      (∀ issue ∈ report.warnings, issue.rule ≠ .breakpointOrder) ∧
      climbingPage.widths = [700, 700, 768, 1000] ∧
      (climbingPage.styleSheet (·.id) "page" false).media.map (·.minWidth) = [700, 700, 1000] ∧
      (climbingPage.styleSheet (·.id) "page" false).Ascends ∧
      (Bootstrap.plan climbingPage).sheet.media.map (·.minWidth) = [700, 1000] ∧
      (Bootstrap.plan climbingPage).sheet.Ascends := by
  have widths : climbingPage.widths = [700, 700, 768, 1000] := rfl
  have reported : climbingPage.validate = .ok _ := rfl
  obtain ⟨-, order, ascend⟩ := blocks_ascend_of_unwarned reported rfl
  have silent := order.mpr (by rw [widths]; decide)
  obtain ⟨sheet, overrides⟩ := ascend silent
  exact ⟨_, reported, rfl, silent, widths, rfl, sheet _ _ _, rfl, overrides⟩

end Schema

end DesignToCode
