import DesignToCode.Proofs.Analysis.PassRefinement

set_option autoImplicit false

namespace DesignToCode

namespace Assembly

/-- The hints whose key an earlier hint uses too. -/
def laterUses (hints : List SectionHint) : List SectionHint :=
  (hints.zipIdx.filter fun use => (hints.take use.2).any (·.key == use.1.key)).map (·.1)

def isUnused (hints : List SectionHint) (key : String) : Bool := hints.all (·.key != key)

/-- What is noted of a rule: the rule itself if it has no width, or else every change of it that is
meant for a key that no section uses. -/
def lostIn (hints : List SectionHint) (rule : ResponsiveRule) : List Ambiguity :=
  match rule.resolvedMinWidth with
  | none => [unknownBreakpoint rule]
  | some _ =>
    (rule.rules.filter fun c => c.target != everySection && isUnused hints c.target).map fun c =>
      unresolved (changeKind rule) c.target

/-- What is noted of the references of the policies. -/
def lostReferences (hints : List SectionHint) (r : ReasoningOutput) : List Ambiguity :=
  (r.backgroundStrategy.sectionOverrides.filter (isUnused hints ·.1)).map
      (unresolved overrideKind ·.1) ++
    (r.layering.layers.filter (isUnused hints ·.target)).map (unresolved layerKind ·.target) ++
    r.responsiveRules.flatMap (lostIn hints)

/-- The same ambiguities by rank, those of one rank as they were told. -/
structure IsByRank (told ordered : List RankedAmbiguity) : Prop where
  perm : ordered.Perm told
  sorted : ordered.Pairwise (·.rank ≤ ·.rank)
  stable : ∀ rank, ordered.filter (·.rank == rank) = told.filter (·.rank == rank)

variable {hints : List SectionHint}

/-- The search goes through the hints with the keys that it has seen; these are the keys of the
hints before. -/
theorem reusedKeys_eq (before rest : List SectionHint) {seen : List String}
    (known : ∀ key, seen.contains key = before.any (·.key == key)) :
    reusedKeys seen rest =
      ((rest.zipIdx before.length).filter fun use =>
        ((before ++ rest).take use.2).any (·.key == use.1.key)).map (·.1) := by
  induction rest generalizing before seen with
  | nil => rfl
  | cons hint rest ih =>
    have here : (before ++ hint :: rest).take before.length = before := List.take_left
    have step : before ++ hint :: rest = (before ++ [hint]) ++ rest := List.append_cons _ _ _
    have now (key : String) : (Pass.seenWith seen hint.key).contains key =
        (before ++ [hint]).any (·.key == key) := by
      rw [List.any_append, ← known, Pass.seenWith]
      split
      · rename_i again
        by_cases same : key = hint.key
        · rw [same, again]
          rfl
        · simp [beq_false_of_ne (Ne.symm same)]
      · rw [List.contains_cons, Bool.or_comm]
        simp [Bool.beq_comm]
    have later := ih (before ++ [hint]) now
    rw [List.length_append, List.length_singleton, ← step] at later
    rw [Pass.reusedKeys_cons, later, List.zipIdx_cons, List.filter_cons, here, known]
    split <;> rfl

theorem reusedKeys_nil (hints : List SectionHint) : reusedKeys [] hints = laterUses hints :=
  reusedKeys_eq [] hints fun _ => rfl

theorem isNone_sectionId? (key : String) :
    (sectionId? (placeSections hints) key).isNone = isUnused hints key := by
  have used : (sectionId? (placeSections hints) key).isSome = true ↔
      key ∈ (placeSections hints).map (·.hint.key) := sectionId?_isSome_iff
  rw [placeSections_keys] at used
  rw [isUnused, ← Option.not_isSome, Bool.eq_iff_iff, Bool.not_eq_true', ← Bool.not_eq_true, used]
  simp

theorem orphans_eq (told : List ComponentHint) :
    orphans (placeSections hints) told = told.filter (isUnused hints ·.sectionKey) :=
  List.filter_congr fun hint _ => isNone_sectionId? hint.sectionKey

/-- References of one kind are noted for the items that hold them. -/
theorem dropped_map {α : Type} (what : String) (key : α → String) (items : List α) :
    dropped (placeSections hints) what (items.map key) =
      (items.filter fun a => isUnused hints (key a)).map fun a => unresolved what (key a) := by
  rw [dropped, List.filter_map, List.map_map, funext fun key => isNone_sectionId? key]
  rfl

theorem ruleAmbiguities_eq (rule : ResponsiveRule) :
    ruleAmbiguities (placeSections hints) rule = lostIn hints rule := by
  unfold ruleAmbiguities lostIn ruleKeys
  cases rule.resolvedMinWidth with
  | none => rfl
  | some width =>
    rw [List.filter_map]
    refine (dropped_map _ _ _).trans ?_
    rw [List.filter_filter]
    simp only [Bool.and_comm, Function.comp_apply]

theorem referenceAmbiguities_eq (r : ReasoningOutput) :
    referenceAmbiguities (placeSections hints) r = lostReferences hints r := by
  rw [referenceAmbiguities, overrideKeys, layerKeys, dropped_map, dropped_map,
    funext ruleAmbiguities_eq]
  rfl

theorem isByRank_ranked (told : List RankedAmbiguity) : IsByRank told (ranked told) := by
  have trans (a b c : RankedAmbiguity) : decide (a.rank ≤ b.rank) → decide (b.rank ≤ c.rank) →
      decide (a.rank ≤ c.rank) := by
    simp only [decide_eq_true_eq]
    omega
  have total (a b : RankedAmbiguity) : decide (a.rank ≤ b.rank) || decide (b.rank ≤ a.rank) := by
    simp only [Bool.or_eq_true, decide_eq_true_eq]
    omega
  have perm : (ranked told).Perm told := List.mergeSort_perm _ _
  refine ⟨perm, ?sorted, ?stable⟩
  case sorted => exact (List.pairwise_mergeSort trans total told).imp of_decide_eq_true
  case stable =>
    intro rank
    have level : (told.filter (·.rank == rank)).Pairwise fun a b => decide (a.rank ≤ b.rank) := by
      refine List.pairwise_of_forall_mem_list fun a first b second => ?_
      have first : a.rank = rank := by simpa using (List.mem_filter.mp first).2
      have second : b.rank = rank := by simpa using (List.mem_filter.mp second).2
      simp [first, second]
    have inside : (told.filter (·.rank == rank)).Sublist (ranked told) :=
      List.sublist_mergeSort trans total level List.filter_sublist
    have again := inside.filter (·.rank == rank)
    rw [List.filter_filter] at again
    simp only [Bool.and_self] at again
    exact (again.eq_of_length (perm.filter _).length_eq.symm).symm

theorem type_of_mem_lostReferences {r : ReasoningOutput} {a : Ambiguity}
    (h : a ∈ lostReferences hints r) : a.type = "unresolved-reference" := by
  rw [lostReferences, List.mem_append, List.mem_append] at h
  rcases h with (override | layer) | change
  · obtain ⟨entry, -, rfl⟩ := List.mem_map.mp override
    rfl
  · obtain ⟨l, -, rfl⟩ := List.mem_map.mp layer
    rfl
  · obtain ⟨rule, -, lost⟩ := List.mem_flatMap.mp change
    unfold lostIn at lost
    split at lost
    · obtain rfl := List.mem_singleton.mp lost
      rfl
    · obtain ⟨c, -, rfl⟩ := List.mem_map.mp lost
      rfl

/-- A list of records of one kind counts for this kind, and for no other. -/
theorem countP_type {records : List Ambiguity} {type : String}
    (same : ∀ a ∈ records, a.type = type) (asked : String) :
    records.countP (·.type == asked) = if type = asked then records.length else 0 := by
  split
  · rename_i this
    exact List.countP_eq_length.mpr fun a member => by simp [same a member, this]
  · rename_i other
    exact List.countP_eq_zero.mpr fun a member => by simp [same a member, other]

end Assembly

open Assembly

variable {vision : VisionOutput} {reasoning : ReasoningOutput} {inputTypes : List InputType}
  {targets : List String} {schema : Schema} {signals : Signals}

/-- Whatever two calls tell: a pass notes, one record each and in this order, the section hints
whose key was used before, the component hints whose key no section uses, and the overrides, the
layers and the changes and rules that are dropped, rule by rule; then what the reasoning call told
follows by rank. The counts of the signals are those of the records that were noted, and the
confidence is that of the signals and of all ambiguities. -/
theorem assemble_ambiguities
    (made : assemble vision reasoning inputTypes targets = ⟨schema, signals⟩) :
    Pass.run vision reasoning inputTypes targets = .ok ⟨schema, signals⟩ ∧
      ∃ noted ordered,
        schema.ambiguities = noted ++ ordered.map RankedAmbiguity.ambiguity ∧
          noted = (laterUses vision.sections).map duplicateKey ++
            (vision.componentHints.filter (isUnused vision.sections ·.sectionKey)).map orphan ++
            lostReferences vision.sections reasoning ∧
          IsByRank reasoning.ambiguities ordered ∧
          signals.orphanedComponents = noted.countP (·.type == "orphan-component") ∧
          signals.droppedReferences = noted.countP (·.type == "unresolved-reference") ∧
          schema.info.confidenceLevel =
            Quality.overallConfidence signals schema.ambiguities.length := by
  have finished : Pass.run vision reasoning inputTypes targets = .ok ⟨schema, signals⟩ :=
    (Pass.run_eq_assemble vision reasoning inputTypes targets).trans (congrArg _ made)
  obtain ⟨rfl, rfl⟩ := Assembled.mk.inj made
  have duplicates : ∀ a ∈ (laterUses vision.sections).map duplicateKey,
      a.type = "duplicate-section-key" := List.forall_mem_map.mpr fun _ _ => rfl
  have strays : ∀ a ∈ (vision.componentHints.filter (isUnused vision.sections ·.sectionKey)).map
      orphan, a.type = "orphan-component" := List.forall_mem_map.mpr fun _ _ => rfl
  have lost : ∀ a ∈ lostReferences vision.sections reasoning, a.type = "unresolved-reference" :=
    fun _ => type_of_mem_lostReferences
  refine ⟨finished, _, ranked reasoning.ambiguities, ?list, rfl, isByRank_ranked _, ?orphaned,
    ?dropped, rfl⟩
  case list =>
    rw [← reusedKeys_nil, ← orphans_eq, ← referenceAmbiguities_eq]
  case orphaned =>
    rw [List.countP_append, List.countP_append, countP_type duplicates, countP_type strays,
      countP_type lost, List.length_map, ← orphans_eq]
    simp
  case dropped =>
    rw [List.countP_append, List.countP_append, countP_type duplicates, countP_type strays,
      countP_type lost, ← referenceAmbiguities_eq]
    simp

/-- Every kind of record once, and two ambiguities of one rank behind one of a higher rank. -/
def muddledVision : VisionOutput where
  sections := [
    { key := "a", name := "First", layout := some "flex" },
    { key := "a", name := "Second", layout := some "grid" }]
  componentHints := [⟨"x", "Card", "card", []⟩, ⟨"a", "Title", "heading", []⟩]
  confidence := .ofInt 1

def muddledReasoning : ReasoningOutput where
  backgroundStrategy := { sectionOverrides := [("b", "#fff"), ("a", "#eee")] }
  layering := { layers := [{ target := "a" }, { target := "b" }] }
  responsiveRules := [
    { breakpoint := "md", rules := [{ target := "*" }, { target := "c" }] },
    { breakpoint := "huge", rules := [{ target := "c" }] }]
  ambiguities := [
    ⟨"content", "Two columns or three", "Three.", 2⟩,
    ⟨"layout", "Cards may be a row", "A grid.", 1⟩,
    ⟨"layout", "The banner may be sticky", "It is not.", 1⟩]

theorem muddledVision_ambiguities :
    ∃ schema signals ordered,
      assemble muddledVision muddledReasoning [.image] ["css"] = ⟨schema, signals⟩ ∧
        schema.ambiguities.map (·.description) = [
          "Vision output reused section key 'a' for 'Second'",
          "Component 'Card' references unknown section 'x'",
          "Background override references unknown section 'b'",
          "Layering rule references unknown section 'b'",
          "Responsive rule at 'md' references unknown section 'c'",
          "Responsive rule uses unknown breakpoint 'huge' without a min width"] ++
            ordered.map (·.description) ∧
        IsByRank muddledReasoning.ambiguities ordered ∧
        signals.orphanedComponents = 1 ∧ signals.droppedReferences = 4 ∧
        schema.info.confidenceLevel = .low := by
  obtain ⟨schema, signals, made⟩ : ∃ schema signals,
      assemble muddledVision muddledReasoning [.image] ["css"] = ⟨schema, signals⟩ := ⟨_, _, rfl⟩
  obtain ⟨-, noted, ordered, list, told, byRank, orphaned, dropped, confidence⟩ :=
    assemble_ambiguities made
  have count : 5 < schema.ambiguities.length := by
    rw [list, told, List.length_append, List.length_append]
    exact Nat.lt_add_right _ (by decide)
  refine ⟨schema, signals, ordered, made, ?_, byRank, ?_, ?_, ?_⟩
  · rw [list, told, List.map_append, List.map_map]
    rfl
  · rw [orphaned, told]
    rfl
  · rw [dropped, told]
    rfl
  · rw [confidence, Quality.overallConfidence, if_pos count]

end DesignToCode
