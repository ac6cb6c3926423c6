import DesignToCode.Framework.Bootstrap
import DesignToCode.Proofs.Json.Fields
import DesignToCode.Proofs.Style.MediaRules
import DesignToCode.Proofs.Style.SectionClasses

set_option autoImplicit false

namespace DesignToCode.Bootstrap

/-- What the layout classes begin with. -/
def layoutFamilies : List String :=
  ["container", "row", "g-", "gap-", "d-", "flex-", "align-items-", "position-", "sticky-top",
    "fixed-top"]

/-- A class of the framework for the layout of the page or of a section. -/
def IsLayoutClass (name : String) : Prop :=
  ∃ family ∈ layoutFamilies, family.toList <+: name.toList

instance (name : String) : Decidable (IsLayoutClass name) :=
  inferInstanceAs (Decidable (∃ family ∈ layoutFamilies, _))

theorem IsLayoutClass.append {front : String} (h : IsLayoutClass front) (back : String) :
    IsLayoutClass (front ++ back) := by
  obtain ⟨family, known, more⟩ := h
  refine ⟨family, known, ?_⟩
  rw [String.toList_append]
  exact more.trans (List.prefix_append _ _)

variable {schema : Schema} {sec : Section} {name : String}

theorem isLayoutClass_of_mem_baseClasses {gap : Nat} (h : name ∈ baseClasses sec gap) :
    IsLayoutClass name := by
  unfold baseClasses at h
  split at h
  case h_1 =>
    split at h
    · simp only [List.mem_cons, List.not_mem_nil, or_false] at h
      rcases h with rfl | rfl | rfl
      · decide
      · exact .append (by decide) _
      · exact .append (by decide) _
    · cases h
  case h_2 =>
    simp only [List.mem_cons, List.not_mem_nil, or_false] at h
    rcases h with rfl | rfl | rfl
    · decide
    · exact .append (by decide) _
    · exact .append (by decide) _
  case h_3 =>
    obtain rfl := List.mem_singleton.mp h
    decide

theorem isLayoutClass_positionClass (position : String) :
    IsLayoutClass (positionClass position) := by
  unfold positionClass
  cases found : positionClasses.lookup position with
  | none => decide
  | some held =>
    have all : ∀ entry ∈ positionClasses, IsLayoutClass entry.2 := by decide
    exact all _ (Fields.mem_of_lookup found)

theorem isLayoutClass_of_mem_sectionBase (h : name ∈ sectionBase schema sec) :
    IsLayoutClass name := by
  rcases List.mem_append.mp h with base | position
  · exact isLayoutClass_of_mem_baseClasses base
  · obtain ⟨layer, -, rfl⟩ := List.mem_map.mp position
    exact isLayoutClass_positionClass _

theorem isLayoutClass_of_mem_detailClasses {change : ResponsiveChange} {mark : String}
    (h : name ∈ detailClasses change sec mark) : IsLayoutClass name := by
  unfold detailClasses at h
  rcases List.mem_append.mp h with h | gap
  · rcases List.mem_append.mp h with columns | direction
    · obtain ⟨n, -, rfl⟩ := Option.map_eq_some_iff.mp (Option.mem_toList.mp columns)
      exact .append (.append (.append (by decide) _) _) _
    · split at direction
      · obtain ⟨d, -, rfl⟩ := Option.map_eq_some_iff.mp (Option.mem_toList.mp direction)
        exact .append (.append (.append (by decide) _) _) _
      · cases direction
  · obtain ⟨n, -, rfl⟩ := Option.map_eq_some_iff.mp (Option.mem_toList.mp gap)
    refine .append (.append (.append ?_ _) _) _
    unfold gapWord
    split <;> decide

theorem isLayoutClass_of_mem_changeClasses? {change : ResponsiveChange} {mark : String}
    {classes : List String} (made : changeClasses? change sec mark = some classes)
    (h : name ∈ classes) : IsLayoutClass name := by
  unfold changeClasses? at made
  split at made
  · cases made
    obtain rfl := List.mem_singleton.mp h
    exact .append (.append (by decide) _) _
  split at made
  · cases made
  split at made
  · cases made
    obtain rfl := List.mem_singleton.mp h
    exact .append (.append (by decide) _) _
  split at made
  · cases made
  cases made
  rcases List.mem_append.mp h with display | detail
  · split at display
    · unfold displayClasses at display
      rcases List.mem_cons.mp display with rfl | direction
      · exact .append (.append (by decide) _) _
      · split at direction
        · obtain rfl := List.mem_singleton.mp direction
          exact .append (.append (.append (by decide) _) _) _
        · cases direction
    · cases display
  · exact isLayoutClass_of_mem_detailClasses detail

/-- A rule gets its class when it is made, so no class is new but the one that is declared for. -/
theorem className_of_mem_declareInRules {rules : List StyleRule} {className : String}
    {more : Declarations} {r : StyleRule} (h : r ∈ declareInRules rules className more) :
    r.className = className ∨ ∃ old ∈ rules, r.className = old.className := by
  induction rules with
  | nil =>
    obtain rfl := List.mem_singleton.mp h
    exact .inl rfl
  | cons rule rest ih =>
    rw [declareInRules] at h
    split at h
    · rename_i same
      rcases List.mem_cons.mp h with rfl | later
      · exact .inl same
      · exact .inr ⟨r, List.mem_cons_of_mem _ later, rfl⟩
    · rcases List.mem_cons.mp h with rfl | later
      · exact .inr ⟨_, List.mem_cons_self, rfl⟩
      · rcases ih later with own | ⟨old, listed, same⟩
        · exact .inl own
        · exact .inr ⟨old, List.mem_cons_of_mem _ listed, same⟩

theorem className_of_mem_declareInMedia {media : List MediaBlock} {label className : String}
    {width : Nat} {more : Declarations} {m : MediaBlock} {r : StyleRule}
    (block : m ∈ declareInMedia media label width className more) (h : r ∈ m.rules) :
    r.className = className ∨ ∃ m ∈ media, ∃ old ∈ m.rules, r.className = old.className := by
  induction media with
  | nil =>
    obtain rfl := List.mem_singleton.mp block
    rcases className_of_mem_declareInRules h with own | ⟨_, none, -⟩
    · exact .inl own
    · cases none
  | cons first rest ih =>
    rw [declareInMedia] at block
    split at block
    · rcases List.mem_cons.mp block with rfl | later
      · rcases className_of_mem_declareInRules h with own | ⟨old, listed, same⟩
        · exact .inl own
        · exact .inr ⟨_, List.mem_cons_self, old, listed, same⟩
      · exact .inr ⟨m, List.mem_cons_of_mem _ later, r, h, rfl⟩
    · rcases List.mem_cons.mp block with rfl | later
      · exact .inr ⟨_, List.mem_cons_self, r, h, rfl⟩
      · rcases ih later with own | ⟨m, listed, old, held, same⟩
        · exact .inl own
        · exact .inr ⟨m, List.mem_cons_of_mem _ listed, old, held, same⟩

/-- What no change of the schema takes from a plan. -/
structure Plan.Kept (schema : Schema) (p : Plan) : Prop where
  selectors : p.selectors = (basePlan schema).selectors
  rules : p.sheet.rules = (basePlan schema).sheet.rules
  media : ∀ m ∈ p.sheet.media, ∀ r ∈ m.rules,
    ∃ sec ∈ schema.sections, r.className = Schema.classIn (basePlan schema).selectors sec
  classes : ∀ id, ∀ name ∈ p.classesOf id, IsLayoutClass name

theorem classesOf_addClasses (p : Plan) (id other : String) (more : List String) :
    ((addClasses p.sectionClasses id more).lookup other).getD [] =
      if other = id then p.classesOf id ++ more else p.classesOf other := by
  unfold addClasses Plan.classesOf
  split
  · rename_i same
    rw [same, Fields.lookup_put_self]
    rfl
  · rename_i differs
    rw [Fields.lookup_put_of_ne _ _ differs]

theorem kept_basePlan (distinct : schema.sectionIds.Nodup) : (basePlan schema).Kept schema where
  selectors := rfl
  rules := rfl
  media := by simp [basePlan]
  classes := by
    intro id name h
    have named :
        ((schema.sections.map fun sec => (sec.id, sectionBase schema sec)).map (·.1)).Nodup := by
      rwa [List.map_map]
    unfold Plan.classesOf basePlan at h
    rw [Fields.ofPairs_of_nodup named] at h
    cases found : (schema.sections.map fun sec => (sec.id, sectionBase schema sec)).lookup id with
    | none => simp [found] at h
    | some classes =>
      rw [found, Option.getD_some] at h
      obtain ⟨sec, -, same⟩ := List.mem_map.mp (Fields.mem_of_lookup found)
      cases same
      exact isLayoutClass_of_mem_sectionBase h

theorem Plan.Kept.planChange {p : Plan} (kept : p.Kept schema) (rule : ResponsiveRule) (width : Nat)
    {pair : ResponsiveChange × Section} (listed : pair.2 ∈ schema.sections) :
    (planChange schema rule width p pair).Kept schema := by
  obtain ⟨change, sec⟩ := pair
  unfold Bootstrap.planChange
  dsimp only
  split
  case h_1 classes said =>
    obtain ⟨mark, -, made⟩ := Option.bind_eq_some_iff.mp said
    refine { kept with classes := ?_ }
    intro id name h
    rw [Plan.classesOf, classesOf_addClasses] at h
    split at h
    · rcases List.mem_append.mp h with before | new
      · exact kept.classes _ name before
      · exact isLayoutClass_of_mem_changeClasses? made new
    · exact kept.classes _ name h
  case h_2 =>
    refine { kept with media := ?_ }
    intro m block r h
    rcases className_of_mem_declareInMedia block h with own | ⟨m, block, old, held, same⟩
    · exact ⟨sec, listed, by rw [own, kept.selectors]⟩
    · rw [same]
      exact kept.media m block old held

theorem Plan.Kept.planRule {p : Plan} (kept : p.Kept schema) (rule : ResponsiveRule) :
    (planRule schema p rule).Kept schema := by
  unfold Bootstrap.planRule
  split
  · exact kept
  · rename_i width _
    exact List.foldlRecOn _ _ kept fun p kept pair member =>
      kept.planChange rule width (Schema.mem_changesOf member)

theorem kept_plan (distinct : schema.sectionIds.Nodup) : (plan schema).Kept schema :=
  List.foldlRecOn _ _ (kept_basePlan distinct) fun _ kept rule _ => kept.planRule rule

end DesignToCode.Bootstrap
