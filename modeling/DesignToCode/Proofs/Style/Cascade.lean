import DesignToCode.Framework.Tailwind
import DesignToCode.Proofs.Json.Fields
import DesignToCode.Proofs.Markup.Carriers
import DesignToCode.Proofs.Style.SectionClasses
import DesignToCode.Style.Sheet

set_option autoImplicit false

namespace DesignToCode

/-- The value of a property after declarations: that of the last one for it. -/
def valueOf (made : Declarations) (property : String) : Option String :=
  made.reverse.lookup property

/-- What rules declare for a class, in order. -/
def declaredFor (rules : List StyleRule) (name : String) : Declarations :=
  (rules.filter (·.className == name)).flatMap (·.declarations)

/-- The rules that apply at a width, in the order of the sheet. -/
def StyleSheet.rulesAt (s : StyleSheet) (width : Nat) : List StyleRule :=
  s.rules ++ (s.media.filter fun m => m.minWidth ≤ (width : Int)).flatMap (·.rules)

/-- The values that a sheet gives to the properties of a class at a width. -/
def StyleSheet.valueAt (s : StyleSheet) (name : String) (width : Nat) : String → Option String :=
  valueOf (declaredFor (s.rulesAt width) name)

def ResponsiveRule.appliesAt (rule : ResponsiveRule) (width : Nat) : Bool :=
  rule.resolvedMinWidth.any (· ≤ width)

/-- The changes of a section in the rules that apply at a width, in order. -/
def Schema.changesAt (schema : Schema) (sec : Section) (width : Nat) : List ResponsiveChange :=
  (schema.responsiveRules.filter (·.appliesAt width)).flatMap (Tailwind.changesFor · sec)

theorem valueOf_append (made more : Declarations) (property : String) :
    valueOf (made ++ more) property = (valueOf more property).or (valueOf made property) := by
  unfold valueOf
  rw [List.reverse_append, Fields.lookup_append]

theorem valueOf_append_congr {made made' more more' : Declarations}
    (first : valueOf made = valueOf made') (second : valueOf more = valueOf more') :
    valueOf (made ++ more) = valueOf (made' ++ more') := by
  funext property
  rw [valueOf_append, valueOf_append, first, second]

theorem valueOf_of_notMem {made : Declarations} {property : String}
    (absent : property ∉ made.map (·.1)) : valueOf made property = none := by
  refine Fields.lookup_eq_none_iff.mpr ?_
  rwa [List.map_reverse, List.mem_reverse]

/-- With properties that are all different, the value of a property is the only one that it has. -/
theorem valueOf_of_nodup {made : Declarations} (distinct : (made.map (·.1)).Nodup)
    (property : String) : valueOf made property = made.lookup property := by
  have turned : (made.reverse.map (·.1)).Nodup := by
    rwa [List.map_reverse, List.nodup_reverse]
  ext value
  rw [valueOf, ← Fields.mem_iff_lookup turned, List.mem_reverse, Fields.mem_iff_lookup distinct]

/-- Declaring in place comes to the same values as declaring behind. -/
theorem valueOf_putAll {made : Declarations} (distinct : (made.map (·.1)).Nodup)
    (more : Declarations) : valueOf (Fields.putAll made more) = valueOf (made ++ more) := by
  funext property
  -- of a property that `made` had twice, only the first would be replaced
  rw [valueOf_of_nodup (Fields.nodup_putAll distinct more), Fields.lookup_putAll, valueOf_append,
    valueOf_of_nodup distinct]
  rfl

theorem valueOf_foldl_putAll {α : Type} (more : α → Declarations) (items : List α)
    {made : Declarations} (distinct : (made.map (·.1)).Nodup) :
    valueOf (items.foldl (fun made item => Fields.putAll made (more item)) made) =
      valueOf (made ++ items.flatMap more) := by
  induction items generalizing made with
  | nil => rw [List.flatMap_nil, List.append_nil, List.foldl_nil]
  | cons item rest ih =>
    rw [List.foldl_cons, ih (Fields.nodup_putAll distinct (more item)), List.flatMap_cons,
      ← List.append_assoc]
    exact valueOf_append_congr (valueOf_putAll distinct (more item)) rfl

theorem declaredFor_append (rules more : List StyleRule) (name : String) :
    declaredFor (rules ++ more) name = declaredFor rules name ++ declaredFor more name := by
  unfold declaredFor
  rw [List.filter_append, List.flatMap_append]

/-- Of a block, a class has what was made for it; what declares nothing is left out. -/
theorem declaredFor_made {made : List (String × Declarations)}
    (distinct : (made.map (·.1)).Nodup) (name : String) :
    declaredFor ((made.filter fun entry => !entry.2.isEmpty).map fun entry =>
      ⟨entry.1, entry.2, none⟩) name = (made.lookup name).getD [] := by
  induction made with
  | nil => rfl
  | cons entry rest ih =>
    obtain ⟨key, declarations⟩ := entry
    obtain ⟨absent, distinct⟩ := List.nodup_cons.mp distinct
    have later := ih distinct
    by_cases same : name = key
    · subst same
      rw [Fields.lookup_eq_none_iff.mpr absent, Option.getD_none] at later
      cases declarations with
      | nil => simpa [List.lookup_cons, declaredFor] using later
      | cons d ds => simpa [List.lookup_cons, declaredFor] using later
    · have other : (key == name) = false := beq_false_of_ne fun eq => same eq.symm
      rw [List.lookup_cons, beq_false_of_ne same, ← later]
      cases declarations with
      | nil => rfl
      | cons d ds => simp [declaredFor, other]

namespace Schema

variable {schema : Schema} {classOf : Section → String} {sec : Section}

/-- The declarations that a fold over changes collects for a class are those of the changes of this
class. -/
theorem lookup_foldl_declareMore (classOf : Section → String)
    (declares : ResponsiveChange × Section → Declarations) (name : String)
    (pairs : List (ResponsiveChange × Section)) (made : List (String × Declarations)) :
    ((pairs.foldl (fun made pair => declareMore made (classOf pair.2) (declares pair)) made).lookup
        name).getD [] =
      (pairs.filter fun pair => classOf pair.2 == name).foldl
        (fun own pair => Fields.putAll own (declares pair)) ((made.lookup name).getD []) := by
  -- over the changes: one of another class leaves what `made` has for `name` as it is
  induction pairs generalizing made with
  | nil => rfl
  | cons pair rest ih =>
    rw [List.foldl_cons, ih]
    by_cases same : classOf pair.2 = name
    · subst same
      simp [declareMore, Fields.lookup_put_self]
    · have kept : (declareMore made (classOf pair.2) (declares pair)).lookup name =
          made.lookup name :=
        Fields.lookup_put_of_ne made _ fun eq => same eq.symm
      simp [kept, same]

theorem nodup_mediaDeclarations (schema : Schema) (classOf : Section → String)
    (rule : ResponsiveRule) :
    ((schema.mediaDeclarations classOf rule).map (·.1)).Nodup := by
  have invariant (pairs : List (ResponsiveChange × Section)) (made : List (String × Declarations))
      (distinct : (made.map (·.1)).Nodup) :
      ((pairs.foldl (fun made pair =>
        declareMore made (classOf pair.2) (pair.1.declarations pair.2 schema)) made).map
          (·.1)).Nodup := by
    induction pairs generalizing made with
    | nil => exact distinct
    | cons pair rest ih => exact ih _ (Fields.nodup_put distinct _ _)
  exact invariant _ [] List.nodup_nil

/-- A block declares for a class what was made for it. -/
theorem declaredFor_mediaBlock? (schema : Schema) (classOf : Section → String) (name : String)
    (rule : ResponsiveRule) (width : Nat) :
    declaredFor (((schema.mediaBlock? classOf rule).toList.filter fun m =>
        m.minWidth ≤ (width : Int)).flatMap (·.rules)) name =
      if rule.appliesAt width then ((schema.mediaDeclarations classOf rule).lookup name).getD []
      else [] := by
  have made := declaredFor_made (nodup_mediaDeclarations schema classOf rule) name
  unfold mediaBlock? ResponsiveRule.appliesAt
  cases resolved : rule.resolvedMinWidth with
  | none => rfl
  | some least =>
    dsimp only
    split
    · rename_i nothing
      rw [List.isEmpty_iff.mp nothing] at made
      rw [← made]
      split <;> rfl
    · by_cases within : least ≤ width
      · simpa [within] using made
      · simp [within, declaredFor]

theorem section?_eq_some {id : String} (h : schema.section? id = some sec) :
    sec ∈ schema.sections ∧ sec.id = id := by
  unfold section? at h
  exact ⟨List.mem_reverse.mp (List.mem_of_find?_eq_some h), by simpa using List.find?_some h⟩

/-- Where ids are all different, the section of an id is the one that has it. -/
theorem section?_id (distinct : schema.sectionIds.Nodup) (listed : sec ∈ schema.sections) :
    schema.section? sec.id = some sec := by
  cases search : schema.section? sec.id with
  | none =>
    have absent := List.find?_eq_none.mp search sec (List.mem_reverse.mpr listed)
    exact absurd BEq.rfl absent
  | some other =>
    obtain ⟨again, named⟩ := section?_eq_some search
    exact congrArg some (List.inj_on_of_nodup_map distinct again listed named)

/-- A section that is the only one of its class, among sections whose ids are all different. -/
structure HasOwnClass (schema : Schema) (classOf : Section → String) (sec : Section) : Prop where
  distinct : schema.sectionIds.Nodup
  listed : sec ∈ schema.sections
  own : ∀ other ∈ schema.sections, classOf other = classOf sec → other = sec

theorem hasOwnClass (distinct : schema.sectionIds.Nodup) (style : ClassStyle)
    (reserved : List String) (listed : sec ∈ schema.sections) :
    schema.HasOwnClass (classIn (sectionClasses style.toClass reserved schema.sectionIds)) sec where
  distinct := distinct
  listed := listed
  own := by
    intro other again same
    exact classIn_inj distinct style reserved listed again same

namespace HasOwnClass

theorem filter_sections (h : schema.HasOwnClass classOf sec) :
    (schema.sections.filter fun other => classOf other == classOf sec) = [sec] := by
  have inside : sec ∈ schema.sections.filter fun other => classOf other == classOf sec :=
    List.mem_filter.mpr ⟨h.listed, BEq.rfl⟩
  refine (filter_eq_singleton_iff (List.Nodup.of_map _ h.distinct) inside).mpr ?_
  intro other again same
  exact h.own other again (beq_iff_eq.mp same)

/-- Of the sections that a change is about, the section is the only one with its class. -/
theorem filter_sectionsFor (h : schema.HasOwnClass classOf sec) (target : String) :
    ((schema.sectionsFor target).filter fun other => classOf other == classOf sec) =
      if target == everySection || target == sec.id then [sec] else [] := by
  by_cases every : target = everySection
  · simp [sectionsFor, every, h.filter_sections]
  by_cases own : target = sec.id
  · subst own
    simp [sectionsFor, every, section?_id h.distinct h.listed]
  · have others : ∀ other ∈ schema.sectionsFor target,
        ¬ (classOf other == classOf sec) = true := by
      intro other reached same
      rw [sectionsFor, if_neg every, Option.mem_toList] at reached
      obtain ⟨again, named⟩ := section?_eq_some reached
      rw [h.own other again (beq_iff_eq.mp same)] at named
      exact own named.symm
    rw [List.filter_eq_nil_iff.mpr others]
    simp [every, own]

theorem filter_changesOf (h : schema.HasOwnClass classOf sec) (rule : ResponsiveRule) :
    ((schema.changesOf rule).filter fun pair => classOf pair.2 == classOf sec) =
      (Tailwind.changesFor rule sec).map fun change => (change, sec) := by
  have one (change : ResponsiveChange) :
      (((schema.sectionsFor change.target).map (Prod.mk change)).filter fun pair =>
          classOf pair.2 == classOf sec) =
        if change.target == everySection || change.target == sec.id then [(change, sec)]
        else [] := by
    have reached := h.filter_sectionsFor change.target
    rw [List.filter_map]
    refine (congrArg (List.map (Prod.mk change)) reached).trans ?_
    split <;> rfl
  unfold changesOf Tailwind.changesFor
  rw [List.filter_flatMap]
  simp only [one]
  induction rule.rules with
  | nil => rfl
  | cons change rest ih =>
    rw [List.flatMap_cons, ih, List.filter_cons]
    split <;> rfl

/-- What the block of a rule declares for a section comes to the declarations of its changes. -/
theorem valueOf_mediaDeclarations (h : schema.HasOwnClass classOf sec) (rule : ResponsiveRule) :
    valueOf (((schema.mediaDeclarations classOf rule).lookup (classOf sec)).getD []) =
      valueOf ((Tailwind.changesFor rule sec).flatMap (·.declarations sec schema)) := by
  have collected := lookup_foldl_declareMore classOf
    (fun pair => pair.1.declarations pair.2 schema) (classOf sec) (schema.changesOf rule) []
  rw [h.filter_changesOf, List.foldl_map] at collected
  rw [mediaDeclarations, collected]
  exact valueOf_foldl_putAll _ _ List.nodup_nil

theorem valueOf_media (h : schema.HasOwnClass classOf sec) (rules : List ResponsiveRule)
    (width : Nat) :
    valueOf (declaredFor (((rules.filterMap (schema.mediaBlock? classOf)).filter fun m =>
        m.minWidth ≤ (width : Int)).flatMap (·.rules)) (classOf sec)) =
      valueOf (((rules.filter (·.appliesAt width)).flatMap (Tailwind.changesFor · sec)).flatMap
        (·.declarations sec schema)) := by
  induction rules with
  | nil => rfl
  | cons rule rest ih =>
    have first := declaredFor_mediaBlock? schema classOf (classOf sec) rule width
    rw [List.filterMap_eq_flatMap_toList] at ih ⊢
    rw [List.flatMap_cons, List.filter_append, List.flatMap_append, declaredFor_append, first,
      List.filter_cons]
    split
    · rw [List.flatMap_cons, List.flatMap_append]
      exact valueOf_append_congr (h.valueOf_mediaDeclarations rule) ih
    · rw [List.nil_append]
      exact ih

/-- Below all blocks, a section has the declarations of its own rule. -/
theorem declaredFor_rules (h : schema.HasOwnClass classOf sec) {root : String}
    (other : root ≠ classOf sec) (comments : Bool) :
    declaredFor (schema.styleSheet classOf root comments).rules (classOf sec) =
      schema.sectionDeclarations sec := by
  have page : ((schema.rootRule root comments).className == classOf sec) = false :=
    beq_false_of_ne other
  have sections : (schema.sections.map (schema.sectionRule classOf comments)).filter
      (·.className == classOf sec) = [schema.sectionRule classOf comments sec] := by
    rw [List.filter_map]
    exact congrArg (List.map (schema.sectionRule classOf comments)) h.filter_sections
  unfold declaredFor styleSheet
  rw [List.filter_cons_of_neg (by simp [page]), sections, List.flatMap_singleton]
  rfl

/-- At a width, the sheet gives a section the values of its own declarations and, behind them, those
of its changes in the rules up to this width. -/
theorem valueAt_eq (h : schema.HasOwnClass classOf sec) {root : String} (other : root ≠ classOf sec)
    (comments : Bool) (width : Nat) :
    (schema.styleSheet classOf root comments).valueAt (classOf sec) width =
      valueOf (schema.sectionDeclarations sec ++
        (schema.changesAt sec width).flatMap (·.declarations sec schema)) := by
  unfold StyleSheet.valueAt StyleSheet.rulesAt
  rw [declaredFor_append, h.declaredFor_rules other]
  exact valueOf_append_congr rfl (h.valueOf_media schema.responsiveRules width)

end HasOwnClass

end Schema

end DesignToCode
