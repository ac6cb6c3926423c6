import DesignToCode.Proofs.Framework.RuleCarriers
import DesignToCode.Proofs.Grouping
import DesignToCode.Proofs.Style.Cascade

set_option autoImplicit false

namespace DesignToCode

/-- The values that the media rules of a sheet give to the properties of a class at a width. -/
def StyleSheet.mediaValueAt (s : StyleSheet) (name : String) (width : Nat) :
    String → Option String :=
  valueOf (declaredFor
    ((s.media.filter fun m => m.minWidth ≤ (width : Int)).flatMap (·.rules)) name)

namespace ResponsiveRule

/-- The label and the width of the block that a rule declares in. -/
def place (rule : ResponsiveRule) : String × Nat :=
  (rule.breakpoint, rule.resolvedMinWidth.getD 0)

theorem exists_place_eq {rule : ResponsiveRule} (own : rule.minWidth.isSome = true) :
    ∃ width, rule.resolvedMinWidth = some width ∧ rule.place = (rule.breakpoint, width) := by
  obtain ⟨width, given⟩ := Option.isSome_iff_exists.mp own
  have resolved : rule.resolvedMinWidth = some width := by
    rw [resolvedMinWidth, given]
  refine ⟨width, resolved, ?_⟩
  rw [place, resolved]
  rfl

/-- The value that a rule sets a property of a section to, if it does. -/
def setting? (schema : Schema) (sec : Section) (property : String) (rule : ResponsiveRule) :
    Option String :=
  valueOf ((Tailwind.changesFor rule sec).flatMap (·.declarations sec schema)) property

end ResponsiveRule

namespace Schema

/-- The rules that are about a section of the schema. -/
def reachingRules (schema : Schema) : List ResponsiveRule :=
  schema.responsiveRules.filter fun rule => !(schema.changesOf rule).isEmpty

/-- The value of a property of a section after rules up to a width, of which the last one counts. -/
def lastSetting (schema : Schema) (sec : Section) (width : Nat) (rules : List ResponsiveRule)
    (property : String) : Option String :=
  ((rules.filter (·.appliesAt width)).filterMap (·.setting? schema sec property)).getLast?

theorem valueOf_flatMap {α : Type} (declares : α → Declarations) (items : List α)
    (property : String) :
    valueOf (items.flatMap declares) property =
      (items.filterMap fun item => valueOf (declares item) property).getLast? := by
  induction items with
  | nil => rfl
  | cons item rest ih =>
    rw [List.flatMap_cons, valueOf_append, ih, List.filterMap_cons]
    cases valueOf (declares item) property with
    | none => exact Option.or_none
    | some value =>
      rw [List.getLast?_cons]
      cases (rest.filterMap fun item => valueOf (declares item) property).getLast? <;> rfl

theorem valueOf_changes (schema : Schema) (sec : Section) (width : Nat)
    (rules : List ResponsiveRule) :
    valueOf (((rules.filter (·.appliesAt width)).flatMap (Tailwind.changesFor · sec)).flatMap
      (·.declarations sec schema)) = schema.lastSetting sec width rules := by
  funext property
  rw [List.flatMap_assoc]
  exact valueOf_flatMap _ _ _

end Schema

namespace Bootstrap

variable {schema : Schema}

def ruleOf (entry : String × Declarations) : StyleRule := ⟨entry.1, entry.2, none⟩

/-- Declaring in rules is declaring more for their classes. -/
theorem declareInRules_map (made : List (String × Declarations)) (className : String)
    {more : Declarations} (distinct : (more.map (·.1)).Nodup) :
    declareInRules (made.map ruleOf) className more =
      (declareMore made className more).map ruleOf := by
  induction made with
  | nil =>
    have own : Fields.putAll [] more = more := Fields.ofPairs_of_nodup distinct
    simp [declareInRules, declareMore, Fields.put, own, ruleOf]
  | cons entry rest ih =>
    obtain ⟨key, declarations⟩ := entry
    rw [List.map_cons, declareInRules]
    by_cases same : key = className
    · subst same
      simp [declareMore, Fields.put, ruleOf]
    · have other : (className == key) = false := beq_false_of_ne fun eq => same eq.symm
      rw [if_neg (by exact same), ih]
      simp [declareMore, Fields.put, same, List.lookup_cons, other]

theorem nodup_changeDeclarations (change : ResponsiveChange) (sec : Section) (schema : Schema) :
    ((change.declarations sec schema).map (·.1)).Nodup := by
  unfold ResponsiveChange.declarations
  split
  · simp
  split
  · unfold layoutDeclarations
    cases change.layoutIn sec <;> simp
  · cases change.columnsFor sec <;> cases change.directionFor sec <;> cases change.gapFor sec <;>
      simp

variable (schema : Schema) (classOf : Section → String)

/-- What changes declare for classes, on top of what is made. -/
def declareAll (made : List (String × Declarations)) (pairs : List (ResponsiveChange × Section)) :
    List (String × Declarations) :=
  pairs.foldl (fun made pair =>
    declareMore made (classOf pair.2) (pair.1.declarations pair.2 schema)) made

/-- What changes leave to the overrides of a place. -/
def declareChanges (place : String × Nat) (media : List MediaBlock)
    (pairs : List (ResponsiveChange × Section)) : List MediaBlock :=
  pairs.foldl (fun media pair =>
    declareInMedia media place.1 place.2 (classOf pair.2) (pair.1.declarations pair.2 schema)) media

def declareRule (media : List MediaBlock) (rule : ResponsiveRule) : List MediaBlock :=
  declareChanges schema classOf rule.place media (schema.changesOf rule)

/-- The block of a place with what is made for classes. -/
def blockOf (place : String × Nat) (made : List (String × Declarations)) : MediaBlock :=
  ⟨place.1, place.2, made.map ruleOf⟩

variable {schema classOf} {place : String × Nat}

theorem declareChanges_blockOf (made : List (String × Declarations)) (media : List MediaBlock)
    (pairs : List (ResponsiveChange × Section)) :
    declareChanges schema classOf place (blockOf place made :: media) pairs =
      blockOf place (declareAll schema classOf made pairs) :: media := by
  induction pairs generalizing made with
  | nil => rfl
  | cons pair rest ih =>
    have rules := declareInRules_map made (classOf pair.2)
      (nodup_changeDeclarations pair.1 pair.2 schema)
    have first : declareInMedia (blockOf place made :: media) place.1 place.2 (classOf pair.2)
          (pair.1.declarations pair.2 schema) =
        blockOf place (declareMore made (classOf pair.2) (pair.1.declarations pair.2 schema)) ::
          media := by
      rw [declareInMedia, if_pos ⟨rfl, rfl⟩]
      exact congrArg (MediaBlock.mk _ _ · :: media) rules
    exact (congrArg (declareChanges schema classOf place · rest) first).trans (ih _)

theorem declareChanges_blockOf_of_ne {here : String × Nat} (other : here ≠ place)
    (made : List (String × Declarations)) (media : List MediaBlock)
    (pairs : List (ResponsiveChange × Section)) :
    declareChanges schema classOf here (blockOf place made :: media) pairs =
      blockOf place made :: declareChanges schema classOf here media pairs := by
  have elsewhere : ¬ ((blockOf place made).label = here.1 ∧
      (blockOf place made).minWidth = here.2) := by
    rintro ⟨label, width⟩
    exact other (Prod.ext label.symm (Int.natCast_inj.mp width).symm)
  induction pairs generalizing media with
  | nil => rfl
  | cons pair rest ih =>
    have first : declareInMedia (blockOf place made :: media) here.1 here.2 (classOf pair.2)
          (pair.1.declarations pair.2 schema) =
        blockOf place made :: declareInMedia media here.1 here.2 (classOf pair.2)
          (pair.1.declarations pair.2 schema) := by
      rw [declareInMedia, if_neg elsewhere]
    exact (congrArg (declareChanges schema classOf here · rest) first).trans (ih _)

/-- The first rule of a place makes its block. -/
theorem declareRule_nil {rule : ResponsiveRule} (reaching : schema.changesOf rule ≠ []) :
    declareRule schema classOf [] rule =
      [blockOf rule.place (declareAll schema classOf [] (schema.changesOf rule))] := by
  unfold declareRule
  cases changes : schema.changesOf rule with
  | nil => exact absurd changes reaching
  | cons pair rest =>
    have rules := declareInRules_map [] (classOf pair.2)
      (nodup_changeDeclarations pair.1 pair.2 schema)
    have first : declareInMedia [] rule.place.1 rule.place.2 (classOf pair.2)
          (pair.1.declarations pair.2 schema) =
        [blockOf rule.place
          (declareMore [] (classOf pair.2) (pair.1.declarations pair.2 schema))] :=
      congrArg ([MediaBlock.mk _ _ ·]) rules
    exact (congrArg (declareChanges schema classOf rule.place · rest) first).trans
      (declareChanges_blockOf _ _ _)

theorem foldl_declareRule_blockOf (rules : List ResponsiveRule)
    (made : List (String × Declarations)) (media : List MediaBlock) :
    rules.foldl (declareRule schema classOf) (blockOf place made :: media) =
      blockOf place (declareAll schema classOf made
          ((rules.filter (·.place == place)).flatMap schema.changesOf)) ::
        (rules.filter fun rule => !(rule.place == place)).foldl (declareRule schema classOf)
          media := by
  induction rules generalizing made media with
  | nil => rfl
  | cons rule rest ih =>
    by_cases here : rule.place = place
    · subst here
      rw [List.foldl_cons, declareRule, declareChanges_blockOf, ih]
      simp [declareAll, List.foldl_append]
    · rw [List.foldl_cons, declareRule, declareChanges_blockOf_of_ne here, ih]
      simp [here, declareRule]

/-- Rules that are about sections make a block for each place, in the order of their first rules. -/
theorem foldl_declareRule {rules : List ResponsiveRule}
    (reaching : ∀ rule ∈ rules, schema.changesOf rule ≠ []) :
    rules.foldl (declareRule schema classOf) [] =
      (rules.map (·.place)).eraseDups.map fun place =>
        blockOf place (declareAll schema classOf []
          ((rules.filter (·.place == place)).flatMap schema.changesOf)) := by
  induction rules using induction_on_key ResponsiveRule.place with
  | nil => rfl
  | cons rule rest ih =>
    have others : ∀ other ∈ rest.filter fun b => !(b.place == rule.place),
        schema.changesOf other ≠ [] := by
      intro other member
      exact reaching other (List.mem_cons_of_mem _ (List.mem_filter.mp member).1)
    have first : (rule :: rest).filter (·.place == rule.place) =
        rule :: rest.filter (·.place == rule.place) := List.filter_cons_of_pos (by simp)
    rw [List.foldl_cons, declareRule_nil (reaching rule List.mem_cons_self),
      foldl_declareRule_blockOf, ih others, eraseDups_map_cons, List.map_cons, first]
    refine congr (congrArg _ ?_) (List.map_congr_left fun k later => ?_)
    · rw [List.flatMap_cons, declareAll, declareAll, declareAll, List.foldl_append]
    · rw [filter_cons_later later]

/-- A rule with a width of its own leaves all its changes to the overrides. -/
theorem planRule_of_minWidth {rule : ResponsiveRule} (own : rule.minWidth.isSome = true)
    (p : Plan) :
    planRule schema p rule = { p with
      sheet := { p.sheet with
        media := declareRule schema (Schema.classIn p.selectors) p.sheet.media rule } } := by
  obtain ⟨width, resolved, place⟩ := ResponsiveRule.exists_place_eq own
  have noInfix : ruleInfix rule = none := if_pos own
  unfold planRule declareRule
  rw [resolved, place]
  induction schema.changesOf rule generalizing p with
  | nil => rfl
  | cons pair rest ih =>
    have first : planChange schema rule width p pair = { p with
        sheet := { p.sheet with
          media := declareInMedia p.sheet.media rule.breakpoint width
            (Schema.classIn p.selectors pair.2) (pair.1.declarations pair.2 schema) } } := by
      unfold planChange
      rw [noInfix]
      rfl
    dsimp only at ih ⊢
    rw [List.foldl_cons, first]
    exact ih _

theorem foldl_planRule {rules : List ResponsiveRule}
    (own : ∀ rule ∈ rules, rule.minWidth.isSome = true) (p : Plan) :
    (rules.foldl (planRule schema) p).sheet.media =
        rules.foldl (declareRule schema (Schema.classIn p.selectors)) p.sheet.media := by
  induction rules generalizing p with
  | nil => rfl
  | cons rule rest ih =>
    have later : ∀ other ∈ rest, other.minWidth.isSome = true := by
      intro other member
      exact own other (List.mem_cons_of_mem _ member)
    rw [List.foldl_cons, planRule_of_minWidth (own rule List.mem_cons_self), ih later]
    rfl

/-- The overrides have a block for each place, with the changes of all rules of this place. -/
theorem media_plan (own : ∀ rule ∈ schema.responsiveRules, rule.minWidth.isSome = true) :
    (plan schema).sheet.media =
      (schema.reachingRules.map (·.place)).eraseDups.map fun place =>
        blockOf place (declareAll schema (Schema.classIn (basePlan schema).selectors) []
          ((schema.reachingRules.filter (·.place == place)).flatMap schema.changesOf)) := by
  let classOf := Schema.classIn (basePlan schema).selectors
  have skipped (rules : List ResponsiveRule) (media : List MediaBlock) :
      rules.foldl (declareRule schema classOf) media =
        (rules.filter fun rule => !(schema.changesOf rule).isEmpty).foldl
          (declareRule schema classOf) media := by
    induction rules generalizing media with
    | nil => rfl
    | cons rule rest ih =>
      rw [List.foldl_cons, ih]
      cases changes : schema.changesOf rule with
      | nil => simp [changes, declareRule, declareChanges]
      | cons pair more => simp [changes]
  have reaching : ∀ rule ∈ schema.reachingRules, schema.changesOf rule ≠ [] := by
    intro rule member
    simpa using (List.mem_filter.mp member).2
  exact ((foldl_planRule own (basePlan schema)).trans (skipped _ [])).trans
    (foldl_declareRule reaching)

variable {sec : Section}

theorem declaredFor_map_ruleOf {made : List (String × Declarations)}
    (distinct : (made.map (·.1)).Nodup) (name : String) :
    declaredFor (made.map ruleOf) name = (made.lookup name).getD [] := by
  have effective (rules : List StyleRule) :
      declaredFor (rules.filter fun r => !r.declarations.isEmpty) name =
        declaredFor rules name := by
    induction rules with
    | nil => rfl
    | cons r rest ih =>
      have whole := declaredFor_append [r] rest name
      rw [List.singleton_append] at whole
      rw [List.filter_cons, whole]
      split
      · rw [← ih, ← declaredFor_append, List.singleton_append]
      · rename_i nothing
        have empty : r.declarations = [] := by simpa using nothing
        have none : declaredFor [r] name = [] := by
          by_cases named : r.className = name <;> simp [declaredFor, named, empty]
        rw [ih, none, List.nil_append]
  rw [← effective, List.filter_map]
  exact declaredFor_made distinct name

theorem nodup_declareAll {made : List (String × Declarations)}
    (distinct : (made.map (·.1)).Nodup) (pairs : List (ResponsiveChange × Section)) :
    ((declareAll schema classOf made pairs).map (·.1)).Nodup := by
  induction pairs generalizing made with
  | nil => exact distinct
  | cons pair rest ih => exact ih (Fields.nodup_put distinct _ _)

/-- What the changes of rules declare for a section in one block. -/
theorem valueOf_declareAll (h : schema.HasOwnClass classOf sec) (rules : List ResponsiveRule) :
    valueOf (declaredFor ((declareAll schema classOf [] (rules.flatMap schema.changesOf)).map
        ruleOf) (classOf sec)) =
      valueOf ((rules.flatMap (Tailwind.changesFor · sec)).flatMap
        (·.declarations sec schema)) := by
  have collected := Schema.lookup_foldl_declareMore classOf
    (fun pair => pair.1.declarations pair.2 schema) (classOf sec)
    (rules.flatMap schema.changesOf) []
  have changes : (rules.flatMap schema.changesOf).filter
        (fun pair => classOf pair.2 == classOf sec) =
      (rules.flatMap (Tailwind.changesFor · sec)).map fun change => (change, sec) := by
    rw [List.filter_flatMap, List.map_flatMap]
    exact List.flatMap_congr fun rule _ => h.filter_changesOf rule
  rw [changes, List.foldl_map] at collected
  have distinct : ((declareAll schema classOf [] (rules.flatMap schema.changesOf)).map
      (·.1)).Nodup := nodup_declareAll (by exact List.nodup_nil) _
  rw [declaredFor_map_ruleOf distinct, declareAll, collected]
  exact valueOf_foldl_putAll _ _ List.nodup_nil

/-- The blocks of places give a section the values that the rules of the places set one after the
other. -/
theorem valueOf_blocks (h : schema.HasOwnClass classOf sec) {rules : List ResponsiveRule}
    (own : ∀ rule ∈ rules, rule.minWidth.isSome = true) (places : List (String × Nat))
    (width : Nat) :
    valueOf (declaredFor (((places.map fun place => blockOf place (declareAll schema classOf []
        ((rules.filter (·.place == place)).flatMap schema.changesOf))).filter fun m =>
          m.minWidth ≤ (width : Int)).flatMap (·.rules)) (classOf sec)) =
      schema.lastSetting sec width
        (places.flatMap fun place => rules.filter (·.place == place)) := by
  rw [← Schema.valueOf_changes]
  induction places with
  | nil => rfl
  | cons place rest ih =>
    have applies : ∀ rule ∈ rules.filter (·.place == place),
        rule.appliesAt width = decide (place.2 ≤ width) := by
      intro rule member
      obtain ⟨listed, here⟩ := List.mem_filter.mp member
      obtain ⟨least, resolved, own⟩ := ResponsiveRule.exists_place_eq (own rule listed)
      rw [← beq_iff_eq.mp here, own, ResponsiveRule.appliesAt, resolved]
      rfl
    rw [List.map_cons, List.flatMap_cons, List.filter_append, List.filter_cons]
    by_cases within : place.2 ≤ width
    · have all : (rules.filter (·.place == place)).filter (·.appliesAt width) =
          rules.filter (·.place == place) :=
        List.filter_eq_self.mpr fun rule member => by simpa [within] using applies rule member
      rw [if_pos (by simpa [blockOf] using within), all, List.flatMap_cons, declaredFor_append,
        List.flatMap_append, List.flatMap_append]
      exact valueOf_append_congr (valueOf_declareAll h _) ih
    · have none : (rules.filter (·.place == place)).filter (·.appliesAt width) = [] :=
        List.filter_eq_nil_iff.mpr fun rule member => by simpa [within] using applies rule member
      rw [if_neg (by simpa [blockOf] using within), none, List.nil_append]
      exact ih

end Bootstrap

namespace Schema

variable {schema : Schema} {sec : Section}

/-- A rule that is about no section sets nothing. -/
theorem lastSetting_reachingRules {classOf : Section → String}
    (h : schema.HasOwnClass classOf sec) (width : Nat) :
    schema.lastSetting sec width schema.reachingRules =
      schema.lastSetting sec width schema.responsiveRules := by
  have nothing : ∀ rule, schema.changesOf rule = [] →
      ∀ property, rule.setting? schema sec property = none := by
    intro rule none property
    have own := h.filter_changesOf rule
    rw [none] at own
    rw [ResponsiveRule.setting?, List.map_eq_nil_iff.mp own.symm]
    rfl
  funext property
  unfold lastSetting reachingRules
  simp only [List.filterMap_filter]
  refine congrArg List.getLast? (List.filterMap_congr fun rule _ => ?_)
  cases changes : schema.changesOf rule with
  | nil => simp [nothing rule changes property]
  | cons pair more => simp

end Schema

namespace Framework

variable {framework : Framework} {schema : Schema} {report : Report} {comments : Bool}
  {overrides sheet : StyleSheet} {sec : Section}

theorem media_sheet (written : framework.sheet? schema comments = some sheet)
    (other : framework ≠ .bootstrap) :
    sheet.media = schema.responsiveRules.filterMap
      (schema.mediaBlock? (Schema.classIn (framework.selectors schema))) := by
  cases framework
  case tailwind => cases written
  case bootstrap => exact absurd rfl other
  all_goals
    cases written
    rfl

/-- Where every rule has a width of its own, each sheet gives a section the values that the last
rules set: the overrides in the order of their blocks, in which the rules of one label and width
come together, and any other sheet in the order of the rules. The values are the same if the rules
of one label and width stand together in the first place. -/
theorem mediaValueAt_overrides (reported : schema.validate = .ok report)
    (valid : report.valid = true)
    (own : ∀ rule ∈ schema.responsiveRules, rule.minWidth.isSome = true)
    (written : Framework.bootstrap.sheet? schema comments = some overrides)
    (beside : framework.sheet? schema comments = some sheet) (other : framework ≠ .bootstrap)
    (listed : sec ∈ schema.sections) (width : Nat) :
    overrides.mediaValueAt (Schema.classIn (Framework.bootstrap.selectors schema) sec) width =
        schema.lastSetting sec width (clustered ResponsiveRule.place schema.reachingRules) ∧
      sheet.mediaValueAt (Schema.classIn (framework.selectors schema) sec) width =
        schema.lastSetting sec width schema.responsiveRules ∧
      (Together ResponsiveRule.place schema.reachingRules →
        overrides.mediaValueAt (Schema.classIn (Framework.bootstrap.selectors schema) sec) width =
          sheet.mediaValueAt (Schema.classIn (framework.selectors schema) sec) width) := by
  have distinct := (Schema.sound_of_reported reported valid).sectionsDistinct
  have ownClass : schema.HasOwnClass (Schema.classIn (framework.selectors schema)) sec := by
    rw [(namer_of_ne beside other).2, ← stylesheetClasses_eq]
    exact Schema.hasOwnClass distinct framework.classStyle _ listed
  have selectors : Framework.bootstrap.selectors schema = (Bootstrap.basePlan schema).selectors :=
    (Bootstrap.kept_plan distinct).selectors
  have overrideClass :
      schema.HasOwnClass (Schema.classIn (Framework.bootstrap.selectors schema)) sec := by
    rw [selectors]
    exact Schema.hasOwnClass distinct .kebab Bootstrap.reserved listed
  have blocks : overrides.mediaValueAt
      (Schema.classIn (Framework.bootstrap.selectors schema) sec) width =
        schema.lastSetting sec width (clustered ResponsiveRule.place schema.reachingRules) := by
    have ownWidth : ∀ rule ∈ schema.reachingRules, rule.minWidth.isSome = true := by
      intro rule member
      exact own rule (List.mem_filter.mp member).1
    cases written
    rw [StyleSheet.mediaValueAt, Bootstrap.media_plan own, ← selectors]
    exact Bootstrap.valueOf_blocks overrideClass ownWidth _ width
  have rules : sheet.mediaValueAt (Schema.classIn (framework.selectors schema) sec) width =
      schema.lastSetting sec width schema.responsiveRules := by
    rw [StyleSheet.mediaValueAt, media_sheet beside other, ownClass.valueOf_media,
      Schema.valueOf_changes]
  refine ⟨blocks, rules, ?_⟩
  intro together
  rw [blocks, rules, clustered_of_together together, Schema.lastSetting_reachingRules ownClass]

/-- A section that is a row. -/
def row : Section := { id := "hero", name := "Hero", type := "hero", layout := .flex }

/-- A rule that sets the gap of the row. -/
def gapRule (label : String) (width gap : Nat) : ResponsiveRule where
  breakpoint := label
  minWidth := some width
  rules := [{ target := "hero", gap := some gap }]

/-- Two rules of one label and width, then a wider one. -/
def steppedPage : Schema where
  sections := [row]
  responsiveRules := [gapRule "md" 768 8, gapRule "md" 768 24, gapRule "lg" 1000 16]

theorem steppedPage_gap :
    ∃ overrides sheet, Framework.bootstrap.sheet? steppedPage false = some overrides ∧
      Framework.css.sheet? steppedPage false = some sheet ∧
      overrides.mediaValueAt "hero" 1000 = sheet.mediaValueAt "hero" 1000 ∧
      overrides.mediaValueAt "hero" 768 "gap" = some "24px" ∧
      sheet.mediaValueAt "hero" 1000 "gap" = some "16px" := by
  have written : Framework.bootstrap.sheet? steppedPage false = some _ := rfl
  have beside : Framework.css.sheet? steppedPage false = some _ := rfl
  have listed : row ∈ steppedPage.sections := List.mem_cons_self
  have own : ∀ rule ∈ steppedPage.responsiveRules, rule.minWidth.isSome = true := by decide
  have values := mediaValueAt_overrides rfl rfl own written beside (by decide) listed
  have together : Together ResponsiveRule.place steppedPage.reachingRules := by
    intro a b c inside
    have same : [a, b, c] = [gapRule "md" 768 8, gapRule "md" 768 24, gapRule "lg" 1000 16] :=
      inside.eq_of_length rfl
    simp only [List.cons.injEq] at same
    obtain ⟨rfl, rfl, rfl, -⟩ := same
    decide
  refine ⟨_, _, written, beside, (values 1000).2.2 together, ?_, ?_⟩
  · exact (congrFun (values 768).1 "gap").trans (by decide)
  · exact (congrFun (values 1000).2.1 "gap").trans (by decide)

/-- The same rules with the wider one between the two others. -/
def returningPage : Schema where
  sections := [row]
  responsiveRules := [gapRule "md" 768 8, gapRule "lg" 1000 16, gapRule "md" 768 24]

/-- Of a schema without errors whose rules all have widths of their own, the overrides may still
give a section another value than the other sheets do: a rule that comes back to a label and a width
sets it in the block of the first rule of these, before those that stand between. -/
theorem not_forall_mediaValueAt_eq :
    ¬ ∀ (schema : Schema) (report : Report), schema.validate = .ok report → report.valid = true →
      (∀ rule ∈ schema.responsiveRules, rule.minWidth.isSome = true) →
        ∀ (comments : Bool) (overrides sheet : StyleSheet),
          Framework.bootstrap.sheet? schema comments = some overrides →
          Framework.css.sheet? schema comments = some sheet →
          ∀ sec ∈ schema.sections, ∀ width : Nat,
            overrides.mediaValueAt
                (Schema.classIn (Framework.bootstrap.selectors schema) sec) width =
              sheet.mediaValueAt (Schema.classIn (Framework.css.selectors schema) sec) width := by
  intro always
  have same := always returningPage _ rfl rfl (by decide) false _ _ rfl rfl row List.mem_cons_self
    1000
  have gap := congrFun same "gap"
  revert gap
  decide

end Framework

end DesignToCode
