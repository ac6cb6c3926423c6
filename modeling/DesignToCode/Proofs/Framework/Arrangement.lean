import DesignToCode.Proofs.Framework.RuleCarriers
import DesignToCode.Proofs.Style.Cascade

set_option autoImplicit false

namespace DesignToCode

/-- How a section is laid out; what the layout has no use for is kept. -/
structure Arrangement where
  layout : Layout
  columns : Option Columns
  direction : Option String
  gap : Nat
  hidden : Bool

namespace Arrangement

/-- The arrangement of a section below all breakpoints. -/
def ofSection (schema : Schema) (sec : Section) : Arrangement :=
  ⟨sec.layout, sec.columns, sec.direction, schema.gapOf sec, false⟩

/-- Properties show an arrangement: the display, and all else that the layout has a use for. -/
def IsShownBy (a : Arrangement) (value : String → Option String) : Prop :=
  if a.hidden then value "display" = some "none"
  else
    match a.layout with
    | .grid =>
      value "display" = some "grid" ∧
        value "grid-template-columns" = some (gridColumns (columnCount a.columns)) ∧
        value "gap" = some (pixels a.gap)
    | .flex =>
      value "display" = some "flex" ∧
        value "flex-direction" = some (flexDirection a.direction) ∧
        value "gap" = some (pixels a.gap)
    | .block => value "display" = some "block"

/-- An arrangement after one more change, of which all that is given counts. -/
def taking (now : Arrangement) (c : ResponsiveChange) : Arrangement where
  layout := c.layout.getD now.layout
  columns := c.columns <|> now.columns
  direction := c.direction <|> now.direction
  gap := c.gap.getD now.gap
  hidden := c.hidden.getD now.hidden

/-- An arrangement after one more change on top of a base. A change that hides does nothing else.
One that lays out anew starts from the base. Any other sets what the layout of the base has a use
for. -/
def onTop (base now : Arrangement) (c : ResponsiveChange) : Arrangement :=
  if c.isHidden then { now with hidden := true }
  else if c.laysOut then
    { base.taking c with direction := filled c.direction <|> base.direction, hidden := false }
  else
    { now with
      columns := if base.layout = .grid then c.columns <|> now.columns else now.columns
      direction := if base.layout = .flex then c.direction <|> now.direction else now.direction
      gap := if base.layout = .block then now.gap else c.gap.getD now.gap }

/-- A change that lays out anew finds what it leaves open, and its layout has a use for, as it is in
the base. It also says that it shows the section if that is hidden. -/
structure StartsOver (base now : Arrangement) (c : ResponsiveChange) : Prop where
  hidden : c.hidden = none → now.hidden = false
  layout : c.layout = none → now.layout = base.layout
  columns : (now.taking c).layout = .grid → c.columns = none →
    columnCount now.columns = columnCount base.columns
  direction : (now.taking c).layout = .flex → filled c.direction = none →
    isColumn (now.taking c).direction = isColumn base.direction
  gap : (now.taking c).layout ≠ .block → c.gap = none → now.gap = base.gap

/-- What a change sets for the present layout, the layout of the base has a use for too. -/
structure GoesOn (base now : Arrangement) (c : ResponsiveChange) : Prop where
  columns : now.layout = .grid → c.columns.isSome = true → base.layout = .grid
  direction : now.layout = .flex → c.direction.isSome = true → base.layout = .flex
  gap : now.layout ≠ .block → c.gap.isSome = true → base.layout ≠ .block

/-- A change that means the same on top of the base as on top of the present arrangement. -/
def StandsAlone (base now : Arrangement) (c : ResponsiveChange) : Prop :=
  c.isHidden = true ∨ (c.laysOut = true ∧ StartsOver base now c) ∨
    (c.laysOut = false ∧ (now.hidden = true ∨ GoesOn base now c))

/-- Each change stands alone when its turn comes. -/
def AllStandAlone (base : Arrangement) : Arrangement → List ResponsiveChange → Prop
  | _, [] => True
  | now, c :: rest => StandsAlone base now c ∧ AllStandAlone base (now.taking c) rest

def declarations (a : Arrangement) : Declarations :=
  if a.hidden then [("display", "none")]
  else layoutDeclarations a.layout a.columns a.direction a.gap

theorem isShownBy_iff {a : Arrangement} {value : String → Option String} :
    a.IsShownBy value ↔ ∀ d ∈ a.declarations, value d.1 = some d.2 := by
  obtain ⟨layout, columns, direction, gap, hidden⟩ := a
  cases hidden with
  | true => simp [IsShownBy, declarations]
  | false => cases layout <;> simp [IsShownBy, declarations, layoutDeclarations]

theorem nodup_declarations (a : Arrangement) : (a.declarations.map (·.1)).Nodup := by
  obtain ⟨layout, columns, direction, gap, hidden⟩ := a
  cases hidden with
  | true => simp [declarations]
  | false => cases layout <;> simp [declarations, layoutDeclarations]

/-- An arrangement that is declared last is shown. -/
theorem isShownBy_append (a : Arrangement) (made : Declarations) :
    a.IsShownBy (valueOf (made ++ a.declarations)) := by
  refine isShownBy_iff.mpr ?_
  intro d member
  have own := (Fields.mem_iff_lookup a.nodup_declarations).mp member
  rw [valueOf_append, valueOf_of_nodup a.nodup_declarations, own]
  rfl

/-- The properties that layouts are declared with. -/
def properties : List String := ["display", "grid-template-columns", "flex-direction", "gap"]

theorem mem_properties {a : Arrangement} {d : String × String} (h : d ∈ a.declarations) :
    d.1 ∈ properties := by
  have all : ∀ property ∈ a.declarations.map (·.1), property ∈ properties := by
    obtain ⟨layout, columns, direction, gap, hidden⟩ := a
    cases hidden with
    | true => simp [declarations, properties]
    | false => cases layout <;> simp [declarations, layoutDeclarations, properties]
  exact all _ (List.mem_map_of_mem h)

/-- Neither the color of a section nor its layers have a say in how it is laid out. -/
theorem notMem_properties {schema : Schema} {sec : Section} {d : String × String}
    (h : d ∈ schema.overrideDeclarations sec ++
      (schema.layersOf sec).flatMap (·.declarations)) : d.1 ∉ properties := by
  have apart : ∀ property ∈ ["background-color", "position", "z-index", "top"],
      property ∉ properties := by decide
  refine apart _ ?_
  rcases List.mem_append.mp h with color | layer
  · unfold Schema.overrideDeclarations at color
    split at color
    · cases color
    · simp [List.mem_singleton.mp color]
  · obtain ⟨layer, -, own⟩ := List.mem_flatMap.mp layer
    rcases List.mem_append.mp own with placed | top
    · obtain rfl | rfl :
          d = ("position", layer.position) ∨ d = ("z-index", toString layer.zIndex) :=
        by simpa using placed
      all_goals simp
    · split at top
      · simp [List.mem_singleton.mp top]
      · cases top

/-- The own declarations of a section are those of its base layout, its color and its layers. -/
theorem valueOf_sectionDeclarations (schema : Schema) (sec : Section) :
    valueOf (schema.sectionDeclarations sec) =
      valueOf ((ofSection schema sec).declarations ++ (schema.overrideDeclarations sec ++
        (schema.layersOf sec).flatMap (·.declarations))) := by
  let a := ofSection schema sec
  let color := schema.overrideDeclarations sec
  have distinct : ((a.declarations ++ color).map (·.1)).Nodup := by
    rw [List.map_append, List.nodup_append]
    refine ⟨a.nodup_declarations, ?_, ?_⟩
    · show ((schema.overrideDeclarations sec).map (·.1)).Nodup
      unfold Schema.overrideDeclarations
      split <;> simp
    · rintro property layout _ colored rfl
      obtain ⟨d, member, rfl⟩ := List.mem_map.mp layout
      obtain ⟨e, other, same⟩ := List.mem_map.mp colored
      exact notMem_properties (List.mem_append_left _ other) (same ▸ mem_properties member)
  have all := valueOf_foldl_putAll LayerRule.declarations (schema.layersOf sec) distinct
  rwa [List.append_assoc] at all

/-- Below all breakpoints, the own declarations of a section show how it is laid out. -/
theorem isShownBy_ofSection (schema : Schema) (sec : Section) :
    (ofSection schema sec).IsShownBy (valueOf (schema.sectionDeclarations sec)) := by
  let a := ofSection schema sec
  let more := schema.overrideDeclarations sec ++ (schema.layersOf sec).flatMap (·.declarations)
  refine isShownBy_iff.mpr ?_
  intro d member
  have absent : d.1 ∉ more.map (·.1) := by
    intro held
    obtain ⟨e, other, same⟩ := List.mem_map.mp held
    exact notMem_properties other (same ▸ mem_properties member)
  rw [valueOf_sectionDeclarations, valueOf_append, valueOf_of_notMem absent, Option.none_or,
    valueOf_of_nodup a.nodup_declarations]
  exact (Fields.mem_iff_lookup a.nodup_declarations).mp member

variable {schema : Schema} {sec : Section} {c : ResponsiveChange} {base now : Arrangement}
  {made : Declarations} {value : String → Option String}

/-- A change that does not lay out anew sets columns, direction and gap, and nothing else. -/
theorem valueOf_declarations (schema : Schema) (sec : Section) (shows : c.isHidden = false)
    (goesOn : c.laysOut = false) :
    valueOf (c.declarations sec schema) "display" = none ∧
      valueOf (c.declarations sec schema) "grid-template-columns" =
        (c.columnsFor sec).map (fun n => gridColumns n.count) ∧
      valueOf (c.declarations sec schema) "flex-direction" =
        (c.directionFor sec).map (fun d => flexDirection (some d)) ∧
      valueOf (c.declarations sec schema) "gap" = (c.gapFor sec).map pixels := by
  unfold ResponsiveChange.declarations
  rw [shows, goesOn]
  cases c.columnsFor sec <;> cases c.directionFor sec <;> cases c.gapFor sec <;>
    exact ⟨rfl, rfl, rfl, rfl⟩

/-- A change that neither hides nor lays out anew has no say in layout and display. -/
theorem fields_of_goesOn (shows : c.isHidden = false) (goesOn : c.laysOut = false) :
    c.layout = none ∧ c.hidden = none := by
  obtain ⟨layout, visible⟩ := Bool.or_eq_false_iff.mp goesOn
  refine ⟨by simpa using layout, ?_⟩
  cases given : c.hidden with
  | none => rfl
  | some hides => cases hides <;> simp_all [ResponsiveChange.isHidden]

theorem columnsFor_or (same : c.layoutIn sec = sec.layout) (before : Option Columns) :
    ((c.columnsFor sec).map fun n => gridColumns n.count).or
        (some (gridColumns (columnCount before))) =
      some (gridColumns (columnCount
        (if sec.layout = .grid then c.columns <|> before else before))) := by
  rw [ResponsiveChange.columnsFor, same]
  by_cases use : sec.layout = .grid
  · cases c.columns <;> simp [use, columnCount]
  · simp [use]

theorem directionFor_or (same : c.layoutIn sec = sec.layout) (before : Option String) :
    ((c.directionFor sec).map fun d => flexDirection (some d)).or
        (some (flexDirection before)) =
      some (flexDirection (if sec.layout = .flex then c.direction <|> before else before)) := by
  rw [ResponsiveChange.directionFor, same]
  by_cases use : sec.layout = .flex
  · cases c.direction <;> simp [use]
  · simp [use]

theorem gapFor_or (same : c.layoutIn sec = sec.layout) (before : Nat) :
    ((c.gapFor sec).map pixels).or (some (pixels before)) =
      some (pixels (if sec.layout = .block then before else c.gap.getD before)) := by
  rw [ResponsiveChange.gapFor, same]
  by_cases use : sec.layout = .block
  · simp [use]
  · cases c.gap <;> simp [use]

/-- What a change sets is shown with all else that was shown before. -/
theorem IsShownBy.onTop_of_goesOn (shown : now.IsShownBy (valueOf made))
    (shows : c.isHidden = false)
    (goesOn : c.laysOut = false) :
    ((ofSection schema sec).onTop now c).IsShownBy
      (valueOf (made ++ c.declarations sec schema)) := by
  obtain ⟨display, columns, direction, gap⟩ := valueOf_declarations schema sec shows goesOn
  have same : c.layoutIn sec = sec.layout := by
    rw [ResponsiveChange.layoutIn, (fields_of_goesOn shows goesOn).1, Option.getD_none]
  rw [Arrangement.onTop, if_neg (by simp [shows]), if_neg (by simp [goesOn])]
  -- the display stays as it was, so what is shown depends on the layout of `now`
  obtain ⟨layout, before, way, px, hidden⟩ := now
  simp only [IsShownBy, valueOf_append, display, columns, direction, gap, Option.none_or,
    ofSection] at shown ⊢
  cases hidden with
  | true => exact shown
  | false =>
    cases layout with
    | grid =>
      obtain ⟨grid, counted, spaced⟩ := shown
      rw [counted, spaced]
      exact ⟨grid, columnsFor_or same before, gapFor_or same px⟩
    | flex =>
      obtain ⟨flex, turned, spaced⟩ := shown
      rw [turned, spaced]
      exact ⟨flex, directionFor_or same way, gapFor_or same px⟩
    | block => exact shown

/-- The step: what a change declares shows what it makes of the arrangement on top of the base. -/
theorem IsShownBy.onTop (shown : now.IsShownBy (valueOf made)) :
    ((ofSection schema sec).onTop now c).IsShownBy
      (valueOf (made ++ c.declarations sec schema)) := by
  by_cases hides : c.isHidden = true
  case pos =>
    have own : c.declarations sec schema = declarations { now with hidden := true } := by
      rw [ResponsiveChange.declarations, if_pos hides]
      rfl
    rw [Arrangement.onTop, if_pos hides, own]
    exact isShownBy_append _ made
  case neg =>
    by_cases anew : c.laysOut = true
    case pos =>
      have own : c.declarations sec schema = declarations
          { (ofSection schema sec).taking c with
            direction := filled c.direction <|> sec.direction, hidden := false } := by
        rw [ResponsiveChange.declarations, if_neg hides, if_pos anew]
        rfl
      rw [Arrangement.onTop, if_neg hides, if_pos anew, own]
      exact isShownBy_append _ made
    case neg =>
      exact shown.onTop_of_goesOn (by simpa using hides) (by simpa using anew)

/-- What shows an arrangement shows every other that looks the same. -/
theorem IsShownBy.congr {a b : Arrangement} (shown : a.IsShownBy value)
    (hidden : b.hidden = a.hidden) (layout : b.layout = a.layout)
    (columns : b.layout = .grid → columnCount b.columns = columnCount a.columns)
    (direction : b.layout = .flex → isColumn b.direction = isColumn a.direction)
    (gap : b.layout ≠ .block → b.gap = a.gap) : b.IsShownBy value := by
  unfold IsShownBy at shown ⊢
  rw [hidden]
  split
  · rename_i hides
    rwa [if_pos hides] at shown
  · rename_i shows
    rw [if_neg shows, ← layout] at shown
    cases case : b.layout with
    | grid =>
      rw [case] at shown
      rw [columns case, gap (by simp [case])]
      exact shown
    | flex =>
      rw [case] at shown
      rw [flexDirection, direction case, gap (by simp [case])]
      exact shown
    | block =>
      rw [case] at shown
      exact shown

theorem StartsOver.isShownBy_taking (fresh : StartsOver base now c) (shows : c.isHidden = false)
    (anew : c.laysOut = true) (shown : (base.onTop now c).IsShownBy value) :
    (now.taking c).IsShownBy value := by
  rw [Arrangement.onTop, if_neg (by simp [shows]), if_pos anew] at shown
  apply shown.congr
  case hidden =>
    cases given : c.hidden with
    | none => simp [taking, given, fresh.hidden given]
    | some hides =>
      have visible : hides = false := by simpa [ResponsiveChange.isHidden, given] using shows
      simp [taking, given, visible]
  case layout =>
    cases given : c.layout with
    | none => simp [taking, given, fresh.layout given]
    | some layout => simp [taking, given]
  case columns =>
    intro grid
    cases given : c.columns with
    | none => simp [taking, given, fresh.columns grid given]
    | some columns => simp [taking, given]
  case direction =>
    intro flex
    cases given : filled c.direction with
    | none => simp [fresh.direction flex given]
    | some direction =>
      have own : c.direction = some direction := (Option.filter_eq_some_iff.mp given).1
      simp [taking, own]
  case gap =>
    intro spaced
    cases given : c.gap with
    | none => simp [taking, given, fresh.gap spaced given]
    | some gap => simp [taking, given]

theorem GoesOn.isShownBy_taking (kept : GoesOn base now c) (shows : c.isHidden = false)
    (goesOn : c.laysOut = false) (shown : (base.onTop now c).IsShownBy value) :
    (now.taking c).IsShownBy value := by
  obtain ⟨unnamed, unsaid⟩ := fields_of_goesOn shows goesOn
  rw [Arrangement.onTop, if_neg (by simp [shows]), if_neg (by simp [goesOn])] at shown
  have layout : (now.taking c).layout = now.layout := by simp [taking, unnamed]
  refine shown.congr (by simp [taking, unsaid]) layout ?columns ?direction ?gap <;>
    rw [layout] <;> intro use
  case columns =>
    cases given : c.columns with
    | none => simp [taking, given]
    | some columns => simp [taking, given, kept.columns use (by simp [given])]
  case direction =>
    cases given : c.direction with
    | none => simp [taking, given]
    | some direction => simp [taking, given, kept.direction use (by simp [given])]
  case gap =>
    cases given : c.gap with
    | none => simp [taking, given]
    | some gap => simp [taking, given, kept.gap use (by simp [given])]

/-- What stands alone means the same on top of the base as on top of the present arrangement. -/
theorem StandsAlone.isShownBy_taking (alone : StandsAlone base now c)
    (shown : (base.onTop now c).IsShownBy value) : (now.taking c).IsShownBy value := by
  by_cases hides : c.isHidden = true
  case pos =>
    have hidden : c.hidden = some true := by simpa [ResponsiveChange.isHidden] using hides
    rw [Arrangement.onTop, if_pos hides] at shown
    simpa [IsShownBy, taking, hidden] using shown
  case neg =>
    have shows : c.isHidden = false := by simpa using hides
    rcases alone with hides | ⟨anew, fresh⟩ | ⟨goesOn, hidden | kept⟩
    · exact absurd hides (by simp [shows])
    · exact fresh.isShownBy_taking shows anew shown
    · rw [Arrangement.onTop, if_neg hides, if_neg (by simp [goesOn])] at shown
      simpa [IsShownBy, taking, (fields_of_goesOn shows goesOn).2, hidden] using shown
    · exact kept.isShownBy_taking shows goesOn shown

/-- The run: so it goes on from change to change. -/
theorem isShownBy_foldl_onTop (changes : List ResponsiveChange)
    (shown : now.IsShownBy (valueOf made)) :
    (changes.foldl (ofSection schema sec).onTop now).IsShownBy
      (valueOf (made ++ changes.flatMap (·.declarations sec schema))) := by
  -- `made` grows with each change; that it shows `now` is all that the step needs to know
  induction changes generalizing now made with
  | nil => rwa [List.flatMap_nil, List.append_nil]
  | cons c rest ih =>
    rw [List.foldl_cons, List.flatMap_cons, ← List.append_assoc]
    exact ih shown.onTop

theorem isShownBy_foldl_taking (changes : List ResponsiveChange)
    (alone : AllStandAlone (ofSection schema sec) now changes)
    (shown : now.IsShownBy (valueOf made)) :
    (changes.foldl taking now).IsShownBy
      (valueOf (made ++ changes.flatMap (·.declarations sec schema))) := by
  induction changes generalizing now made with
  | nil => rwa [List.flatMap_nil, List.append_nil]
  | cons c rest ih =>
    rw [List.foldl_cons, List.flatMap_cons, ← List.append_assoc]
    exact ih alone.2 (alone.1.isShownBy_taking shown.onTop)

end Arrangement

namespace Framework

/-- At every width, a sheet gives a section the values of its own declarations and, behind them, of
its changes up to this width. -/
theorem valueAt_section {framework : Framework} {schema : Schema} {comments : Bool}
    {sheet : StyleSheet} {sec : Section} (distinct : schema.sectionIds.Nodup)
    (written : framework.sheet? schema comments = some sheet) (other : framework ≠ .bootstrap)
    (listed : sec ∈ schema.sections) (width : Nat) :
    sheet.valueAt (Schema.classIn (framework.selectors schema) sec) width =
      valueOf (schema.sectionDeclarations sec ++
        (schema.changesAt sec width).flatMap (·.declarations sec schema)) := by
  have own := Schema.hasOwnClass distinct framework.classStyle [Stylesheet.rootClass] listed
  have free :=
    Schema.classIn_notMem_reserved distinct framework.classStyle [Stylesheet.rootClass] listed
  rw [stylesheetClasses_eq] at own free
  have apart : Stylesheet.rootClass ≠
      Schema.classIn (framework.stylesheetClasses schema) sec := by
    intro same
    exact free (same ▸ List.mem_cons_self)
  have values := own.valueAt_eq apart comments width
  cases framework
  case tailwind => cases written
  case bootstrap => exact absurd rfl other
  all_goals
    cases written
    exact values

/-- At every width, the sheet shows a section as the changes up to this width leave it when each is
made on top of the base layout. That is how the changes leave it one after the other, all that they
give taken together, if each of them stands alone. -/
theorem isShownBy_valueAt {schema : Schema} {report : Report} {comments : Bool}
    {sheet : StyleSheet} {sec : Section} (reported : schema.validate = .ok report)
    (valid : report.valid = true) (written : Framework.css.sheet? schema comments = some sheet)
    (listed : sec ∈ schema.sections) (width : Nat) :
    ((schema.changesAt sec width).foldl (Arrangement.ofSection schema sec).onTop
        (.ofSection schema sec)).IsShownBy
        (sheet.valueAt (Schema.classIn (Framework.css.selectors schema) sec) width) ∧
      (Arrangement.AllStandAlone (.ofSection schema sec) (.ofSection schema sec)
          (schema.changesAt sec width) →
        ((schema.changesAt sec width).foldl Arrangement.taking
          (.ofSection schema sec)).IsShownBy
          (sheet.valueAt (Schema.classIn (Framework.css.selectors schema) sec) width)) := by
  have distinct := (Schema.sound_of_reported reported valid).sectionsDistinct
  have values := valueAt_section distinct written (by decide) listed width
  have base := Arrangement.isShownBy_ofSection schema sec
  rw [values]
  constructor
  · exact Arrangement.isShownBy_foldl_onTop _ base
  · intro alone
    exact Arrangement.isShownBy_foldl_taking _ alone base

/-- A page with one section, a grid of two columns. -/
def gridPage (rules : List ResponsiveRule) : Schema where
  sections := [{ id := "cards", name := "Cards", type := "features", layout := .grid,
                 columns := some ⟨2, by decide, by decide⟩ }]
  responsiveRules := rules

/-- A third column, then nothing, then a row. -/
def settledRules : List ResponsiveRule := [
  { breakpoint := "md",
    rules := [{ target := "cards", columns := some ⟨3, by decide, by decide⟩ }] },
  { breakpoint := "lg", rules := [{ target := everySection, hidden := some true }] },
  { breakpoint := "xl",
    rules := [{ target := "cards", layout := some .flex, direction := some "row", gap := some 4,
                hidden := some false }] }]

theorem gridPage_settled :
    ∃ sheet, Framework.css.sheet? (gridPage settledRules) false = some sheet ∧
      Arrangement.IsShownBy ⟨.grid, some ⟨3, by decide, by decide⟩, none, 16, true⟩
        (sheet.valueAt "cards" 1024) ∧
      Arrangement.IsShownBy ⟨.flex, some ⟨3, by decide, by decide⟩, some "row", 4, false⟩
        (sheet.valueAt "cards" 1280) := by
  have written : Framework.css.sheet? (gridPage settledRules) false = some _ := rfl
  have listed : _ ∈ (gridPage settledRules).sections := List.mem_cons_self
  have shown := isShownBy_valueAt rfl rfl written listed
  refine ⟨_, written, (shown 1024).1, (shown 1280).2 ⟨?third, ?hidden, ?row, trivial⟩⟩
  case third => exact .inr (.inr ⟨rfl, .inr ⟨by decide, by decide, by decide⟩⟩)
  case hidden => exact .inl rfl
  case row => exact .inr (.inl ⟨rfl, by decide, by decide, by decide, by decide, by decide⟩)

/-- A column where the base layout is no line. -/
def turnedRules : List ResponsiveRule := [
  { breakpoint := "md", rules := [{ target := "cards", layout := some .flex }] },
  { breakpoint := "lg", rules := [{ target := "cards", direction := some "column" }] }]

/-- Of a schema without errors whose rules are wider one after the other, a section may still be
shown otherwise than its changes leave it one after the other. -/
theorem not_forall_isShownBy_taking :
    ¬ ∀ (schema : Schema) (report : Report), schema.validate = .ok report → report.valid = true →
      ∀ widths : List Nat, schema.responsiveRules.map (·.resolvedMinWidth) = widths.map some →
        widths.Pairwise (· < ·) →
        ∀ (comments : Bool) (sheet : StyleSheet),
          Framework.css.sheet? schema comments = some sheet →
          ∀ sec ∈ schema.sections, ∀ width : Nat,
            ((schema.changesAt sec width).foldl Arrangement.taking
              (.ofSection schema sec)).IsShownBy
              (sheet.valueAt (Schema.classIn (Framework.css.selectors schema) sec) width) := by
  intro always
  obtain ⟨-, column, -⟩ := always (gridPage turnedRules) _ rfl rfl [768, 1024]
    rfl (by decide) false _
    rfl _ List.mem_cons_self 1024
  revert column
  decide

end Framework

end DesignToCode
