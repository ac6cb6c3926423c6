import DesignToCode.Proofs.Framework.Overrides

set_option autoImplicit false

namespace DesignToCode.Bootstrap

/-- One change of one section, with its rule and the width of the rule. -/
structure Turn where
  rule : ResponsiveRule
  width : Nat
  change : ResponsiveChange
  sec : Section

namespace Turn

/-- The label and the width of the block in which the change is declared, if it is. -/
def place (t : Turn) : String × Nat := (t.rule.breakpoint, t.width)

/-- The classes that say the change, if there are any for it. -/
def classes? (t : Turn) : Option (List String) :=
  (ruleInfix t.rule).bind (changeClasses? t.change t.sec)

def classes (t : Turn) : List String := t.classes?.getD []

def declarations (t : Turn) (schema : Schema) : Declarations := t.change.declarations t.sec schema

/-- Whether the change is left to the rule of a class in the block of a place. -/
def isLeftTo (place : String × Nat) (name : String) (selectors : ClassMap) (t : Turn) : Bool :=
  t.classes?.isNone && t.place == place && Schema.classIn selectors t.sec == name

/-- A grid that goes on as a grid, and has more columns than a row can have. -/
structure IsWideGrid (t : Turn) : Prop where
  grid : t.sec.layout = .grid
  wide : maxRowColumns < columnCount t.sec.columns
  shown : t.change.hidden ≠ some true
  noBlock : t.change.layout ≠ some .block
  noFlex : t.change.layout ≠ some .flex

end Turn

/-- The changes of sections in the order in which a plan takes them. -/
def turns (schema : Schema) : List Turn :=
  schema.responsiveRules.flatMap fun rule =>
    match rule.resolvedMinWidth with
    | none => []
    | some width => (schema.changesOf rule).map fun pair => ⟨rule, width, pair.1, pair.2⟩

def planTurn (schema : Schema) (p : Plan) (t : Turn) : Plan :=
  planChange schema t.rule t.width p (t.change, t.sec)

/-- What is declared in the rule of a class. -/
def declaredUnder (rules : List StyleRule) (name : String) : Declarations :=
  ((rules.find? (·.className = name)).map (·.declarations)).getD []

/-- A block of a label and a width. -/
def IsAt (place : String × Nat) (m : MediaBlock) : Prop :=
  m.label = place.1 ∧ m.minWidth = (place.2 : Int)

instance (place : String × Nat) (m : MediaBlock) : Decidable (IsAt place m) :=
  inferInstanceAs (Decidable (_ ∧ _))

/-- What is declared for a class in the block of a label and a width. -/
def declaredIn (media : List MediaBlock) (place : String × Nat) (name : String) : Declarations :=
  ((media.find? (IsAt place)).map fun block => declaredUnder block.rules name).getD []

/-- What turns leave to the rule of a class in a block. -/
def leftTo (schema : Schema) (place : String × Nat) (name : String) (taken : List Turn) :
    Declarations :=
  (taken.filter (·.isLeftTo place name (plan schema).selectors)).flatMap (·.declarations schema)

variable {schema : Schema}

theorem plan_eq_foldl_turns (schema : Schema) :
    plan schema = (turns schema).foldl (planTurn schema) (basePlan schema) := by
  have rules (rules : List ResponsiveRule) (p : Plan) :
      rules.foldl (planRule schema) p = (rules.flatMap fun rule =>
        match rule.resolvedMinWidth with
        | none => []
        | some width => (schema.changesOf rule).map fun pair =>
          Turn.mk rule width pair.1 pair.2).foldl (planTurn schema) p := by
    induction rules generalizing p with
    | nil => rfl
    | cons rule rest ih =>
      rw [List.foldl_cons, List.flatMap_cons, List.foldl_append, ih]
      congr 1
      unfold planRule
      cases rule.resolvedMinWidth with
      | none => rfl
      | some width =>
        dsimp only
        rw [List.foldl_map]
        rfl
  exact rules schema.responsiveRules (basePlan schema)

theorem selectors_planTurn (p : Plan) (t : Turn) :
    (planTurn schema p t).selectors = p.selectors := by
  unfold planTurn planChange
  dsimp only
  split <;> rfl

/-- A turn adds its classes to those of its section, and leaves those of any other section alone. -/
theorem classesOf_planTurn (p : Plan) (t : Turn) (id : String) :
    (planTurn schema p t).classesOf id =
      p.classesOf id ++ if t.sec.id = id then t.classes else [] := by
  unfold planTurn planChange Turn.classes Turn.classes?
  dsimp only
  split
  · rename_i classes said
    rw [said, Plan.classesOf, classesOf_addClasses, Option.getD_some]
    by_cases own : t.sec.id = id
    · subst own
      simp
    · rw [if_neg fun same => own same.symm, if_neg own, List.append_nil]
  · rename_i unsaid
    rw [unsaid]
    simp [Plan.classesOf]

theorem declaredUnder_declareInRules (rules : List StyleRule) (className : String)
    {more : Declarations} (distinct : (more.map (·.1)).Nodup) (name : String) :
    declaredUnder (declareInRules rules className more) name =
      if className = name then Fields.putAll (declaredUnder rules name) more
      else declaredUnder rules name := by
  induction rules with
  | nil =>
    have own : Fields.putAll [] more = more := Fields.ofPairs_of_nodup distinct
    by_cases same : className = name
    · simp [declareInRules, declaredUnder, same, own]
    · simp [declareInRules, declaredUnder, same]
  | cons rule rest ih =>
    rw [declareInRules]
    by_cases here : rule.className = className
    · by_cases same : className = name <;> simp [declaredUnder, here, same]
    · rw [if_neg here]
      by_cases asked : rule.className = name
      · have other : className ≠ name := fun same => here (asked.trans same.symm)
        simp [declaredUnder, asked, other]
      · simpa [declaredUnder, asked] using ih

theorem isAt_iff_eq {m : MediaBlock} {place other : String × Nat} (here : IsAt place m) :
    IsAt other m ↔ place = other := by
  obtain ⟨label, width⟩ := place
  obtain ⟨rfl, wide⟩ := here
  dsimp only at wide
  rw [IsAt, wide, Prod.ext_iff, Int.ofNat_inj]

/-- More declarations for a class in a block come on top of those that it has there, and change no
others. -/
theorem declaredIn_declareInMedia (media : List MediaBlock) (here : String × Nat)
    (className : String) {more : Declarations} (distinct : (more.map (·.1)).Nodup)
    (place : String × Nat) (name : String) :
    declaredIn (declareInMedia media here.1 here.2 className more) place name =
      if here = place ∧ className = name then Fields.putAll (declaredIn media place name) more
      else declaredIn media place name := by
  induction media with
  | nil =>
    have own : IsAt here ⟨here.1, here.2, declareInRules [] className more⟩ := ⟨rfl, rfl⟩
    have first := declaredUnder_declareInRules [] className distinct name
    by_cases same : here = place
    · subst same
      simpa [declareInMedia, declaredIn, declaredUnder, own] using first
    · simp [declareInMedia, declaredIn, isAt_iff_eq own, same]
  | cons block rest ih =>
    have step : declareInMedia (block :: rest) here.1 here.2 className more =
        if IsAt here block then
          { block with rules := declareInRules block.rules className more } :: rest
        else block :: declareInMedia rest here.1 here.2 className more := rfl
    rw [step]
    by_cases found : IsAt here block
    · have kept : IsAt here { block with rules := declareInRules block.rules className more } :=
        found
      have first := declaredUnder_declareInRules block.rules className distinct name
      by_cases same : here = place
      · subst same
        simpa [declaredIn, found, kept] using first
      · have elsewhere : ¬ IsAt place block := (isAt_iff_eq found).not.mpr same
        have still :
            ¬ IsAt place { block with rules := declareInRules block.rules className more } :=
          elsewhere
        simp [declaredIn, found, elsewhere, still, same]
    · rw [if_neg found]
      by_cases asked : IsAt place block
      · have other : here ≠ place := by
          rintro rfl
          exact found asked
        simp [declaredIn, asked, other]
      · simpa [declaredIn, asked] using ih

/-- A turn that is left to the rule of a class in a block adds its declarations there, and any other
turn leaves that rule alone. -/
theorem declaredIn_planTurn (p : Plan) (t : Turn) (place : String × Nat) (name : String) :
    declaredIn (planTurn schema p t).sheet.media place name =
      if t.isLeftTo place name p.selectors then
        Fields.putAll (declaredIn p.sheet.media place name) (t.declarations schema)
      else declaredIn p.sheet.media place name := by
  have distinct := nodup_changeDeclarations t.change t.sec schema
  have more := declaredIn_declareInMedia p.sheet.media t.place (Schema.classIn p.selectors t.sec)
    distinct place name
  unfold planTurn planChange Turn.isLeftTo Turn.classes?
  dsimp only
  split
  · rename_i classes said
    simp [said]
  · rename_i unsaid
    rw [unsaid]
    refine more.trans (if_congr ?_ rfl rfl)
    simp

theorem selectors_foldl_planTurn (taken : List Turn) (p : Plan) :
    (taken.foldl (planTurn schema) p).selectors = p.selectors := by
  induction taken generalizing p with
  | nil => rfl
  | cons t rest ih => rw [List.foldl_cons, ih, selectors_planTurn]

theorem classesOf_foldl_planTurn (taken : List Turn) (p : Plan) (id : String) :
    (taken.foldl (planTurn schema) p).classesOf id =
      p.classesOf id ++ (taken.filter (·.sec.id = id)).flatMap (·.classes) := by
  induction taken generalizing p with
  | nil => simp
  | cons t rest ih =>
    rw [List.foldl_cons, ih, classesOf_planTurn]
    by_cases own : t.sec.id = id <;> simp [own]

theorem declaredIn_foldl_planTurn (taken : List Turn) (p : Plan) (place : String × Nat)
    (name : String) :
    declaredIn (taken.foldl (planTurn schema) p).sheet.media place name =
      (taken.filter (·.isLeftTo place name p.selectors)).foldl
        (fun made t => Fields.putAll made (t.declarations schema))
        (declaredIn p.sheet.media place name) := by
  induction taken generalizing p with
  | nil => rfl
  | cons t rest ih =>
    rw [List.foldl_cons, ih, declaredIn_planTurn, selectors_planTurn]
    by_cases left : t.isLeftTo place name p.selectors = true <;> simp [left]

theorem selectors_plan (schema : Schema) :
    (plan schema).selectors = (basePlan schema).selectors := by
  rw [plan_eq_foldl_turns, selectors_foldl_planTurn]

/-- The rule of a class in a block has the values that turns leave to it, the last one counting. -/
theorem valueOf_declaredIn_plan (schema : Schema) (place : String × Nat) (name : String) :
    valueOf (declaredIn (plan schema).sheet.media place name) =
      valueOf (leftTo schema place name (turns schema)) := by
  have nothing : declaredIn (basePlan schema).sheet.media place name = [] := rfl
  unfold leftTo
  rw [selectors_plan, plan_eq_foldl_turns, declaredIn_foldl_planTurn, nothing,
    valueOf_foldl_putAll _ _ (by exact List.nodup_nil)]
  rfl

variable {t : Turn}

theorem Turn.IsWideGrid.layoutIn (h : t.IsWideGrid) : t.change.layoutIn t.sec = .grid := by
  unfold ResponsiveChange.layoutIn
  cases named : t.change.layout with
  | none => exact h.grid
  | some layout =>
    cases layout with
    | grid => rfl
    | flex => exact absurd named h.noFlex
    | block => exact absurd named h.noBlock

/-- The classes of a change of a wide grid: none at all if it names columns. Otherwise they show the
grid as a line, and give it the gap of a row. -/
theorem Turn.IsWideGrid.classes?_eq (h : t.IsWideGrid) {mark : String}
    (named : ruleInfix t.rule = some mark) :
    t.classes? = if t.change.columns.isSome then none else
      some ((if t.change.laysOut then [s!"d-{mark}-flex"] else []) ++
        (t.change.gap.map fun (gap : Nat) => s!"g-{mark}-{spacer gap}").toList) := by
  have shown : t.change.isHidden = false := by
    unfold ResponsiveChange.isHidden
    exact beq_false_of_ne h.shown
  have wide : ¬ columnCount t.sec.columns ≤ maxRowColumns := Nat.not_le.mpr h.wide
  unfold Turn.classes?
  rw [named, Option.bind_some, changeClasses?]
  cases columns : t.change.columns with
  | none =>
    cases gap : t.change.gap <;>
      simp [shown, h.layoutIn, h.grid, columnsFit, ResponsiveChange.columnsFor, columns,
        displayClasses, detailClasses, ResponsiveChange.directionFor, ResponsiveChange.gapFor, gap,
        gapWord]
  | some n =>
    simp [shown, h.layoutIn, h.grid, columnsFit, ResponsiveChange.columnsFor, columns, wide]

/-- A change of a wide grid declares nothing exactly when it says nothing that a grid has a use for.
-/
theorem Turn.IsWideGrid.declarations_eq_nil_iff (h : t.IsWideGrid) (schema : Schema) :
    t.declarations schema = [] ↔
      t.change.laysOut = false ∧ t.change.columns = none ∧ t.change.gap = none := by
  have shown : t.change.isHidden = false := by
    unfold ResponsiveChange.isHidden
    exact beq_false_of_ne h.shown
  unfold Turn.declarations ResponsiveChange.declarations
  rw [shown, h.layoutIn]
  cases t.change.laysOut with
  | true => simp [layoutDeclarations]
  | false =>
    simp [ResponsiveChange.columnsFor, ResponsiveChange.directionFor, ResponsiveChange.gapFor,
      h.layoutIn]

/-- A change is carried out by the overrides alone: its section has no class for it, and in the
block of its rule each property has the value that the change declares, or the one that a later
change leaves to the same rule of this block. -/
structure Turn.IsOverridden (schema : Schema) (t : Turn) (later : List Turn) : Prop where
  noClass : t.classes = []
  declared : ∀ entry ∈ t.declarations schema,
    valueOf (declaredIn (plan schema).sheet.media t.place
        (Schema.classIn (plan schema).selectors t.sec)) entry.1 =
      (valueOf (leftTo schema t.place (Schema.classIn (plan schema).selectors t.sec) later)
        entry.1).or (some entry.2)

variable {before later : List Turn}

theorem Turn.isOverridden_of_left (turn : turns schema = before ++ t :: later)
    (left : t.classes? = none) : t.IsOverridden schema later where
  noClass := by rw [Turn.classes, left, Option.getD_none]
  declared := by
    intro entry member
    have kept : t.isLeftTo t.place (Schema.classIn (plan schema).selectors t.sec)
        (plan schema).selectors = true := by
      simp [Turn.isLeftTo, left]
    have own : valueOf (t.declarations schema) entry.1 = some entry.2 := by
      have distinct := nodup_changeDeclarations t.change t.sec schema
      rw [Turn.declarations, valueOf_of_nodup distinct, ← Fields.mem_iff_lookup distinct]
      exact member
    have split : leftTo schema t.place (Schema.classIn (plan schema).selectors t.sec)
          (turns schema) =
        leftTo schema t.place (Schema.classIn (plan schema).selectors t.sec) before ++
          (t.declarations schema ++
            leftTo schema t.place (Schema.classIn (plan schema).selectors t.sec) later) := by
      unfold leftTo
      rw [turn, List.filter_append, List.flatMap_append, List.filter_cons_of_pos kept,
        List.flatMap_cons]
    rw [valueOf_declaredIn_plan, split, valueOf_append, valueOf_append, own, Option.or_assoc,
      Option.some_or]

/-- At a breakpoint with an infix, the change of a wide grid that goes on as a grid is carried out
by the overrides alone exactly when it names columns, or declares nothing. Otherwise the section
gets classes of a line and of a row in its turn: one that shows it as a line if it is laid out anew,
and one for the gap of a row if a gap is named. -/
theorem isOverridden_iff_of_wideGrid {mark : String} (turn : turns schema = before ++ t :: later)
    (wide : t.IsWideGrid) (named : ruleInfix t.rule = some mark) :
    (t.IsOverridden schema later ↔
      t.change.columns.isSome = true ∨ t.declarations schema = []) ∧
    (t.change.columns = none → t.classes =
      (if t.change.laysOut then [s!"d-{mark}-flex"] else []) ++
        (t.change.gap.map fun (gap : Nat) => s!"g-{mark}-{spacer gap}").toList) ∧
    (plan schema).classesOf t.sec.id =
      (basePlan schema).classesOf t.sec.id ++
        (before.filter (·.sec.id = t.sec.id)).flatMap (·.classes) ++ t.classes ++
        (later.filter (·.sec.id = t.sec.id)).flatMap (·.classes) := by
  have said := wide.classes?_eq named
  have classes (none : t.change.columns = none) : t.classes =
      (if t.change.laysOut then [s!"d-{mark}-flex"] else []) ++
        (t.change.gap.map fun (gap : Nat) => s!"g-{mark}-{spacer gap}").toList := by
    rw [none, Option.isSome_none, if_neg Bool.false_ne_true] at said
    rw [Turn.classes, said, Option.getD_some]
  refine ⟨⟨?_, ?_⟩, classes, ?_⟩
  · intro overridden
    cases columns : t.change.columns with
    | some n => exact .inl rfl
    | none =>
      have nothing := (classes columns).symm.trans overridden.noClass
      obtain ⟨same, noGap⟩ := List.append_eq_nil_iff.mp nothing
      refine .inr ((wide.declarations_eq_nil_iff schema).mpr ⟨?_, columns, ?_⟩)
      · by_contra laysOut
        rw [if_pos (Bool.eq_true_of_not_eq_false laysOut)] at same
        cases same
      · exact Option.map_eq_none_iff.mp (Option.toList_eq_nil_iff.mp noGap)
  · rintro (columns | nothing)
    · exact Turn.isOverridden_of_left turn (said.trans (if_pos columns))
    · obtain ⟨laysOut, columns, gap⟩ := (wide.declarations_eq_nil_iff schema).mp nothing
      refine ⟨?_, by simp [nothing]⟩
      rw [classes columns, laysOut, gap]
      rfl
  · rw [plan_eq_foldl_turns, classesOf_foldl_planTurn, turn, List.filter_append,
      List.filter_cons_of_pos (by simp), List.flatMap_append, List.flatMap_cons]
    simp only [List.append_assoc]

/-- A grid of eight columns. -/
def gallery : Section where
  id := "gallery"
  name := "Gallery"
  type := "gallery"
  layout := .grid
  columns := some ⟨8, by decide, by decide⟩

def mediumRule (changes : List ResponsiveChange) : ResponsiveRule where
  breakpoint := "md"
  rules := changes

/-- Six columns close together, then five. -/
def narrowings : List ResponsiveChange := [
  { target := "gallery", columns := some ⟨6, by decide, by decide⟩, gap := some 8 },
  { target := everySection, columns := some ⟨5, by decide, by decide⟩ }]

def galleryPage (changes : List ResponsiveChange) : Schema where
  sections := [gallery]
  responsiveRules := [mediumRule changes]

def galleryTurn (rule : ResponsiveRule) (change : ResponsiveChange) : Turn :=
  ⟨rule, 768, change, gallery⟩

/-- The gap of the first change stays, and its columns are set again by the second one. -/
theorem narrowedGallery_isOverridden :
    ∃ (t : Turn) (later : List Turn), turns (galleryPage narrowings) = [] ++ t :: later ∧
      t.IsWideGrid ∧ ruleInfix t.rule = some "md" ∧
      t.IsOverridden (galleryPage narrowings) later ∧
      valueOf (declaredIn (plan (galleryPage narrowings)).sheet.media ("md", 768) "gallery") "gap" =
        some "8px" ∧
      valueOf (declaredIn (plan (galleryPage narrowings)).sheet.media ("md", 768) "gallery")
        "grid-template-columns" = some "repeat(5, minmax(0, 1fr))" := by
  have turn : turns (galleryPage narrowings) = [] ++
      galleryTurn (mediumRule narrowings) (narrowings[0]) ::
        [galleryTurn (mediumRule narrowings) (narrowings[1])] := rfl
  have wide : (galleryTurn (mediumRule narrowings) (narrowings[0])).IsWideGrid := by
    constructor <;> decide
  have overridden := ((isOverridden_iff_of_wideGrid turn wide rfl).1.mpr (.inl rfl))
  refine ⟨_, _, turn, wide, rfl, overridden, ?_, ?_⟩
  · exact (overridden.declared ("gap", "8px") (by decide)).trans (by decide)
  · exact (overridden.declared
      ("grid-template-columns", "repeat(6, minmax(0, 1fr))") (by decide)).trans (by decide)

/-- Of a schema without errors, not every change of a wide grid that goes on as a grid is carried
out by the overrides: one that shows the grid again shows it as a line. -/
theorem not_forall_isOverridden :
    ¬ ∀ (schema : Schema) (report : Report), schema.validate = .ok report → report.valid = true →
      ∀ (before later : List Turn) (t : Turn) (mark : String),
        turns schema = before ++ t :: later → t.IsWideGrid → ruleInfix t.rule = some mark →
          t.IsOverridden schema later := by
  intro always
  have wide : (galleryTurn (mediumRule [{ target := "gallery", hidden := some false }])
      { target := "gallery", hidden := some false }).IsWideGrid := by
    constructor <;> decide
  have overridden := always (galleryPage [{ target := "gallery", hidden := some false }]) _ rfl rfl
    [] [] _ "md" rfl wide rfl
  exact absurd overridden.noClass (by decide)

end DesignToCode.Bootstrap
