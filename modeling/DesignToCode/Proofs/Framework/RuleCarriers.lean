import DesignToCode.Framework.Lowering
import DesignToCode.Proofs.Framework.Bootstrap
import DesignToCode.Proofs.Markup.Carriers
import DesignToCode.Proofs.Schema.Verdict

set_option autoImplicit false

namespace DesignToCode

namespace Bootstrap

variable {schema : Schema} {sec : Section} {name : String}

/-- The classes of the page but that of its rule. -/
def rootUtilities (schema : Schema) : List String :=
  let strategy := schema.layoutStrategy
  [if strategy.maxWidth?.isSome then "container" else "container-fluid"] ++
    (if strategy.isGrid then ["d-grid"] else ["d-flex", "flex-column"]) ++
    [s!"gap-{spacer strategy.gap}"] ++ (alignments.lookup strategy.alignment).toList

theorem isLayoutClass_of_mem_rootUtilities (h : name ∈ rootUtilities schema) :
    IsLayoutClass name := by
  simp only [rootUtilities, List.append_assoc, List.mem_append, List.mem_singleton] at h
  rcases h with rfl | display | rfl | alignment
  · split <;> decide
  · split at display
    · obtain rfl := List.mem_singleton.mp display
      decide
    · obtain rfl | rfl : name = "d-flex" ∨ name = "flex-column" := by simpa using display
      all_goals decide
  · exact .append (by decide) _
  · have all : ∀ entry ∈ alignments, IsLayoutClass entry.2 := by decide
    exact all _ (Fields.mem_of_lookup (Option.mem_toList.mp alignment))

/-- A section whose class the layout of another element has too. -/
def Shadows (schema : Schema) (sec : Section) : Prop :=
  Schema.classIn (plan schema).selectors sec ∈ rootUtilities schema ∨
    ∃ other ∈ schema.sections, other ≠ sec ∧
      Schema.classIn (plan schema).selectors sec ∈ (plan schema).classesOf other.id

/-- The classes of components. -/
def componentNames : List String := "col" :: kindClasses.flatMap (·.2)

theorem mem_componentNames {p : Plan} {c : Component} (h : name ∈ componentClasses p c sec) :
    name ∈ componentNames := by
  rcases List.mem_append.mp h with column | kind
  · split at column
    · obtain rfl := List.mem_singleton.mp column
      exact List.mem_cons_self
    · cases column
  · cases found : kindClasses.lookup c.kind with
    | none => simp [found] at kind
    | some names =>
      rw [found] at kind
      exact List.mem_cons_of_mem _ (List.mem_flatMap.mpr ⟨_, Fields.mem_of_lookup found, kind⟩)

theorem mem_usedClass {p : Plan} {className : String} :
    name ∈ p.usedClass className ↔ name = className ∧ className ∈ p.usedSelectors := by
  unfold Plan.usedClass
  split <;> simp_all

/-- The rule of the page applies to the page alone. -/
theorem carriers_rootClass (distinct : schema.sectionIds.Nodup) {comments : Bool} {root : Node}
    (tree : schema.page (namer schema (plan schema)) comments = .ok root)
    (used : rootClass ∈ (plan schema).usedSelectors) : root.carriers rootClass = [root] := by
  have kept := kept_plan distinct
  refine Schema.carriers_page_eq_root tree ?components ?own ?others
  case components =>
    intro c sec held
    have free : rootClass ∉ componentNames := by decide
    exact free (mem_componentNames held)
  case own => exact List.mem_append_right _ (mem_usedClass.mpr ⟨rfl, used⟩)
  case others =>
    intro sec listed held
    rcases List.mem_append.mp held with layout | own
    · have other : ¬ IsLayoutClass rootClass := by decide
      exact other (kept.classes _ _ layout)
    · have named := (mem_usedClass.mp own).1
      rw [kept.selectors] at named
      refine Schema.classIn_notMem_reserved distinct .kebab reserved listed ?_
      exact named ▸ (by decide : rootClass ∈ reserved)

/-- The rule of a section applies to its element alone unless its class is that of a layout too. -/
theorem carriers_sectionClass (distinct : schema.sectionIds.Nodup) {comments : Bool} {root : Node}
    (tree : schema.page (namer schema (plan schema)) comments = .ok root)
    (listed : sec ∈ schema.sections) (named : Schema.classIn (plan schema).selectors sec = name)
    (used : name ∈ (plan schema).usedSelectors) :
    ∃ node, schema.sectionNode (namer schema (plan schema)) comments sec = .ok node ∧
      node ∈ root.carriers name ∧ (root.carriers name = [node] ↔ ¬ Shadows schema sec) := by
  have kept := kept_plan distinct
  have unreserved : name ∉ reserved := by
    rw [← named, kept.selectors]
    exact Schema.classIn_notMem_reserved distinct .kebab reserved listed
  have components (c : Component) (other : Section) :
      name ∉ (namer schema (plan schema)).ofComponent c other := by
    intro held
    have covered : ∀ name ∈ componentNames, name ∈ reserved := by decide
    exact unreserved (covered name (mem_componentNames held))
  have onSection (other : Section) : name ∈ (namer schema (plan schema)).ofSection other ↔
      name ∈ (plan schema).classesOf other.id ∨
        name = Schema.classIn (plan schema).selectors other := by
    refine List.mem_append.trans (or_congr_right (mem_usedClass.trans ?_))
    exact and_iff_left_of_imp fun same => same ▸ used
  have onRoot : name ∈ (namer schema (plan schema)).root ↔ name ∈ rootUtilities schema := by
    refine List.mem_append.trans (or_iff_left fun page => ?_)
    rw [(mem_usedClass.mp page).1] at unreserved
    exact unreserved (by decide)
  obtain ⟨node, made, member, only⟩ := Schema.carriers_page_eq_section_iff tree distinct components
    listed ((onSection sec).mpr (.inr named.symm))
  refine ⟨node, made, member, only.trans ?_⟩
  simp only [Shadows, named, not_or, not_exists, not_and, onRoot]
  refine and_congr_right fun _ => forall₂_congr fun other again => ?_
  rw [onSection]
  constructor
  · intro own differs layout
    exact differs (own (.inl layout))
  · rintro free (layout | same)
    · by_contra differs
      exact free differs layout
    · rw [← named, kept.selectors] at same
      exact Schema.classIn_inj distinct .kebab reserved listed again same.symm

/-- Only a class for the layout of the page or of a section can be on another element. -/
theorem Shadows.isLayoutClass (h : Shadows schema sec) (distinct : schema.sectionIds.Nodup) :
    IsLayoutClass (Schema.classIn (plan schema).selectors sec) := by
  rcases h with page | ⟨other, -, -, layout⟩
  · exact isLayoutClass_of_mem_rootUtilities page
  · exact (kept_plan distinct).classes _ _ layout

end Bootstrap

/-- The rules of a sheet, below all breakpoints and in media blocks. -/
def StyleSheet.allRules (s : StyleSheet) : List StyleRule := s.rules ++ s.media.flatMap (·.rules)

namespace Stylesheet

variable {schema : Schema} {classOf : Section → String} {root : String} {comments : Bool}

/-- A rule of the sheet of a schema is that of the page or that of a section. -/
theorem className_of_mem_allRules {rule : StyleRule}
    (h : rule ∈ (schema.styleSheet classOf root comments).allRules) :
    rule.className = root ∨ ∃ sec ∈ schema.sections, classOf sec = rule.className := by
  rcases List.mem_append.mp h with base | media
  · rcases List.mem_cons.mp base with rfl | own
    · exact .inl rfl
    · obtain ⟨sec, listed, rfl⟩ := List.mem_map.mp own
      exact .inr ⟨sec, listed, rfl⟩
  · obtain ⟨m, block, inside⟩ := List.mem_flatMap.mp media
    exact .inr ((Schema.mem_media block).2 rule inside)

variable (style : ClassStyle) {classes : ClassMap} {page : Node}
  (made : sectionClasses style.toClass [rootClass] schema.sectionIds = classes)
include made

theorem carriers_rootClass (distinct : schema.sectionIds.Nodup)
    (tree : schema.page (namer classes) comments = .ok page) :
    page.carriers rootClass = [page] := by
  refine Schema.carriers_page_eq_root tree (fun _ _ => List.not_mem_nil) List.mem_cons_self ?_
  intro sec listed held
  have free := Schema.classIn_notMem_reserved distinct style [rootClass] listed
  rw [made, ← List.mem_singleton.mp held] at free
  exact free List.mem_cons_self

theorem carriers_sectionClass (distinct : schema.sectionIds.Nodup)
    (tree : schema.page (namer classes) comments = .ok page) {sec : Section}
    (listed : sec ∈ schema.sections) :
    ∃ node, schema.sectionNode (namer classes) comments sec = .ok node ∧
      page.carriers (Schema.classIn classes sec) = [node] := by
  obtain ⟨node, drawn, -, only⟩ := Schema.carriers_page_eq_section_iff tree distinct
    (fun _ _ => List.not_mem_nil) listed (List.mem_singleton.mpr rfl)
  refine ⟨node, drawn, only.mpr ⟨?_, ?_⟩⟩
  · have free := Schema.classIn_notMem_reserved distinct style [rootClass] listed
    rwa [made] at free
  · intro other again held
    refine Schema.classIn_inj distinct style [rootClass] listed again ?_
    rw [made]
    exact (List.mem_singleton.mp held).symm

end Stylesheet

namespace Framework

/-- The sheet that a framework writes, if it writes one of its own. -/
def sheet? (framework : Framework) (schema : Schema) (comments : Bool) : Option StyleSheet :=
  match framework with
  | .tailwind => none
  | .bootstrap => some (Bootstrap.plan schema).sheet
  | _ => some (schema.styleSheet (Schema.classIn (framework.stylesheetClasses schema))
      Stylesheet.rootClass comments)

/-- The classes of the sections in the sheet of a framework. -/
def selectors (framework : Framework) (schema : Schema) : ClassMap :=
  match framework with
  | .bootstrap => (Bootstrap.plan schema).selectors
  | _ => framework.stylesheetClasses schema

variable {framework : Framework} {schema : Schema} {comments : Bool} {sheet : StyleSheet}
  {root : Node} {rule : StyleRule} {sec : Section}

/-- A rule is that of the page or that of a section. -/
theorem className_of_mem_sheet (distinct : schema.sectionIds.Nodup)
    (written : framework.sheet? schema comments = some sheet) (listed : rule ∈ sheet.allRules) :
    rule.className = Stylesheet.rootClass ∨ ∃ sec ∈ schema.sections,
      Schema.classIn (framework.selectors schema) sec = rule.className := by
  cases framework
  case tailwind => cases written
  case bootstrap =>
    cases written
    have kept := Bootstrap.kept_plan distinct
    rcases List.mem_append.mp listed with base | media
    · rw [kept.rules] at base
      rcases List.mem_cons.mp base with rfl | own
      · exact .inl rfl
      · obtain ⟨sec, inside, rfl⟩ := List.mem_map.mp own
        exact .inr ⟨sec, inside, by rw [selectors, kept.selectors]; rfl⟩
    · obtain ⟨m, block, inside⟩ := List.mem_flatMap.mp media
      obtain ⟨sec, listed, same⟩ := kept.media m block rule inside
      exact .inr ⟨sec, listed, by rw [same, selectors, kept.selectors]⟩
  all_goals
    cases written
    exact Stylesheet.className_of_mem_allRules listed

/-- How the classes of sections are made for the sheet of a framework. -/
def classStyle : Framework → ClassStyle
  | .cssModules => .camel
  | _ => .kebab

theorem stylesheetClasses_eq (framework : Framework) (schema : Schema) :
    sectionClasses framework.classStyle.toClass [Stylesheet.rootClass] schema.sectionIds =
      framework.stylesheetClasses schema := by
  cases framework <;> rfl

/-- All sheets but that of the grid framework go by the classes of sections alone. -/
theorem namer_of_ne (written : framework.sheet? schema comments = some sheet)
    (other : framework ≠ .bootstrap) :
    framework.namer schema = Stylesheet.namer (framework.stylesheetClasses schema) ∧
      framework.selectors schema = framework.stylesheetClasses schema := by
  cases framework
  case tailwind => cases written
  case bootstrap => exact absurd rfl other
  all_goals exact ⟨rfl, rfl⟩

/-- A class of the sheet that is in use by the plan. -/
theorem mem_usedSelectors (listed : rule ∈ (Bootstrap.plan schema).sheet.allRules)
    (declares : rule.declarations ≠ []) :
    rule.className ∈ (Bootstrap.plan schema).usedSelectors := by
  refine List.mem_map_of_mem (List.mem_filter.mpr ⟨listed, ?_⟩)
  simpa [StyleRule.declaresNothing] using declares

/-- Every rule that declares something is that of the page or that of a section. The rule of the
page applies to the page alone. That of a section applies to the element of the section, and to no
other element unless the framework has a class of this name for the layout of another element. -/
theorem carriers_of_mem_sheet {report : Report} (reported : schema.validate = .ok report)
    (valid : report.valid = true) (written : framework.sheet? schema comments = some sheet)
    (tree : framework.tree schema comments = .ok root) (listed : rule ∈ sheet.allRules)
    (declares : rule.declarations ≠ []) :
    (rule.className = Stylesheet.rootClass ∧ root.carriers rule.className = [root]) ∨
      ∃ sec ∈ schema.sections, ∃ node,
        Schema.classIn (framework.selectors schema) sec = rule.className ∧
          schema.sectionNode (framework.namer schema) comments sec = .ok node ∧
          node ∈ root.carriers rule.className ∧
          (root.carriers rule.className = [node] ↔
            ¬ (framework = .bootstrap ∧ Bootstrap.Shadows schema sec)) ∧
          (framework = .bootstrap → Bootstrap.Shadows schema sec →
            Bootstrap.IsLayoutClass rule.className) := by
  have distinct := (Schema.sound_of_reported reported valid).sectionsDistinct
  have owner := className_of_mem_sheet distinct written listed
  by_cases grid : framework = .bootstrap
  case pos =>
    subst grid
    cases written
    have used := mem_usedSelectors listed declares
    rcases owner with page | ⟨sec, inside, named⟩
    · rw [page] at used ⊢
      exact .inl ⟨rfl, Bootstrap.carriers_rootClass distinct tree used⟩
    · obtain ⟨node, made, member, only⟩ :=
        Bootstrap.carriers_sectionClass distinct tree inside named used
      refine .inr ⟨sec, inside, node, named, made, member, by rw [eq_self, true_and, only], ?_⟩
      intro _ shadows
      exact named ▸ shadows.isLayoutClass distinct
  case neg =>
    obtain ⟨namer, selectors⟩ := namer_of_ne written grid
    have classes := stylesheetClasses_eq framework schema
    rw [Framework.tree, namer] at tree
    rcases owner with page | ⟨sec, inside, named⟩
    · rw [page]
      exact .inl ⟨rfl, Stylesheet.carriers_rootClass _ classes distinct tree⟩
    · obtain ⟨node, made, only⟩ := Stylesheet.carriers_sectionClass _ classes distinct tree inside
      rw [← selectors, named] at only
      refine .inr ⟨sec, inside, node, named, namer ▸ made, by simp [only], ?_, ?_⟩
      · exact iff_of_true only fun both => grid both.1
      · exact fun same => absurd same grid

/-- A page with one section, which has a color of its own. -/
def colorfulPage (id : String) : Schema where
  sections := [{ id := id, name := "Hero", type := "hero" }]
  backgroundStrategy := { sectionOverrides := [(id, "#F5F7FF")] }

/-- The rule for the color of the section. -/
def colorRule (className : String) : StyleRule :=
  ⟨className, [("background-color", "#F5F7FF")], none⟩

theorem colorfulPage_row_carriers :
    ∃ root node, Framework.bootstrap.tree (colorfulPage "row") true = .ok root ∧
      node.attributes = [(Node.sectionAttribute, "row")] ∧ root.carriers "row-1" = [node] := by
  have written : Framework.bootstrap.sheet? (colorfulPage "row") true =
      some (Bootstrap.plan (colorfulPage "row")).sheet := rfl
  have listed : colorRule "row-1" ∈ (Bootstrap.plan (colorfulPage "row")).sheet.allRules :=
    .tail _ (.head _)
  have free : ¬ Bootstrap.Shadows (colorfulPage "row")
      { id := "row", name := "Hero", type := "hero" } := by
    rintro (page | ⟨other, again, differs, -⟩)
    · revert page
      decide
    · exact differs (List.mem_singleton.mp again)
  have tree : ∃ root, Framework.bootstrap.tree (colorfulPage "row") true = .ok root := ⟨_, rfl⟩
  obtain ⟨root, tree⟩ := tree
  obtain ⟨page, -⟩ | ⟨sec, inside, node, -, made, -, only, -⟩ :=
    carriers_of_mem_sheet rfl rfl written tree listed (List.cons_ne_nil _ _)
  · exact absurd page (by decide)
  · obtain rfl := List.mem_singleton.mp inside
    refine ⟨root, node, tree, (Schema.classes_of_sectionNode made).2, only.mpr ?_⟩
    exact fun both => free both.2

/-- A section may have the class that lays out the page, and then its rule applies to the page
too. -/
theorem not_forall_one_carrier :
    ¬ ∀ (schema : Schema) (report : Report), schema.validate = .ok report → report.valid = true →
      ∀ (framework : Framework) (comments : Bool) (sheet : StyleSheet) (root : Node)
        (rule : StyleRule), framework.sheet? schema comments = some sheet →
        framework.tree schema comments = .ok root → rule ∈ sheet.allRules →
          rule.declarations ≠ [] → ∃ node, root.carriers rule.className = [node] := by
  intro always
  have listed : colorRule "d-flex" ∈ (Bootstrap.plan (colorfulPage "d-flex")).sheet.allRules :=
    .tail _ (.head _)
  obtain ⟨node, only⟩ := always (colorfulPage "d-flex") _ rfl rfl .bootstrap false _ _ _ rfl rfl
    listed (List.cons_ne_nil _ _)
  have one := congrArg List.length only
  rw [List.length_singleton] at one
  exact absurd one (by decide)

end Framework

end DesignToCode
