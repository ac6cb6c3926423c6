import DesignToCode.Proofs.Framework.Arrangement
import DesignToCode.Proofs.Framework.Overrides
import DesignToCode.Proofs.Framework.SharedTree
import DesignToCode.Proofs.Schema.Warnings

set_option autoImplicit false

namespace DesignToCode

open Node

namespace Schema

variable {schema : Schema} {report : Report}

/-- The gate is silent about layers exactly when all of them are for sections or components. -/
theorem layers_unwarned_iff (reported : schema.validate = .ok report)
    (valid : report.valid = true) :
    (∀ issue ∈ report.warnings, issue.rule ≠ .layeringTargetUnknown) ↔
      ∀ layer ∈ schema.layering.layers,
        layer.target ∈ schema.sectionIds ++ schema.componentIds := by
  have given := (sound_of_reported reported valid).componentsGiven
  have told := places_stored reported (List.isEmpty_iff.mp valid)
  rw [← warnings_layers_stored_eq_nil_iff, List.eq_nil_iff_forall_not_mem]
  constructor
  · intro silent issue member
    have layered : issue.place ∈
        (Validation.layers (schema.sectionIds ++ schema.componentIds) schema.stored).places :=
      List.mem_map_of_mem member
    have inside : issue.place ∈ report.places := by
      rw [told, places]
      exact List.mem_append_left _ (List.mem_append_right _ layered)
    obtain ⟨other, listed, same⟩ := List.mem_map.mp inside
    exact silent other listed ((congrArg Prod.fst same).trans (rule_of_mem_layers layered))
  · intro silent issue listed unknown
    have inside : issue.place ∈ report.places := List.mem_map_of_mem listed
    have rule : issue.place.1 = .layeringTargetUnknown := unknown
    rw [told] at inside
    rcases part_of_mem_places given inside with other | responsive | layer
    · rw [rule] at other
      exact absurd other (by decide)
    · rcases rule_of_mem_rulePlaces responsive with order | change
      · cases order.symm.trans rule
      · cases change.symm.trans rule
    · obtain ⟨other, found, -⟩ := List.mem_map.mp layer
      exact silent other found

end Schema

/-- The values that a sheet gives to the properties of an element with these classes at a width. -/
def StyleSheet.valueOn (s : StyleSheet) (classes : List String) (width : Nat) :
    String → Option String :=
  valueOf (((s.rulesAt width).filter fun rule => classes.contains rule.className).flatMap
    (·.declarations))

theorem StyleSheet.valueOn_nil (s : StyleSheet) (width : Nat) :
    s.valueOn [] width = fun _ => none := by
  have nothing : (s.rulesAt width).filter (fun rule => List.contains [] rule.className) = [] :=
    List.filter_eq_nil_iff.mpr fun _ _ => Bool.false_ne_true
  rw [valueOn, nothing]
  rfl

theorem StyleSheet.valueOn_singleton (s : StyleSheet) (name : String) (width : Nat) :
    s.valueOn [name] width = s.valueAt name width := by
  have same : (fun rule : StyleRule => [name].contains rule.className) = (·.className == name) := by
    funext rule
    rw [List.contains_cons, List.contains_nil, Bool.or_false]
  rw [valueOn, same]
  rfl

theorem LayerRule.valueOf_declarations (l : LayerRule) :
    valueOf l.declarations "z-index" = some (toString l.zIndex) := by
  unfold declarations
  cases l.staysAtTop <;> rfl

/-- Changes have no say in the height of a section. -/
theorem ResponsiveChange.valueOf_zIndex (c : ResponsiveChange) (sec : Section) (schema : Schema) :
    valueOf (c.declarations sec schema) "z-index" = none := by
  refine valueOf_of_notMem ?_
  unfold declarations
  split
  · simp
  split
  · unfold layoutDeclarations
    cases c.layoutIn sec <;> simp
  · cases c.columnsFor sec <;> cases c.directionFor sec <;> cases c.gapFor sec <;> simp

namespace Schema

variable {schema : Schema} {sec : Section}

/-- The layer of an id that counts. -/
def lastLayer? (schema : Schema) (id : String) : Option LayerRule :=
  (schema.layering.layers.filter (·.target == id)).getLast?

theorem isSome_lastLayer? {layer : LayerRule} (listed : layer ∈ schema.layering.layers) :
    (schema.lastLayer? layer.target).isSome = true := by
  rw [lastLayer?, List.getLast?_isSome]
  exact List.ne_nil_of_mem (List.mem_filter.mpr ⟨listed, BEq.rfl⟩)

theorem valueOf_zIndex (schema : Schema) (sec : Section) :
    valueOf (schema.sectionDeclarations sec) "z-index" =
      (schema.lastLayer? sec.id).map fun layer => toString layer.zIndex := by
  have base : valueOf (Arrangement.ofSection schema sec).declarations "z-index" = none := by
    refine valueOf_of_notMem fun held => ?_
    obtain ⟨d, member, same⟩ := List.mem_map.mp held
    have layout := Arrangement.mem_properties member
    rw [same] at layout
    revert layout
    decide
  have color : valueOf (schema.overrideDeclarations sec) "z-index" = none := by
    unfold overrideDeclarations
    cases schema.overrideOf sec <;> rfl
  have layers : valueOf ((schema.layersOf sec).flatMap (·.declarations)) "z-index" =
      (schema.lastLayer? sec.id).map fun layer => toString layer.zIndex := by
    rw [valueOf_flatMap]
    simp only [LayerRule.valueOf_declarations]
    rw [List.filterMap_eq_map', List.getLast?_map]
    rfl
  rw [Arrangement.valueOf_sectionDeclarations, valueOf_append, valueOf_append, base, color, layers,
    Option.or_none, Option.or_none]

end Schema

/-- The section or the component that an element is of. -/
def Node.owner? (e : Node) : Option String :=
  (e.attribute? sectionAttribute).or (e.attribute? componentAttribute)

theorem Node.Nameless.owner?_eq_none {e : Node} (h : Nameless e) : e.owner? = none := by
  rw [owner?, h.1, h.2]
  rfl

namespace Schema

variable {schema : Schema} {namer : Namer} {comments : Bool} {sec : Section} {root node e : Node}
  {id : String}

theorem owner?_of_sectionNode (h : schema.sectionNode namer comments sec = .ok node) :
    node.owner? = some sec.id := by
  obtain ⟨children, -, rfl⟩ := exists_of_sectionNode h
  rfl

/-- In the element of a component, the element itself is the only one of anything. -/
theorem eq_of_mem_componentNode (h : schema.componentNode namer sec id = .ok node)
    (inside : e ∈ node.elements) (owned : e.owner? ≠ none) : e = node := by
  obtain ⟨tag, more, classes, children, rfl, -, unowned⟩ := exists_of_componentNode h
  rw [elements, elementsOfAll_eq_flatMap] at inside
  rcases List.mem_cons.mp inside with own | below
  · exact own
  · obtain ⟨child, member, held⟩ := List.mem_flatMap.mp below
    exact absurd (unowned child member e held).owner?_eq_none owned

theorem attributes_of_componentNode (h : schema.componentNode namer sec id = .ok node) :
    node ∈ node.elements ∧ node.attribute? sectionAttribute = none ∧
      node.attribute? componentAttribute = some id := by
  obtain ⟨tag, more, classes, children, rfl, other, -⟩ := exists_of_componentNode h
  exact ⟨List.mem_cons_self, other, rfl⟩

theorem owner?_of_componentNode (h : schema.componentNode namer sec id = .ok node) :
    node.owner? = some id := by
  obtain ⟨-, other, own⟩ := attributes_of_componentNode h
  rw [owner?, other, own]
  rfl

theorem classes_of_componentNode (h : schema.componentNode namer sec id = .ok node)
    (plain : ∀ c, namer.ofComponent c sec = []) : node.classes = [] := by
  refine List.eq_nil_iff_forall_not_mem.mpr ?_
  intro name held
  have nobody : node.carriers name = [] := by
    refine carriers_componentNode h fun c => ?_
    rw [plain]
    exact List.not_mem_nil
  have carries : node ∈ node.carriers name :=
    List.mem_filter.mpr ⟨(attributes_of_componentNode h).1, List.contains_iff_mem.mpr held⟩
  rw [nobody] at carries
  cases carries

/-- The elements of a page that are of anything are those of its sections and of the components that
these list. -/
theorem mem_elements_page_iff (h : schema.page namer comments = .ok root) :
    e ∈ root.elements ∧ e.owner? = some id ↔
      (∃ sec ∈ schema.sections, sec.id = id ∧ schema.sectionNode namer comments sec = .ok e) ∨
        ∃ sec ∈ schema.sections, id ∈ sec.components ∧
          schema.componentNode namer sec id = .ok e := by
  obtain ⟨nodes, drawn, rfl⟩ := exists_of_page h
  rw [elements, elementsOfAll_eq_flatMap, List.mem_cons, List.mem_flatMap]
  constructor
  · rintro ⟨rfl | ⟨node, member, inside⟩, owned⟩
    · cases owned
    · obtain ⟨sec, listed, made⟩ := exists_mem_of_forall₂ drawn member
      have of_section := owner?_of_sectionNode made
      obtain ⟨children, below, rfl⟩ := exists_of_sectionNode made
      rw [elements, elementsOfAll_eq_flatMap] at inside
      rcases List.mem_cons.mp inside with rfl | inner
      · rw [of_section] at owned
        exact .inl ⟨sec, listed, Option.some.inj owned, made⟩
      · obtain ⟨child, again, held⟩ := List.mem_flatMap.mp inner
        obtain ⟨other, named, drawnChild⟩ := exists_mem_of_forall₂ below again
        obtain rfl := eq_of_mem_componentNode drawnChild held (by rw [owned]; simp)
        rw [owner?_of_componentNode drawnChild] at owned
        obtain rfl := Option.some.inj owned
        exact .inr ⟨sec, listed, named, drawnChild⟩
  · rintro (⟨sec, listed, rfl, made⟩ | ⟨sec, listed, named, made⟩)
    · obtain ⟨node, member, again⟩ := exists_mem_of_forall₂ drawn.flip listed
      obtain rfl := Except.ok.inj (made.symm.trans again)
      refine ⟨.inr ⟨e, member, ?_⟩, owner?_of_sectionNode made⟩
      obtain ⟨children, -, rfl⟩ := exists_of_sectionNode made
      exact List.mem_cons_self
    · obtain ⟨node, member, drawnSection⟩ := exists_mem_of_forall₂ drawn.flip listed
      obtain ⟨children, below, rfl⟩ := exists_of_sectionNode drawnSection
      obtain ⟨child, inner, again⟩ := exists_mem_of_forall₂ below.flip named
      obtain rfl := Except.ok.inj (made.symm.trans again)
      refine ⟨.inr ⟨_, member, ?_⟩, owner?_of_componentNode made⟩
      rw [elements, elementsOfAll_eq_flatMap]
      have inside := (attributes_of_componentNode made).1
      exact List.mem_cons_of_mem _ (List.mem_flatMap.mpr ⟨e, inner, inside⟩)

theorem exists_sectionNode_of_page (h : schema.page namer comments = .ok root)
    (listed : sec ∈ schema.sections) :
    ∃ node, schema.sectionNode namer comments sec = .ok node := by
  obtain ⟨nodes, drawn, -⟩ := exists_of_page h
  obtain ⟨node, -, made⟩ := exists_mem_of_forall₂ drawn.flip listed
  exact ⟨node, made⟩

theorem exists_componentNode_of_page (h : schema.page namer comments = .ok root)
    (listed : sec ∈ schema.sections) (named : id ∈ sec.components) :
    ∃ node, schema.componentNode namer sec id = .ok node := by
  obtain ⟨parent, drawn⟩ := exists_sectionNode_of_page h listed
  obtain ⟨children, below, -⟩ := exists_of_sectionNode drawn
  obtain ⟨node, -, made⟩ := exists_mem_of_forall₂ below.flip named
  exact ⟨node, made⟩

/-- At every width, each element that a layer is for has the height of the last layer for it, and
there is such an element. -/
def Heeds (schema : Schema) (root : Node) (sheet : StyleSheet) (layer : LayerRule) : Prop :=
  (∃ e ∈ root.elements, e.owner? = some layer.target) ∧
    ∀ e ∈ root.elements, e.owner? = some layer.target → ∀ width : Nat,
      sheet.valueOn e.classes width "z-index" =
        (schema.lastLayer? layer.target).map fun last => toString last.zIndex

end Schema

namespace Framework

variable {schema : Schema} {report : Report} {comments : Bool} {sheet : StyleSheet} {root e : Node}
  {sec : Section}

/-- A section has the height of its last layer. -/
theorem zIndex_section (distinct : schema.sectionIds.Nodup)
    (written : Framework.css.sheet? schema comments = some sheet) (listed : sec ∈ schema.sections)
    (drawn : schema.sectionNode (Framework.css.namer schema) comments sec = .ok e) (width : Nat) :
    sheet.valueOn e.classes width "z-index" =
      (schema.lastLayer? sec.id).map fun layer => toString layer.zIndex := by
  have values := valueAt_section distinct written (by decide) listed width
  have classes : e.classes = [Schema.classIn (Framework.css.selectors schema) sec] :=
    (Schema.classes_of_sectionNode drawn).1
  have changes : valueOf ((schema.changesAt sec width).flatMap (·.declarations sec schema))
      "z-index" = none := by
    rw [Schema.valueOf_flatMap]
    simp only [ResponsiveChange.valueOf_zIndex]
    rw [List.filterMap_none]
    rfl
  rw [classes, StyleSheet.valueOn_singleton, values, valueOf_append, changes, Option.none_or,
    Schema.valueOf_zIndex]

/-- Components have no classes in a sheet, so nothing is declared for them. -/
theorem valueOn_component {id : String}
    (drawn : schema.componentNode (Framework.css.namer schema) sec id = .ok e) (width : Nat) :
    sheet.valueOn e.classes width = fun _ => none := by
  rw [Schema.classes_of_componentNode drawn fun _ => rfl, StyleSheet.valueOn_nil]

/-- A page heeds a layer for a section unless it also has a component of this id, and no other. -/
theorem heeds_page_iff (distinct : schema.sectionIds.Nodup)
    (written : Framework.css.sheet? schema comments = some sheet)
    (tree : Framework.css.tree schema comments = .ok root) {layer : LayerRule}
    (listed : layer ∈ schema.layering.layers) :
    schema.Heeds root sheet layer ↔
      layer.target ∈ schema.sectionIds ∧
        ∀ sec ∈ schema.sections, layer.target ∉ sec.components := by
  have owners (e : Node) := @Schema.mem_elements_page_iff _ _ _ _ e layer.target tree
  constructor
  · rintro ⟨⟨e, inside, owned⟩, all⟩
    have plain : ∀ sec ∈ schema.sections, layer.target ∉ sec.components := by
      intro sec member named
      obtain ⟨node, made⟩ := Schema.exists_componentNode_of_page tree member named
      obtain ⟨held, own⟩ := (owners node).mpr (.inr ⟨sec, member, named, made⟩)
      have height := all node held own 0
      rw [valueOn_component made] at height
      have given := Schema.isSome_lastLayer? listed
      rw [Option.map_eq_none_iff.mp height.symm] at given
      cases given
    rcases (owners e).mp ⟨inside, owned⟩ with ⟨sec, member, named, -⟩ | ⟨sec, member, named, -⟩
    · exact ⟨named ▸ List.mem_map_of_mem member, plain⟩
    · exact absurd named (plain sec member)
  · rintro ⟨known, plain⟩
    obtain ⟨sec, member, named⟩ := List.mem_map.mp known
    obtain ⟨node, made⟩ := Schema.exists_sectionNode_of_page tree member
    refine ⟨⟨node, (owners node).mpr (.inl ⟨sec, member, named, made⟩)⟩, ?_⟩
    intro e inside owned width
    rcases (owners e).mp ⟨inside, owned⟩ with
      ⟨other, again, named, made⟩ | ⟨other, again, named, -⟩
    · rw [← named]
      exact zIndex_section distinct written again made width
    · exact absurd named (plain other again)

/-- The gate is silent about layers exactly when all of them are for sections or components. In the
page that is written for the schema, at every width, each section has the height of its last layer,
and nothing at all is declared for a component. A layer is heeded exactly when it is for a section
whose id no section lists as that of a component. -/
theorem heeds_iff (reported : schema.validate = .ok report) (valid : report.valid = true)
    (options : EmitOptions) (drawable : ¬ schema.ListsUndrawable) :
    ((∀ issue ∈ report.warnings, issue.rule ≠ .layeringTargetUnknown) ↔
      ∀ layer ∈ schema.layering.layers,
        layer.target ∈ schema.sectionIds ++ schema.componentIds) ∧
    ∃ root sheet,
      Framework.css.tree schema options.includeComments = .ok root ∧
      Framework.css.sheet? schema options.includeComments = some sheet ∧
      Framework.css.lower options schema = .ok (Framework.css.code options schema root) ∧
      Framework.css.styles schema options.includeComments = Framework.css.sheetText sheet ∧
      (∀ e ∈ root.elements, ∀ id, e.attribute? sectionAttribute = some id → ∀ width : Nat,
        sheet.valueOn e.classes width "z-index" =
          (schema.lastLayer? id).map fun layer => toString layer.zIndex) ∧
      (∀ e ∈ root.elements, ∀ id, e.attribute? componentAttribute = some id → ∀ width : Nat,
        sheet.valueOn e.classes width = fun _ => none) ∧
      ∀ layer ∈ schema.layering.layers,
        (schema.Heeds root sheet layer ↔
          layer.target ∈ schema.sectionIds ∧
            ∀ sec ∈ schema.sections, layer.target ∉ sec.components) := by
  have distinct := (Schema.sound_of_reported reported valid).sectionsDistinct
  obtain ⟨shape, drawn⟩ := (lower_bare reported valid options).2 drawable
  obtain ⟨root, tree, lowered, -⟩ := drawn .css
  have written : Framework.css.sheet? schema options.includeComments = some _ := rfl
  have owners (id : String) (e : Node) := @Schema.mem_elements_page_iff _ _ _ _ e id tree
  refine ⟨Schema.layers_unwarned_iff reported valid, root, _, tree, written, lowered, rfl,
    ?sections, ?components, ?heeds⟩
  case sections =>
    intro e inside id named width
    have owned : e.owner? = some id := by
      rw [Node.owner?, named]
      rfl
    rcases (owners _ e).mp ⟨inside, owned⟩ with ⟨sec, listed, rfl, made⟩ | ⟨sec, -, -, made⟩
    · exact zIndex_section distinct written listed made width
    · rw [(Schema.attributes_of_componentNode made).2.1] at named
      cases named
  case components =>
    intro e inside id named width
    obtain ⟨owner, owned⟩ : ∃ owner, e.owner? = some owner := by
      rw [Node.owner?, named]
      cases e.attribute? sectionAttribute <;> exact ⟨_, rfl⟩
    rcases (owners _ e).mp ⟨inside, owned⟩ with ⟨sec, -, -, made⟩ | ⟨sec, -, -, made⟩
    · rw [attribute?, (Schema.classes_of_sectionNode made).2] at named
      cases named
    · exact valueOn_component made width
  case heeds => exact fun layer listed => heeds_page_iff distinct written tree listed

/-- A page with a layer for a component, and two for a section. -/
def layeredPage : Schema where
  sections := [
    { id := "top", name := "Top", type := "header", components := ["badge"] },
    { id := "end", name := "End", type := "footer" }]
  components := [{ id := "badge", name := "New", type := "icon" }]
  layering := { layers := [
    { target := "end", zIndex := 7 }, { target := "badge", zIndex := 5, position := "absolute" },
    { target := "end", zIndex := -1, position := "sticky" }] }
  responsiveRules := [{ breakpoint := "md", rules := [{ target := "end", layout := some .grid }] }]

theorem layeredPage_heeds :
    (∃ report, layeredPage.validate = .ok report ∧ report.valid = true ∧
      ∀ issue ∈ report.warnings, issue.rule ≠ .layeringTargetUnknown) ∧
    ∃ root sheet,
      Framework.css.tree layeredPage false = .ok root ∧
      Framework.css.sheet? layeredPage false = some sheet ∧
      (∀ e ∈ root.elements, e.attribute? sectionAttribute = some "end" → ∀ width : Nat,
        sheet.valueOn e.classes width "z-index" = some "-1") ∧
      layeredPage.layering.layers.map (fun layer => (layer.target, layer.zIndex)) =
        [("end", 7), ("badge", 5), ("end", -1)] ∧
      ∀ layer ∈ layeredPage.layering.layers,
        layeredPage.Heeds root sheet layer ↔ layer.target = "end" := by
  have passed : ∃ report, layeredPage.validate = .ok report ∧ report.valid = true := ⟨_, rfl, rfl⟩
  have drawable : ¬ layeredPage.ListsUndrawable := by
    rintro ⟨c, member, -, undrawable⟩
    obtain rfl := List.mem_singleton.mp member
    exact Component.exists_element_iff.mp ⟨_, rfl⟩ undrawable
  have sections : ∀ layer ∈ layeredPage.layering.layers,
      (layer.target ∈ layeredPage.sectionIds ∧
        ∀ sec ∈ layeredPage.sections, layer.target ∉ sec.components) ↔ layer.target = "end" := by
    decide
  obtain ⟨report, reported, valid⟩ := passed
  obtain ⟨unwarned, root, sheet, tree, written, -, -, heights, -, heeds⟩ :=
    heeds_iff reported valid {} drawable
  have silent := unwarned.mpr (by decide)
  refine ⟨⟨report, reported, valid, silent⟩, root, sheet, tree, written, ?_, rfl, ?_⟩
  · intro e inside named width
    exact (heights e inside "end" named width).trans (by decide)
  · intro layer listed
    exact (heeds layer listed).trans (sections layer listed)

/-- Of a schema without errors and without a warning about layers, the element that a layer is for
may still have no height at all. -/
theorem not_forall_zIndex :
    ¬ ∀ (schema : Schema) (report : Report), schema.validate = .ok report → report.valid = true →
      (∀ issue ∈ report.warnings, issue.rule ≠ .layeringTargetUnknown) →
        ∀ (comments : Bool) (root : Node) (sheet : StyleSheet),
          Framework.css.tree schema comments = .ok root →
          Framework.css.sheet? schema comments = some sheet →
          ∀ layer ∈ schema.layering.layers, ∀ e ∈ root.elements,
            e.owner? = some layer.target → ∀ width : Nat,
              sheet.valueOn e.classes width "z-index" =
                (schema.lastLayer? layer.target).map fun last => toString last.zIndex := by
  intro always
  have height := always layeredPage _ rfl rfl (by decide) false _ _ rfl rfl
    { target := "badge", zIndex := 5, position := "absolute" } (.tail _ (.head _)) _
    (.tail _ (.tail _ (.head _))) rfl 0
  revert height
  decide

end Framework

end DesignToCode
