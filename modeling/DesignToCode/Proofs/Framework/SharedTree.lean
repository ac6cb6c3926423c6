import DesignToCode.Proofs.Markup.Carriers
import DesignToCode.Proofs.Pipeline.CodeRuns
import DesignToCode.Proofs.Schema.Verdict

set_option autoImplicit false

namespace DesignToCode

namespace Node

mutual

/-- A tree with no class at all. -/
def bare : Node → Node
  | .text s => .text s
  | .element tag attributes _ children comment =>
    .element tag attributes [] (bareAll children) comment

def bareAll : List Node → List Node
  | [] => []
  | node :: rest => bare node :: bareAll rest

end

theorem bareAll_eq_map (nodes : List Node) : bareAll nodes = nodes.map bare := by
  induction nodes with
  | nil => rfl
  | cons node rest ih => rw [bareAll, ih, List.map_cons]

def children : Node → List Node
  | .text _ => []
  | .element _ _ _ children _ => children

def attribute? (node : Node) (name : String) : Option String := node.attributes.lookup name

/-- The section that an element is of, with the components whose elements are its children. -/
def section? (node : Node) : Option (String × List (Option String)) :=
  (node.attribute? sectionAttribute).map fun id =>
    (id, node.children.map (·.attribute? componentAttribute))

/-- What stands in the sections of a tree, in order. -/
def sections (root : Node) : List (String × List (Option String)) :=
  root.elements.filterMap section?

mutual

theorem sectionIds_eq (node : Node) :
    node.sectionIds = node.elements.filterMap (·.attribute? sectionAttribute) := by
  cases node with
  | text => rfl
  | element tag attributes classes children comment =>
    rw [sectionIds, elements, List.filterMap_cons, sectionIdsOfAll_eq children]
    simp only [attribute?, Node.attributes]
    cases attributes.lookup sectionAttribute <;> rfl

theorem sectionIdsOfAll_eq (nodes : List Node) :
    sectionIdsOfAll nodes = (elementsOfAll nodes).filterMap (·.attribute? sectionAttribute) := by
  cases nodes with
  | nil => rfl
  | cons node rest =>
    rw [sectionIdsOfAll, elementsOfAll, List.filterMap_append, sectionIds_eq node,
      sectionIdsOfAll_eq rest]

end

/-- The sections of a tree go by the ids that it carries. -/
theorem map_fst_sections (root : Node) : root.sections.map (·.1) = root.sectionIds := by
  rw [sections, List.map_filterMap, sectionIds_eq]
  refine List.filterMap_congr fun e _ => ?_
  rw [section?, Option.map_map]
  exact Option.map_id'

/-- An element that is of no section and of no component. -/
def Nameless (e : Node) : Prop :=
  e.attribute? sectionAttribute = none ∧ e.attribute? componentAttribute = none

/-- A tree with no element of a section or a component. -/
def Unowned (node : Node) : Prop := ∀ e ∈ node.elements, Nameless e

theorem unowned_text (s : String) : Unowned (.text s) := List.forall_mem_nil _

theorem unowned_entry {tag : String} {attributes : List (String × String)} (s : String)
    (own : Nameless (.plain tag attributes [.text s])) :
    Unowned (.plain tag attributes [.text s]) := by
  intro e member
  rw [Node.plain, elements, elementsOfAll_eq_flatMap] at member
  rcases List.mem_cons.mp member with rfl | inside
  · exact own
  · cases inside

/-- The sections of an element that are not its own are those of its children. -/
theorem sections_element (tag : String) (attributes : List (String × String))
    (classes : List String) (children : List Node) (comment : Option String) :
    sections (.element tag attributes classes children comment) =
      (section? (.element tag attributes classes children comment)).toList ++
        children.flatMap sections := by
  rw [sections, elements, elementsOfAll_eq_flatMap, List.filterMap_cons, List.filterMap_flatMap]
  cases section? (.element tag attributes classes children comment) <;> rfl

theorem Unowned.sections_eq_nil {node : Node} (h : Unowned node) : node.sections = [] := by
  refine List.filterMap_eq_nil_iff.mpr ?_
  intro e member
  rw [section?, (h e member).1, Option.map_none]

end Node

open Node

theorem IsEntry.unowned {node : Node} (h : IsEntry node) : Unowned node := by
  cases h with
  | mk text content own =>
    exact unowned_entry text ⟨own.lookup_eq_none (by decide), own.lookup_eq_none (by decide)⟩

theorem IsEntry.bare_eq {node : Node} (h : IsEntry node) : node.bare = node := by
  cases h
  rfl

namespace ComponentForm

variable {c : Component} {node : Node}

theorem bare_withClasses (h : ComponentForm c node) (classes : List String) :
    (node.withClasses classes).bare = node.withClasses [] := by
  cases h with
  | void => rfl
  | text text => cases text <;> rfl
  | entries _ _ entries =>
    have inside := List.map_congr_left fun child member => (entries child member).bare_eq
    rw [plain, withClasses, withClasses, bare, bareAll_eq_map, inside, List.map_id']

/-- The element has the id of the component, and no element in it is that of a section or a
component. -/
theorem exists_plain (h : ComponentForm c node) :
    ∃ tag more children, node = .plain tag (c.idAttribute :: more) children ∧
      more.lookup sectionAttribute = none ∧ ∀ child ∈ children, Unowned child := by
  have unnamed {tag : String} {more : List (String × String)} (own : IsOwnTag tag more) :
      more.lookup sectionAttribute = none := own.lookup_eq_none (by decide)
  cases h with
  | void _ own => exact ⟨_, _, _, rfl, unnamed own, List.forall_mem_nil _⟩
  | text text _ own =>
    refine ⟨_, _, _, rfl, unnamed own, ?_⟩
    intro child member
    obtain ⟨s, -, rfl⟩ := Option.map_eq_some_iff.mp (Option.mem_toList.mp member)
    exact unowned_text s
  | entries _ own entries =>
    refine ⟨_, _, _, rfl, unnamed own, ?_⟩
    intro child member
    exact (entries child member).unowned

end ComponentForm

namespace Schema

variable {schema : Schema} {namer : Namer} {comments : Bool} {sec : Section} {root node : Node}

theorem bare_componentNode (sec : Section) (id : String) :
    (schema.componentNode namer sec id).map bare = schema.componentNode .none sec id := by
  unfold componentNode
  cases schema.lastComponent? id with
  | none => rfl
  | some c =>
    dsimp only
    cases drawn : c.element with
    | error => rfl
    | ok node =>
      exact congrArg Except.ok ((Component.form_of_element drawn).bare_withClasses _)

theorem bare_sectionNode (sec : Section) :
    (schema.sectionNode namer comments sec).map bare = schema.sectionNode .none comments sec := by
  have children := Except.map_mapM (f := schema.componentNode namer sec) bare sec.components
  simp only [bare_componentNode] at children
  unfold sectionNode
  rw [← children, Except.map_map, Except.map_map]
  congr 1
  funext made
  exact congrArg (Node.element _ _ _ · _) (bareAll_eq_map made)

/-- Whatever the namer, the page is the one that is drawn without classes but for its classes. -/
theorem bare_page (schema : Schema) (namer : Namer) (comments : Bool) :
    (schema.page namer comments).map bare = schema.page .none comments := by
  have sections := Except.map_mapM (f := schema.sectionNode namer comments) bare schema.sections
  simp only [bare_sectionNode] at sections
  unfold page
  rw [← sections, Except.map_map, Except.map_map]
  congr 1
  funext made
  exact congrArg (Node.element _ _ _ · _) (bareAll_eq_map made)

/-- The element of a component has its id, and is the only one in it that has the id of anything. -/
theorem exists_of_componentNode {id : String}
    (h : schema.componentNode namer sec id = .ok node) :
    ∃ tag more classes children, node = .element tag ((componentAttribute, id) :: more) classes
        children none ∧
      more.lookup sectionAttribute = none ∧ ∀ child ∈ children, Unowned child := by
  unfold componentNode at h
  split at h
  · cases h
  · rename_i c found
    split at h
    · cases h
    · rename_i made drawn
      cases h
      obtain ⟨tag, more, children, rfl, other, inside⟩ :=
        (Component.form_of_element drawn).exists_plain
      have named : c.id = id := by simpa using List.find?_some found
      subst named
      exact ⟨tag, more, _, children, rfl, other, inside⟩

theorem sections_componentNode {id : String} (h : schema.componentNode namer sec id = .ok node) :
    node.sections = [] ∧ node.attribute? componentAttribute = some id := by
  obtain ⟨tag, more, classes, children, rfl, other, inside⟩ := exists_of_componentNode h
  have free : children.flatMap Node.sections = [] :=
    List.flatMap_eq_nil_iff.mpr fun child member => (inside child member).sections_eq_nil
  constructor
  · rw [sections_element, free, Node.section?]
    show (Option.map _ (more.lookup sectionAttribute)).toList ++ [] = []
    rw [other]
    rfl
  · rfl

theorem sections_sectionNode (h : schema.sectionNode namer comments sec = .ok node) :
    node.sections = [(sec.id, sec.components.map some)] := by
  obtain ⟨children, drawn, rfl⟩ := exists_of_sectionNode h
  have inside : children.flatMap Node.sections = [] := by
    refine List.flatMap_eq_nil_iff.mpr fun child member => ?_
    obtain ⟨id, -, made⟩ := exists_mem_of_forall₂ drawn member
    exact (sections_componentNode made).1
  have ids : sec.components.map some = children.map (·.attribute? componentAttribute) :=
    map_eq_map_of_forall₂ (drawn.imp fun _ _ made => (sections_componentNode made).2.symm)
  rw [sections_element, inside, List.append_nil, ids]
  rfl

/-- In a page stand the sections of the schema in order, and in each the components that it
lists. -/
theorem sections_page (h : schema.page namer comments = .ok root) :
    root.sections = schema.sections.map fun sec => (sec.id, sec.components.map some) := by
  obtain ⟨nodes, drawn, rfl⟩ := exists_of_page h
  have told : schema.sections.map (fun sec => [(sec.id, sec.components.map some)]) =
      nodes.map Node.sections :=
    map_eq_map_of_forall₂ (drawn.imp fun _ _ made => (sections_sectionNode made).symm)
  rw [sections_element, List.flatMap_def, ← told, ← List.flatMap_def, ← List.map_eq_flatMap]
  rfl

theorem sectionIds_page (h : schema.page namer comments = .ok root) :
    root.sectionIds = schema.sectionIds := by
  rw [← map_fst_sections, sections_page h, List.map_map]
  rfl

/-- Where all references lead somewhere, the refusal is that of a component that a section lists. -/
theorem exists_refusal_of_page
    (resolved : ∀ sec ∈ schema.sections, ∀ id ∈ sec.components, id ∈ schema.componentIds)
    {refusal : PageRefusal} (h : schema.page namer comments = .error refusal) :
    ∃ sec ∈ schema.sections, ∃ id ∈ sec.components, ∃ c why,
      schema.lastComponent? id = some c ∧ c.element = .error why ∧ refusal = .undrawable why := by
  obtain ⟨sec, listed, h⟩ := Except.exists_mem_of_mapM_eq_error (Except.map_eq_error_iff.mp h)
  obtain ⟨id, named, h⟩ := Except.exists_mem_of_mapM_eq_error (Except.map_eq_error_iff.mp h)
  obtain ⟨c, found⟩ := exists_lastComponent? (resolved sec listed id named)
  unfold componentNode at h
  rw [found] at h
  dsimp only at h
  split at h
  · rename_i why failed
    cases h
    exact ⟨sec, listed, id, named, c, why, found, failed, rfl⟩
  · cases h

end Schema

namespace Framework

variable {schema : Schema} {report : Report}

/-- The code that is written for a tree. -/
def code (framework : Framework) (options : EmitOptions) (schema : Schema) (root : Node) :
    Artifact :=
  options.artifact framework.name (root.html 0) (framework.styles schema options.includeComments)
    (root.react framework.classWriter options.componentName
      (framework.imports options.componentName))

/-- With a component in some section that cannot be drawn, no framework has code for the schema, and
all of them give the reason of one such component. Otherwise all of them write the code of one tree,
but for its classes. In this tree stand the sections of the schema in order, and in each, in order,
the components that it lists. -/
theorem lower_bare (reported : schema.validate = .ok report) (valid : report.valid = true)
    (options : EmitOptions) :
    (schema.ListsUndrawable →
      ∃ why, (∃ sec ∈ schema.sections, ∃ c ∈ schema.components, c.id ∈ sec.components ∧
          c.element = .error why) ∧
        ∀ framework : Framework, framework.lower options schema = .error (.undrawable why)) ∧
    (¬ schema.ListsUndrawable →
      ∃ shape : Node, ∀ framework : Framework, ∃ root,
        framework.tree schema options.includeComments = .ok root ∧
          framework.lower options schema = .ok (framework.code options schema root) ∧
          root.bare = shape ∧ root.sectionIds = schema.sectionIds ∧
          root.sections = schema.sections.map fun sec => (sec.id, sec.components.map some)) := by
  have sound := Schema.sound_of_reported reported valid
  constructor
  · intro undrawable
    cases bare : schema.page .none options.includeComments with
    | ok root =>
      exact absurd undrawable (sound.drawable_iff.mp (Schema.exists_page_iff.mp ⟨root, bare⟩))
    | error refusal =>
      obtain ⟨sec, listed, id, named, c, why, found, failed, rfl⟩ :=
        Schema.exists_refusal_of_page sound.references bare
      obtain rfl : c.id = id := by simpa using List.find?_some found
      have member := List.mem_reverse.mp (List.mem_of_find?_eq_some found)
      refine ⟨why, ⟨sec, listed, c, member, named, failed⟩, fun framework => ?_⟩
      have refused : framework.tree schema options.includeComments = .error (.undrawable why) :=
        Except.map_eq_error_iff.mp ((schema.bare_page _ _).trans bare)
      rw [lower, refused]
      rfl
  · intro drawable
    obtain ⟨shape, drawn⟩ := Schema.exists_page_iff.mpr (sound.drawable_iff.mpr drawable)
    refine ⟨shape, fun framework => ?_⟩
    have bare := (schema.bare_page (framework.namer schema) options.includeComments).trans drawn
    obtain ⟨root, made, same⟩ := Except.map_eq_ok_iff.mp bare
    exact ⟨root, made, congrArg (Except.map _) made, same, Schema.sectionIds_page made,
      Schema.sections_page made⟩

/-- A page with a heading between two sections that list it both. -/
def sharedPage : Schema where
  sections := [
    { id := "top", name := "Top", type := "header", layout := .grid,
      components := ["title", "go"] },
    { id := "end", name := "End", type := "footer", components := ["title"] }]
  components := [
    { id := "title", name := "Title", type := "heading", attributes := [("level", .int 9)] },
    { id := "go", name := "Go", type := "card", attributes := [("text", .str "now")] }]

theorem sharedPage_lower :
    ∃ shape : Node, ∀ framework : Framework, ∃ (root : Node) (artifact : Artifact),
      framework.lower { includeComments := true } sharedPage = .ok artifact ∧
        artifact.html = some (root.html 0) ∧ root.bare = shape ∧
        root.sections = [("top", [some "title", some "go"]), ("end", [some "title"])] := by
  have drawable : ¬ sharedPage.ListsUndrawable := by
    rintro ⟨c, member, -, undrawable⟩
    rcases member with _ | ⟨_, _ | ⟨_, none⟩⟩
    · exact Component.exists_element_iff.mp ⟨_, rfl⟩ undrawable
    · exact Component.exists_element_iff.mp ⟨_, rfl⟩ undrawable
    · cases none
  have reported : sharedPage.validate = .ok {} := by rfl
  obtain ⟨shape, drawn⟩ := (lower_bare reported rfl { includeComments := true }).2 drawable
  refine ⟨shape, fun framework => ?_⟩
  obtain ⟨root, -, made, same, -, sections⟩ := drawn framework
  exact ⟨root, _, made, rfl, same, sections⟩

/-- A page whose heading has an infinite level. -/
def endlessTitle : Schema where
  sections := [{ id := "top", name := "Top", type := "section", components := ["title"] }]
  components := [
    { id := "title", name := "Title", type := "heading",
      attributes := [("level", .real (.infinite false))] }]

/-- Of a schema without errors, no framework may have code at all. -/
theorem not_forall_lower :
    ¬ ∀ (schema : Schema) (report : Report), schema.validate = .ok report → report.valid = true →
      ∀ (options : EmitOptions) (framework other : Framework), ∃ root twin,
        framework.tree schema options.includeComments = .ok root ∧
          other.tree schema options.includeComments = .ok twin ∧ root.bare = twin.bare := by
  intro always
  obtain ⟨root, -, drawn, -⟩ := always endlessTitle _ rfl rfl {} .css .scss
  cases drawn

end Framework

end DesignToCode
