import Mathlib.Data.List.Nodup
import DesignToCode.Proofs.Markup.Component
import DesignToCode.Proofs.Markup.Page
import DesignToCode.Proofs.Reading.Basic

set_option autoImplicit false

namespace DesignToCode

/-- A filter that keeps one item of a list without repetitions, and that one alone. -/
theorem filter_eq_singleton_iff {α : Type} {items : List α} {p : α → Bool} {a : α}
    (distinct : items.Nodup) (inside : a ∈ items.filter p) :
    items.filter p = [a] ↔ ∀ b ∈ items, p b = true → b = a := by
  constructor
  · intro only b member holds
    exact List.mem_singleton.mp (only ▸ List.mem_filter.mpr ⟨member, holds⟩)
  · intro all
    have same : items.filter p = List.replicate (items.filter p).length a := by
      refine List.eq_replicate_of_mem fun b held => ?_
      exact all b (List.mem_of_mem_filter held) (List.mem_filter.mp held).2
    have once : (items.filter p).length ≤ 1 :=
      List.nodup_replicate.mp (same ▸ distinct.filter p)
    have given := List.length_pos_of_mem inside
    rw [same, show (items.filter p).length = 1 by omega]
    rfl

namespace Node

def classes : Node → List String
  | .text _ => []
  | .element _ _ classes _ _ => classes

def attributes : Node → List (String × String)
  | .text _ => []
  | .element _ attributes _ _ _ => attributes

mutual

/-- The elements of a tree, each before those inside it. -/
def elements : Node → List Node
  | .text _ => []
  | .element tag attributes classes children comment =>
    .element tag attributes classes children comment :: elementsOfAll children

def elementsOfAll : List Node → List Node
  | [] => []
  | node :: rest => elements node ++ elementsOfAll rest

end

/-- The elements that have a class. -/
def carriers (name : String) (root : Node) : List Node :=
  root.elements.filter fun e => e.classes.contains name

theorem elementsOfAll_eq_flatMap (nodes : List Node) :
    elementsOfAll nodes = nodes.flatMap elements := by
  induction nodes with
  | nil => rfl
  | cons node rest ih => rw [elementsOfAll, ih, List.flatMap_cons]

theorem carriers_element (name tag : String) (attributes : List (String × String))
    (classes : List String) (children : List Node) (comment : Option String) :
    carriers name (.element tag attributes classes children comment) =
      (if name ∈ classes then [.element tag attributes classes children comment] else []) ++
        children.flatMap (carriers name) := by
  unfold carriers
  rw [elements, List.filter_cons, elementsOfAll_eq_flatMap, List.filter_flatMap]
  by_cases held : name ∈ classes <;> simp [Node.classes, held]

theorem flatMap_carriers {name : String} {nodes : List Node}
    (own : ∀ node ∈ nodes, node.carriers name = if name ∈ node.classes then [node] else []) :
    nodes.flatMap (carriers name) = nodes.filter (name ∈ ·.classes) := by
  induction nodes with
  | nil => rfl
  | cons node rest ih =>
    rw [List.flatMap_cons, ih fun n later => own n (List.mem_cons_of_mem node later),
      own node List.mem_cons_self, List.filter_cons]
    split <;> simp [*]

end Node

open Node

theorem IsEntry.carriers_eq_nil {node : Node} (h : IsEntry node) (name : String) :
    node.carriers name = [] := by
  cases h
  simp [plain, carriers, elements, elementsOfAll, Node.classes]

/-- Inside the element of a component no element has a class. -/
theorem ComponentForm.carriers_withClasses {c : Component} {node : Node}
    (h : ComponentForm c node) (name : String) (classes : List String) :
    (node.withClasses classes).carriers name =
      if name ∈ classes then [node.withClasses classes] else [] := by
  have inside {tag : String} {attributes : List (String × String)} {children : List Node}
      (bare : ∀ child ∈ children, child.carriers name = []) :
      ((Node.plain tag attributes children).withClasses classes).carriers name =
        if name ∈ classes then [(Node.plain tag attributes children).withClasses classes]
        else [] := by
    rw [plain, withClasses, carriers_element, List.flatMap_eq_nil_iff.mpr bare, List.append_nil]
  cases h with
  | void => exact inside (by simp)
  | text => exact inside (by simp [carriers, elements])
  | entries _ _ entries =>
    exact inside fun child member => (entries child member).carriers_eq_nil name

namespace Schema

variable {schema : Schema} {namer : Namer} {comments : Bool} {root node : Node} {sec : Section}
  {name : String}

theorem carriers_componentNode {id : String}
    (h : schema.componentNode namer sec id = .ok node)
    (components : ∀ c, name ∉ namer.ofComponent c sec) : node.carriers name = [] := by
  unfold componentNode at h
  split at h
  · cases h
  · rename_i c _
    split at h
    · cases h
    · rename_i drawn
      cases h
      rw [(Component.form_of_element drawn).carriers_withClasses, if_neg (components c)]

theorem exists_of_sectionNode (h : schema.sectionNode namer comments sec = .ok node) :
    ∃ children, List.Forall₂ (fun id child => schema.componentNode namer sec id = .ok child)
        sec.components children ∧
      node = .element (sectionTag sec.type) [(sectionAttribute, sec.id)] (namer.ofSection sec)
        children (sectionComment comments sec) := by
  obtain ⟨children, drawn, rfl⟩ := Except.map_eq_ok_iff.mp h
  exact ⟨children, Except.mapM_eq_ok_iff.mp drawn, rfl⟩

theorem exists_of_page (h : schema.page namer comments = .ok root) :
    ∃ children, List.Forall₂ (fun sec child => schema.sectionNode namer comments sec = .ok child)
        schema.sections children ∧
      root = .element "div" [("data-schema-version", schema.info.schemaVersion)] namer.root children
        .none := by
  obtain ⟨children, drawn, rfl⟩ := Except.map_eq_ok_iff.mp h
  exact ⟨children, Except.mapM_eq_ok_iff.mp drawn, rfl⟩

theorem carriers_sectionNode (h : schema.sectionNode namer comments sec = .ok node)
    (components : ∀ c, name ∉ namer.ofComponent c sec) :
    node.carriers name = if name ∈ namer.ofSection sec then [node] else [] := by
  obtain ⟨children, drawn, rfl⟩ := exists_of_sectionNode h
  have bare : ∀ child ∈ children, child.carriers name = [] := by
    intro child member
    obtain ⟨id, -, made⟩ := exists_mem_of_forall₂ drawn member
    exact carriers_componentNode made components
  rw [carriers_element, List.flatMap_eq_nil_iff.mpr bare, List.append_nil]

theorem classes_of_sectionNode (h : schema.sectionNode namer comments sec = .ok node) :
    node.classes = namer.ofSection sec ∧ node.attributes = [(sectionAttribute, sec.id)] := by
  obtain ⟨children, -, rfl⟩ := exists_of_sectionNode h
  exact ⟨rfl, rfl⟩

/-- The elements of a page that have a class which no component has: the page itself, and those of
sections. -/
theorem carriers_page (h : schema.page namer comments = .ok root)
    (components : ∀ c sec, name ∉ namer.ofComponent c sec) :
    ∃ nodes, List.Forall₂ (fun sec node => schema.sectionNode namer comments sec = .ok node)
        schema.sections nodes ∧
      root.carriers name =
        (if name ∈ namer.root then [root] else []) ++ nodes.filter (name ∈ ·.classes) := by
  obtain ⟨nodes, drawn, rfl⟩ := exists_of_page h
  refine ⟨nodes, drawn, ?_⟩
  rw [carriers_element]
  congr 1
  refine flatMap_carriers fun node member => ?_
  obtain ⟨sec, -, made⟩ := exists_mem_of_forall₂ drawn member
  rw [carriers_sectionNode made fun c => components c sec, (classes_of_sectionNode made).1]

theorem carriers_page_eq_root (h : schema.page namer comments = .ok root)
    (components : ∀ c sec, name ∉ namer.ofComponent c sec) (own : name ∈ namer.root)
    (others : ∀ sec ∈ schema.sections, name ∉ namer.ofSection sec) :
    root.carriers name = [root] := by
  obtain ⟨nodes, drawn, carriers⟩ := carriers_page h components
  rw [carriers, if_pos own, List.filter_eq_nil_iff.mpr, List.append_nil]
  intro node member
  obtain ⟨sec, listed, made⟩ := exists_mem_of_forall₂ drawn member
  rw [(classes_of_sectionNode made).1]
  simpa using others sec listed

/-- Sections with different ids have different elements. -/
theorem nodup_sectionNodes (distinct : schema.sectionIds.Nodup) {nodes : List Node}
    (drawn : List.Forall₂ (fun sec node => schema.sectionNode namer comments sec = .ok node)
      schema.sections nodes) : nodes.Nodup := by
  have told : schema.sections.map (fun sec => [(sectionAttribute, sec.id)]) =
      nodes.map Node.attributes :=
    map_eq_map_of_forall₂ (drawn.imp fun _ _ made => (classes_of_sectionNode made).2.symm)
  refine List.Nodup.of_map Node.attributes ?_
  have attributes : nodes.map Node.attributes =
      schema.sectionIds.map fun id => [(sectionAttribute, id)] := by
    rw [← told, sectionIds, List.map_map]
    rfl
  rw [attributes]
  refine List.Nodup.map ?_ distinct
  intro a b same
  simpa using same

/-- The element of a section is the only one that has a class of it exactly when neither the page
nor another section has the class. -/
theorem carriers_page_eq_section_iff (h : schema.page namer comments = .ok root)
    (distinct : schema.sectionIds.Nodup) (components : ∀ c sec, name ∉ namer.ofComponent c sec)
    (listed : sec ∈ schema.sections) (own : name ∈ namer.ofSection sec) :
    ∃ node, schema.sectionNode namer comments sec = .ok node ∧ node ∈ root.carriers name ∧
      (root.carriers name = [node] ↔
        name ∉ namer.root ∧
          ∀ other ∈ schema.sections, name ∈ namer.ofSection other → other = sec) := by
  obtain ⟨nodes, drawn, carriers⟩ := carriers_page h components
  obtain ⟨node, member, made⟩ := exists_mem_of_forall₂ drawn.flip listed
  have has {sec : Section} {node : Node} (made : schema.sectionNode namer comments sec = .ok node) :
      name ∈ node.classes ↔ name ∈ namer.ofSection sec := by
    rw [(classes_of_sectionNode made).1]
  have inside : node ∈ nodes.filter (name ∈ ·.classes) :=
    List.mem_filter.mpr ⟨member, decide_eq_true ((has made).mpr own)⟩
  refine ⟨node, made, carriers ▸ List.mem_append_right _ inside, ?_⟩
  by_cases held : name ∈ namer.root
  · rw [carriers, if_pos held]
    refine iff_of_false ?_ fun both => both.1 held
    intro only
    rw [List.singleton_append, List.cons.injEq] at only
    rw [only.2] at inside
    cases inside
  · rw [carriers, if_neg held, List.nil_append, and_iff_right held,
      filter_eq_singleton_iff (nodup_sectionNodes distinct drawn) inside]
    constructor
    · intro only other again own
      obtain ⟨twin, twinMember, twinMade⟩ := exists_mem_of_forall₂ drawn.flip again
      obtain rfl := only twin twinMember (decide_eq_true ((has twinMade).mpr own))
      have ids := (classes_of_sectionNode twinMade).2.symm.trans (classes_of_sectionNode made).2
      exact List.inj_on_of_nodup_map distinct again listed (by simpa using ids)
    · intro others twin twinMember holds
      obtain ⟨other, again, twinMade⟩ := exists_mem_of_forall₂ drawn twinMember
      obtain rfl := others other again ((has twinMade).mp (of_decide_eq_true holds))
      exact Except.ok.inj (twinMade.symm.trans made)

end Schema

end DesignToCode
