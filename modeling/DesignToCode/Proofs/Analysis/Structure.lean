import DesignToCode.Proofs.Analysis.Assembly

set_option autoImplicit false

namespace DesignToCode

namespace Assembly

/-- The place of the first hint that uses a key. -/
def firstUse? (hints : List SectionHint) (key : String) : Option Nat :=
  hints.findIdx? (·.key == key)

theorem findIdx?_placeSections (hints : List SectionHint) (key : String) :
    (placeSections hints).findIdx? (·.hint.key == key) = firstUse? hints key := by
  have hinted := placeSections_hints hints
  calc
    _ = ((placeSections hints).map (·.hint)).findIdx? (·.key == key) := List.findIdx?_map.symm
    _ = firstUse? hints key := by rw [hinted, firstUse?]

/-- A key leads to the id that stands where the key is used first. -/
theorem sectionId?_placeSections (hints : List SectionHint) (key : String) :
    sectionId? (placeSections hints) key =
      (firstUse? hints key).bind (((placeSections hints).map (·.id))[·]?) := by
  rw [sectionId?, List.find?_eq_bind_findIdx?_getElem?, findIdx?_placeSections, Option.map_bind]
  congr 1
  funext i
  exact List.getElem?_map.symm

/-- A key leads to the section at a place exactly when it is used there first: no two sections have
the same id. -/
theorem sectionId?_eq_some_iff {hints : List SectionHint} {key : String} {j : Nat} {p : Placed}
    (there : (placeSections hints)[j]? = some p) :
    sectionId? (placeSections hints) key = some p.id ↔ firstUse? hints key = some j := by
  have id : ((placeSections hints).map (·.id))[j]? = some p.id := by
    rw [List.getElem?_map, there]
    rfl
  rw [sectionId?_placeSections]
  constructor
  · intro leads
    obtain ⟨i, first, found⟩ := Option.bind_eq_some_iff.mp leads
    have inside : i < ((placeSections hints).map (·.id)).length :=
      (List.getElem?_eq_some_iff.mp found).1
    have same : i = j :=
      (List.getElem?_inj inside (nodup_placeSections hints)).mp (found.trans id.symm)
    rw [first, same]
  · intro first
    rw [first, Option.bind_some, id]

theorem forall₂_placeSections (hints : List SectionHint) :
    List.Forall₂ (fun hint p => p.hint = hint) hints (placeSections hints) := by
  have hinted := List.forall₂_eq_eq_eq ▸ placeSections_hints hints
  exact (List.forall₂_map_left_iff.mp hinted).flip

theorem forall₂_placeComponents (hints : List ComponentHint) :
    List.Forall₂ (fun hint c => c.hint = hint) hints (placeComponents hints) := by
  have hinted := List.forall₂_eq_eq_eq ▸ placeComponents_hints hints
  exact (List.forall₂_map_left_iff.mp hinted).flip

theorem hint_of_placeComponents {hints : List ComponentHint} {i : Nat} {hint : ComponentHint}
    {c : PlacedComponent} (told : hints[i]? = some hint)
    (found : (placeComponents hints)[i]? = some c) : c.hint = hint := by
  have hinted := congrArg (·[i]?) (placeComponents_hints hints)
  simpa only [List.getElem?_map, found, told, Option.map_some, Option.some.injEq] using hinted

theorem sublist_componentsOf (placed : List Placed) (components : List PlacedComponent)
    (id : String) : (componentsOf placed components id).Sublist (components.map (·.id)) :=
  List.filter_sublist.map _

/-- A component is listed once where its key leads, and nowhere else. -/
theorem count_componentsOf {placed : List Placed} {components : List PlacedComponent}
    (distinct : (components.map (·.id)).Nodup) {c : PlacedComponent} (member : c ∈ components)
    (id : String) :
    (componentsOf placed components id).count c.id =
      if sectionId? placed c.hint.sectionKey = some id then 1 else 0 := by
  have once := (sublist_componentsOf placed components id).nodup distinct
  rw [once.count]
  exact if_congr (mem_componentsOf_iff distinct member) rfl rfl

end Assembly

open Assembly

variable {vision : VisionOutput} {reasoning : ReasoningOutput} {inputTypes : List InputType}
  {targets : List String} {schema : Schema} {signals : Signals}

theorem getElem?_sections_assemble {j : Nat} {sec : Section}
    (h : (assemble vision reasoning inputTypes targets).schema.sections[j]? = some sec) :
    ∃ p, (placeSections vision.sections)[j]? = some p ∧
      sec = p.section (placeSections vision.sections) (placeComponents vision.componentHints) := by
  obtain ⟨p, found, rfl⟩ := Option.map_eq_some_iff.mp (List.getElem?_map.symm.trans h)
  exact ⟨p, found, rfl⟩

theorem getElem?_components_assemble {i : Nat} {c : Component}
    (h : (assemble vision reasoning inputTypes targets).schema.components[i]? = some c) :
    ∃ placed, (placeComponents vision.componentHints)[i]? = some placed ∧
      c = placed.component := by
  obtain ⟨placed, found, rfl⟩ := Option.map_eq_some_iff.mp (List.getElem?_map.symm.trans h)
  exact ⟨placed, found, rfl⟩

/-- Whatever two calls tell: sections stand for section hints, and components for component hints,
one for one and in order. A section lists components in the order of their hints. The component of a
hint is listed once in the section of the first hint that uses its key, and in no other section; if
no hint uses the key, in none. -/
theorem assemble_structure
    (made : assemble vision reasoning inputTypes targets = ⟨schema, signals⟩) :
    List.Forall₂ (fun hint sec => sec.name = hint.name ∧ sec.type = hint.type) vision.sections
        schema.sections ∧
      List.Forall₂ (fun hint c =>
          c.name = hint.name ∧ c.type = hint.type ∧ c.attributes = hint.attributes)
        vision.componentHints schema.components ∧
      schema.sectionIds.Nodup ∧ schema.componentIds.Nodup ∧
      (∀ sec ∈ schema.sections, sec.components.Sublist schema.componentIds) ∧
      ∀ (i : Nat) (hint : ComponentHint) (c : Component),
        vision.componentHints[i]? = some hint → schema.components[i]? = some c →
          ∀ (j : Nat) (sec : Section), schema.sections[j]? = some sec →
            sec.components.count c.id =
              if firstUse? vision.sections hint.sectionKey = some j then 1 else 0 := by
  obtain rfl : (assemble vision reasoning inputTypes targets).schema = schema :=
    congrArg Assembled.schema made
  refine ⟨?sections, ?components, ?sectionIds, ?componentIds, ?order, ?once⟩
  case sections =>
    refine List.forall₂_map_right_iff.mpr ((forall₂_placeSections _).imp ?_)
    rintro _ p rfl
    exact ⟨rfl, rfl⟩
  case components =>
    refine List.forall₂_map_right_iff.mpr ((forall₂_placeComponents _).imp ?_)
    rintro _ c rfl
    exact ⟨rfl, rfl, rfl⟩
  case sectionIds =>
    rw [sectionIds_assemble]
    exact nodup_placeSections vision.sections
  case componentIds =>
    rw [componentIds_assemble]
    exact nodup_placeComponents vision.componentHints
  case order =>
    intro sec member
    obtain ⟨p, -, rfl⟩ := List.mem_map.mp member
    rw [componentIds_assemble]
    exact sublist_componentsOf _ _ p.id
  case once =>
    intro i hint c told listed j sec there
    obtain ⟨placed, found, rfl⟩ := getElem?_components_assemble listed
    obtain ⟨p, place, rfl⟩ := getElem?_sections_assemble there
    obtain rfl := hint_of_placeComponents told found
    exact (count_componentsOf (nodup_placeComponents vision.componentHints)
      (List.mem_of_getElem? found) p.id).trans
        (if_congr (sectionId?_eq_some_iff place) rfl rfl)

/-- Two sections share a key and a type, one component comes before its section's first one, and one
belongs to no section. -/
def sharedVision : VisionOutput where
  sections := [
    { key := "a", name := "First", type := "Hero" },
    { key := "a", name := "Second", type := "hero!" },
    { key := "b", name := "Third" }]
  componentHints := [
    ⟨"b", "Card", "card", []⟩,
    ⟨"a", "Title", "heading", [("level", .int 1)]⟩,
    ⟨"c", "Lost", "card", []⟩,
    ⟨"a", "Words", "text", []⟩]
  confidence := .ofInt 1

theorem sharedVision_structure :
    ∃ schema signals, assemble sharedVision {} [.image] ["css"] = ⟨schema, signals⟩ ∧
      schema.sections.map (·.components) = [["cmp-heading-1", "cmp-text-1"], [], ["cmp-card-1"]] ∧
      schema.sectionIds.Nodup ∧
      ∀ (j : Nat) (sec : Section), schema.sections[j]? = some sec →
        sec.components.count "cmp-heading-1" = if j = 0 then 1 else 0 := by
  obtain ⟨schema, signals, made⟩ : ∃ schema signals,
      assemble sharedVision {} [.image] ["css"] = ⟨schema, signals⟩ := ⟨_, _, rfl⟩
  obtain ⟨-, -, distinct, -, -, once⟩ := assemble_structure made
  obtain ⟨rfl, rfl⟩ := Assembled.mk.inj made
  refine ⟨_, _, rfl, rfl, distinct, fun j sec there => ?_⟩
  have first : firstUse? sharedVision.sections "a" = some 0 := by decide
  have count : sec.components.count "cmp-heading-1" =
      if firstUse? sharedVision.sections "a" = some j then 1 else 0 :=
    once 1 _ _ rfl rfl j sec there
  simpa [first, eq_comm] using count

end DesignToCode
