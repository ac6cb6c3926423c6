import DesignToCode.Proofs.Analysis.Structure
import DesignToCode.Proofs.Json.Fields

set_option autoImplicit false

namespace DesignToCode

namespace Assembly

/-- The id of the section whose hint is the first to use a key. -/
def firstSection? (hints : List SectionHint) (schema : Schema) (key : String) : Option String :=
  (firstUse? hints key).bind (schema.sectionIds[·]?)

/-- Whether the key of an item, if it has one, is used by a section. -/
def isKnown {α : Type} (hints : List SectionHint) (key : α → Option String) (a : α) : Bool :=
  (key a).all (hints.map (·.key)).contains

/-- An item after its key was turned into the id that the key leads to. One without a key stays as
it was. -/
def IsCarried {α : Type} (leads : String → Option String) (key : α → Option String)
    (rename : α → String → α) (a b : α) : Prop :=
  match key a with
  | none => b = a
  | some k => ∃ id, leads k = some id ∧ b = rename a id

/-- Items are carried over one for one and in order, but for those whose key is not known. -/
def CarriedOver {α : Type} (hints : List SectionHint) (schema : Schema) (key : α → Option String)
    (rename : α → String → α) (before after : List α) : Prop :=
  List.Forall₂ (IsCarried (firstSection? hints schema) key rename)
    (before.filter (isKnown hints key)) after

variable {α : Type} {placed : List Placed} {hints : List SectionHint}

/-- Two keys that lead to one section are the same. -/
theorem sectionId?_inj (distinct : (placed.map (·.id)).Nodup) {first second id : String}
    (h₁ : sectionId? placed first = some id) (h₂ : sectionId? placed second = some id) :
    first = second := by
  obtain ⟨p, found, rfl⟩ := Option.map_eq_some_iff.mp h₁
  obtain ⟨q, other, same⟩ := Option.map_eq_some_iff.mp h₂
  obtain rfl : q = p := List.inj_on_of_nodup_map distinct (List.mem_of_find?_eq_some other)
    (List.mem_of_find?_eq_some found) same
  have used : q.hint.key = first := by simpa using List.find?_some found
  have again : q.hint.key = second := by simpa using List.find?_some other
  exact used.symm.trans again

/-- An item stays exactly when its key is known. -/
theorem isSome_carried (key : α → Option String) (rename : α → String → α) (a : α) :
    (Pass.carried (placeSections hints) key rename a).isSome = isKnown hints key a := by
  unfold Pass.carried isKnown
  cases key a with
  | none => rfl
  | some k =>
    rw [Bool.eq_iff_iff, Option.isSome_map, sectionId?_isSome_iff, placeSections_keys]
    simp

theorem isCarried_of_carried {key : α → Option String} {rename : α → String → α} {a b : α}
    (h : Pass.carried placed key rename a = some b) :
    IsCarried (sectionId? placed) key rename a b := by
  unfold Pass.carried at h
  unfold IsCarried
  cases told : key a with
  | none =>
    rw [told] at h
    exact (Option.some.inj h).symm
  | some k =>
    rw [told] at h
    obtain ⟨id, found, rfl⟩ := Option.map_eq_some_iff.mp h
    exact ⟨id, found, rfl⟩

theorem forall₂_filterMap_carried (key : α → Option String) (rename : α → String → α)
    (items : List α) :
    List.Forall₂ (IsCarried (sectionId? (placeSections hints)) key rename)
      (items.filter (isKnown hints key))
      (items.filterMap (Pass.carried (placeSections hints) key rename)) := by
  induction items with
  | nil => exact .nil
  | cons a rest ih =>
    have known : (Pass.carried (placeSections hints) key rename a).isSome = isKnown hints key a :=
      isSome_carried key rename a
    rw [List.filter_cons, List.filterMap_cons, ← known]
    cases kept : Pass.carried (placeSections hints) key rename a with
    | none => exact ih
    | some b => exact .cons (isCarried_of_carried kept) ih

/-- Entries of a dictionary have different keys, and lead to different sections. -/
theorem nodup_keys_remapBackground {b : BackgroundStrategy}
    (distinct : (b.sectionOverrides.map (·.1)).Nodup) :
    ((remapBackground (placeSections hints) b).sectionOverrides.map (·.1)).Nodup := by
  have keys : (remapBackground (placeSections hints) b).sectionOverrides.map (·.1) =
      (b.sectionOverrides.map (·.1)).filterMap (sectionId? (placeSections hints)) := by
    rw [remapBackground, List.map_filterMap, List.filterMap_map]
    refine List.filterMap_congr fun entry _ => ?_
    rw [Option.map_map]
    exact Option.map_id_apply
  rw [keys]
  exact distinct.filterMap fun _ _ _ => sectionId?_inj (nodup_placeSections hints)

end Assembly

open Assembly

variable {vision : VisionOutput} {reasoning : ReasoningOutput} {inputTypes : List InputType}
  {targets : List String} {schema : Schema} {signals : Signals}

/-- In the assembled schema a key leads where it led while the schema was put together. -/
theorem firstSection?_assemble :
    firstSection? vision.sections (assemble vision reasoning inputTypes targets).schema =
      sectionId? (placeSections vision.sections) := by
  funext key
  rw [firstSection?, sectionIds_assemble, sectionId?_placeSections]

theorem carriedOver_assemble {α : Type} (key : α → Option String) (rename : α → String → α)
    (items : List α) :
    CarriedOver vision.sections (assemble vision reasoning inputTypes targets).schema key rename
      items (items.filterMap (Pass.carried (placeSections vision.sections) key rename)) := by
  rw [CarriedOver, firstSection?_assemble]
  exact forall₂_filterMap_carried key rename items

/-- Whatever two calls tell: overrides, layers and the changes of each rule that has a width are
carried over to the first sections of their keys, and nothing else changes in the policies. A change
of every section stays as it is, a rule stays without changes too, and overrides of different
sections stay apart. -/
theorem assemble_policies
    (made : assemble vision reasoning inputTypes targets = ⟨schema, signals⟩) :
    schema.layoutStrategy = reasoning.layoutStrategy ∧
      (∃ overrides,
        schema.backgroundStrategy =
            { reasoning.backgroundStrategy with sectionOverrides := overrides } ∧
          CarriedOver vision.sections schema (some ·.1) (fun entry id => (id, entry.2))
            reasoning.backgroundStrategy.sectionOverrides overrides ∧
          ((reasoning.backgroundStrategy.sectionOverrides.map (·.1)).Nodup →
            Fields.ofPairs overrides = overrides)) ∧
      (∃ layers,
        schema.layering = { reasoning.layering with layers := layers } ∧
          CarriedOver vision.sections schema (some ·.target) (fun l id => { l with target := id })
            reasoning.layering.layers layers) ∧
      List.Forall₂ (fun rule after => ∃ changes,
          after = { rule with rules := changes } ∧
            CarriedOver vision.sections schema
              (fun c => if c.target = everySection then none else some c.target)
              (fun c id => { c with target := id }) rule.rules changes)
        (reasoning.responsiveRules.filter (·.resolvedMinWidth.isSome)) schema.responsiveRules := by
  obtain rfl : (assemble vision reasoning inputTypes targets).schema = schema :=
    congrArg Assembled.schema made
  refine ⟨rfl, ⟨_, rfl, ?overrides, ?apart⟩, ⟨_, rfl, ?layers⟩, ?rules⟩
  case overrides => exact carriedOver_assemble _ _ _
  case apart => exact fun distinct => Fields.ofPairs_of_nodup (nodup_keys_remapBackground distinct)
  case layers => exact carriedOver_assemble _ _ _
  case rules =>
    have kept : (assemble vision reasoning inputTypes targets).schema.responsiveRules =
        (reasoning.responsiveRules.filter (·.resolvedMinWidth.isSome)).map fun rule =>
          { rule with
            rules := rule.rules.filterMap (remapChange (placeSections vision.sections)) } :=
      filterMap_remapRule _ _
    rw [kept, List.forall₂_map_right_iff, List.forall₂_same]
    intro rule _
    refine ⟨_, rfl, ?_⟩
    rw [← funext Pass.carried_changeKey]
    exact carriedOver_assemble Pass.changeKey _ _

/-- A key is used twice, one is the sign for every section, and one is not used. -/
def starredVision : VisionOutput where
  sections := [
    { key := "a", name := "First", type := "hero" },
    { key := "a", name := "Second", type := "hero" },
    { key := "*", name := "Star", type := "hero" }]
  confidence := .ofInt 1

def starredReasoning : ReasoningOutput where
  backgroundStrategy := { sectionOverrides := [("*", "#fff"), ("x", "#eee"), ("a", "#ddd")] }
  layering := { layers := [{ target := "a", zIndex := 1 }, { target := "x" }, { target := "*" }] }
  responsiveRules := [
    { breakpoint := "md"
      rules := [{ target := "*" }, { target := "x" }, { target := "a", gap := some 1 }] },
    { breakpoint := "huge", rules := [{ target := "*" }] },
    { breakpoint := "lg", rules := [{ target := "x" }] }]

theorem starredVision_policies :
    ∃ schema signals,
      assemble starredVision starredReasoning [.image] ["css"] = ⟨schema, signals⟩ ∧
        schema.sectionIds = ["sec-hero-1", "sec-hero-2", "sec-hero-3"] ∧
        Fields.ofPairs schema.backgroundStrategy.sectionOverrides =
          [("sec-hero-3", "#fff"), ("sec-hero-1", "#ddd")] ∧
        schema.layering.layers.map (·.target) = ["sec-hero-1", "sec-hero-3"] ∧
        schema.responsiveRules.map (·.rules.map (·.target)) = [["*", "sec-hero-1"], []] := by
  obtain ⟨schema, signals, made⟩ : ∃ schema signals,
      assemble starredVision starredReasoning [.image] ["css"] = ⟨schema, signals⟩ := ⟨_, _, rfl⟩
  obtain ⟨-, ⟨overrides, same, -, apart⟩, -, -⟩ := assemble_policies made
  obtain ⟨rfl, rfl⟩ := Assembled.mk.inj made
  refine ⟨_, _, rfl, rfl, ?_, rfl, rfl⟩
  rw [same]
  refine (apart (by decide)).trans ?_
  exact (congrArg BackgroundStrategy.sectionOverrides same).symm

end DesignToCode
