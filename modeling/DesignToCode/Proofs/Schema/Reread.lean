import DesignToCode.Proofs.Json.Finite
import DesignToCode.Proofs.Schema.RoundTrip

set_option autoImplicit false

namespace DesignToCode

open Reader Json

theorem Fields.mem_of_mem_putNew {α : Type} {fields : List (String × α)} {key : String} {value : α}
    {entry : String × α} (h : entry ∈ putNew fields key value) :
    entry ∈ fields ∨ entry = (key, value) := by
  unfold putNew at h
  split at h
  · exact .inl h
  · simpa using h

/-- Any object is read as a mapping of anything, and nothing else is. -/
theorem Reader.mapping_anything_eq_ok_iff {v : Json} {entries : Fields} :
    mapping anything v = .ok entries ↔ v = .obj entries := by
  cases v <;> simp [mapping, Reading.fail, entries_anything]

namespace Component

theorem mem_of_mem_joined {attributes extra : Fields} {field : String × Json}
    (h : field ∈ joined attributes extra) : field ∈ attributes ∨ field ∈ extra := by
  unfold joined at h
  induction extra generalizing attributes with
  | nil => exact .inl h
  | cons first rest ih =>
    rcases ih h with added | later
    · rcases Fields.mem_of_mem_putNew added with before | rfl
      · exact .inl before
      · exact .inr List.mem_cons_self
    · exact .inr (List.mem_cons_of_mem first later)

theorem joinable?_eq_some {fields attributes : Fields} (h : joinable? fields = some attributes) :
    attributes = [] ∨ fields.lookup "attributes" = some (.obj attributes) := by
  unfold joinable? at h
  split at h
  · cases h
    exact .inl rfl
  · rename_i given
    cases h
    exact .inr (Option.filter_eq_some_iff.mp given).1
  · cases h

/-- Every attribute stands in the document that the component was read from, whether it stood among
the attributes or beside them. -/
theorem within_of_mem_attributes {v : Json} {c : Component} (read : Component.read v = .ok c)
    {field : String × Json} (member : field ∈ c.attributes) : Within field.2 v := by
  obtain ⟨fields, rfl, -, -, -, attributes⟩ := Component.read_eq_ok_iff.mp read
  have held {entries : Fields} (found : fields.lookup "attributes" = some (.obj entries))
      (listed : field ∈ entries) : Within field.2 (.obj fields) :=
    (Within.field listed (.whole field.2)).trans (within_of_lookup found)
  unfold readAttributes at attributes
  split at attributes
  · rename_i extra joinable
    rw [← Reading.ok.inj attributes] at member
    rcases mem_of_mem_joined member with own | beside
    · rcases joinable?_eq_some joinable with rfl | found
      · cases own
      · exact held found own
    · rw [← extra] at beside
      exact .field (List.mem_filter.mp beside).1 (.whole field.2)
  · rcases defaulted_eq_ok_iff.mp attributes with ⟨w, found, entries⟩ | ⟨-, none⟩
    · rw [mapping_anything_eq_ok_iff] at entries
      exact held (entries ▸ found) member
    · rw [← none] at member
      cases member

end Component

namespace Schema

/-- No attribute holds, at any depth, a number that is not finite. -/
def HasFiniteAttributes (s : Schema) : Prop :=
  ∀ c ∈ s.components, ∀ field ∈ c.attributes, field.2.IsFinite

theorem within_of_mem_attributes {d : Json} {s : Schema} (read : Schema.read d = .ok s)
    {c : Component} (member : c ∈ s.components) {field : String × Json}
    (listed : field ∈ c.attributes) : Within field.2 d := by
  obtain ⟨fields, rfl, -, -, components, -⟩ := Schema.read_eq_ok_iff.mp read
  rcases defaulted_eq_ok_iff.mp components with ⟨v, found, items⟩ | ⟨-, none⟩
  · obtain ⟨values, rfl, all⟩ := tuple_eq_ok_iff.mp items
    obtain ⟨w, inside, read⟩ := exists_mem_of_forall₂ all member
    exact (Component.within_of_mem_attributes read listed).trans
      ((Within.item inside (.whole w)).trans (within_of_lookup found))
  · rw [← none] at member
    cases member

theorem finite_eq_self_iff {s : Schema} : s.finite = s ↔ s.HasFiniteAttributes := by
  have each : s.finite = s ↔
      s.components.map (fun c => { c with attributes := finiteFields c.attributes }) =
        s.components.map id := by
    rw [List.map_id]
    constructor
    · exact congrArg Schema.components
    · intro same
      rw [finite, same]
  rw [each, List.map_inj_left]
  refine forall₂_congr fun c _ => ?_
  rw [← finiteFields_eq_self_iff]
  constructor
  · exact congrArg Component.attributes
  · intro same
    rw [same]
    rfl

theorem wire_finite (s : Schema) : s.finite.wire = s.wire := by
  have components : Json.list Component.toJson s.finite.components =
      Json.list Component.toJson s.components := by
    rw [finite, Json.list, Json.list, List.map_map]
    refine congrArg Json.arr (List.map_congr_left fun c _ => ?_)
    rw [Function.comp_apply, Component.toJson, Component.toJson, finiteFields_finiteFields]
  rw [wire, wire, components]
  rfl

end Schema

end DesignToCode
