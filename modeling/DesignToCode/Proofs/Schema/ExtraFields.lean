import DesignToCode.Proofs.Schema.Reread

set_option autoImplicit false

namespace DesignToCode

open Reader

namespace Component

theorem joined_append (attributes front back : Fields) :
    joined attributes (front ++ back) = joined (joined attributes front) back :=
  List.foldl_append

theorem joined_cons (attributes : Fields) (key : String) (value : Json) (rest : Fields) :
    joined attributes ((key, value) :: rest) =
      joined (Fields.putNew attributes key value) rest := rfl

theorem lookup_joined (attributes extra : Fields) (key : String) :
    (joined attributes extra).lookup key = (attributes.lookup key).or (extra.lookup key) := by
  induction extra generalizing attributes with
  | nil => simp [joined]
  | cons field rest ih =>
    obtain ⟨k, v⟩ := field
    rw [joined_cons, ih, Fields.lookup_putNew, Option.or_assoc]
    by_cases same : key = k
    · simp [same]
    · simp [same, List.lookup_cons, beq_false_of_ne same]

/-- An attribute that no later field has the name of stays where it is, and out of the way. -/
theorem joined_insert_perm {key : String} (value : Json) (front back : Fields) {extra : Fields}
    (absent : key ∉ extra.map (·.1)) :
    (joined (front ++ (key, value) :: back) extra).Perm
      ((key, value) :: joined (front ++ back) extra) := by
  induction extra generalizing back with
  | nil => exact List.perm_middle
  | cons field rest ih =>
    obtain ⟨k, v⟩ := field
    rw [List.map_cons, List.mem_cons, not_or] at absent
    have same : (front ++ (key, value) :: back).lookup k = (front ++ back).lookup k :=
      Fields.lookup_insert_of_ne value fun e => absent.1 e.symm
    rw [joined_cons, joined_cons, Fields.putNew, Fields.putNew, same]
    split
    · exact ih back absent.2
    · rw [List.append_assoc, List.append_assoc, List.cons_append]
      exact ih (back ++ [(k, v)]) absent.2

end Component

/-- The attributes of an object have a name. -/
def HasAttribute (fields : Fields) (key : String) : Prop :=
  ∃ attributes, fields.lookup "attributes" = some (.obj attributes) ∧ key ∈ attributes.map (·.1)

/-- The attributes are there, but neither given nor an object. -/
def HasBlankAttributes (fields : Fields) : Prop :=
  ∃ v, fields.lookup "attributes" = some v ∧ v.isGiven = false ∧ ∀ attributes, v ≠ .obj attributes

/-- The texts that a component cannot do without are there. -/
def IsNamed (fields : Fields) : Prop :=
  ∀ key ∈ ["id", "name", "type"], ∃ s, fields.lookup key = some (.str s)

namespace Component

variable {fields : Fields}

theorem joinable?_of_absent (absent : fields.lookup "attributes" = none) :
    joinable? fields = some [] := by
  rw [joinable?, absent]
  rfl

theorem joinable?_of_object {own : Fields} (held : fields.lookup "attributes" = some (.obj own)) :
    joinable? fields = some own := by
  rw [joinable?, held]
  cases own <;> rfl

theorem joinable?_of_blank (blank : HasBlankAttributes fields) : joinable? fields = some [] := by
  obtain ⟨v, held, blank, -⟩ := blank
  have none : Json.given? (some v) = none := by simp [Json.given?, blank]
  rw [joinable?, held, none]

theorem joinable?_of_given {v : Json} (held : fields.lookup "attributes" = some v)
    (given : v.isGiven = true) (other : ∀ attributes, v ≠ .obj attributes) :
    joinable? fields = none := by
  have some : Json.given? (some v) = some v := by simp [Json.given?, given]
  rw [joinable?, held, some]
  cases v with
  | obj attributes => exact absurd rfl (other attributes)
  | _ => rfl

/-- Attributes that can be joined are absent, an object, or not given. -/
theorem cases_of_joinable? {own : Fields} (joinable : joinable? fields = some own) :
    fields.lookup "attributes" = none ∧ own = [] ∨
      fields.lookup "attributes" = some (.obj own) ∨ HasBlankAttributes fields := by
  cases held : fields.lookup "attributes" with
  | none =>
    cases (joinable?_of_absent held).symm.trans joinable
    exact .inl ⟨rfl, rfl⟩
  | some v =>
    by_cases object : ∃ attributes, v = .obj attributes
    · obtain ⟨attributes, rfl⟩ := object
      cases (joinable?_of_object held).symm.trans joinable
      exact .inr (.inl rfl)
    · rw [not_exists] at object
      cases given : v.isGiven with
      | false => exact .inr (.inr ⟨v, held, given, object⟩)
      | true => cases (joinable?_of_given held given object).symm.trans joinable

/-- Attributes that are read without extra fields are absent or an object. -/
theorem readAttributes_none_eq_ok_iff {attributes : Fields} (none : extraFields fields = []) :
    readAttributes fields = .ok attributes ↔
      fields.lookup "attributes" = some (.obj attributes) ∨
        fields.lookup "attributes" = Option.none ∧ attributes = [] := by
  rw [readAttributes_of_none none, defaulted_eq_ok_iff, eq_comm (a := [])]
  simp [mapping_anything_eq_ok_iff]

/-- With extra fields, attributes that are not given stand for none. Without them, attributes that
are there have to be an object. -/
theorem readAttributes_eq_ok_iff {attributes : Fields} :
    readAttributes fields = .ok attributes ↔
      (∃ own, joinable? fields = some own ∧ attributes = joined own (extraFields fields)) ∧
        (extraFields fields = [] → ¬ HasBlankAttributes fields) := by
  cases extra : extraFields fields with
  | nil =>
    rw [readAttributes_none_eq_ok_iff extra]
    constructor
    · rintro (held | ⟨absent, rfl⟩)
      · refine ⟨⟨attributes, joinable?_of_object held, rfl⟩, ?_⟩
        rintro - ⟨v, there, -, other⟩
        exact other attributes (Option.some.inj (there.symm.trans held))
      · refine ⟨⟨[], joinable?_of_absent absent, rfl⟩, ?_⟩
        rintro - ⟨v, there, -⟩
        cases absent.symm.trans there
    · rintro ⟨⟨own, joinable, rfl⟩, sound⟩
      rcases cases_of_joinable? joinable with ⟨absent, rfl⟩ | held | blank
      · exact .inr ⟨absent, rfl⟩
      · exact .inl held
      · exact absurd blank (sound rfl)
  | cons field more =>
    cases joinable : joinable? fields with
    | some own =>
      rw [readAttributes, extra, joinable]
      simp [eq_comm]
    | none =>
      rw [readAttributes, extra, joinable]
      refine iff_of_false ?_ (by simp)
      intro read
      change defaulted fields "attributes" "attributes" (mapping anything) [] = _ at read
      rcases defaulted_eq_ok_iff.mp read with ⟨v, held, object⟩ | ⟨absent, -⟩
      · rw [mapping_anything_eq_ok_iff.mp object] at held
        cases joinable.symm.trans (joinable?_of_object held)
      · cases joinable.symm.trans (joinable?_of_absent absent)

/-- A component is read when it is named and its attributes are. -/
theorem read_object_eq_ok_iff {c : Component} :
    read (.obj fields) = .ok c ↔
      fields.lookup "id" = some (.str c.id) ∧ fields.lookup "name" = some (.str c.name) ∧
        fields.lookup "type" = some (.str c.type) ∧ readAttributes fields = .ok c.attributes := by
  simp only [Component.read_eq_ok_iff, Json.obj.injEq, required_string_eq_ok_iff,
    exists_eq_left']

theorem exists_read_object_iff :
    (∃ c, read (.obj fields) = .ok c) ↔
      IsNamed fields ∧ ∃ attributes, readAttributes fields = .ok attributes := by
  simp only [read_object_eq_ok_iff, IsNamed, List.forall_mem_cons, List.not_mem_nil,
    false_implies, implies_true, and_true]
  constructor
  · rintro ⟨c, id, name, type, attributes⟩
    exact ⟨⟨⟨_, id⟩, ⟨_, name⟩, ⟨_, type⟩⟩, _, attributes⟩
  · rintro ⟨⟨⟨id, named⟩, ⟨name, called⟩, ⟨type, typed⟩⟩, attributes, read⟩
    exact ⟨⟨id, name, type, attributes⟩, named, called, typed, read⟩

end Component

/-- A component is another one with one more attribute, unless its attributes have it. -/
structure Joins (fields : Fields) (key : String) (value : Json) (c d : Component) : Prop where
  rest : d = { c with attributes := d.attributes }
  kept : HasAttribute fields key → d.attributes = c.attributes
  set : ¬ HasAttribute fields key → d.attributes.Perm (Fields.put c.attributes key value)

/-- A field that is added to a component is joined to its attributes, and that is all. -/
def OnlyJoins (fields grown : Fields) (key : String) (value : Json) : Prop :=
  ((∃ d, Component.read (.obj grown) = .ok d) ↔ ∃ c, Component.read (.obj fields) = .ok c) ∧
    ∀ c d, Component.read (.obj fields) = .ok c → Component.read (.obj grown) = .ok d →
      Joins fields key value c d

namespace Component

variable {front back : Fields} {key : String} {value : Json}

section

variable (extra : key ∉ ownFields)
include extra

theorem lookup_grown {own : String} (listed : own ∈ ownFields) :
    (front ++ (key, value) :: back).lookup own = (front ++ back).lookup own :=
  Fields.lookup_insert_of_ne value fun same => extra (same ▸ listed)

theorem joinable?_grown :
    joinable? (front ++ (key, value) :: back) = joinable? (front ++ back) := by
  rw [joinable?, joinable?, lookup_grown extra (by decide)]

theorem isNamed_grown_iff :
    IsNamed (front ++ (key, value) :: back) ↔ IsNamed (front ++ back) := by
  have listed : ["id", "name", "type"] ⊆ ownFields := by decide
  refine forall₂_congr fun own member => ?_
  rw [lookup_grown extra (listed member)]

theorem extraFields_grown :
    extraFields (front ++ (key, value) :: back) =
      extraFields front ++ (key, value) :: extraFields back := by
  rw [extraFields, List.filter_append, List.filter_cons_of_pos (by simpa using extra)]
  rfl

end

theorem exists_readAttributes_grown_iff (extra : key ∉ ownFields) :
    (∃ attributes, readAttributes (front ++ (key, value) :: back) = .ok attributes) ↔
      ∃ own, joinable? (front ++ back) = some own := by
  simp [readAttributes_eq_ok_iff, extraFields_grown extra, joinable?_grown extra]

/-- Attributes that have the name keep what they have. -/
theorem joined_insert_of_mem {own front back : Fields} (held : key ∈ own.map (·.1)) :
    joined own (front ++ (key, value) :: back) = joined own (front ++ back) := by
  have found : ((joined own front).lookup key).isSome = true := by
    have here : own.lookup key ≠ none := fun none => Fields.lookup_eq_none_iff.mp none held
    rw [lookup_joined, Option.isSome_or, Option.isSome_iff_ne_none.mpr here, Bool.true_or]
  rw [joined_append, joined_append, joined_cons, Fields.putNew, if_pos found]

/-- Attributes that do not have it are joined by it. -/
theorem joined_insert_of_notMem {own front back : Fields} (free : key ∉ own.map (·.1))
    (absent : key ∉ (front ++ back).map (·.1)) :
    (joined own (front ++ (key, value) :: back)).Perm
      (Fields.put (joined own (front ++ back)) key value) := by
  have unheld : key ∉ (joined own (front ++ back)).map (·.1) := by
    rw [← Fields.lookup_eq_none_iff, lookup_joined, Fields.lookup_eq_none_iff.mpr free,
      Fields.lookup_eq_none_iff.mpr absent]
    rfl
  rw [List.map_append, List.mem_append, not_or] at absent
  have none : (joined own front).lookup key = none := by
    rw [lookup_joined, Fields.lookup_eq_none_iff.mpr free, Fields.lookup_eq_none_iff.mpr absent.1]
    rfl
  have moved := joined_insert_perm value (joined own front) [] absent.2
  rw [List.append_nil, ← joined_append] at moved
  rw [Fields.put_of_notMem unheld, joined_append, joined_cons, Fields.putNew, none]
  exact moved.trans (List.perm_append_singleton _ _).symm

theorem joins_grown (absent : key ∉ (front ++ back).map (·.1)) (extra : key ∉ ownFields)
    {c d : Component} (before : Component.read (.obj (front ++ back)) = .ok c)
    (after : Component.read (.obj (front ++ (key, value) :: back)) = .ok d) :
    Joins (front ++ back) key value c d := by
  obtain ⟨id, name, type, attributes⟩ := read_object_eq_ok_iff.mp before
  obtain ⟨id', name', type', attributes'⟩ := read_object_eq_ok_iff.mp after
  obtain ⟨⟨own, joinable, same⟩, -⟩ := readAttributes_eq_ok_iff.mp attributes
  obtain ⟨⟨own', joinable', same'⟩, -⟩ := readAttributes_eq_ok_iff.mp attributes'
  rw [joinable?_grown extra] at joinable'
  cases joinable.symm.trans joinable'
  have split : extraFields (front ++ back) = extraFields front ++ extraFields back :=
    List.filter_append front back
  have fresh : key ∉ (extraFields (front ++ back)).map (·.1) :=
    fun member => absent (List.map_subset _ (List.filter_subset_self _) member)
  rw [split] at same fresh
  rw [extraFields_grown extra] at same'
  constructor
  case rest =>
    rw [lookup_grown extra (by decide)] at id' name' type'
    cases c
    cases d
    cases id.symm.trans id'
    cases name.symm.trans name'
    cases type.symm.trans type'
    rfl
  case kept =>
    rintro ⟨_, held, member⟩
    cases joinable.symm.trans (joinable?_of_object held)
    rw [same, same']
    exact joined_insert_of_mem member
  case set =>
    intro free
    have unheld : key ∉ own.map (·.1) := by
      intro member
      rcases cases_of_joinable? joinable with ⟨-, rfl⟩ | held | blank
      · cases member
      · exact free ⟨own, held, member⟩
      · cases joinable.symm.trans (joinable?_of_blank blank)
        cases member
    rw [same, same']
    exact joined_insert_of_notMem unheld fresh

/-- A field that is added to a component only joins its attributes, unless it is the first such
field and they are neither given nor an object. -/
theorem onlyJoins_iff {front back : Fields} {key : String} {value : Json}
    (absent : key ∉ (front ++ back).map (·.1)) (extra : key ∉ Component.ownFields) :
    OnlyJoins (front ++ back) (front ++ (key, value) :: back) key value ↔
      ¬ (IsNamed (front ++ back) ∧ Component.extraFields (front ++ back) = [] ∧
        HasBlankAttributes (front ++ back)) := by
  constructor
  · rintro ⟨accepted, -⟩ ⟨named, none, blank⟩
    obtain ⟨c, read⟩ := accepted.mp (exists_read_object_iff.mpr
      ⟨(isNamed_grown_iff extra).mpr named,
        (exists_readAttributes_grown_iff extra).mpr ⟨[], joinable?_of_blank blank⟩⟩)
    have attributes := (read_object_eq_ok_iff.mp read).2.2.2
    exact (readAttributes_eq_ok_iff.mp attributes).2 none blank
  · intro sound
    refine ⟨?_, fun c d before after => joins_grown absent extra before after⟩
    rw [exists_read_object_iff, exists_read_object_iff, isNamed_grown_iff extra,
      exists_readAttributes_grown_iff extra]
    refine and_congr_right fun named => ?_
    constructor
    · rintro ⟨own, joinable⟩
      exact ⟨_, readAttributes_eq_ok_iff.mpr
        ⟨⟨own, joinable, rfl⟩, fun none blank => sound ⟨named, none, blank⟩⟩⟩
    · rintro ⟨attributes, read⟩
      obtain ⟨⟨own, joinable, -⟩, -⟩ := readAttributes_eq_ok_iff.mp read
      exact ⟨own, joinable⟩

/-- A heading whose text stands among its attributes, and its level beside them. -/
def heading : Fields := [
  ("id", .str "title"), ("name", .str "Title"), ("type", .str "heading"),
  ("level", .int 2), ("attributes", .obj [("text", .str "Hi")])]

theorem heading_onlyJoins :
    (∃ c, read (.obj heading) = .ok c) ∧
      OnlyJoins heading (heading ++ [("label", .str "Hello")]) "label" (.str "Hello") := by
  have absent : "label" ∉ (heading ++ ([] : Fields)).map Prod.fst := by decide
  have extra : "label" ∉ ownFields := by decide
  refine ⟨⟨_, rfl⟩, (onlyJoins_iff absent extra).mpr ?_⟩
  rintro ⟨-, none, -⟩
  cases none

/-- A text whose attributes are an empty list. -/
def listless : Fields := [
  ("id", .str "c1"), ("name", .str "T"), ("type", .str "text"), ("attributes", .arr [])]

/-- Not every field that is added only joins the attributes. -/
theorem listless_not_onlyJoins :
    ¬ OnlyJoins listless (listless ++ [("text", .str "Hi")]) "text" (.str "Hi") := by
  rintro ⟨accepted, -⟩
  obtain ⟨c, read⟩ := accepted.mp
    ⟨⟨"c1", "T", "text", [("text", .str "Hi")]⟩, read_object_eq_ok_iff.mpr ⟨rfl, rfl, rfl, rfl⟩⟩
  cases read

end Component

end DesignToCode
