import DesignToCode.Proofs.Json.Fields
import DesignToCode.Proofs.Json.Writable
import DesignToCode.Proofs.Schema.Read
import DesignToCode.Schema.Wire

set_option autoImplicit false

namespace DesignToCode

open Reader

theorem Layout.lookup_name (l : Layout) : Layout.named.lookup l.name = some l := by
  cases l <;> rfl

theorem InputType.lookup_name (t : InputType) : InputType.named.lookup t.name = some t := by
  cases t <;> rfl

theorem Confidence.lookup_name (c : Confidence) : Confidence.named.lookup c.name = some c := by
  cases c <;> rfl

theorem Reader.member_str {α : Type} {named : List (String × α)} {name : String} {a : α}
    (h : named.lookup name = some a) : member named (.str name) = .ok a := by
  simp [member, h]

theorem Reader.natural_ofNat (n : Nat) : natural (.ofNat n) = .ok n := by
  have low : ¬ (n : Int) < 0 := by omega
  simp [natural, integer, Json.ofNat, Json.int, Reading.andThen, low]

theorem Reader.tuple_strings (ss : List String) : tuple string (.strings ss) = .ok ss := by
  have read : tuple string (.arr (ss.map .str)) = .ok (ss.map id) := tuple_list fun _ _ => rfl
  rwa [List.map_id] at read

theorem Columns.read_ofNat (c : Columns) : Columns.read (.ofNat c.count) = .ok c := by
  have low : ¬ (c.count : Int) < 1 := by
    have := c.one_le
    omega
  have high : ¬ 12 < (c.count : Int) := by
    have := c.le_twelve
    omega
  simp [Columns.read, integer, Json.ofNat, Json.int, Reading.andThen, low, high]

section Record

variable {absence : Absence} {fields : List (String × Option Json)} {written long : String}

@[simp] theorem field?_some (key : String) (v : Json) :
    Json.field? absence (key, some v) = some (key, v) := rfl

@[simp] theorem field?_none_written (key : String) :
    Json.field? .written (key, none) = some (key, .null) := rfl

@[simp] theorem field?_none_omitted (key : String) : Json.field? .omitted (key, none) = none := rfl

/-- Among keys that are all different, a field is found as it stands unless it was left out. -/
theorem lookup_filterMap_field? (distinct : (fields.map (·.1)).Nodup) (key : String) :
    (fields.filterMap (Json.field? absence)).lookup key =
      (fields.lookup key).bind fun v => (Json.field? absence (key, v)).map (·.2) := by
  induction fields with
  | nil => rfl
  | cons head rest ih =>
    obtain ⟨k, v⟩ := head
    simp only [List.map_cons, List.nodup_cons] at distinct
    have tail := ih distinct.2
    rw [List.filterMap_cons]
    by_cases same : key = k
    · subst same
      have later : rest.lookup key = none := Fields.lookup_eq_none_iff.mpr distinct.1
      rw [later] at tail
      cases v <;> cases absence <;> simp [tail]
    · cases v <;> cases absence <;> simp [List.lookup_cons, beq_false_of_ne same, tail]

theorem required_given {α : Type} {read : Reader α} {v : Json} {a : α}
    (distinct : (fields.map (·.1)).Nodup) (held : fields.lookup written = some (some v))
    (reads : read v = .ok a) :
    required (fields.filterMap (Json.field? absence)) written long read = .ok a := by
  rw [required_of_lookup (v := v), reads, Reading.under_ok]
  simp [lookup_filterMap_field? distinct, held]

theorem defaulted_given {α : Type} {read : Reader α} {v : Json} {a absent : α}
    (distinct : (fields.map (·.1)).Nodup) (held : fields.lookup written = some (some v))
    (reads : read v = .ok a) :
    defaulted (fields.filterMap (Json.field? absence)) written long read absent = .ok a := by
  rw [defaulted_of_lookup (v := v), reads, Reading.under_ok]
  simp [lookup_filterMap_field? distinct, held]

/-- A field that may hold nothing is read as it was, whether it was left out or not. -/
theorem defaulted_optional {α : Type} {read : Reader α} {write : α → Json} {a : Option α}
    (distinct : (fields.map (·.1)).Nodup) (held : fields.lookup written = some (a.map write))
    (other : fields.lookup long = none ∨ long = written) (given : ∀ x, write x ≠ .null)
    (reads : ∀ x, read (write x) = .ok x) :
    defaulted (fields.filterMap (Json.field? absence)) written long (optional read) none =
      .ok a := by
  cases a with
  | some x =>
    exact defaulted_given distinct held (by rw [optional_of_ne_null (given x), reads]; rfl)
  | none =>
    cases absence with
    | written =>
      rw [defaulted_of_lookup (v := .null)]
      · rfl
      · simp [lookup_filterMap_field? distinct, held]
    | omitted =>
      apply defaulted_of_absent
      · simp [lookup_filterMap_field? distinct, held]
      · rcases other with none | rfl
        · simp [lookup_filterMap_field? distinct, none]
        · simp [lookup_filterMap_field? distinct, held]

end Record

theorem str_ne_null (s : String) : Json.str s ≠ .null := Json.noConfusion

theorem ofNat_ne_null (n : Nat) : Json.ofNat n ≠ .null := Json.noConfusion

theorem Section.read_toJson (absence : Absence) (s : Section) :
    Section.read (s.toJson absence) = .ok s := by
  have distinct : ["id", "name", "type", "layout", "components", "columns", "direction",
    "gap"].Nodup := by decide
  rw [Section.read_eq_ok_iff]
  refine ⟨_, rfl, ?id, ?name, ?type, ?layout, ?components, ?columns, ?direction, ?gap⟩
  case id => exact required_given distinct rfl rfl
  case name => exact required_given distinct rfl rfl
  case type => exact required_given distinct rfl rfl
  case layout => exact defaulted_given distinct rfl (member_str s.layout.lookup_name)
  case components => exact defaulted_given distinct rfl (tuple_strings s.components)
  case columns =>
    exact defaulted_optional distinct rfl (.inr rfl) (fun _ => ofNat_ne_null _)
      Columns.read_ofNat
  case direction => exact defaulted_optional distinct rfl (.inr rfl) str_ne_null fun _ => rfl
  case gap => exact defaulted_optional distinct rfl (.inr rfl) ofNat_ne_null natural_ofNat

theorem LayoutStrategy.read_toJson (absence : Absence) (s : LayoutStrategy) :
    LayoutStrategy.read (s.toJson absence) = .ok s := by
  have distinct : ["approach", "reasoning", "maxWidth", "gap", "alignment"].Nodup := by decide
  rw [LayoutStrategy.read_eq_ok_iff]
  refine ⟨_, rfl, ?approach, ?reasoning, ?maxWidth, ?gap, ?alignment⟩
  case approach => exact defaulted_given distinct rfl rfl
  case reasoning => exact defaulted_given distinct rfl rfl
  case maxWidth => exact defaulted_optional distinct rfl (.inl rfl) ofNat_ne_null natural_ofNat
  case gap => exact defaulted_given distinct rfl (natural_ofNat s.gap)
  case alignment => exact defaulted_given distinct rfl rfl

theorem Reader.entries_map_str (entries : List (String × String)) :
    Reader.entries string (entries.map fun entry => (entry.1, .str entry.2)) = .ok entries := by
  induction entries with
  | nil => rfl
  | cons entry rest ih => simp [Reader.entries, ih, string, Reading.map]

theorem BackgroundStrategy.read_toJson (absence : Absence) (b : BackgroundStrategy) :
    BackgroundStrategy.read (b.toJson absence) = .ok b := by
  have distinct : ["type", "color", "gradientFrom", "gradientTo", "gradientDirection", "imageUrl",
    "sectionOverrides"].Nodup := by decide
  rw [BackgroundStrategy.read_eq_ok_iff]
  refine ⟨_, rfl, ?type, ?color, ?first, ?last, ?direction, ?image, ?overrides⟩
  case type => exact defaulted_given distinct rfl rfl
  case color => exact defaulted_optional distinct rfl (.inr rfl) str_ne_null fun _ => rfl
  case first => exact defaulted_optional distinct rfl (.inl rfl) str_ne_null fun _ => rfl
  case last => exact defaulted_optional distinct rfl (.inl rfl) str_ne_null fun _ => rfl
  case direction => exact defaulted_given distinct rfl rfl
  case image => exact defaulted_optional distinct rfl (.inl rfl) str_ne_null fun _ => rfl
  case overrides => exact defaulted_given distinct rfl (entries_map_str b.sectionOverrides)

theorem ResponsiveChange.read_toJson (absence : Absence) (c : ResponsiveChange) :
    ResponsiveChange.read (c.toJson absence) = .ok c := by
  have distinct : ["target", "layout", "columns", "direction", "gap", "hidden"].Nodup := by decide
  rw [ResponsiveChange.read_eq_ok_iff]
  refine ⟨_, rfl, ?target, ?layout, ?columns, ?direction, ?gap, ?hidden⟩
  case target => exact required_given distinct rfl rfl
  case layout =>
    exact defaulted_optional distinct rfl (.inr rfl) (fun _ => str_ne_null _) fun l =>
      member_str l.lookup_name
  case columns =>
    exact defaulted_optional distinct rfl (.inr rfl) (fun _ => ofNat_ne_null _)
      Columns.read_ofNat
  case direction => exact defaulted_optional distinct rfl (.inr rfl) str_ne_null fun _ => rfl
  case gap => exact defaulted_optional distinct rfl (.inr rfl) ofNat_ne_null natural_ofNat
  case hidden =>
    exact defaulted_optional distinct rfl (.inr rfl) (fun _ => Json.noConfusion) fun _ => rfl

theorem ResponsiveRule.read_toJson (absence : Absence) (r : ResponsiveRule) :
    ResponsiveRule.read (r.toJson absence) = .ok r := by
  have distinct : ["breakpoint", "minWidth", "rules"].Nodup := by decide
  have rules : tuple ResponsiveChange.read (.list (ResponsiveChange.toJson absence) r.rules) =
      .ok r.rules := by
    rw [tuple_list (f := id) fun change _ => change.read_toJson absence, List.map_id]
  rw [ResponsiveRule.read_eq_ok_iff]
  refine ⟨_, rfl, ?breakpoint, ?minWidth, ?rules⟩
  case breakpoint => exact required_given distinct rfl rfl
  case minWidth => exact defaulted_optional distinct rfl (.inl rfl) ofNat_ne_null natural_ofNat
  case rules => exact defaulted_given distinct rfl rules

theorem LayerRule.read_toJson (l : LayerRule) : LayerRule.read l.toJson = .ok l := rfl

theorem Ambiguity.read_toJson (a : Ambiguity) : Ambiguity.read a.toJson = .ok a := rfl

theorem Layering.read_toJson (l : Layering) : Layering.read l.toJson = .ok l := by
  have layers : tuple LayerRule.read (.list LayerRule.toJson l.layers) = .ok l.layers := by
    rw [tuple_list (f := id) fun layer _ => layer.read_toJson, List.map_id]
  rw [Layering.read_eq_ok_iff]
  refine ⟨_, rfl, rfl, ?_⟩
  rw [defaulted_of_lookup _ rfl, layers, Reading.under_ok]

theorem Reader.entries_anything (fields : Fields) :
    Reader.entries anything fields = .ok fields := by
  induction fields with
  | nil => rfl
  | cons field rest ih =>
    rw [Reader.entries, ih]
    rfl

/-- Without extra fields the attributes are read as they are. -/
theorem Component.readAttributes_of_none {fields : Fields} (none : extraFields fields = []) :
    readAttributes fields = defaulted fields "attributes" "attributes" (mapping anything) [] := by
  simp [readAttributes, none]

/-- Attributes that hold no number that is not finite are read as they were. -/
theorem Component.read_toJson (c : Component) :
    Component.read c.toJson = .ok { c with attributes := Json.finiteFields c.attributes } := by
  rw [Component.read_eq_ok_iff]
  refine ⟨_, rfl, rfl, rfl, rfl, ?_⟩
  rw [Component.readAttributes_of_none rfl, defaulted_of_lookup _ rfl, mapping, entries_anything]
  rfl

theorem SchemaMeta.read_toJson (m : SchemaMeta) : SchemaMeta.read m.toJson = .ok m := by
  have inputType : tuple (member InputType.named) (.list (.str ·.name) m.inputType) =
      .ok m.inputType := by
    rw [tuple_list (f := id) fun t _ => member_str t.lookup_name, List.map_id]
  rw [SchemaMeta.read_eq_ok_iff]
  refine ⟨_, rfl, rfl, ?_, ?_, ?_⟩
  · rw [defaulted_of_lookup _ rfl, inputType, Reading.under_ok]
  · rw [defaulted_of_lookup _ rfl, tuple_strings, Reading.under_ok]
  · rw [defaulted_of_lookup _ rfl, member_str m.confidenceLevel.lookup_name, Reading.under_ok]

namespace Schema

/-- The schema with null in place of every number that is not finite. -/
def finite (s : Schema) : Schema :=
  { s with
    components := s.components.map fun c =>
      { c with attributes := Json.finiteFields c.attributes } }

theorem toWire_of_isShallow {s : Schema} (shallow : s.isShallow = true) :
    s.toWire = .ok s.wire := if_pos shallow

theorem toWire_of_not_isShallow {s : Schema} (deep : s.isShallow = false) :
    s.toWire = .error .tooNested := by
  rw [toWire, deep]
  rfl

theorem read_wire (s : Schema) : Schema.read s.wire = .ok s.finite := by
  have items {α : Type} {read : Reader α} {write : α → Json} (reads : ∀ a, read (write a) = .ok a)
      (as : List α) : tuple read (.list write as) = .ok as := by
    rw [tuple_list (f := id) fun a _ => reads a, List.map_id]
  rw [Schema.read_eq_ok_iff]
  refine ⟨_, rfl, ?info, ?sections, ?components, ?layout, ?background, ?layering, ?rules,
    ?assumptions, ?ambiguities⟩
  case info => rw [defaulted_of_lookup _ rfl, SchemaMeta.read_toJson]; rfl
  case sections =>
    rw [defaulted_of_lookup _ rfl, items (Section.read_toJson _)]
    rfl
  case components =>
    rw [defaulted_of_lookup _ rfl, tuple_list fun c _ => c.read_toJson]
    rfl
  case layout => rw [defaulted_of_lookup _ rfl, LayoutStrategy.read_toJson]; rfl
  case background => rw [defaulted_of_lookup _ rfl, BackgroundStrategy.read_toJson]; rfl
  case layering => rw [defaulted_of_lookup _ rfl, Layering.read_toJson]; rfl
  case rules =>
    rw [defaulted_of_lookup _ rfl, items (ResponsiveRule.read_toJson _)]
    rfl
  case assumptions => rw [defaulted_of_lookup _ rfl, tuple_strings]; rfl
  case ambiguities =>
    rw [defaulted_of_lookup _ rfl, items Ambiguity.read_toJson]
    rfl

end Schema

end DesignToCode
