import DesignToCode.Markup.Page
import DesignToCode.Proofs.Except
import DesignToCode.Proofs.Json.Writable

set_option autoImplicit false

namespace DesignToCode

open Json (IsShort Within depthLimit unwritable?_eq_none_iff within_of_lookup)

namespace Component

/-- A heading whose level is an infinite number. -/
def HasInfiniteLevel (c : Component) : Prop :=
  c.kind = "heading" ∧ ∃ negative, c.attribute? "level" = some (.num (.real (.infinite negative)))

theorem exists_level_iff {c : Component} :
    (∃ level, c.level = .ok level) ↔
      ¬ ∃ negative, c.attribute? "level" = some (.num (.real (.infinite negative))) := by
  unfold level
  split
  case h_2 => simp [*]
  case h_3 x finite held => simpa [held] using finite
  case h_5 => split <;> simp [*]
  case h_6 other _ _ => simpa using fun negative => other (.infinite negative)
  all_goals simp [*]

/-- The documents of which the entry of a list is made up. -/
def itemValues : Json → List Json
  | .obj fields =>
    (firstGiven? [fields.lookup "label", fields.lookup "text"]).toList ++
      (firstGiven? [fields.lookup "href"]).toList
  | v => [v]

/-- The documents whose texts stand in the element of a component of a kind. -/
def shownValues (c : Component) : String → List Json
  | "heading" | "text" | "paragraph" => (c.plain? ["text"]).toList
  | "button" => (c.plain? ["label", "text"]).toList
  | "image" => (c.given? "src").toList ++ (c.given? "alt").toList
  | "input" => (c.given? "inputType").toList ++ (c.given? "placeholder").toList
  | "link" => (c.given? "href").toList ++ (c.plain? ["label", "text"]).toList
  | "list" | "nav" => c.entries.flatMap itemValues
  | "card" => (c.plain? ["title"]).toList ++ (c.given? "text").toList
  | "divider" => []
  | "icon" => (c.given? "glyph").toList
  | _ => (c.given? "text").toList

/-- A heading of infinite level, or a component with a value to show that cannot be shown. -/
def IsUndrawable (c : Component) : Prop :=
  c.HasInfiniteLevel ∨ ∃ v ∈ c.shownValues c.kind, v.unwritable? ≠ none

theorem exists_written_iff {v : Json} : (∃ s, written v = .ok s) ↔ v.unwritable? = none := by
  unfold written Json.written
  cases v.unwritable? <;> simp [Except.mapError]

theorem exists_textFrom_iff {value : Option Json} {usual : String} :
    (∃ s, textFrom value usual = .ok s) ↔ ∀ v ∈ value.toList, v.unwritable? = none := by
  cases value with
  | none => simp [textFrom]
  | some v => simpa [textFrom] using exists_written_iff

theorem exists_item_iff {v : Json} :
    (∃ entry, item v = .ok entry) ↔ ∀ value ∈ itemValues v, value.unwritable? = none := by
  cases v with
  | obj fields =>
    simp only [item, itemValues, Except.exists_bind_eq_ok_iff, exists_and_right,
      Except.exists_pure, and_true, exists_textFrom_iff, List.forall_mem_append]
  | _ =>
    simp only [item, itemValues, Except.exists_map_eq_ok_iff, exists_written_iff,
      List.forall_mem_singleton]

theorem exists_leaf_iff {c : Component} {tag : String} {more : List (String × String)}
    {keys : List String} :
    (∃ node, elementOf.leaf c tag more keys = .ok node) ↔
      ∀ v ∈ (c.plain? keys).toList, v.unwritable? = none :=
  Except.exists_map_eq_ok_iff.trans exists_textFrom_iff

theorem exists_given_iff {c : Component} :
    (∃ children, elementOf.given c = .ok children) ↔
      ∀ v ∈ (c.given? "text").toList, v.unwritable? = none := by
  unfold elementOf.given
  cases c.given? "text" with
  | none => simp
  | some v => simpa [Except.exists_map_eq_ok_iff] using exists_written_iff

/-- Only the level of a heading, and the values that are shown, can stand in the way of an
element. -/
theorem exists_elementOf_iff {c : Component} {kind : String} :
    (∃ node, c.elementOf kind = .ok node) ↔
      (kind = "heading" → ∃ level, c.level = .ok level) ∧
        ∀ v ∈ c.shownValues kind, v.unwritable? = none := by
  have items : (∃ entries, c.items = .ok entries) ↔
      ∀ v ∈ c.entries.flatMap itemValues, v.unwritable? = none := by
    simp only [Component.items, Except.exists_mapM_eq_ok_iff, exists_item_iff,
      List.forall_mem_flatMap]
  unfold elementOf shownValues givenText textOf
  split <;>
    simp only [Except.exists_bind_eq_ok_iff, Except.exists_pure, Except.exists_map_eq_ok_iff,
      Except.ok.injEq, exists_eq', exists_leaf_iff, exists_given_iff, exists_textFrom_iff,
      exists_and_right, and_true, items, List.forall_mem_append]
  case h_1 => rw [true_imp_iff]
  case h_11 => simp
  case h_13 other _ _ _ _ _ _ _ _ _ _ _ =>
    exact (and_iff_right fun heading => absurd heading other).symm
  all_goals exact (and_iff_right fun heading => absurd heading (by decide)).symm

theorem exists_element_iff {c : Component} :
    (∃ node, c.element = .ok node) ↔ ¬ c.IsUndrawable := by
  unfold element IsUndrawable HasInfiniteLevel
  rw [exists_elementOf_iff, exists_level_iff]
  push Not
  rfl

theorem within_of_mem_entries {c : Component} {v : Json} (member : v ∈ c.entries) :
    Within v (.obj c.attributes) := by
  unfold entries at member
  split at member
  · rename_i items held
    exact (Within.item (List.mem_filter.mp member).1 (.whole v)).trans (within_of_lookup held)
  · cases member

theorem within_of_firstGiven? {values : List (Option Json)} {u v : Json}
    (each : ∀ value ∈ values, ∀ w ∈ value, Within w u) (found : firstGiven? values = some v) :
    Within v u := by
  obtain ⟨value, member, given⟩ := List.exists_of_findSome?_eq_some found
  exact each value member v (Option.filter_eq_some_iff.mp given).1

theorem within_of_mem_itemValues {u v : Json} (member : v ∈ itemValues u) : Within v u := by
  cases u with
  | obj fields =>
    have field (keys : List String)
        (found : v ∈ (firstGiven? (keys.map (List.lookup · fields))).toList) :
        Within v (.obj fields) := by
      refine within_of_firstGiven? ?_ (Option.mem_toList.mp found)
      rw [List.forall_mem_map]
      exact fun key _ w held => within_of_lookup held
    rcases List.mem_append.mp member with label | address
    · exact field ["label", "text"] label
    · exact field ["href"] address
  | _ =>
    rw [List.mem_singleton.mp member]
    exact .whole _

/-- What an element shows stands in the attributes of the component. -/
theorem within_of_mem_shownValues {c : Component} {kind : String} {v : Json}
    (member : v ∈ c.shownValues kind) : Within v (.obj c.attributes) := by
  have given {key : String} (found : v ∈ (c.given? key).toList) : Within v (.obj c.attributes) :=
    within_of_lookup (Option.filter_eq_some_iff.mp (Option.mem_toList.mp found)).1
  have plain {keys : List String} (found : v ∈ (c.plain? keys).toList) :
      Within v (.obj c.attributes) := by
    obtain ⟨key, -, there⟩ := List.exists_of_findSome?_eq_some (Option.mem_toList.mp found)
    exact within_of_lookup (Option.filter_eq_some_iff.mp there).1
  have items (found : v ∈ c.entries.flatMap itemValues) : Within v (.obj c.attributes) := by
    obtain ⟨entry, listed, inside⟩ := List.mem_flatMap.mp found
    exact (within_of_mem_itemValues inside).trans (within_of_mem_entries listed)
  unfold shownValues at member
  split at member
  case h_1 | h_2 | h_3 | h_4 => exact plain member
  case h_5 | h_6 => exact (List.mem_append.mp member).elim given given
  case h_7 => exact (List.mem_append.mp member).elim given plain
  case h_8 | h_9 => exact items member
  case h_10 => exact (List.mem_append.mp member).elim plain given
  case h_11 => cases member
  case h_12 | h_13 => exact given member

/-- A heading of infinite level, or a component with a value to show whose lists and objects stand
too deep in one another. -/
def IsEndless (c : Component) : Prop :=
  c.HasInfiniteLevel ∨ ∃ v ∈ c.shownValues c.kind, depthLimit < v.height

theorem isUndrawable_iff_of_isShort {c : Component} (short : IsShort (.obj c.attributes)) :
    c.IsUndrawable ↔ c.IsEndless := by
  refine or_congr_right (exists_congr fun v => and_congr_right fun shown => ?_)
  have numbers : v.IsShort := short.within (within_of_mem_shownValues shown)
  rw [ne_eq, unwritable?_eq_none_iff, and_iff_right numbers, Nat.not_le]

end Component

namespace Schema

variable {schema : Schema} {namer : Namer}

theorem exists_componentNode_iff {sec : Section} {id : String} :
    (∃ node, schema.componentNode namer sec id = .ok node) ↔
      ∃ c, schema.lastComponent? id = some c ∧ ¬ c.IsUndrawable := by
  unfold componentNode
  split
  · rename_i none
    simp [none]
  · rename_i c found
    simp only [found, Option.some.injEq, exists_eq_left', ← Component.exists_element_iff]
    split
    · rename_i failed
      simp [failed]
    · rename_i node made
      simp [made]

/-- Every component that a section lists is there and can be drawn. -/
def Drawable (schema : Schema) : Prop :=
  ∀ sec ∈ schema.sections, ∀ id ∈ sec.components,
    ∃ c, schema.lastComponent? id = some c ∧ ¬ c.IsUndrawable

theorem exists_page_iff {comments : Bool} :
    (∃ node, schema.page namer comments = .ok node) ↔ schema.Drawable := by
  unfold page Drawable
  rw [Except.exists_map_eq_ok_iff, Except.exists_mapM_eq_ok_iff]
  refine forall₂_congr fun sec _ => ?_
  unfold sectionNode
  rw [Except.exists_map_eq_ok_iff, Except.exists_mapM_eq_ok_iff]
  exact forall₂_congr fun id _ => exists_componentNode_iff

theorem exists_lastComponent? {id : String} (h : id ∈ schema.componentIds) :
    ∃ c, schema.lastComponent? id = some c := by
  obtain ⟨c, member, rfl⟩ := List.mem_map.mp h
  exact Option.isSome_iff_exists.mp
    (List.find?_isSome.mpr ⟨c, List.mem_reverse.mpr member, by simp⟩)

end Schema

end DesignToCode
