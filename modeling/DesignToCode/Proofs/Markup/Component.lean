import DesignToCode.Markup.Component
import DesignToCode.Markup.Printer
import DesignToCode.Proofs.Except
import Mathlib.Tactic.IntervalCases

set_option autoImplicit false

namespace DesignToCode

open DesignToCode.Text

/-- Small letters, digits and dashes. -/
def isWordChar (c : Char) : Bool := c.isLower || c.isDigit || c = '-'

/-- A word that needs no escape in a tag. -/
def IsPlainWord (s : String) : Prop := s.toList ≠ [] ∧ s.toList.all isWordChar = true

instance (s : String) : Decidable (IsPlainWord s) :=
  inferInstanceAs (Decidable (_ ∧ _))

structure IsPlainTag (tag : String) (attributes : List (String × String)) : Prop where
  tag : IsPlainWord tag
  names : ∀ a ∈ attributes, IsPlainWord a.1

namespace Component

/-- The names of the attributes of components, but for the one with the id. -/
def attributeNames : List String := ["type", "src", "alt", "placeholder", "href", "aria-hidden"]

end Component

/-- A tag with attributes as components have them. -/
structure IsOwnTag (tag : String) (attributes : List (String × String)) : Prop where
  word : IsPlainWord tag
  known : ∀ a ∈ attributes, a.1 ∈ Component.attributeNames

namespace IsOwnTag

variable {tag : String} {attributes : List (String × String)}

theorem isPlain (own : IsOwnTag tag attributes) : IsPlainTag tag attributes := by
  have names : ∀ name ∈ Component.attributeNames, IsPlainWord name := by decide
  exact ⟨own.word, fun a member => names a.1 (own.known a member)⟩

theorem isPlain_id (own : IsOwnTag tag attributes) (c : Component) :
    IsPlainTag tag (c.idAttribute :: attributes) := by
  have id : IsPlainWord Node.componentAttribute := by decide
  exact ⟨own.word, List.forall_mem_cons.mpr ⟨id, own.isPlain.names⟩⟩

/-- No attribute but the first tells what an element is of. -/
theorem lookup_eq_none (own : IsOwnTag tag attributes) {name : String}
    (other : name ∉ Component.attributeNames) : attributes.lookup name = none := by
  refine List.lookup_eq_none_iff.mpr fun a member => bne_iff_ne.mpr ?_
  rintro rfl
  exact other (own.known a member)

end IsOwnTag

/-- An element that holds one text. -/
inductive IsEntry : Node → Prop
  | mk {tag : String} {attributes : List (String × String)} (text : String) :
      tag ∉ voidTags → IsOwnTag tag attributes → IsEntry (.plain tag attributes [.text text])

/-- The forms of the element of a component. -/
inductive ComponentForm (c : Component) : Node → Prop
  | void {tag : String} {more : List (String × String)} :
      tag ∈ voidTags → IsOwnTag tag more → ComponentForm c (.plain tag (c.idAttribute :: more) [])
  | text {tag : String} {more : List (String × String)} (text : Option String) :
      tag ∉ voidTags → IsOwnTag tag more →
        ComponentForm c (.plain tag (c.idAttribute :: more) (text.map .text).toList)
  | entries {tag : String} {more : List (String × String)} {children : List Node} :
      tag ∉ voidTags → IsOwnTag tag more → (∀ child ∈ children, IsEntry child) →
        ComponentForm c (.plain tag (c.idAttribute :: more) children)

namespace Component

theorem levelTag_mem (level : Int) : levelTag level ∈ ["h1", "h2", "h3", "h4", "h5", "h6"] := by
  unfold levelTag
  have low : 1 ≤ min (max level 1) 6 := by omega
  have high : min (max level 1) 6 ≤ 6 := by omega
  generalize min (max level 1) 6 = held at low high
  interval_cases held <;> decide

theorem form_of_leaf {c : Component} {tag : String} {more : List (String × String)}
    {keys : List String} {node : Node} (content : tag ∉ voidTags) (own : IsOwnTag tag more)
    (h : elementOf.leaf c tag more keys = .ok node) : ComponentForm c node := by
  obtain ⟨text, -, rfl⟩ := Except.map_eq_ok_iff.mp h
  exact .text (some text) content own

theorem given_eq_ok {c : Component} {children : List Node}
    (h : elementOf.given c = .ok children) :
    ∃ text : Option String, children = (text.map .text).toList := by
  unfold elementOf.given at h
  split at h
  · cases h
    exact ⟨none, rfl⟩
  · obtain ⟨text, -, rfl⟩ := Except.map_eq_ok_iff.mp h
    exact ⟨some text, rfl⟩

/-- Whatever the kind, and whatever the attributes say. -/
theorem form_of_elementOf {c : Component} {kind : String} {node : Node}
    (h : c.elementOf kind = .ok node) : ComponentForm c node := by
  unfold elementOf at h
  split at h
  case h_1 =>
    obtain ⟨level, -, h⟩ := Except.bind_eq_ok_iff.mp h
    have plain : ∀ tag ∈ ["h1", "h2", "h3", "h4", "h5", "h6"],
        tag ∉ voidTags ∧ IsPlainWord tag := by decide
    obtain ⟨content, word⟩ := plain _ (levelTag_mem level)
    exact form_of_leaf content ⟨word, by simp⟩ h
  case h_2 | h_3 | h_4 => exact form_of_leaf (by decide) ⟨by decide, by simp [attributeNames]⟩ h
  case h_5 | h_6 =>
    obtain ⟨first, -, h⟩ := Except.bind_eq_ok_iff.mp h
    obtain ⟨second, -, h⟩ := Except.bind_eq_ok_iff.mp h
    cases h
    exact .void (by decide) ⟨by decide, by simp [attributeNames]⟩
  case h_7 =>
    obtain ⟨address, -, h⟩ := Except.bind_eq_ok_iff.mp h
    exact form_of_leaf (by decide) ⟨by decide, by simp [attributeNames]⟩ h
  case h_8 | h_9 =>
    obtain ⟨items, -, h⟩ := Except.bind_eq_ok_iff.mp h
    cases h
    refine .entries (by decide) ⟨by decide, by simp⟩ ?_
    intro child member
    obtain ⟨item, -, rfl⟩ := List.mem_map.mp member
    exact .mk _ (by decide) ⟨by decide, by simp [attributeNames]⟩
  case h_10 =>
    obtain ⟨title, -, h⟩ := Except.bind_eq_ok_iff.mp h
    obtain ⟨children, told, h⟩ := Except.bind_eq_ok_iff.mp h
    obtain ⟨text, rfl⟩ := given_eq_ok told
    cases h
    refine .entries (by decide) ⟨by decide, by simp⟩ ?_
    intro child member
    rcases List.mem_cons.mp member with rfl | inside
    · exact .mk _ (by decide) ⟨by decide, by simp⟩
    · obtain ⟨inner, held, rfl⟩ := List.mem_map.mp inside
      obtain ⟨s, -, rfl⟩ := Option.map_eq_some_iff.mp (Option.mem_toList.mp held)
      exact .mk _ (by decide) ⟨by decide, by simp⟩
  case h_11 =>
    cases h
    exact .void (by decide) ⟨by decide, by simp⟩
  case h_12 =>
    obtain ⟨glyph, -, h⟩ := Except.bind_eq_ok_iff.mp h
    cases h
    exact .text (some glyph) (by decide) ⟨by decide, by simp [attributeNames]⟩
  case h_13 =>
    obtain ⟨children, told, rfl⟩ := Except.map_eq_ok_iff.mp h
    obtain ⟨text, rfl⟩ := given_eq_ok told
    exact .text text (by decide) ⟨by decide, by simp⟩

theorem form_of_element {c : Component} {node : Node} (h : c.element = .ok node) :
    ComponentForm c node :=
  form_of_elementOf h

end Component

end DesignToCode
