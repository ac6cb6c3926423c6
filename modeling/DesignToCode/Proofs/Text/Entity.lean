import DesignToCode.Text.Entity

set_option autoImplicit false

namespace DesignToCode.Text

/-- The characters that have an entity, by its name. -/
def entityNames : List (List Char × Char) := [
  ("amp".toList, '&'),
  ("lt".toList, '<'),
  ("gt".toList, '>'),
  ("quot".toList, '\x22'),
  ("#x27".toList, '\x27')]

/-- A text with characters in place of its entities. Inside an entity, `name` is what was read of
its name; an entity that is unknown or does not end has no reading. -/
def unescape : Option (List Char) → List Char → Option (List Char)
  | none, [] => some []
  | some _, [] => none
  | none, c :: rest =>
    if c = '&' then unescape (some []) rest else (unescape none rest).map (c :: ·)
  | some name, c :: rest =>
    if c = ';' then
      (entityNames.lookup name).bind fun named => (unescape none rest).map (named :: ·)
    else unescape (some (name ++ [c])) rest

theorem unescape_textEntity (c : Char) (rest : List Char) :
    unescape none (textEntity c ++ rest) = (unescape none rest).map (c :: ·) := by
  unfold textEntity
  split
  · subst c
    rfl
  split
  · subst c
    rfl
  split
  · subst c
    rfl
  · rename_i plain _ _
    exact if_neg plain

theorem unescape_attributeEntity (c : Char) (rest : List Char) :
    unescape none (attributeEntity c ++ rest) = (unescape none rest).map (c :: ·) := by
  unfold attributeEntity
  split
  · subst c
    rfl
  split
  · subst c
    rfl
  · exact unescape_textEntity c rest

theorem unescape_flatMap {entity : Char → List Char}
    (read : ∀ c rest, unescape none (entity c ++ rest) = (unescape none rest).map (c :: ·))
    (cs : List Char) : unescape none (cs.flatMap entity) = some cs := by
  induction cs with
  | nil => rfl
  | cons c rest ih => rw [List.flatMap_cons, read, ih, Option.map_some]

theorem unescape_escapeText (s : String) : unescape none (escapeText s).toList = some s.toList := by
  rw [escapeText, String.toList_ofList]
  exact unescape_flatMap unescape_textEntity _

theorem unescape_escapeAttribute (s : String) :
    unescape none (escapeAttribute s).toList = some s.toList := by
  rw [escapeAttribute, String.toList_ofList]
  exact unescape_flatMap unescape_attributeEntity _

/-- The entities that are written. -/
def entities : List String := ["&amp;", "&lt;", "&gt;", "&quot;", "&#x27;"]

theorem ne_of_mem_entity {entity : String} {d : Char}
    (known : entity ∈ entities) (h : d ∈ entity.toList) :
    d ≠ '<' ∧ d ≠ '>' ∧ d ≠ '\x22' := by
  have plain : ∀ entity ∈ entities,
      '<' ∉ entity.toList ∧ '>' ∉ entity.toList ∧ '\x22' ∉ entity.toList := by decide
  obtain ⟨less, greater, quote⟩ := plain entity known
  exact ⟨ne_of_mem_of_not_mem h less, ne_of_mem_of_not_mem h greater,
    ne_of_mem_of_not_mem h quote⟩

theorem ne_of_mem_textEntity {c d : Char} (h : d ∈ textEntity c) :
    d ≠ '<' ∧ d ≠ '>' ∧ (c ≠ '\x22' → d ≠ '\x22') := by
  have inEntity {entity : String} (known : entity ∈ entities)
      (h : d ∈ entity.toList) : d ≠ '<' ∧ d ≠ '>' ∧ (c ≠ '\x22' → d ≠ '\x22') :=
    (ne_of_mem_entity known h).imp_right fun both => both.imp_right fun quote _ => quote
  unfold textEntity at h
  split at h
  · exact inEntity (by decide) h
  split at h
  · exact inEntity (by decide) h
  split at h
  · exact inEntity (by decide) h
  · rename_i _ less greater
    obtain rfl := List.mem_singleton.mp h
    exact ⟨less, greater, id⟩

theorem ne_of_mem_attributeEntity {c d : Char} (h : d ∈ attributeEntity c) :
    d ≠ '<' ∧ d ≠ '>' ∧ d ≠ '\x22' := by
  unfold attributeEntity at h
  split at h
  · exact ne_of_mem_entity (by decide) h
  split at h
  · exact ne_of_mem_entity (by decide) h
  · rename_i quote _
    obtain ⟨less, greater, other⟩ := ne_of_mem_textEntity h
    exact ⟨less, greater, other quote⟩

/-- No bracket is left in an escaped text. -/
theorem ne_of_mem_escapeText {s : String} {d : Char} (h : d ∈ (escapeText s).toList) :
    d ≠ '<' ∧ d ≠ '>' := by
  rw [escapeText, String.toList_ofList] at h
  obtain ⟨c, -, inside⟩ := List.mem_flatMap.mp h
  exact ⟨(ne_of_mem_textEntity inside).1, (ne_of_mem_textEntity inside).2.1⟩

/-- No bracket and no double quote is left in an escaped attribute value. -/
theorem ne_of_mem_escapeAttribute {s : String} {d : Char} (h : d ∈ (escapeAttribute s).toList) :
    d ≠ '<' ∧ d ≠ '>' ∧ d ≠ '\x22' := by
  rw [escapeAttribute, String.toList_ofList] at h
  obtain ⟨c, -, inside⟩ := List.mem_flatMap.mp h
  exact ne_of_mem_attributeEntity inside

end DesignToCode.Text
