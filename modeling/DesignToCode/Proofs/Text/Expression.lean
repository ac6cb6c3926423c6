import DesignToCode.Proofs.Text.Entity

set_option autoImplicit false

namespace DesignToCode.Text

/-- The characters that have an entity in a script expression, by its name. -/
def expressionNames : List (List Char × Char) :=
  entityNames ++ [("#123".toList, '\x7b'), ("#125".toList, '\x7d')]

/-- A text with characters in place of its entities, as `unescape` reads it, but for braces. -/
def unescapeExpression : Option (List Char) → List Char → Option (List Char)
  | none, [] => some []
  | some _, [] => none
  | none, c :: rest =>
    if c = '&' then unescapeExpression (some []) rest
    else (unescapeExpression none rest).map (c :: ·)
  | some name, c :: rest =>
    if c = ';' then
      (expressionNames.lookup name).bind fun named =>
        (unescapeExpression none rest).map (named :: ·)
    else unescapeExpression (some (name ++ [c])) rest

/-- What is written for a character is read as the character. -/
def IsReadBack (entity : Char → List Char) : Prop :=
  ∀ c rest, unescapeExpression none (entity c ++ rest) =
    (unescapeExpression none rest).map (c :: ·)

theorem isReadBack_textEntity : IsReadBack textEntity := by
  intro c rest
  unfold textEntity
  split
  · subst c
    rfl
  split
  · subst c
    rfl
  split
  · subst c
    rfl
  · rename_i plain _ _
    exact if_neg plain

theorem isReadBack_attributeEntity : IsReadBack attributeEntity := by
  intro c rest
  unfold attributeEntity
  split
  · subst c
    rfl
  split
  · subst c
    rfl
  · exact isReadBack_textEntity c rest

theorem isReadBack_expressionEntity : IsReadBack expressionEntity := by
  intro c rest
  unfold expressionEntity
  split
  · subst c
    rfl
  split
  · subst c
    rfl
  · exact isReadBack_textEntity c rest

theorem IsReadBack.flatMap {entity : Char → List Char} (read : IsReadBack entity)
    (cs : List Char) : unescapeExpression none (cs.flatMap entity) = some cs := by
  induction cs with
  | nil => rfl
  | cons c rest ih => rw [List.flatMap_cons, read, ih, Option.map_some]

theorem unescapeExpression_escapeExpression (s : String) :
    unescapeExpression none (escapeExpression s).toList = some s.toList := by
  rw [escapeExpression, String.toList_ofList]
  exact isReadBack_expressionEntity.flatMap _

theorem unescapeExpression_escapeAttribute (s : String) :
    unescapeExpression none (escapeAttribute s).toList = some s.toList := by
  rw [escapeAttribute, String.toList_ofList]
  exact isReadBack_attributeEntity.flatMap _

/-- The characters that a script does not take as text. -/
def scriptMarks : List Char := ['<', '>', '\x7b', '\x7d']

/-- The entities that are written for them, and for what would be read as one. -/
def markEntities : List String := ["&amp;", "&lt;", "&gt;", "&#123;", "&#125;"]

theorem notMem_scriptMarks_of_mem_entity {entity : String} {d : Char}
    (known : entity ∈ markEntities) (h : d ∈ entity.toList) : d ∉ scriptMarks := by
  have plain : ∀ entity ∈ markEntities,
      (entity.toList.all fun d => !scriptMarks.contains d) = true := by decide
  simpa using List.all_eq_true.mp (plain entity known) d h

theorem notMem_scriptMarks_of_mem_textEntity {c d : Char} (plain : c ≠ '\x7b' ∧ c ≠ '\x7d')
    (h : d ∈ textEntity c) : d ∉ scriptMarks := by
  unfold textEntity at h
  split at h
  · exact notMem_scriptMarks_of_mem_entity (by decide) h
  split at h
  · exact notMem_scriptMarks_of_mem_entity (by decide) h
  split at h
  · exact notMem_scriptMarks_of_mem_entity (by decide) h
  · rename_i _ less greater
    obtain rfl := List.mem_singleton.mp h
    simp [scriptMarks, less, greater, plain]

/-- No bracket and no brace is left in the escaped text of an expression. -/
theorem notMem_scriptMarks_of_mem_escapeExpression {s : String} {d : Char}
    (h : d ∈ (escapeExpression s).toList) : d ∉ scriptMarks := by
  rw [escapeExpression, String.toList_ofList] at h
  obtain ⟨c, -, inside⟩ := List.mem_flatMap.mp h
  unfold expressionEntity at inside
  split at inside
  · exact notMem_scriptMarks_of_mem_entity (by decide) inside
  split at inside
  · exact notMem_scriptMarks_of_mem_entity (by decide) inside
  · rename_i opening closing
    exact notMem_scriptMarks_of_mem_textEntity ⟨opening, closing⟩ inside

end DesignToCode.Text
