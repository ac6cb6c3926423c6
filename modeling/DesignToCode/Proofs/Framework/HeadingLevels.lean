import DesignToCode.Framework.Tailwind
import DesignToCode.Proofs.Markup.Page

set_option autoImplicit false

namespace DesignToCode.Tailwind

/-- The level of the tag that a heading is drawn with. -/
def drawnLevel (level : Int) : Int := min (max level 1) 6

theorem drawnLevel_bounds (level : Int) : 1 ≤ drawnLevel level ∧ drawnLevel level ≤ 6 := by
  unfold drawnLevel
  omega

theorem drawnLevel_of_lt {level : Int} (low : level < 1) : drawnLevel level = 1 := by
  unfold drawnLevel
  omega

/-- Only the first three levels have classes of their own. -/
theorem levelClasses_of_other {level : Int} (other : level < 1 ∨ 3 < level) :
    levelClasses level = levelClasses 6 := by
  have none : headingClasses.lookup level = Option.none := by
    have one : (level == 1) = false := beq_eq_false_iff_ne.mpr (by omega)
    have two : (level == 2) = false := beq_eq_false_iff_ne.mpr (by omega)
    have three : (level == 3) = false := beq_eq_false_iff_ne.mpr (by omega)
    simp only [headingClasses, List.lookup_cons, one, two, three, List.lookup_nil]
  rw [levelClasses, none]
  rfl

theorem levelClasses_drawnLevel_iff (level : Int) :
    levelClasses level = levelClasses (drawnLevel level) ↔ 1 ≤ level := by
  rcases Int.lt_or_le level 1 with low | high
  · rw [levelClasses_of_other (.inl low), drawnLevel_of_lt low]
    exact iff_of_false (by decide) (by omega)
  · refine iff_of_true ?_ high
    rcases Int.lt_or_le 3 level with above | within
    · have beyond : 3 < drawnLevel level := by
        unfold drawnLevel
        omega
      rw [levelClasses_of_other (.inr above), levelClasses_of_other (.inr beyond)]
    · have same : drawnLevel level = level := by
        unfold drawnLevel
        omega
      rw [same]

theorem element_of_heading {c : Component} (heading : c.kind = "heading") {level : Int}
    (given : c.level = .ok level) :
    c.element = Component.elementOf.leaf c (Component.levelTag level) [] ["text"] := by
  rw [Component.element, heading, Component.elementOf, given]
  rfl

/-- A heading whose level can be read is drawn with the tag of the nearest level that has one. -/
theorem tags_of_heading {c : Component} (heading : c.kind = "heading") {level : Int}
    (given : c.level = .ok level) {node : Node} (drawn : c.element = .ok node) :
    node.tags = [s!"h{drawnLevel level}"] := by
  rw [element_of_heading heading given] at drawn
  obtain ⟨text, -, rfl⟩ := Except.map_eq_ok_iff.mp drawn
  rfl

/-- The classes of a heading are those of the level as it was read. -/
theorem classes_of_heading {c : Component} (heading : c.kind = "heading") {level : Int}
    (given : c.level = .ok level) : componentClasses c = levelClasses level := by
  rw [componentClasses, if_pos heading, given]

/-- A heading whose level can be read is drawn unless its text cannot be shown. Its classes are
those of the level of its tag exactly if the level that it gives is one at least. Below that the tag
is the one of level one, and the classes are those of level six. -/
theorem heading_classes_iff (schema : Schema) (sec : Section) {c : Component}
    (heading : c.kind = "heading") {level : Int} (given : c.level = .ok level) :
    ∃ n : Int, 1 ≤ n ∧ n ≤ 6 ∧
      ((∃ node, c.element = .ok node) ↔ ∀ v ∈ c.plain? ["text"], v.unwritable? = none) ∧
      (∀ node, c.element = .ok node → node.tags = [s!"h{n}"]) ∧
      ((namer schema).ofComponent c sec = levelClasses n ↔ 1 ≤ level) ∧
      (level < 1 → n = 1 ∧ (namer schema).ofComponent c sec = levelClasses 6) := by
  have named : (namer schema).ofComponent c sec = levelClasses level :=
    classes_of_heading heading given
  have told : (∃ node, c.element = .ok node) ↔ ∀ v ∈ c.plain? ["text"], v.unwritable? = none := by
    rw [element_of_heading heading given, Component.exists_leaf_iff]
    exact forall_congr' fun v => imp_congr_left Option.mem_toList
  obtain ⟨least, greatest⟩ := drawnLevel_bounds level
  refine ⟨drawnLevel level, least, greatest, told, fun _ => tags_of_heading heading given, ?_, ?_⟩
  · rw [named]
    exact levelClasses_drawnLevel_iff level
  · intro low
    exact ⟨drawnLevel_of_lt low, named.trans (levelClasses_of_other (.inl low))⟩

/-- A heading that gives a document for its level. -/
def headingOf (level : Json) : Component where
  id := "title"
  name := "Title"
  type := "Heading"
  attributes := [("level", level)]

def titleSection : Section where
  id := "top"
  name := "Top"
  type := "section"
  layout := .block
  components := ["title"]

/-- A level of nine, written with a sign between blanks, is drawn as one of six. -/
theorem ninthHeading_classes :
    (headingOf (.str " +9 ")).kind = "heading" ∧ (headingOf (.str " +9 ")).level = .ok 9 ∧
      ∃ n : Int, 1 ≤ n ∧ n ≤ 6 ∧
        (∃ node, (headingOf (.str " +9 ")).element = .ok node ∧ node.tags = [s!"h{n}"]) ∧
        (namer {}).ofComponent (headingOf (.str " +9 ")) titleSection = levelClasses n := by
  have heading : (headingOf (.str " +9 ")).kind = "heading" := by decide
  have given : (headingOf (.str " +9 ")).level = .ok 9 := by rfl
  obtain ⟨n, low, high, drawn, tags, same, -⟩ := heading_classes_iff {} titleSection heading given
  obtain ⟨node, made⟩ := drawn.mpr fun v shown => by cases shown
  exact ⟨heading, given, n, low, high, ⟨node, made, tags node made⟩, same.mpr (by decide)⟩

/-- A level of zero is drawn as one of one, without the classes of that level. -/
theorem not_forall_heading_classes :
    ¬∀ (schema : Schema) (sec : Section) (c : Component) (level n : Int), c.kind = "heading" →
      c.level = .ok level → (∃ node, c.element = .ok node ∧ node.tags = [s!"h{n}"]) →
        (namer schema).ofComponent c sec = levelClasses n := by
  intro always
  have heading : (headingOf (.num (.int 0))).kind = "heading" := by decide
  have given : (headingOf (.num (.int 0))).level = .ok 0 := rfl
  have same := always {} titleSection (headingOf (.num (.int 0))) 0 1 heading given ⟨_, rfl, rfl⟩
  exact absurd same (by decide)

end DesignToCode.Tailwind
