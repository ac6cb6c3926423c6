set_option autoImplicit false

namespace DesignToCode

inductive Node where
  | text (value : String)
  | element (tag : String) (attributes : List (String × String)) (classes : List String)
      (children : List Node) (comment : Option String)

instance : Inhabited Node := ⟨.text ""⟩

namespace Node

/-- An element without classes and comment. -/
def plain (tag : String) (attributes : List (String × String)) (children : List Node) : Node :=
  .element tag attributes [] children none

def withClasses (classes : List String) : Node → Node
  | .text s => .text s
  | .element tag attributes _ children comment => .element tag attributes classes children comment

/-- The attribute that carries the id of a section. -/
def sectionAttribute : String := "data-section-id"

def componentAttribute : String := "data-component-id"

mutual

/-- The tags of a tree, each element before its children. -/
def tags : Node → List String
  | .text _ => []
  | .element tag _ _ children _ => tag :: tagsOfAll children

def tagsOfAll : List Node → List String
  | [] => []
  | node :: rest => tags node ++ tagsOfAll rest

end

mutual

/-- The ids of the sections of a tree, in order. -/
def sectionIds : Node → List String
  | .text _ => []
  | .element _ attributes _ children _ =>
    (attributes.lookup sectionAttribute).toList ++ sectionIdsOfAll children

def sectionIdsOfAll : List Node → List String
  | [] => []
  | node :: rest => sectionIds node ++ sectionIdsOfAll rest

end

end Node

end DesignToCode
