set_option autoImplicit false

/-!
Where something stands inside a document, and the text of that place.
-/
namespace DesignToCode

/-- One step into a document. An index may also be given as a truth value. -/
inductive Step where
  | key (name : String)
  | index (position : Int)
  | flag (value : Bool)
  deriving DecidableEq, Repr

abbrev Location := List Step

/-- A step on its own. -/
def Step.text : Step → String
  | key name => name
  | index position => toString position
  | flag value => if value then "True" else "False"

/-- Indices stand in brackets; a name follows a point, unless nothing stands before it. -/
def Step.follow (path : String) : Step → String
  | .index i => path ++ "[" ++ toString i ++ "]"
  | .flag b => path ++ "[" ++ (if b then "True" else "False") ++ "]"
  | .key name => if path.isEmpty then name else path ++ "." ++ name

def Location.text (location : Location) : String := location.foldl Step.follow ""

end DesignToCode
