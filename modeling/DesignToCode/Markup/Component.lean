import DesignToCode.Json.Printer
import DesignToCode.Markup.Node
import DesignToCode.Number.Numeral
import DesignToCode.Schema.Basic
import DesignToCode.Text.Blank
import DesignToCode.Text.Case

set_option autoImplicit false

/-!
The element of a component. Its type decides the tag, its attributes what stands inside; what they
do not give is the name of the component or a fixed value.
-/
namespace DesignToCode

open DesignToCode.Text

/-- Why a component has no element: the level of a heading was to be read from an infinite number,
or an attribute cannot be written as a text. -/
inductive ElementRefusal where
  | infiniteLevel
  | unwritable (why : Json.Unwritable)
  deriving DecidableEq, Repr

def ElementRefusal.message : ElementRefusal → String
  | infiniteLevel => "cannot convert float infinity to integer"
  | unwritable why => why.message

namespace Component

/-- The type in small letters, by which types are told apart. -/
def kind (c : Component) : String := lower c.type

def attribute? (c : Component) (key : String) : Option Json := c.attributes.lookup key

def written (v : Json) : Except ElementRefusal String := v.written.mapError .unwritable

/-- The text of a document, or the usual one where there is none. -/
def textFrom (value : Option Json) (usual : String) : Except ElementRefusal String :=
  match value with
  | none => .ok usual
  | some v => written v

/-- The attribute if it counts as given. -/
def given? (c : Component) (key : String) : Option Json := Json.given? (c.attribute? key)

def givenText (c : Component) (key usual : String) : Except ElementRefusal String :=
  textFrom (c.given? key) usual

/-- A string or a number whose text is not blank. -/
def isPlain : Json → Bool
  | .str s => !blank s
  | .null | .arr _ | .obj _ => false
  | _ => true

/-- The first of the named attributes that is plain. -/
def plain? (c : Component) (keys : List String) : Option Json :=
  keys.findSome? fun key => (c.attribute? key).filter isPlain

/-- The first of the named attributes that is plain, or the name of the component. -/
def textOf (c : Component) (keys : List String) : Except ElementRefusal String :=
  textFrom (c.plain? keys) c.name

/-- The level of a heading that gives none that can be read. -/
def defaultLevel : Int := 2

/-- The level that a heading asks for, whatever its size. -/
def level (c : Component) : Except ElementRefusal Int :=
  match c.attribute? "level" with
  | some (.num (.int i)) => .ok i
  | some (.num (.real (.infinite _))) => .error .infiniteLevel
  | some (.num (.real x)) => .ok (x.truncate?.getD defaultLevel)
  | some (.bool b) => .ok (if b then 1 else 0)
  | some (.str s) =>
    match Numeral.int s.toList with
    | .ok i => .ok i
    | .error _ => .ok defaultLevel
  | _ => .ok defaultLevel

/-- The nearest level that has a tag. -/
def levelTag (level : Int) : String := s!"h{min (max level 1) 6}"

/-- An entry of a list or of a navigation. -/
structure Item where
  label : String
  address : String

/-- The address that leads nowhere. -/
def noAddress : String := "#"

/-- The first document that counts as given. -/
def firstGiven? (values : List (Option Json)) : Option Json := values.findSome? Json.given?

/-- Objects name label and address; anything else is its own label. -/
def item : Json → Except ElementRefusal Item
  | .obj fields => do
    let label ← textFrom (firstGiven? [fields.lookup "label", fields.lookup "text"]) ""
    let address ← textFrom (firstGiven? [fields.lookup "href"]) noAddress
    return ⟨label, address⟩
  | v => (written v).map (⟨·, noAddress⟩)

/-- The documents that are entries; null is none. -/
def entries (c : Component) : List Json :=
  match c.attribute? "items" with
  | some (.arr values) => values.filter fun v => !(v matches .null)
  | _ => []

def items (c : Component) : Except ElementRefusal (List Item) := c.entries.mapM item

/-- The attribute with the id that every element of a component has. -/
def idAttribute (c : Component) : String × String := (Node.componentAttribute, c.id)

/-- The element of a component, by its kind. -/
def elementOf (c : Component) : String → Except ElementRefusal Node
  | "heading" => do leaf (levelTag (← c.level)) [] ["text"]
  | "text" | "paragraph" => leaf "p" [] ["text"]
  | "button" => leaf "button" [("type", "button")] ["label", "text"]
  | "image" => do
    let source ← c.givenText "src" ""
    let alternative ← c.givenText "alt" c.name
    return holder "img" [("src", source), ("alt", alternative)] []
  | "input" => do
    let type ← c.givenText "inputType" "text"
    let placeholder ← c.givenText "placeholder" c.name
    return holder "input" [("type", type), ("placeholder", placeholder)] []
  | "link" => do leaf "a" [("href", ← c.givenText "href" noAddress)] ["label", "text"]
  | "list" => do
    return holder "ul" [] ((← c.items).map fun item => .plain "li" [] [.text item.label])
  | "nav" => do
    return holder "nav" [] ((← c.items).map fun item =>
      .plain "a" [("href", item.address)] [.text item.label])
  | "card" => do
    let title ← c.textOf ["title"]
    return holder "article" []
      (.plain "h3" [] [.text title] :: (← given).map fun text => .plain "p" [] [text])
  | "divider" => .ok (holder "hr" [] [])
  | "icon" => do return holder "span" [("aria-hidden", "true")] [.text (← c.givenText "glyph" "")]
  | _ => given.map (holder "div" [])
where
  holder (tag : String) (more : List (String × String)) (children : List Node) : Node :=
    .plain tag (c.idAttribute :: more) children
  leaf (tag : String) (more : List (String × String)) (keys : List String) :
      Except ElementRefusal Node :=
    (c.textOf keys).map fun text => holder tag more [.text text]
  given : Except ElementRefusal (List Node) :=
    match c.given? "text" with
    | none => .ok []
    | some v => (written v).map fun text => [.text text]

def element (c : Component) : Except ElementRefusal Node := c.elementOf c.kind

end Component

end DesignToCode
