import DesignToCode.Json.Basic
import DesignToCode.Markup.Node

set_option autoImplicit false

namespace DesignToCode.Node

mutual

/-- A text is a string, and an attribute the pair of its name and its value. -/
def toJson : Node → Json
  | .text s => .str s
  | .element tag attributes classes children comment =>
    .obj [
      ("tag", .str tag),
      ("attrs", .arr (attributes.map fun a => .strings [a.1, a.2])),
      ("classes", .strings classes),
      ("children", .arr (toJsonAll children)),
      ("comment", .ofOption .str comment)]

def toJsonAll : List Node → List Json
  | [] => []
  | node :: rest => toJson node :: toJsonAll rest

end

end DesignToCode.Node
