import DesignToCode.Text.Table.IdentifierPart
import DesignToCode.Text.Table.IdentifierStart

set_option autoImplicit false

namespace DesignToCode.Text

/-- A character that may begin an identifier, followed by characters that may go on with one. -/
def isIdentifier (s : String) : Bool :=
  match s.toList with
  | [] => false
  | c :: rest =>
    Table.identifierStart.contains c.toNat &&
      rest.all fun c => Table.identifierPart.contains c.toNat

end DesignToCode.Text
