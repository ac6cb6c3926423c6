set_option autoImplicit false

/-!
Entities of markup. In text the ampersand and the angle brackets are written as entities, in a
quoted attribute value the quotes too, and in the text of a script expression the braces too.
-/
namespace DesignToCode.Text

def textEntity (c : Char) : List Char :=
  if c = '&' then "&amp;".toList
  else if c = '<' then "&lt;".toList
  else if c = '>' then "&gt;".toList
  else [c]

def attributeEntity (c : Char) : List Char :=
  if c = '\x22' then "&quot;".toList
  else if c = '\x27' then "&#x27;".toList
  else textEntity c

def expressionEntity (c : Char) : List Char :=
  if c = '\x7b' then "&#123;".toList
  else if c = '\x7d' then "&#125;".toList
  else textEntity c

def escapeText (s : String) : String := String.ofList (s.toList.flatMap textEntity)

def escapeAttribute (s : String) : String := String.ofList (s.toList.flatMap attributeEntity)

def escapeExpression (s : String) : String := String.ofList (s.toList.flatMap expressionEntity)

end DesignToCode.Text
