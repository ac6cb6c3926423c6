import DesignToCode.Markup.Node
import DesignToCode.Style.Printer
import DesignToCode.Text.Entity

set_option autoImplicit false

/-!
Writing markup: as plain markup, and as script expressions, where classes may be written in a way
of their own. An element that holds nothing but texts stands on one line.
-/
namespace DesignToCode

open DesignToCode.Text

/-- The tags of elements that never have a content. -/
def voidTags : List String := ["img", "input", "hr", "br"]

def inQuotes (s : String) : String := "\"" ++ escapeAttribute s ++ "\""

/-- Attributes behind a tag, a blank before each. -/
def attributeList (attributes : List String) : String := String.join (attributes.map (" " ++ ·))

def attributeText (name value : String) : String := name ++ "=" ++ inQuotes value

def openTag (tag attributes : String) : String := "<" ++ tag ++ attributes ++ ">"

def closeTag (tag : String) : String := "</" ++ tag ++ ">"

/-- The text that an element holds; nothing if it holds an element. -/
def textsOf (escape : String → String) : List Node → Option String
  | [] => some ""
  | .text s :: rest => (textsOf escape rest).map (escape s ++ ·)
  | .element .. :: _ => none

/-- What stands before a line; there is nothing before one of a level below zero. -/
def margin (level : Int) : String := indent level.toNat

def htmlAttributes (attributes : List (String × String)) (classes : List String) : String :=
  attributeList
    ((if classes.isEmpty then [] else [attributeText "class" (" ".intercalate classes)]) ++
      attributes.map fun a => attributeText a.1 a.2)

/-- Comments are escaped like attribute values. -/
def htmlComment (level : Int) (comment : Option String) : List String :=
  (filled comment).toList.map fun c => s!"{margin level}<!-- {escapeAttribute c} -->"

mutual

def Node.htmlLines (level : Int) : Node → List String
  | .text s => [margin level ++ escapeText s]
  | .element tag attributes classes children comment =>
    let start := margin level ++ openTag tag (htmlAttributes attributes classes)
    htmlComment level comment ++
      if voidTags.contains tag then [start]
      else
        match textsOf escapeText children with
        | some inside => [start ++ inside ++ closeTag tag]
        | none => start :: Node.htmlLinesOfAll (level + 1) children ++
          [margin level ++ closeTag tag]

def Node.htmlLinesOfAll (level : Int) : List Node → List String
  | [] => []
  | node :: rest => Node.htmlLines level node ++ Node.htmlLinesOfAll level rest

end

def Node.html (level : Int) (node : Node) : String := lines (node.htmlLines level)

/-- How the classes of an element are written behind the name of their attribute. -/
abbrev ClassWriter := List String → String

def quotedClasses : ClassWriter := fun classes => inQuotes (" ".intercalate classes)

/-- A class of a style module. -/
def moduleClass (className : String) : String := "\x7bstyles." ++ className ++ "\x7d"

def moduleClasses : ClassWriter
  | [className] => moduleClass className
  | classes => "\x7b`" ++ " ".intercalate (classes.map ("$" ++ moduleClass ·)) ++ "`\x7d"

/-- The names of attributes that scripts call otherwise. -/
def scriptNames : List (String × String) :=
  [("class", "className"), ("for", "htmlFor"), ("tabindex", "tabIndex")]

def scriptName (name : String) : String := (scriptNames.lookup name).getD name

def jsxAttributes (write : ClassWriter) (attributes : List (String × String))
    (classes : List String) : String :=
  attributeList
    ((if classes.isEmpty then [] else ["className=" ++ write classes]) ++
      attributes.map fun a => attributeText (scriptName a.1) a.2)

/-- The characters with a blank inside every mark that would end a comment. -/
def openEnds : List Char → List Char
  | [] => []
  | '*' :: '/' :: rest => '*' :: ' ' :: '/' :: openEnds rest
  | c :: rest => c :: openEnds rest

def jsxComment (level : Int) (comment : Option String) : List String :=
  (filled comment).toList.map fun c =>
    margin level ++ "\x7b/* " ++ String.ofList (openEnds c.toList) ++ " */\x7d"

mutual

def Node.jsxLines (write : ClassWriter) (level : Int) : Node → List String
  | .text s => [margin level ++ escapeExpression s]
  | .element tag attributes classes children comment =>
    let written := jsxAttributes write attributes classes
    let start := margin level ++ openTag tag written
    jsxComment level comment ++
      if voidTags.contains tag || children.isEmpty then
        [margin level ++ "<" ++ tag ++ written ++ " />"]
      else
        match textsOf escapeExpression children with
        | some inside => [start ++ inside ++ closeTag tag]
        | none =>
          start :: Node.jsxLinesOfAll write (level + 1) children ++ [margin level ++ closeTag tag]

def Node.jsxLinesOfAll (write : ClassWriter) (level : Int) : List Node → List String
  | [] => []
  | node :: rest => Node.jsxLines write level node ++ Node.jsxLinesOfAll write level rest

end

def Node.jsx (write : ClassWriter) (level : Int) (node : Node) : String :=
  lines (node.jsxLines write level)

/-- A tree as a component of its own that a script may import. -/
def Node.react (write : ClassWriter) (name : String) (imports : List String) (root : Node) :
    String :=
  lines (["import React from 'react';"] ++ imports ++
    ["", "export default function " ++ name ++ "()" ++ openBrace, "  return (",
      root.jsx write 2, "  );", closeBrace, ""])

end DesignToCode
