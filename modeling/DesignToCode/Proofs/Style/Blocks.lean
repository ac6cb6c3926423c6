import DesignToCode.Proofs.Text.Lines
import DesignToCode.Style.Printer

set_option autoImplicit false

namespace DesignToCode

/-- What stands in a sheet: an empty line, a line, or a head with what its braces hold. -/
inductive Part where
  | gap
  | line (text : String)
  | block (head : String) (inner : List Part)

namespace Part

def blanks (level : Nat) : String := String.ofList (List.replicate (2 * level) ' ')

mutual

/-- The lines of a part. What braces hold stands two blanks further in. -/
def lines (level : Nat) : Part → List String
  | .gap => [""]
  | .line text => [blanks level ++ text]
  | .block head inner =>
    (blanks level ++ head ++ " \x7b") :: linesOf (level + 1) inner ++ [blanks level ++ "\x7d"]

def linesOf (level : Nat) : List Part → List String
  | [] => []
  | part :: rest => lines level part ++ linesOf level rest

end

def text (parts : List Part) : String := "\n".intercalate (linesOf 0 parts)

theorem linesOf_eq_flatMap (level : Nat) (parts : List Part) :
    linesOf level parts = parts.flatMap (lines level) := by
  induction parts with
  | nil => rfl
  | cons part rest ih => rw [linesOf, ih, List.flatMap_cons]

@[simp] theorem linesOf_append (level : Nat) (front back : List Part) :
    linesOf level (front ++ back) = linesOf level front ++ linesOf level back := by
  simp only [linesOf_eq_flatMap, List.flatMap_append]

@[simp] theorem linesOf_flatMap {α : Type} (level : Nat) (items : List α) (parts : α → List Part) :
    linesOf level (items.flatMap parts) = items.flatMap fun item => linesOf level (parts item) := by
  simp only [linesOf_eq_flatMap, List.flatMap_assoc]

theorem linesOf_map_line {α : Type} (level : Nat) (items : List α) (text : α → String) :
    linesOf level (items.map fun item => .line (text item)) =
      items.map fun item => blanks level ++ text item := by
  rw [linesOf_eq_flatMap, List.flatMap_map, List.map_eq_flatMap]
  rfl

theorem indent_eq_blanks (level : Nat) : indent level = blanks level := by
  rw [← String.toList_inj, indent, blanks, Text.toList_pushn, String.toList_ofList]

/-- The lines of declarations, each a property and its value. -/
def declared (r : StyleRule) : List Part :=
  r.declarations.map fun (property, value) => .line (property ++ ": " ++ value ++ ";")

/-- The comment in front of a rule. -/
def noted (mark : String → String) (r : StyleRule) : List Part :=
  match r.comment with
  | none => []
  | some words => if words = "" then [] else [.line (mark words)]

def starred (words : String) : String := "/* " ++ words ++ " */"

def slashed (words : String) : String := "// " ++ words

/-- A rule, with what stands in its braces behind its declarations. -/
def ofRule (mark : String → String) (r : StyleRule) (more : List Part) : List Part :=
  noted mark r ++ [.block ("." ++ r.className) (declared r ++ more)]

/-- Rules with an empty line between them. -/
def apart : List (List Part) → List Part
  | [] => []
  | [first] => first
  | first :: rest => first ++ .gap :: apart rest

/-- A media block with all of its rules. -/
def ofMedia (m : MediaBlock) : Part :=
  .block ("@media (min-width: " ++ toString m.minWidth ++ "px)")
    (apart (m.rules.map fun r => ofRule starred r []))

theorem linesOf_declared (level : Nat) (r : StyleRule) :
    linesOf level (declared r) = declarationLines level r.declarations := by
  rw [declared, linesOf_map_line, declarationLines]
  refine List.map_congr_left fun d _ => ?_
  rw [← indent_eq_blanks]
  simp only [String.append_assoc]
  rfl

theorem linesOf_noted (mark : String → String) (level : Nat) (r : StyleRule) :
    linesOf level (noted mark r) =
      (filled r.comment).toList.map fun words => indent level ++ mark words := by
  unfold noted filled
  cases r.comment with
  | none => rfl
  | some words =>
    by_cases empty : words = ""
    · simp [empty, linesOf]
    · simp [empty, linesOf, lines, indent_eq_blanks, Option.filter_some]

theorem linesOf_starred (level : Nat) (r : StyleRule) :
    linesOf level (noted starred r) = blockComment level r.comment := by
  rw [linesOf_noted]
  refine List.map_congr_left fun words _ => ?_
  simp only [starred, String.append_assoc]
  rfl

theorem linesOf_slashed (level : Nat) (r : StyleRule) :
    linesOf level (noted slashed r) = lineComment level r.comment := by
  rw [linesOf_noted]
  refine List.map_congr_left fun words _ => ?_
  simp only [slashed, String.append_assoc]
  rfl

theorem linesOf_block (level : Nat) (head : String) (inner : List Part) :
    linesOf level [.block head inner] =
      [opening level head] ++ linesOf (level + 1) inner ++ [closing level] := by
  rw [linesOf, linesOf, lines, List.append_nil, opening, closing, indent_eq_blanks]
  rfl

theorem linesOf_ofRule (level : Nat) (r : StyleRule) :
    linesOf level (ofRule starred r []) = r.flatLines level := by
  rw [ofRule, linesOf_append, linesOf_starred, linesOf_block, List.append_nil, linesOf_declared,
    StyleRule.flatLines]
  simp only [List.append_assoc]
  rfl

theorem linesOf_apart (level : Nat) (blocks : List (List Part)) :
    linesOf level (apart blocks) = spaced (blocks.map (linesOf level)) := by
  fun_induction apart blocks with
  | case1 => rfl
  | case2 => rfl
  | case3 first rest some ih =>
    obtain ⟨second, more, rfl⟩ := List.exists_cons_of_ne_nil some
    rw [linesOf_append, linesOf, lines, ih]
    rfl

end Part

end DesignToCode
