import DesignToCode.Number.Basic

set_option autoImplicit false

/-!
Documents. An object is the list of its fields in the order in which they were first written, and
setting a field that is there changes it in place.
-/
namespace DesignToCode

/-- A document, whose strings and keys are texts. -/
inductive Json where
  | null
  | bool (value : Bool)
  | num (value : Number)
  | str (value : String)
  | arr (items : List Json)
  | obj (fields : List (String × Json))

instance : Inhabited Json := ⟨.null⟩

/-- The fields of an object, in order. -/
abbrev Fields := List (String × Json)

namespace Fields

/-- Changes a field in place, or adds it at the end. -/
def put {κ α : Type} [DecidableEq κ] : List (κ × α) → κ → α → List (κ × α)
  | [], key, value => [(key, value)]
  | (k, v) :: rest, key, value =>
    if k = key then (key, value) :: rest else (k, v) :: put rest key value

/-- Adds a field at the end unless it is there. -/
def putNew {α : Type} (fields : List (String × α)) (key : String) (value : α) :
    List (String × α) :=
  if (fields.lookup key).isSome then fields else fields ++ [(key, value)]

/-- Fields of which a later one with the same key changes the earlier one. -/
def ofPairs {κ α : Type} [DecidableEq κ] (pairs : List (κ × α)) : List (κ × α) :=
  pairs.foldl (fun fields pair => put fields pair.1 pair.2) []

def putAll {α : Type} (fields more : List (String × α)) : List (String × α) :=
  more.foldl (fun fields pair => put fields pair.1 pair.2) fields

theorem lookup_put_self {α : Type} (fields : List (String × α)) (key : String) (value : α) :
    (put fields key value).lookup key = some value := by
  induction fields with
  | nil => simp [put]
  | cons head rest ih =>
    obtain ⟨k, v⟩ := head
    by_cases h : k = key
    · simp [put, h]
    · have h' : (key == k) = false := by simpa using fun e => h e.symm
      simp [put, h, List.lookup_cons, h', ih]

theorem lookup_put_of_ne {α : Type} (fields : List (String × α)) {key other : String} (value : α)
    (h : other ≠ key) : (put fields key value).lookup other = fields.lookup other := by
  induction fields with
  | nil => simp [put, List.lookup_cons, beq_false_of_ne h]
  | cons head rest ih =>
    obtain ⟨k, v⟩ := head
    by_cases hk : k = key
    · subst hk
      simp [put, List.lookup_cons, beq_false_of_ne h]
    · simp only [put, hk, if_false, List.lookup_cons, ih]

end Fields

namespace Json

/-- The field of an object; nothing for any other document. -/
def get? : Json → String → Option Json
  | .obj fields, key => fields.lookup key
  | _, _ => none

/-- Null, false, zero and everything empty do not count as given. -/
def isGiven : Json → Bool
  | .null => false
  | .bool b => b
  | .num n => !n.isZero
  | .str s => !s.isEmpty
  | .arr items => !items.isEmpty
  | .obj fields => !fields.isEmpty

/-- The document if it counts as given. -/
def given? (value : Option Json) : Option Json := value.filter isGiven

def int (i : Int) : Json := .num (.int i)

def real (x : Binary64) : Json := .num (.real x)

def ofNat (n : Nat) : Json := .int n

def list {α : Type} (f : α → Json) (items : List α) : Json := .arr (items.map f)

def strings (items : List String) : Json := .arr (items.map .str)

def ofOption {α : Type} (f : α → Json) : Option α → Json
  | none => .null
  | some a => f a

/-- The number that a document stands for; a truth value counts as one. -/
def asNumber? : Json → Option Number
  | .num n => some n
  | .bool b => some (.int (if b then 1 else 0))
  | _ => none

/-- The kind of a document, as messages name it. -/
def kindName : Json → String
  | .null => "NoneType"
  | .bool _ => "bool"
  | .num (.int _) => "int"
  | .num (.real _) => "float"
  | .str _ => "str"
  | .arr _ => "list"
  | .obj _ => "dict"

/-- How many values may be open at once, one inside the other, where a text is read or shown. -/
def depthLimit : Nat := 980

mutual

/-- How many values stand one inside the other. -/
def height : Json → Nat
  | .arr items => itemsHeight items + 1
  | .obj fields => fieldsHeight fields + 1
  | _ => 1

def itemsHeight : List Json → Nat
  | [] => 0
  | v :: rest => max (height v) (itemsHeight rest)

def fieldsHeight : List (String × Json) → Nat
  | [] => 0
  | (_, v) :: rest => max (height v) (fieldsHeight rest)

end

mutual

/-- The document with null in place of every number that is not finite. -/
def finiteOnly : Json → Json
  | .num (.real x) => if x.isFinite then .num (.real x) else .null
  | .arr items => .arr (finiteItems items)
  | .obj fields => .obj (finiteFields fields)
  | value => value

def finiteItems : List Json → List Json
  | [] => []
  | value :: rest => finiteOnly value :: finiteItems rest

def finiteFields : List (String × Json) → List (String × Json)
  | [] => []
  | (key, value) :: rest => (key, finiteOnly value) :: finiteFields rest

end

end Json

end DesignToCode
