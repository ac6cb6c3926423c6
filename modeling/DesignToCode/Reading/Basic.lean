import DesignToCode.Json.Basic
import DesignToCode.Number.Numeral
import DesignToCode.Reading.Fault
import DesignToCode.Text.Search

set_option autoImplicit false

/-!
Reading documents as values. A reading that fails tells every fault, in the order of the parts.
-/
namespace DesignToCode

open DesignToCode.Text

/-- A value, or every fault that was found. -/
inductive Reading (α : Type) where
  | ok (value : α)
  | faulty (faults : List Fault)

namespace Reading

def map {α β : Type} (f : α → β) : Reading α → Reading β
  | ok a => ok (f a)
  | faulty faults => faulty faults

def both {α β : Type} : Reading (α → β) → Reading α → Reading β
  | ok f, ok a => ok (f a)
  | ok _, faulty later => faulty later
  | faulty faults, ok _ => faulty faults
  | faulty faults, faulty later => faulty (faults ++ later)

instance : Functor Reading := ⟨fun f r => r.map f, fun a r => r.map fun _ => a⟩

instance : Seq Reading := ⟨fun f a => f.both (a ())⟩

/-- Goes on with a value that was read; a fault ends the reading. -/
def andThen {α β : Type} : Reading α → (α → Reading β) → Reading β
  | ok a, next => next a
  | faulty faults, _ => faulty faults

def fail {α : Type} (cause : Cause) : Reading α := faulty [⟨cause, []⟩]

/-- The reading as seen from one step further out. -/
def under {α : Type} (step : Step) : Reading α → Reading α
  | ok a => ok a
  | faulty faults => faulty (faults.map (Fault.under step))

def value? {α : Type} : Reading α → Option α
  | ok a => some a
  | faulty _ => none

@[simp] theorem both_ok {α β : Type} (f : α → β) (a : α) : (ok f).both (ok a) = ok (f a) := rfl

theorem both_eq_ok_iff {α β : Type} {f : Reading (α → β)} {a : Reading α} {b : β} :
    f.both a = ok b ↔ ∃ g x, f = ok g ∧ a = ok x ∧ g x = b := by
  cases f <;> cases a <;> simp [both]

theorem under_eq_ok_iff {α : Type} {step : Step} {r : Reading α} {a : α} :
    r.under step = ok a ↔ r = ok a := by
  cases r <;> simp [under]

end Reading

/-- Reads a document as a value. -/
abbrev Reader (α : Type) := Json → Reading α

namespace Reader

def string : Reader String
  | .str s => .ok s
  | _ => .fail .notString

/-- A text without its underscores. There must be one, none at either end, and no two together. -/
def withoutUnderscores? (cs : List Char) : Option (List Char) :=
  if !cs.contains '_' || cs.head? = some '_' || cs.getLast? = some '_' || occurs ['_', '_'] cs then
    none
  else some (cs.filter (· != '_'))

/-- A row of digits without the zeros in front of it and the underscores among them. The last of
these stays if nothing or a point comes behind it. -/
def withoutLeadingZeros (cs : List Char) : List Char :=
  let isLeading (c : Char) : Bool := c = '0' || c = '_'
  if cs.head? != some '0' then cs
  else
    match cs.dropWhile isLeading with
    | [] | '.' :: _ => cs.drop ((cs.takeWhile isLeading).length - 1)
    | rest => rest

/-- A numeral without a fraction of zeros. -/
def withoutZeroFraction (cs : List Char) : List Char :=
  let zeros := (cs.dropWhile (· != '.')).drop 1
  if !zeros.isEmpty && zeros.all (· = '0') then cs.takeWhile (· != '.') else cs

/-- A whole numeral in plain form: a minus sign or none, and a zero alone or digits that start with
none. Too many digits are told whatever follows them. -/
def plainInteger (cs : List Char) : Reading Int :=
  let (negative, body) := match cs with
    | '-' :: rest => (true, rest)
    | _ => (false, cs)
  let row := body.takeWhile isAsciiDigit
  if row.isEmpty || (row.head? = some '0' && row.length != 1) then .fail .unparsableInteger
  else if row.length > Numeral.digitLimit then .fail .oversizedInteger
  else if row.length != body.length then .fail .unparsableInteger
  else .ok (Numeral.signed negative (ofDigits (row.filterMap asciiDigit?)))

/-- White space around a numeral does not count, nor do zeros in front, a fraction of zeros and
underscores between digits. The first character behind the sign is a digit; zeros in front may
themselves have a minus sign behind them. -/
def integerText (cs : List Char) : Reading Int :=
  let (negative, body) := Numeral.sign (unspaced cs)
  if !body.head?.any isAsciiDigit then .fail .unparsableInteger
  else
    let core := withoutZeroFraction (withoutLeadingZeros body)
    let core := (withoutUnderscores? core).getD core
    plainInteger (if negative then '-' :: core else core)

/-- A numeral with fraction and exponent. White space around it does not count; a numeral with
underscores is read without them, but then nothing may stand around it. -/
def numberText? (cs : List Char) : Option Binary64 :=
  if cs.contains '_' then (withoutUnderscores? cs).bind (Numeral.bareReal? asciiDigit?)
  else Numeral.real? asciiDigit? cs

/-- A number of the binary format counts as a whole number below `2 ^ 63` in size. -/
def wholeReal (x : Binary64) : Reading Int :=
  match x.truncate? with
  | none => .fail .notFinite
  | some i =>
    if !x.isWhole then .fail .fractionalInteger
    else if i.natAbs < Nat.pow 2 63 then .ok i
    else .fail .oversizedInteger

def integer : Reader Int
  | .num (.int i) => .ok i
  | .num (.real x) => wholeReal x
  | .bool b => .ok (if b then 1 else 0)
  | .str s => integerText s.toList
  | _ => .fail .notInteger

def number : Reader Binary64
  | .num (.real x) => .ok x
  | .num (.int i) => if (Binary64.ofInt i).isFinite then .ok (.ofInt i) else .fail .notNumber
  | .bool b => .ok (.ofInt (if b then 1 else 0))
  | .str s =>
    match numberText? s.toList with
    | some x => .ok x
    | none => .fail .unparsableNumber
  | _ => .fail .notNumber

def trueWords : List String := ["1", "on", "t", "true", "y", "yes"]

def falseWords : List String := ["0", "off", "f", "false", "n", "no"]

/-- Words stand for truth values in any case, but with no blanks around them. -/
def boolean : Reader Bool
  | .bool b => .ok b
  | .num (.int i) =>
    if i = 0 then .ok false
    else if i = 1 then .ok true
    else if -Int.pow 2 63 ≤ i ∧ i < Int.pow 2 63 then .fail .unparsableBoolean
    else .fail .notBoolean
  | .num (.real x) =>
    if x.isZero then .ok false
    else if x = .ofInt 1 then .ok true
    else .fail .notBoolean
  | .str s =>
    let word := String.ofList (s.toList.map Char.toLower)
    if trueWords.contains word then .ok true
    else if falseWords.contains word then .ok false
    else .fail .unparsableBoolean
  | _ => .fail .notBoolean

/-- A whole number from zero on; the bound is checked after the type. -/
def natural : Reader Nat := fun v =>
  (integer v).andThen fun i => if i < 0 then .fail (.below 0) else .ok i.toNat

/-- A share lies between zero and one; not-a-number is told as above one. -/
def share : Reader Binary64 := fun v =>
  (number v).andThen fun x =>
    if !(Number.real x).le (.int 1) then .fail (.above 1)
    else if !(Number.int 0).le (.real x) then .fail (.below 0)
    else .ok x

/-- One of the values that a list of names stands for. -/
def member {α : Type} (named : List (String × α)) : Reader α
  | .str s =>
    match named.lookup s with
    | some a => .ok a
    | none => .fail (.notMember (named.map (·.1)))
  | _ => .fail (.notMember (named.map (·.1)))

def optional {α : Type} (read : Reader α) : Reader (Option α)
  | .null => .ok none
  | v => (read v).map some

def items {α : Type} (read : Reader α) : Nat → List Json → Reading (List α)
  | _, [] => .ok []
  | i, v :: rest => List.cons <$> (read v).under (.index i) <*> items read (i + 1) rest

/-- A fixed sequence. -/
def tuple {α : Type} (read : Reader α) : Reader (List α)
  | .arr values => items read 0 values
  | _ => .fail .notTuple

def list {α : Type} (read : Reader α) : Reader (List α)
  | .arr values => items read 0 values
  | _ => .fail .notList

def entries {α : Type} (read : Reader α) : List (String × Json) → Reading (List (String × α))
  | [] => .ok []
  | (k, v) :: rest =>
    List.cons <$> ((read v).map (Prod.mk k)).under (.key k) <*> entries read rest

/-- Named values, in order. -/
def mapping {α : Type} (read : Reader α) : Reader (List (String × α))
  | .obj fields => entries read fields
  | _ => .fail .notMapping

def anything : Reader Json := .ok

/-- A record is read from its fields. -/
def record {α : Type} (name : String) (read : List (String × Json) → Reading α) : Reader α
  | .obj fields => read fields
  | _ => .fail (.notRecord name)

end Reader

/-- A field under its written name or under its long name; the written name wins. -/
def Fields.find? (fields : List (String × Json)) (written long : String) : Option (String × Json) :=
  match fields.lookup written with
  | some v => some (written, v)
  | none => (fields.lookup long).map (Prod.mk long)

namespace Reader

/-- A field that must be there. -/
def required {α : Type} (fields : List (String × Json)) (written long : String) (read : Reader α) :
    Reading α :=
  match Fields.find? fields written long with
  | some (key, v) => (read v).under (.key key)
  | none => .faulty [⟨.missing, [.key written]⟩]

/-- A field that has a value of its own when it is not there. -/
def defaulted {α : Type} (fields : List (String × Json)) (written long : String) (read : Reader α)
    (absent : α) : Reading α :=
  match Fields.find? fields written long with
  | some (key, v) => (read v).under (.key key)
  | none => .ok absent

end Reader

end DesignToCode
