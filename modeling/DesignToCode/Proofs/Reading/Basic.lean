import Mathlib.Data.List.Forall2
import DesignToCode.Proofs.Json.Writable
import DesignToCode.Proofs.Number.Numeral
import DesignToCode.Reading.Basic

set_option autoImplicit false

namespace DesignToCode

variable {α β : Type}

namespace Reading

@[simp] theorem map_ok (f : α → β) (a : α) : f <$> ok a = ok (f a) := rfl

@[simp] theorem seq_ok (f : α → β) (a : α) : ok f <*> ok a = ok (f a) := rfl

@[simp] theorem under_ok (step : Step) (a : α) : (ok a).under step = ok a := rfl

theorem map_eq_ok_iff {f : α → β} {r : Reading α} {b : β} :
    f <$> r = ok b ↔ ∃ a, r = ok a ∧ f a = b := by
  show r.map f = ok b ↔ _
  cases r <;> simp [map]

theorem andThen_eq_ok_iff {r : Reading α} {next : α → Reading β} {b : β} :
    r.andThen next = ok b ↔ ∃ a, r = ok a ∧ next a = ok b := by
  cases r <;> simp [andThen]

theorem seq_eq_ok_iff {f : Reading (α → β)} {r : Reading α} {b : β} :
    f <*> r = ok b ↔ ∃ g a, f = ok g ∧ r = ok a ∧ g a = b :=
  both_eq_ok_iff

end Reading

/-- The items of a list that was read, each with the document it was read from. -/
theorem exists_mem_of_forall₂ {R : α → β → Prop} {as : List α} {bs : List β}
    (related : List.Forall₂ R as bs) {b : β} (member : b ∈ bs) : ∃ a ∈ as, R a b := by
  induction related with
  | nil => cases member
  | cons first rest ih =>
    rcases List.mem_cons.mp member with rfl | later
    · exact ⟨_, List.mem_cons_self, first⟩
    · obtain ⟨a, listed, holds⟩ := ih later
      exact ⟨a, List.mem_cons_of_mem _ listed, holds⟩

theorem map_eq_map_of_forall₂ {γ : Type} {f : α → γ} {g : β → γ} {as : List α} {bs : List β}
    (related : List.Forall₂ (fun a b => f a = g b) as bs) : as.map f = bs.map g := by
  rwa [← List.forall₂_map_right_iff, ← List.forall₂_map_left_iff,
    List.forall₂_eq_eq_eq] at related

namespace Reader

open Reading

/-- A list is read when each of its items is, each on its own. -/
theorem items_eq_ok_iff {read : Reader α} {i : Nat} {values : List Json} {items : List α} :
    Reader.items read i values = .ok items ↔
      List.Forall₂ (fun v a => read v = .ok a) values items := by
  induction values generalizing i items with
  | nil => cases items <;> simp [Reader.items]
  | cons v rest ih =>
    rw [Reader.items, seq_eq_ok_iff]
    constructor
    · rintro ⟨g, tail, head, rest, rfl⟩
      obtain ⟨a, first, rfl⟩ := map_eq_ok_iff.mp head
      exact .cons (under_eq_ok_iff.mp first) (ih.mp rest)
    · rintro (_ | ⟨first, rest⟩)
      exact ⟨_, _, map_eq_ok_iff.mpr ⟨_, under_eq_ok_iff.mpr first, rfl⟩, ih.mpr rest, rfl⟩

theorem tuple_eq_ok_iff {read : Reader α} {v : Json} {items : List α} :
    tuple read v = .ok items ↔
      ∃ values, v = .arr values ∧ List.Forall₂ (fun v a => read v = .ok a) values items := by
  cases v <;> simp [tuple, fail, items_eq_ok_iff]

/-- What was written item by item is read item by item. -/
theorem tuple_list {read : Reader β} {write : α → Json} {f : α → β} {xs : List α}
    (reads : ∀ x ∈ xs, read (write x) = .ok (f x)) :
    tuple read (.list write xs) = .ok (xs.map f) := by
  rw [tuple_eq_ok_iff]
  refine ⟨xs.map write, rfl, ?_⟩
  rw [List.forall₂_map_left_iff, List.forall₂_map_right_iff]
  exact List.forall₂_same.mpr reads

theorem optional_of_ne_null {read : Reader α} {v : Json} (given : v ≠ .null) :
    optional read v = some <$> read v := by
  cases v <;> first | rfl | exact absurd rfl given

/-- The same for a reading that leaves items out. -/
theorem read_of_optional {read : Reader α} {v : Json} {a : α}
    (h : optional read v = .ok (some a)) : read v = .ok a := by
  by_cases given : v = .null
  · rw [given] at h
    cases h
  · rw [optional_of_ne_null given, Reading.map_eq_ok_iff] at h
    obtain ⟨b, held, same⟩ := h
    rw [held, Option.some.inj same]

theorem filterMap_map_eq_self {read : Json → Option α} {write : α → Json} {xs : List α}
    (reads : ∀ x ∈ xs, read (write x) = some x) : (xs.map write).filterMap read = xs := by
  induction xs with
  | nil => rfl
  | cons x rest ih =>
    rw [List.map_cons, List.filterMap_cons, reads x List.mem_cons_self,
      ih fun y member => reads y (List.mem_cons_of_mem x member)]

theorem record_eq_ok_iff {name : String} {read : List (String × Json) → Reading α} {v : Json}
    {a : α} :
    record name read v = .ok a ↔ ∃ fields, v = .obj fields ∧ read fields = .ok a := by
  cases v <;> simp [record, fail]

variable {fields : List (String × Json)} {written long : String} {read : Reader α}

theorem required_of_lookup {v : Json} (found : fields.lookup written = some v) :
    required fields written long read = (read v).under (.key written) := by
  simp [required, Fields.find?, found]

theorem defaulted_of_lookup {v : Json} (absent : α) (found : fields.lookup written = some v) :
    defaulted fields written long read absent = (read v).under (.key written) := by
  simp [defaulted, Fields.find?, found]

theorem defaulted_of_absent (absent : α) (written? : fields.lookup written = none)
    (long? : fields.lookup long = none) :
    defaulted fields written long read absent = .ok absent := by
  simp [defaulted, Fields.find?, written?, long?]

/-- A required field without another name. -/
theorem required_eq_ok_iff {a : α} :
    required fields written written read = .ok a ↔
      ∃ v, fields.lookup written = some v ∧ read v = .ok a := by
  cases found : fields.lookup written <;>
    simp [required, Fields.find?, found, under_eq_ok_iff]

/-- A field with a value of its own, and without another name. -/
theorem defaulted_eq_ok_iff {a absent : α} :
    defaulted fields written written read absent = .ok a ↔
      (∃ v, fields.lookup written = some v ∧ read v = .ok a) ∨
        (fields.lookup written = none ∧ absent = a) := by
  cases found : fields.lookup written <;>
    simp [defaulted, Fields.find?, found, under_eq_ok_iff]

/-- A field under one of its two names, or none. -/
theorem mem_of_defaulted {a absent : α} (h : defaulted fields written long read absent = .ok a) :
    (∃ key v, (key, v) ∈ fields ∧ read v = .ok a) ∨ a = absent := by
  unfold defaulted Fields.find? at h
  split at h
  · rename_i key v found
    refine .inl ⟨key, v, ?_, under_eq_ok_iff.mp h⟩
    split at found
    · rename_i held
      cases found
      exact Fields.mem_of_lookup held
    · obtain ⟨w, held, same⟩ := Option.map_eq_some_iff.mp found
      cases same
      exact Fields.mem_of_lookup held
  · cases h
    exact .inr rfl

/-- A field that is there is read as it stands. -/
theorem read_of_defaulted {v : Json} {a absent : α} (held : fields.lookup written = some v)
    (read_ok : defaulted fields written long read absent = .ok a) : read v = .ok a := by
  rw [defaulted_of_lookup absent held] at read_ok
  exact under_eq_ok_iff.mp read_ok

/-- Named values keep their names. -/
theorem keys_of_entries {entries : List (String × α)}
    (read_ok : Reader.entries read fields = .ok entries) :
    fields.map (·.1) = entries.map (·.1) := by
  induction fields generalizing entries with
  | nil =>
    cases read_ok
    rfl
  | cons field rest ih =>
    obtain ⟨_, later, head, tail, rfl⟩ := seq_eq_ok_iff.mp read_ok
    obtain ⟨_, first, rfl⟩ := map_eq_ok_iff.mp head
    obtain ⟨a, -, rfl⟩ := map_eq_ok_iff.mp (under_eq_ok_iff.mp first)
    rw [List.map_cons, List.map_cons, ih tail]

theorem string_eq_ok_iff {v : Json} {s : String} : string v = .ok s ↔ v = .str s := by
  cases v <;> simp [string, fail]

theorem required_string_eq_ok_iff {s : String} :
    required fields written written string = .ok s ↔ fields.lookup written = some (.str s) := by
  simp [required_eq_ok_iff, string_eq_ok_iff]

theorem tuple_string_eq_ok_iff {v : Json} {ss : List String} :
    tuple string v = .ok ss ↔ v = .strings ss := by
  rw [tuple_eq_ok_iff]
  simp only [string_eq_ok_iff]
  constructor
  · rintro ⟨values, rfl, all⟩
    rw [← List.forall₂_map_right_iff, List.forall₂_eq_eq_eq] at all
    rw [all, Json.strings]
  · rintro rfl
    refine ⟨_, rfl, ?_⟩
    rw [List.forall₂_map_left_iff]
    exact List.forall₂_same.mpr fun _ _ => rfl

/-- A whole number that may stand for a size is read as it stands. -/
theorem natCast_of_natural {i : Int} {n : Nat} (read_ok : natural (.num (.int i)) = .ok n) :
    (n : Int) = i := by
  have plain : natural (.num (.int i)) = if i < 0 then .fail (.below 0) else .ok i.toNat := rfl
  rw [plain] at read_ok
  split at read_ok
  · cases read_ok
  · have := ok.inj read_ok
    omega

theorem isWritable_of_plainInteger {cs : List Char} {i : Int} (read : plainInteger cs = .ok i) :
    Numeral.isWritable i = true := by
  unfold plainInteger at read
  split at read
  rename_i negative body _
  dsimp only at read
  split at read
  · cases read
  · split at read
    · cases read
    · rename_i fits
      split at read
      · cases read
      · cases read
        refine Numeral.isWritable_signed (fun d member => ?_) ?_
        · obtain ⟨c, -, value⟩ := List.mem_filterMap.mp member
          exact Text.asciiDigit_lt value
        · exact (List.length_filterMap_le _ _).trans (Nat.le_of_not_lt fits)

theorem isWritable_of_small {i : Int} (small : i.natAbs < 2 ^ 63) :
    Numeral.isWritable i = true := by
  have more : 2 ^ 63 ≤ 10 ^ 20 := by decide
  have fits : 10 ^ 20 ≤ 10 ^ Numeral.digitLimit := Nat.pow_le_pow_right (by decide) (by decide)
  exact Numeral.isWritable_iff.mpr (small.trans_le (more.trans fits))

theorem natAbs_lt_of_wholeReal {x : Binary64} {i : Int} (read : wholeReal x = .ok i) :
    i.natAbs < 2 ^ 63 := by
  unfold wholeReal at read
  split at read
  · cases read
  · split at read
    · cases read
    · split at read
      · rename_i bound
        cases read
        exact bound
      · cases read

/-- What is read as a whole number can be written if the document can. -/
theorem isWritable_of_integer {v : Json} (short : v.IsShort) {i : Int} (read : integer v = .ok i) :
    Numeral.isWritable i = true := by
  match v with
  | .num (.int _) =>
    cases read
    exact short i (.whole _)
  | .num (.real x) =>
    exact isWritable_of_small (natAbs_lt_of_wholeReal read)
  | .bool b =>
    cases read
    cases b <;> exact isWritable_of_small (by decide)
  | .str s =>
    have read : integerText s.toList = .ok i := read
    unfold integerText at read
    dsimp only at read
    split at read
    · cases read
    · exact isWritable_of_plainInteger read
  | .null | .arr _ | .obj _ => cases read

theorem isWritable_of_natural {v : Json} (short : v.IsShort) {n : Nat}
    (read : natural v = .ok n) : Numeral.isWritable n = true := by
  unfold natural at read
  obtain ⟨i, whole, rest⟩ := Reading.andThen_eq_ok_iff.mp read
  split at rest
  · cases rest
  · cases rest
    have held := isWritable_of_integer short whole
    rwa [Int.toNat_of_nonneg (by omega)]

end Reader

namespace Reading

/-- The reading holds a value or at least one fault. -/
def Tells : Reading α → Prop
  | ok _ => True
  | faulty faults => faults ≠ []

theorem tells_ok (a : α) : (ok a).Tells := trivial

theorem tells_fail (cause : Cause) : (fail cause : Reading α).Tells := List.cons_ne_nil _ _

theorem tells_ite {c : Prop} [Decidable c] {r s : Reading α} (hr : r.Tells) (hs : s.Tells) :
    (if c then r else s).Tells := by
  split
  · exact hr
  · exact hs

theorem Tells.map {r : Reading α} (h : r.Tells) (f : α → β) : (f <$> r).Tells := by
  cases r with
  | ok a => trivial
  | faulty faults => exact h

theorem Tells.seq {f : Reading (α → β)} {r : Reading α} (hf : f.Tells) (hr : r.Tells) :
    (f <*> r).Tells := by
  cases f with
  | ok g =>
    cases r with
    | ok a => trivial
    | faulty faults => exact hr
  | faulty first =>
    cases r with
    | ok a => exact hf
    | faulty faults => exact fun empty => hf (List.append_eq_nil_iff.mp empty).1

theorem Tells.under {r : Reading α} (h : r.Tells) (step : Step) : (r.under step).Tells := by
  cases r with
  | ok a => trivial
  | faulty faults => exact fun empty => h (List.map_eq_nil_iff.mp empty)

theorem Tells.andThen {r : Reading α} {next : α → Reading β} (h : r.Tells)
    (later : ∀ a, (next a).Tells) : (r.andThen next).Tells := by
  cases r with
  | ok a => exact later a
  | faulty faults => exact h

end Reading

namespace Reader

open Reading

theorem tells_string (v : Json) : (string v).Tells := by
  cases v <;> first | exact tells_ok _ | exact tells_fail _

theorem tells_plainInteger (cs : List Char) : (plainInteger cs).Tells := by
  unfold plainInteger
  dsimp only
  exact tells_ite (tells_fail _)
    (tells_ite (tells_fail _) (tells_ite (tells_fail _) (tells_ok _)))

theorem tells_wholeReal (x : Binary64) : (wholeReal x).Tells := by
  unfold wholeReal
  split
  · exact tells_fail _
  · exact tells_ite (tells_fail _) (tells_ite (tells_ok _) (tells_fail _))

theorem tells_integer (v : Json) : (integer v).Tells := by
  unfold integer
  split
  · exact tells_ok _
  · exact tells_wholeReal _
  · exact tells_ok _
  · exact tells_ite (tells_fail _) (tells_plainInteger _)
  · exact tells_fail _

theorem tells_natural (v : Json) : (natural v).Tells :=
  (tells_integer v).andThen fun _ => tells_ite (tells_fail _) (tells_ok _)

theorem tells_boolean (v : Json) : (boolean v).Tells := by
  unfold boolean
  split
  · exact tells_ok _
  · exact tells_ite (tells_ok _)
      (tells_ite (tells_ok _) (tells_ite (tells_fail _) (tells_fail _)))
  · exact tells_ite (tells_ok _) (tells_ite (tells_ok _) (tells_fail _))
  · exact tells_ite (tells_ok _) (tells_ite (tells_ok _) (tells_fail _))
  · exact tells_fail _

theorem tells_member (named : List (String × α)) (v : Json) : (member named v).Tells := by
  unfold member
  split
  · split
    · exact tells_ok _
    · exact tells_fail _
  · exact tells_fail _

variable {read : Reader α}

theorem tells_optional (each : ∀ v, (read v).Tells) (v : Json) : (optional read v).Tells := by
  unfold optional
  split
  · exact tells_ok _
  · exact (each _).map some

theorem tells_items (each : ∀ v, (read v).Tells) (i : Nat) (values : List Json) :
    (Reader.items read i values).Tells := by
  induction values generalizing i with
  | nil => exact tells_ok _
  | cons v rest ih => exact (((each v).under _).map _).seq (ih (i + 1))

theorem tells_tuple (each : ∀ v, (read v).Tells) (v : Json) : (tuple read v).Tells := by
  unfold tuple
  split
  · exact tells_items each 0 _
  · exact tells_fail _

theorem tells_mapping (each : ∀ v, (read v).Tells) (v : Json) : (mapping read v).Tells := by
  unfold mapping
  split
  · rename_i fields
    induction fields with
    | nil => exact tells_ok _
    | cons field rest ih => exact ((((each field.2).map _).under _).map _).seq ih
  · exact tells_fail _

theorem tells_record {name : String} {read : List (String × Json) → Reading α}
    (each : ∀ fields, (read fields).Tells) (v : Json) : (record name read v).Tells := by
  unfold record
  split
  · exact each _
  · exact tells_fail _

theorem tells_required (each : ∀ v, (read v).Tells) (fields : List (String × Json))
    (written long : String) : (required fields written long read).Tells := by
  unfold required
  split
  · exact (each _).under _
  · exact List.cons_ne_nil _ _

theorem tells_defaulted (each : ∀ v, (read v).Tells) (fields : List (String × Json))
    (written long : String) (absent : α) : (defaulted fields written long read absent).Tells := by
  unfold defaulted
  split
  · exact (each _).under _
  · exact tells_ok _

end Reader

end DesignToCode
