import DesignToCode.Pipeline.Runs
import DesignToCode.Proofs.Schema.Verdict

set_option autoImplicit false

namespace DesignToCode

open Validation

namespace Version

def Rows.numbers (rows : Rows) : List (List Char) := [rows.major, rows.minor, rows.patch.getD []]

/-- The first number that has more digits than a numeral may have. -/
def Rows.overlong? (rows : Rows) : Option (List Char) :=
  rows.numbers.find? (Numeral.digitLimit < ·.length)

theorem rowValue_bind_eq_error_iff {α : Type} {digits : List Char} {rest : List (List Char)}
    {next : Nat → Except DigitOverflow α} {overflow : DigitOverflow}
    (later : ∀ n, next n = .error overflow ↔
      (rest.find? (Numeral.digitLimit < ·.length)).map (·.length) = some overflow.digits) :
    (rowValue digits >>= next) = .error overflow ↔
      ((digits :: rest).find? (Numeral.digitLimit < ·.length)).map (·.length) =
        some overflow.digits := by
  unfold rowValue
  by_cases long : Numeral.digitLimit < digits.length
  · rw [if_pos long, List.find?_cons_of_pos (by simpa using long)]
    cases overflow
    simp [bind, Except.bind]
  · rw [if_neg long, List.find?_cons_of_neg (by simpa using long)]
    exact later _

/-- The numbers are looked at in turn. -/
theorem Rows.value_eq_error_iff {rows : Rows} {overflow : DigitOverflow} :
    rows.value = .error overflow ↔ rows.overlong?.map (·.length) = some overflow.digits :=
  rowValue_bind_eq_error_iff fun _ => rowValue_bind_eq_error_iff fun _ =>
    rowValue_bind_eq_error_iff fun _ => iff_of_false nofun nofun

theorem parse_eq_error_iff {text : String} {overflow : DigitOverflow} :
    parse text = .error overflow ↔ ∃ rows, rows? (Text.trimmed text.toList) = some rows ∧
      rows.overlong?.map (·.length) = some overflow.digits := by
  unfold parse
  cases found : rows? (Text.trimmed text.toList) with
  | none => simp
  | some rows => simp [Except.map_eq_error_iff, Rows.value_eq_error_iff]

end Version

theorem Validation.versionOf_eq_error_iff {about : Fields} {overflow : DigitOverflow} :
    versionOf about = .error overflow ↔
      ∃ text, about.lookup "schemaVersion" = some (.str text) ∧
        Version.parse text = .error overflow := by
  unfold versionOf
  cases about.lookup "schemaVersion" with
  | none => simp
  | some v =>
    dsimp only
    rw [Except.map_eq_error_iff]
    cases v <;> simp [Version.ofJson]

theorem Validation.info_eq_error_iff {fields : Fields} {overflow : DigitOverflow} :
    info fields = .error overflow ↔
      ∃ about, fields.lookup "meta" = some (.obj about) ∧ versionOf about = .error overflow := by
  unfold info
  cases fields.lookup "meta" with
  | none => simp
  | some v => cases v <;> simp [Except.map_eq_error_iff]

/-- A document has a version that is a text. -/
def Json.GivesVersion (d : Json) (text : String) : Prop :=
  ∃ fields about, d = .obj fields ∧ fields.lookup "meta" = some (.obj about) ∧
    about.lookup "schemaVersion" = some (.str text)

theorem exists_info_iff {fields : Fields} :
    (∃ about, info fields = .ok about) ↔
      ∀ text, (Json.obj fields).GivesVersion text → Version.Fits text := by
  constructor
  · rintro ⟨report, described⟩ text ⟨_, about, same, held, given⟩
    cases same
    refine Version.exists_parse_iff.mp ?_
    cases parsed : Version.parse text with
    | ok v => exact ⟨v, rfl⟩
    | error overflow =>
      have looked := versionOf_eq_error_iff.mpr ⟨text, given, parsed⟩
      cases (info_eq_error_iff.mpr ⟨about, held, looked⟩).symm.trans described
  · intro fits
    cases described : info fields with
    | ok about => exact ⟨about, rfl⟩
    | error overflow =>
      obtain ⟨about, held, looked⟩ := info_eq_error_iff.mp described
      obtain ⟨text, given, stopped⟩ := versionOf_eq_error_iff.mp looked
      obtain ⟨v, parsed⟩ := Version.exists_parse_iff.mpr
        (fits text ⟨fields, about, rfl, held, given⟩)
      cases stopped.symm.trans parsed

/-- The documents that the messages about a document show. -/
def Json.told : Json → List Json
  | .obj fields => shownValues fields
  | _ => []

/-- A document is looked at to its end unless its version cannot be, or a message about it cannot be
written. -/
theorem exists_ok_validate_iff {d : Json} :
    (∃ report, validate d = .ok report) ↔
      (∀ text, d.GivesVersion text → Version.Fits text) ∧
        ∀ v ∈ d.told, v.unwritable? = none := by
  cases d with
  | obj fields => rw [exists_validate_obj_iff, exists_info_iff]; rfl
  | _ =>
    refine iff_of_true ⟨_, rfl⟩ ⟨?_, fun v none => absurd none List.not_mem_nil⟩
    rintro text ⟨_, _, ⟨⟩, -⟩

/-- The version is looked at before any message is written. -/
theorem validate_eq_overlong_iff {d : Json} {overflow : DigitOverflow} :
    validate d = .error (.overlongVersion overflow) ↔
      ∃ text, d.GivesVersion text ∧ Version.parse text = .error overflow := by
  cases d with
  | obj fields =>
    simp only [validate_obj_eq_error_iff, info_eq_error_iff, versionOf_eq_error_iff]
    constructor
    · rintro (⟨_, ⟨about, held, text, given, stopped⟩, ⟨⟩⟩ | ⟨_, _, -, -, ⟨⟩⟩)
      exact ⟨text, ⟨fields, about, rfl, held, given⟩, stopped⟩
    · rintro ⟨text, ⟨_, about, ⟨⟩, held, given⟩, stopped⟩
      exact .inl ⟨overflow, ⟨about, held, text, given, stopped⟩, rfl⟩
  | _ =>
    refine iff_of_false nofun ?_
    rintro ⟨_, ⟨_, _, ⟨⟩, -⟩, -⟩

theorem validate_eq_unwritable_iff {d : Json} {why : Json.Unwritable} :
    validate d = .error (.unwritable why) ↔
      (∀ text, d.GivesVersion text → Version.Fits text) ∧
        d.told.findSome? Json.unwritable? = some why := by
  cases d with
  | obj fields =>
    rw [validate_obj_eq_error_iff, ← exists_info_iff]
    constructor
    · rintro (⟨_, -, ⟨⟩⟩ | ⟨about, _, described, broken, ⟨⟩⟩)
      exact ⟨⟨about, described⟩, (shows_gathered described).symm.trans broken⟩
    · rintro ⟨⟨about, described⟩, first⟩
      exact .inr ⟨about, why, described, (shows_gathered described).trans first, rfl⟩
  | _ => exact iff_of_false nofun fun both => nomatch both.2

/-- Every document is reported on unless a number of its version is too long or a message about it
has to show what cannot be shown, and one that can be shown in whole for the first reason only. The
number that stops the gate is the first of its version that is too long, and the value that stops it
the first that cannot be shown. -/
theorem exists_report_iff (d : Json) :
    ((∃ report, runSchemaValidation d = .ok report) ↔
      (∀ text, d.GivesVersion text → Version.Fits text) ∧ ∀ v ∈ d.told, v.unwritable? = none) ∧
    (d.unwritable? = none → ∀ v ∈ d.told, v.unwritable? = none) ∧
    (∀ overflow, runSchemaValidation d = .error (.overlongVersion overflow) ↔
      ∃ text rows, d.GivesVersion text ∧
        Version.rows? (Text.trimmed text.toList) = some rows ∧
        rows.overlong?.map (·.length) = some overflow.digits) ∧
    ∀ why, runSchemaValidation d = .error (.unwritable why) ↔
      (∀ text, d.GivesVersion text → Version.Fits text) ∧
        d.told.findSome? Json.unwritable? = some why := by
  refine ⟨exists_ok_validate_iff, ?_, ?_, fun why => validate_eq_unwritable_iff⟩
  · intro writable
    cases d with
    | obj fields => exact writable_of_mem_shown writable
    | _ => exact fun v none => absurd none List.not_mem_nil
  · intro overflow
    refine validate_eq_overlong_iff.trans ?_
    simp only [Version.parse_eq_error_iff, exists_and_left]

/-- A version with as many zeros behind the point as wanted. -/
def longVersion (zeros : Nat) : String := String.ofList ('1' :: '.' :: List.replicate zeros '0')

theorem rows?_longVersion (more : Nat) :
    Version.rows? (Text.trimmed (longVersion (more + 1)).toList) =
      some ⟨['1'], List.replicate (more + 1) '0', none⟩ := by
  have digit : Text.isDecimalDigit '0' = true := by decide
  have visible : ∀ c ∈ '1' :: '.' :: List.replicate (more + 1) '0', Text.isBlank c = false := by
    intro c member
    have one_of : c = '1' ∨ c = '.' ∨ c = '0' := by simpa using member
    rcases one_of with rfl | rfl | rfl <;> decide
  have major : Version.row? ('1' :: '.' :: List.replicate (more + 1) '0') =
      some (['1'], '.' :: List.replicate (more + 1) '0') := by
    rfl
  have minor : Version.pointRow? ('.' :: List.replicate (more + 1) '0') =
      some (List.replicate (more + 1) '0', []) := by
    rw [Version.pointRow?, Version.row?, List.takeWhile_replicate, if_pos digit,
      List.dropWhile_replicate, if_pos digit]
    rfl
  rw [longVersion, String.toList_ofList, Text.trimmed_of_all visible, Version.rows?, major,
    Option.bind_eq_bind, Option.bind_some]
  dsimp only
  rw [minor]
  rfl

theorem not_fits_longVersion : ¬ Version.Fits (longVersion (Numeral.digitLimit + 1)) := by
  intro fits
  have minor := (fits _ (rows?_longVersion Numeral.digitLimit)).minor
  rw [List.length_replicate] at minor
  exact absurd minor (Nat.not_succ_le_self _)

/-- A page whose version has a number of more digits than a numeral may have. -/
def longPage : Schema where
  info := { schemaVersion := longVersion (Numeral.digitLimit + 1), frameworkTarget := ["css"] }

/-- Not every document is reported on. -/
theorem not_forall_reported : ¬ ∀ d : Json, ∃ report, runSchemaValidation d = .ok report := by
  intro always
  obtain ⟨fits, -⟩ := exists_ok_validate_iff.mp (always longPage.wire)
  exact not_fits_longVersion (fits _ ⟨_, _, rfl, rfl, rfl⟩)

end DesignToCode
