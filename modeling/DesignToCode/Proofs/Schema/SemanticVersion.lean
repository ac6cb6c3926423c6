import DesignToCode.Proofs.Number.Numeral
import DesignToCode.Proofs.Schema.Findings
import DesignToCode.Proofs.Text.Words

set_option autoImplicit false

namespace DesignToCode

open Text Validation Report

namespace Version

def isWordChar (c : Char) : Bool := isAsciiAlphanumeric c || c = '-'

/-- Letters, digits and minus signs, one at least. -/
def IsWord (word : String) : Prop := word ≠ "" ∧ word.toList.all isWordChar = true
  deriving Decidable

/-- A number has no zeros in front. -/
def IsPlain (word : String) : Prop :=
  word.toList.all isAsciiDigit = true → word.toList.head? = some '0' → word = "0"
  deriving Decidable

/-- A semantic version; no words are no label. -/
structure Semantic where
  numbers : Version
  prerelease : List String
  build : List String
  prerelease_words : ∀ word ∈ prerelease, IsWord word ∧ IsPlain word
  build_words : ∀ word ∈ build, IsWord word

/-- Words divided by points, behind a mark. -/
def labelText (mark : String) (words : List String) : String :=
  if words = [] then "" else mark ++ ".".intercalate words

def Semantic.text (v : Semantic) : String :=
  s!"{v.numbers.major}.{v.numbers.minor}.{v.numbers.patch}" ++ labelText "-" v.prerelease ++
    labelText "+" v.build

/-- What stands behind the numbers. -/
def Semantic.labels (v : Semantic) : List Char :=
  (labelText "-" v.prerelease).toList ++ (labelText "+" v.build).toList

/-- No number has more digits than a numeral may have. -/
structure Semantic.Fits (v : Semantic) : Prop where
  major : v.numbers.major.repr.length ≤ Numeral.digitLimit
  minor : v.numbers.minor.repr.length ≤ Numeral.digitLimit
  patch : v.numbers.patch.repr.length ≤ Numeral.digitLimit

theorem isLabelChar_of_isWordChar {c : Char} (h : isWordChar c = true) : isLabelChar c = true := by
  unfold isWordChar at h
  unfold isLabelChar
  grind

theorem isBlank_of_isLabelChar {c : Char} (h : isLabelChar c = true) : isBlank c = false := by
  have small : c.toNat < 128 := by
    simp only [isLabelChar, Bool.or_eq_true, decide_eq_true_eq, or_assoc] at h
    rcases h with letter | rfl | rfl
    · exact toNat_lt_of_isAsciiAlphanumeric letter
    · decide
    · decide
  exact of_ascii_table (P := fun c => isLabelChar c = true → isBlank c = false) (by decide) small h

theorem intercalate_words {words : List String} (given : words ≠ [])
    (all : ∀ word ∈ words, IsWord word) :
    (".".intercalate words).toList ≠ [] ∧
      ∀ c ∈ (".".intercalate words).toList, isLabelChar c = true := by
  induction words with
  | nil => exact absurd rfl given
  | cons word rest ih =>
    obtain ⟨filled, chars⟩ := all word List.mem_cons_self
    have first : ∀ c ∈ word.toList, isLabelChar c = true :=
      fun c member => isLabelChar_of_isWordChar (List.all_eq_true.mp chars c member)
    cases rest with
    | nil =>
      rw [String.intercalate_singleton]
      exact ⟨by simpa using filled, first⟩
    | cons next more =>
      have later := (ih (List.cons_ne_nil next more)
        fun w member => all w (List.mem_cons_of_mem word member)).2
      rw [String.intercalate_cons_cons, String.toList_append, String.toList_append]
      refine ⟨by simp, ?_⟩
      intro c member
      rw [List.mem_append, List.mem_append] at member
      rcases member with (here | point) | behind
      · exact first c here
      · rw [List.mem_singleton.mp point]
        decide
      · exact later c behind

/-- No label, or a mark and characters of a label. -/
def IsLabel (mark : String) (words : List String) : Prop :=
  words = [] ∧ (labelText mark words).toList = [] ∨
  words ≠ [] ∧ ∃ label, (labelText mark words).toList = mark.toList ++ label ∧ label ≠ [] ∧
    ∀ c ∈ label, isLabelChar c = true

theorem isLabel_of_words (mark : String) {words : List String}
    (all : ∀ word ∈ words, IsWord word) : IsLabel mark words := by
  unfold IsLabel labelText
  split
  · rename_i none
    exact .inl ⟨none, rfl⟩
  · rename_i given
    exact .inr ⟨given, _, String.toList_append, intercalate_words given all⟩

theorem Semantic.isLabel_prerelease (v : Semantic) : IsLabel "-" v.prerelease :=
  isLabel_of_words "-" fun word member => (v.prerelease_words word member).1

theorem Semantic.isLabel_build (v : Semantic) : IsLabel "+" v.build :=
  isLabel_of_words "+" v.build_words

theorem isSuffix_cons_iff {mark : Char} {label : List Char} (known : mark = '-' ∨ mark = '+') :
    isSuffix (mark :: label) = true ↔ label ≠ [] ∧ ∀ c ∈ label, isLabelChar c = true := by
  simp [isSuffix, known]

/-- Behind the numbers, one label is looked for. -/
theorem isSuffix_labels_iff (v : Semantic) :
    isSuffix v.labels = true ↔ v.prerelease = [] ∨ v.build = [] := by
  unfold Semantic.labels
  rcases v.isLabel_prerelease with ⟨none, empty⟩ | ⟨given, early, front, filled, chars⟩
  · rw [empty, List.nil_append]
    refine iff_of_true ?_ (.inl none)
    rcases v.isLabel_build with ⟨-, empty⟩ | ⟨-, label, back, filled, chars⟩
    · rw [empty]
      rfl
    · rw [back]
      exact (isSuffix_cons_iff (.inr rfl)).mpr ⟨filled, chars⟩
  · rw [front]
    rcases v.isLabel_build with ⟨none, empty⟩ | ⟨built, label, back, -⟩
    · rw [empty, List.append_nil]
      exact iff_of_true ((isSuffix_cons_iff (.inl rfl)).mpr ⟨filled, chars⟩) (.inr none)
    · rw [back]
      refine iff_of_false ?_ (not_or.mpr ⟨given, built⟩)
      intro suffix
      have plus := ((isSuffix_cons_iff (.inl rfl)).mp suffix).2 '+' (by simp)
      exact absurd plus (by decide)

theorem isBlank_labels (v : Semantic) : ∀ c ∈ v.labels, isBlank c = false := by
  have minus : ∀ c ∈ "-".toList, isBlank c = false := forall_mem_of_all (by decide)
  have plus : ∀ c ∈ "+".toList, isBlank c = false := forall_mem_of_all (by decide)
  unfold Semantic.labels
  rw [List.forall_mem_append]
  constructor
  · rcases v.isLabel_prerelease with ⟨-, empty⟩ | ⟨-, label, front, -, chars⟩
    · simp [empty]
    · rw [front, List.forall_mem_append]
      exact ⟨minus, fun c member => isBlank_of_isLabelChar (chars c member)⟩
  · rcases v.isLabel_build with ⟨-, empty⟩ | ⟨-, label, back, -, chars⟩
    · simp [empty]
    · rw [back, List.forall_mem_append]
      exact ⟨plus, fun c member => isBlank_of_isLabelChar (chars c member)⟩

theorem isDecimalDigit_head?_labels (v : Semantic) :
    ∀ c ∈ v.labels.head?, isDecimalDigit c = false := by
  have minus : isDecimalDigit '-' = false := by decide
  have plus : isDecimalDigit '+' = false := by decide
  unfold Semantic.labels
  rcases v.isLabel_prerelease with ⟨-, empty⟩ | ⟨-, label, front, -⟩
  · rw [empty, List.nil_append]
    rcases v.isLabel_build with ⟨-, empty⟩ | ⟨-, label, back, -⟩
    · simp [empty]
    · simp [back, plus]
  · simp [front, minus]

theorem row?_repr (n : Nat) {rest : List Char} (ends : ∀ c ∈ rest.head?, isDecimalDigit c = false) :
    row? (n.repr.toList ++ rest) = some (n.repr.toList, rest) := by
  have digits : ∀ c ∈ n.repr.toList, isDecimalDigit c = true :=
    fun c member => Numeral.isDecimalDigit_of_mem_repr member
  obtain ⟨taken, left⟩ := takeWhile_run digits ends
  have given : n.repr.toList.isEmpty = false := List.isEmpty_eq_false_iff.mpr (repr_nat_digits n).1
  rw [row?, taken, left, given]
  rfl

theorem rowValue_repr {n : Nat} (fits : n.repr.length ≤ Numeral.digitLimit) :
    rowValue n.repr.toList = .ok n := by
  have values : n.repr.toList.filterMap digitValue? = n.repr.toList.map Numeral.digit := by
    rw [← List.filterMap_eq_map]
    exact List.filterMap_congr fun c member =>
      Numeral.digitValue?_eq (Numeral.isDecimalDigit_of_mem_repr member)
  have short : ¬ n.repr.toList.length > Numeral.digitLimit := by
    rw [String.length_toList]
    omega
  rw [rowValue, if_neg short, values, Numeral.ofDigits_repr]

theorem toList_text (v : Semantic) :
    v.text.toList = v.numbers.major.repr.toList ++ '.' :: (v.numbers.minor.repr.toList ++
      '.' :: (v.numbers.patch.repr.toList ++ v.labels)) := by
  have point : (toString ".").toList = ['.'] := rfl
  simp only [Semantic.text, Semantic.labels, String.toList_append, point, List.append_assoc]
  rfl

theorem isBlank_text (v : Semantic) : ∀ c ∈ v.text.toList, isBlank c = false := by
  have number {n : Nat} {c : Char} (member : c ∈ n.repr.toList) : isBlank c = false :=
    isBlank_of_digit (isDigit_of_isDecimalDigit (Numeral.isDecimalDigit_of_mem_repr member))
  have point : isBlank '.' = false := by decide
  intro c member
  rw [toList_text, List.mem_append, List.mem_cons, List.mem_append, List.mem_cons,
    List.mem_append] at member
  rcases member with major | rfl | minor | rfl | patch | label
  · exact number major
  · exact point
  · exact number minor
  · exact point
  · exact number patch
  · exact isBlank_labels v c label

theorem rows?_text (v : Semantic) :
    rows? (trimmed v.text.toList) =
      if v.prerelease = [] ∨ v.build = [] then
        some ⟨v.numbers.major.repr.toList, v.numbers.minor.repr.toList,
          some v.numbers.patch.repr.toList⟩
      else none := by
  have pointed (cs : List Char) : ∀ c ∈ ('.' :: cs).head?, isDecimalDigit c = false := by
    rintro c ⟨⟩
    decide
  rw [trimmed_of_all (isBlank_text v), toList_text, rows?, row?_repr _ (pointed _)]
  simp only [Option.bind_eq_bind, Option.bind_some, pointRow?, row?_repr _ (pointed _),
    row?_repr _ (isDecimalDigit_head?_labels v), isSuffix_labels_iff]

theorem parse_text (v : Semantic) (fits : v.Fits) :
    parse v.text = .ok (if v.prerelease = [] ∨ v.build = [] then some v.numbers else none) := by
  unfold parse
  rw [rows?_text]
  by_cases one : v.prerelease = [] ∨ v.build = []
  · rw [if_pos one, if_pos one]
    simp only [Rows.value, Option.getD_some, rowValue_repr fits.major, rowValue_repr fits.minor,
      rowValue_repr fits.patch]
    rfl
  · rw [if_neg one, if_neg one]

/-- What is found at a semantic version. -/
theorem errors_versionOf_text (v : Semantic) (fits : v.Fits) {about : Fields} {version : Report}
    (given : about.lookup "schemaVersion" = some (.str v.text))
    (found : versionOf about = .ok version) :
    version.errors = [] ↔ v.numbers.major = 1 ∧ (v.prerelease = [] ∨ v.build = []) := by
  rw [versionOf, given] at found
  obtain ⟨numbers?, parsed, rfl⟩ := Except.map_eq_ok_iff.mp found
  cases parsed.symm.trans (parse_text v fits)
  by_cases one : v.prerelease = [] ∨ v.build = []
  · simp only [if_pos one, and_iff_left one]
    by_cases supported : v.numbers.major = 1 <;> simp [supportedMajor, supported]
  · rw [if_neg one]
    exact iff_of_false (List.cons_ne_nil _ _) fun both => one both.2

/-- A semantic version is read as its numbers unless it has both labels, and then only its major
number is found fault with. -/
theorem Semantic.read_unless_labelled_twice (v : Semantic) (fits : v.Fits) :
    parse v.text = .ok (if v.prerelease = [] ∨ v.build = [] then some v.numbers else none) ∧
    ∀ fields about, fields.lookup "meta" = some (.obj about) →
      about.lookup "schemaVersion" = some (.str v.text) →
      ∃ report, info fields = .ok report ∧
        (report.errorsUnder versionRules = [] ↔
          v.numbers.major = 1 ∧ (v.prerelease = [] ∨ v.build = [])) := by
  refine ⟨parse_text v fits, ?_⟩
  intro fields about held given
  obtain ⟨version, found⟩ : ∃ version, versionOf about = .ok version := by
    rw [versionOf, given]
    exact Except.exists_map_eq_ok_iff.mpr ⟨_, parse_text v fits⟩
  obtain ⟨report, described⟩ : ∃ report, info fields = .ok report := by
    rw [info, held]
    exact Except.exists_map_eq_ok_iff.mpr ⟨version, found⟩
  refine ⟨report, described, ?_⟩
  rw [errorsUnder_versionRules held found described]
  exact errors_versionOf_text v fits given found

/-- A version before its release. -/
def releaseCandidate : Semantic where
  numbers := ⟨1, 4, 0⟩
  prerelease := ["rc", "1"]
  build := []
  prerelease_words := by decide
  build_words := by decide

theorem releaseCandidate_read :
    releaseCandidate.Fits ∧ releaseCandidate.text = "1.4.0-rc.1" ∧
      parse "1.4.0-rc.1" = .ok (some ⟨1, 4, 0⟩) ∧
      ∃ report, info [("meta", .obj [("schemaVersion", .str "1.4.0-rc.1")])] = .ok report ∧
        report.errorsUnder versionRules = [] := by
  have fits : releaseCandidate.Fits := ⟨by decide, by decide, by decide⟩
  have text : releaseCandidate.text = "1.4.0-rc.1" := by decide
  obtain ⟨parsed, looked⟩ := releaseCandidate.read_unless_labelled_twice fits
  rw [text] at parsed looked
  obtain ⟨report, described, faultless⟩ := looked
    [("meta", .obj [("schemaVersion", .str "1.4.0-rc.1")])] _ rfl rfl
  exact ⟨fits, text, parsed, report, described, faultless.mpr ⟨rfl, .inr rfl⟩⟩

/-- A build of a version before its release. -/
def alphaBuild : Semantic where
  numbers := ⟨1, 0, 0⟩
  prerelease := ["alpha"]
  build := ["001"]
  prerelease_words := by decide
  build_words := by decide

/-- Not every semantic version is read as its numbers. -/
theorem alphaBuild_unread :
    alphaBuild.Fits ∧ alphaBuild.text = "1.0.0-alpha+001" ∧
      parse alphaBuild.text ≠ .ok (some alphaBuild.numbers) := by
  refine ⟨⟨by decide, by decide, by decide⟩, by decide, ?_⟩
  have unread : parse alphaBuild.text = .ok none := by rfl
  rw [unread]
  nofun

end Version

end DesignToCode
