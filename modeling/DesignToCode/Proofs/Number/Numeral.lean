import DesignToCode.Number.Numeral
import DesignToCode.Proofs.Text.Decimal
import Mathlib.Algebra.Group.Nat.Defs
import Mathlib.Data.List.Basic
import Mathlib.Data.List.TakeWhile

set_option autoImplicit false

namespace DesignToCode

open DesignToCode.Text

namespace Text

/-- The code points of blanks. -/
def blankPoints : List Nat :=
  [0x20, 0x9, 0xa, 0xb, 0xc, 0xd, 0x1c, 0x1d, 0x1e, 0x1f, 0x85, 0xa0, 0x1680, 0x2000, 0x2001,
    0x2002, 0x2003, 0x2004, 0x2005, 0x2006, 0x2007, 0x2008, 0x2009, 0x200a, 0x2028, 0x2029, 0x202f,
    0x205f, 0x3000]

theorem mem_blankPoints {c : Char} (h : isBlank c = true) : c.toNat ∈ blankPoints := by
  simp only [isBlank, Bool.or_eq_true, Bool.and_eq_true, beq_iff_eq, decide_eq_true_eq] at h
  simp only [blankPoints, List.mem_cons, List.not_mem_nil, or_false]
  omega

/-- No digit of any script is blank. -/
theorem isBlank_of_digit {c : Char} (h : isDigit c = true) : isBlank c = false := by
  have apart : ∀ n ∈ blankPoints, isDigit (Char.ofNat n) = false := by decide
  cases blank : isBlank c with
  | false => rfl
  | true =>
    have other := apart _ (mem_blankPoints blank)
    rw [Char.ofNat_toNat, h] at other
    cases other

theorem isWhiteSpace_of_digit {c : Char} (h : isDigit c = true) : isWhiteSpace c = false := by
  simp [isWhiteSpace, isBlank_of_digit h]

theorem isDigit_of_isDecimalDigit {c : Char} (h : isDecimalDigit c = true) : isDigit c = true := by
  simp [isDigit, h]

/-- A text without white space stays as it is. -/
theorem unspaced_of_all {cs : List Char} (h : ∀ c ∈ cs, isWhiteSpace c = false) :
    unspaced cs = cs := by
  have kept {ds : List Char} (clean : ∀ c ∈ ds, isWhiteSpace c = false) :
      ds.dropWhile isWhiteSpace = ds := by
    cases ds with
    | nil => rfl
    | cons c rest => simp [clean c List.mem_cons_self]
  have turned : ∀ c ∈ cs.reverse, isWhiteSpace c = false := fun c member =>
    h c (List.mem_reverse.mp member)
  rw [unspaced, kept h, kept turned, List.reverse_reverse]

theorem asciiDigit_lt {c : Char} {d : Nat} (h : asciiDigit? c = some d) : d < 10 := by
  unfold asciiDigit? at h
  split at h
  · rename_i within
    obtain ⟨low, high⟩ := within
    cases h
    have low : '0'.toNat ≤ c.toNat := low
    have high : c.toNat ≤ '9'.toNat := high
    simp only [Char.reduceToNat] at *
    omega
  · cases h

end Text

namespace Numeral

/-- The value of a decimal digit. -/
def digit (c : Char) : Nat := (digitValue? c).getD 0

theorem digitValue?_eq {c : Char} (h : isDecimalDigit c = true) :
    digitValue? c = some (digit c) := by
  obtain ⟨d, value⟩ := Option.isSome_iff_exists.mp h
  rw [digit, value]
  rfl

theorem ne_mark_of_digit {c mark : Char} (h : isDigit c = true) (none : isDigit mark = false) :
    c ≠ mark := by
  rintro rfl
  rw [h] at none
  cases none

theorem digitsAfter_of_all {cs : List Char} (h : ∀ c ∈ cs, isDecimalDigit c = true) :
    digitsAfter digitValue? cs = some (cs.map digit) := by
  induction cs with
  | nil => rfl
  | cons c rest ih =>
    obtain ⟨first, later⟩ := List.forall_mem_cons.mp h
    have noMark : c ≠ '_' := ne_mark_of_digit (isDigit_of_isDecimalDigit first) (by decide)
    rw [digitsAfter, digitValue?_eq first, ih later]
    · rfl
    · rintro _ _ rfl
      exact absurd rfl noMark

theorem digits?_of_all {cs : List Char} (row : cs ≠ []) (h : ∀ c ∈ cs, isDecimalDigit c = true) :
    digits? digitValue? cs = some (cs.map digit) := by
  cases cs with
  | nil => exact absurd rfl row
  | cons c rest =>
    obtain ⟨first, later⟩ := List.forall_mem_cons.mp h
    rw [digits?, digitValue?_eq first, digitsAfter_of_all later]
    rfl

theorem while_congr {p q : Char → Bool} {cs : List Char} (h : ∀ c ∈ cs, p c = q c) :
    cs.takeWhile p = cs.takeWhile q ∧ cs.dropWhile p = cs.dropWhile q := by
  induction cs with
  | nil => exact ⟨rfl, rfl⟩
  | cons c rest ih =>
    obtain ⟨first, later⟩ := List.forall_mem_cons.mp h
    obtain ⟨taken, dropped⟩ := ih later
    simp only [List.takeWhile_cons, List.dropWhile_cons, first, taken, dropped, and_self]

/-- A row of digits is read up to the first that is no decimal digit. -/
theorem int_of_digits {cs : List Char} (digits : ∀ c ∈ cs, isDigit c = true) :
    int cs =
      match digits? digitValue? (cs.takeWhile isDecimalDigit) with
      | none => .error .malformed
      | some values =>
        if values.length > digitLimit then .error (.tooLong values.length)
        else if (cs.dropWhile isDecimalDigit).isEmpty then .ok (ofDigits values : Nat)
        else .error .malformed := by
  have bare : unspaced cs = cs := unspaced_of_all fun c member =>
    isWhiteSpace_of_digit (digits c member)
  have unsigned : sign cs = (false, cs) := by
    unfold sign
    split
    · exact absurd rfl (ne_mark_of_digit (digits '-' List.mem_cons_self) (by decide))
    · exact absurd rfl (ne_mark_of_digit (digits '+' List.mem_cons_self) (by decide))
    · rfl
  have part : ∀ c ∈ cs, (isDecimalDigit c || c = '_') = isDecimalDigit c := by
    intro c member
    have noMark : c ≠ '_' := ne_mark_of_digit (digits c member) (by decide)
    simp [noMark]
  obtain ⟨taken, dropped⟩ := while_congr part
  simp only [int, bare, unsigned, taken, dropped, signed]
  rfl

theorem int_of_decimal {cs : List Char} (row : cs ≠ [])
    (decimal : ∀ c ∈ cs, isDecimalDigit c = true) :
    int cs = if cs.length > digitLimit then .error (.tooLong cs.length)
      else .ok (ofDigits (cs.map digit) : Nat) := by
  have digits : ∀ c ∈ cs, isDigit c = true := fun c member =>
    isDigit_of_isDecimalDigit (decimal c member)
  rw [int_of_digits digits, List.takeWhile_eq_self_iff.mpr decimal,
    List.dropWhile_eq_nil_iff.mpr decimal, digits?_of_all row decimal]
  simp

/-- A row of digits of any kind, one at least. -/
def IsRow (cs : List Char) : Prop := cs ≠ [] ∧ ∀ c ∈ cs, isDigit c = true

/-- All are decimal digits, and there are not too many. -/
def Counts (cs : List Char) : Prop :=
  (∀ c ∈ cs, isDecimalDigit c = true) ∧ cs.length ≤ digitLimit

/-- A row of digits is a number unless one of them is no decimal digit or there are too many. -/
theorem exists_int_iff {cs : List Char} (row : IsRow cs) : (∃ n, int cs = .ok n) ↔ Counts cs := by
  obtain ⟨present, digits⟩ := row
  unfold Counts
  by_cases decimal : ∀ c ∈ cs, isDecimalDigit c = true
  · rw [int_of_decimal present decimal]
    by_cases long : cs.length > digitLimit
    · simp [long]
    · have short : cs.length ≤ digitLimit := Nat.not_lt.mp long
      rw [if_neg long]
      exact iff_of_true ⟨_, rfl⟩ ⟨decimal, short⟩
  · have cut : cs.dropWhile isDecimalDigit ≠ [] := fun whole =>
      decimal (List.dropWhile_eq_nil_iff.mp whole)
    have refused : ∀ n, int cs ≠ .ok n := by
      intro n
      rw [int_of_digits digits]
      split
      · nofun
      · split
        · nofun
        · simp [cut]
    simp [decimal, refused]

theorem digit_of_isDigit {c : Char} (h : c.isDigit = true) :
    isDecimalDigit c = true ∧ digit c = c.toNat - '0'.toNat := by
  have all : ∀ n < 58, 48 ≤ n →
      isDecimalDigit (Char.ofNat n) = true ∧ digit (Char.ofNat n) = n - 48 := by
    decide
  simp only [Char.isDigit, Bool.and_eq_true, decide_eq_true_eq, ge_iff_le] at h
  have within : 48 ≤ c.toNat ∧ c.toNat ≤ 57 := h
  have known := all c.toNat (by omega) within.1
  rwa [Char.ofNat_toNat] at known

theorem ofDigits_of_isDigit {cs : List Char} (h : ∀ c ∈ cs, c.isDigit = true) :
    ofDigits (cs.map digit) = Nat.ofDigitChars 10 cs 0 := by
  rw [ofDigits, List.foldl_map, Nat.ofDigitChars_eq_foldl]
  refine List.foldl_ext _ _ _ fun before c member => ?_
  rw [(digit_of_isDigit (h c member)).2, Nat.mul_comm]

theorem isDecimalDigit_of_mem_repr {n : Nat} {c : Char} (h : c ∈ n.repr.toList) :
    isDecimalDigit c = true :=
  (digit_of_isDigit (isDigit_of_mem_repr h)).1

theorem ofDigits_repr (n : Nat) : ofDigits (n.repr.toList.map digit) = n := by
  rw [ofDigits_of_isDigit fun c member => isDigit_of_mem_repr member, Nat.toList_repr,
    Nat.ofDigitChars_ten_toDigits]

/-- A number is read from its usual text unless it has too many digits. -/
theorem int_repr {n : Nat} (short : n.repr.length ≤ digitLimit) : int n.repr.toList = .ok n := by
  rw [int_of_decimal (repr_nat_digits n).1 fun c member => isDecimalDigit_of_mem_repr member]
  have fits : ¬ n.repr.toList.length > digitLimit := by
    rw [String.length_toList]
    omega
  rw [if_neg fits, ofDigits_repr]

theorem isWritable_iff {i : Int} : isWritable i = true ↔ i.natAbs < 10 ^ digitLimit := by
  rw [isWritable, decide_eq_true_eq, Nat.length_toDigits_le_iff (by decide) (by decide)]

theorem ofDigits_lt {digits : List Nat} (small : ∀ d ∈ digits, d < 10) :
    ofDigits digits < 10 ^ digits.length := by
  have folded : ∀ (ds : List Nat) (n : Nat), (∀ d ∈ ds, d < 10) →
      ds.foldl (fun n d => n * 10 + d) n < (n + 1) * 10 ^ ds.length := by
    intro ds
    induction ds with
    | nil => intro n _; simp
    | cons d rest ih =>
      intro n small
      obtain ⟨first, later⟩ := List.forall_mem_cons.mp small
      have step : n * 10 + d + 1 ≤ (n + 1) * 10 := by omega
      calc rest.foldl (fun n d => n * 10 + d) (n * 10 + d)
          < (n * 10 + d + 1) * 10 ^ rest.length := ih _ later
        _ ≤ (n + 1) * 10 * 10 ^ rest.length := Nat.mul_le_mul_right _ step
        _ = (n + 1) * 10 ^ (rest.length + 1) := by rw [Nat.mul_assoc, Nat.pow_succ']
  simpa [ofDigits] using folded digits 0 small

/-- A numeral of no more digits than are read stands for a number that can be written. -/
theorem isWritable_signed {negative : Bool} {digits : List Nat} (small : ∀ d ∈ digits, d < 10)
    (fits : digits.length ≤ digitLimit) :
    isWritable (signed negative (ofDigits digits)) = true := by
  have size : (signed negative (ofDigits digits)).natAbs = ofDigits digits := by
    cases negative <;> simp [signed]
  rw [isWritable_iff, size]
  exact (ofDigits_lt small).trans_le (Nat.pow_le_pow_right (by decide) fits)

end Numeral

end DesignToCode
