import DesignToCode.Proofs.Json.Extent
import Mathlib.Data.List.TakeWhile

set_option autoImplicit false

namespace DesignToCode.Json

open DesignToCode.Text

/-- A text that is read as a value in front of whatever does not go on with it. -/
structure IsText (text : List Char) (v : Coded) : Prop where
  given : text ≠ []
  quoted : Quoted text
  start : ∀ c ∈ text.head?, isSpace c = false ∧ c ≠ byteOrderMark
  again : ∀ fuel rest, 2 * text.length + 1 ≤ fuel → Ends rest →
    value fuel depthLimit (text ++ rest) = .ok (v, rest)

theorem value_byteOrderMark (fuel room : Nat) (rest : List Char) :
    value (fuel + 1) room (byteOrderMark :: rest) = halt .noValue (byteOrderMark :: rest) := rfl

theorem skipSpace_eq_nil_iff {cs : List Char} : skipSpace cs = [] ↔ ∀ c ∈ cs, isSpace c = true :=
  List.dropWhile_eq_nil_iff

/-- A text that is read as a value is that of the value with white space around it. -/
theorem exists_text_of_parse {cs : List Char} {v : Coded} (read : parse cs = .ok v) :
    ∃ lead text tail, cs = lead ++ (text ++ tail) ∧ (∀ c ∈ lead, isSpace c = true) ∧
      (∀ c ∈ tail, isSpace c = true) ∧ IsText text v := by
  unfold parse at read
  split at read
  · cases read
  unfold document at read
  dsimp only at read
  have settles := (settled (2 * (skipSpace cs).length + 1)).1 depthLimit (skipSpace cs)
  cases inner : value (2 * (skipSpace cs).length + 1) depthLimit (skipSpace cs) with
  | error stop =>
    rw [inner] at read
    cases read
  | ok result =>
    obtain ⟨w, tail⟩ := result
    rw [inner] at read settles
    dsimp only at read
    split at read
    · rename_i space
      cases read
      cases settles with
      | @ok _ text _ given quoted same again =>
        refine ⟨cs.takeWhile isSpace, text, tail, ?_, List.all_eq_true.mp List.all_takeWhile,
          skipSpace_eq_nil_iff.mp space, given, quoted, ?_, again⟩
        · rw [← same, takeWhile_append_skipSpace]
        · intro c first
          have start : c ∈ (skipSpace cs).head? := by
            obtain ⟨d, more, rfl⟩ := List.exists_cons_of_ne_nil given
            rw [same]
            exact first
          refine ⟨isSpace_of_mem_head_skipSpace c start, ?_⟩
          rintro rfl
          obtain ⟨more, begins⟩ := List.head?_eq_some_iff.mp start
          rw [begins, value_byteOrderMark] at inner
          cases inner
    · cases read

theorem head?_ne_byteOrderMark {lead text : List Char} (all : ∀ c ∈ lead, isSpace c = true)
    (start : text.head? ≠ some byteOrderMark) : (lead ++ text).head? ≠ some byteOrderMark := by
  cases lead with
  | nil => exact start
  | cons c rest =>
    rintro ⟨⟩
    exact absurd (all byteOrderMark List.mem_cons_self) (by decide)

/-- The text of a value is read as the value if nothing but white space stands around it. -/
theorem IsText.parse_append {text : List Char} {v : Coded} (h : IsText text v)
    {lead rest : List Char}
    (all : ∀ c ∈ lead, isSpace c = true) (ends : Ends rest) :
    parse (lead ++ (text ++ rest)) =
      if skipSpace rest = [] then .ok v
      else .error (.malformed .extraData
        ((lead ++ (text ++ rest)).length - (skipSpace rest).length)) := by
  obtain ⟨c, more, begins⟩ := List.exists_cons_of_ne_nil h.given
  have first : ∀ d ∈ (text ++ rest).head?, isSpace d = false ∧ d ≠ byteOrderMark := by
    have start := h.start
    rw [begins] at start ⊢
    exact start
  have noMark : (text ++ rest).head? ≠ some byteOrderMark := fun mark => (first _ mark).2 rfl
  rw [parse, if_neg (head?_ne_byteOrderMark all noMark), document,
    skipSpace_append all fun d begin => (first d begin).1]
  rw [h.again _ rest (by rw [List.length_append]; omega) ends]
  dsimp only
  split
  · rename_i none
    rw [if_pos none]
    rfl
  · rename_i other
    rw [if_neg other]
    rfl

/-- A limit is met by the reader of the value, which settles on it. -/
theorem exists_stop_of_parse {cs : List Char} {refusal : Refusal} (read : parse cs = .error refusal)
    (limit : ∀ defect place, refusal ≠ .malformed defect place) :
    cs.head? ≠ some byteOrderMark ∧ ∃ stop, stop.located cs.length = refusal ∧
      Settled (fun fuel => value fuel depthLimit) 1 (skipSpace cs) (.error stop) := by
  unfold parse at read
  split at read
  · cases read
    exact absurd rfl (limit _ _)
  rename_i noMark
  refine ⟨noMark, ?_⟩
  unfold document at read
  dsimp only at read
  have settles := (settled (2 * (skipSpace cs).length + 1)).1 depthLimit (skipSpace cs)
  cases found : value (2 * (skipSpace cs).length + 1) depthLimit (skipSpace cs) with
  | error stop =>
    rw [found] at read settles
    cases read
    exact ⟨stop, rfl, settles⟩
  | ok result =>
    rw [found] at read
    dsimp only at read
    split at read
    · cases read
    · cases read
      exact absurd rfl (limit _ _)

/-- The place at which too many containers are open is in the text, whatever stands behind it. -/
theorem exists_of_parse_tooDeep {cs : List Char} {inner : Container}
    (read : parse cs = .error (.tooDeep inner)) :
    ∃ front back, cs = front ++ back ∧ Quoted front ∧ front ≠ [] ∧
      ∀ other, parse (front ++ other) = .error (.tooDeep inner) := by
  obtain ⟨noMark, stop, located, settles⟩ := exists_stop_of_parse read nofun
  cases stop with
  | «at» => cases located
  | tooManyDigits => cases located
  | tooDeep container =>
    cases located
    cases settles with
    | @tooDeep _ text back given quoted same again =>
      have all := List.all_eq_true.mp (List.all_takeWhile (p := isSpace) (l := cs))
      have shape : cs = cs.takeWhile isSpace ++ text ++ back := by
        rw [List.append_assoc, ← same, takeWhile_append_skipSpace]
      have front : cs.takeWhile isSpace ++ text ≠ [] := List.append_ne_nil_of_right_ne_nil _ given
      refine ⟨_, back, shape, (quoted_of_space all).append quoted, front, ?_⟩
      intro other
      obtain ⟨c, more, begins⟩ := List.exists_cons_of_ne_nil front
      have start : ∀ c ∈ (text ++ other).head?, isSpace c = false := by
        obtain ⟨c, more, rfl⟩ := List.exists_cons_of_ne_nil given
        have := @isSpace_of_mem_head_skipSpace cs
        rwa [same] at this
      have noMark : (cs.takeWhile isSpace ++ text ++ other).head? ≠ some byteOrderMark := by
        rw [begins]
        rw [shape, begins] at noMark
        exact noMark
      rw [parse, if_neg noMark, document, List.append_assoc, skipSpace_append all start]
      rw [again _ other (by rw [List.length_append]; omega)]
      rfl

/-- A whole number of too many digits stands in the text. -/
theorem exists_of_parse_tooManyDigits {cs : List Char} {n : Nat}
    (read : parse cs = .error (.tooManyDigits n)) :
    ∃ run, run <:+: cs ∧ (∀ c ∈ run, isAsciiDigit c = true) ∧ Numeral.digitLimit < run.length := by
  obtain ⟨-, stop, located, settles⟩ := exists_stop_of_parse read nofun
  cases stop with
  | «at» => cases located
  | tooDeep => cases located
  | tooManyDigits digits =>
    cases settles with
    | @tooManyDigits run inside digits long =>
      exact ⟨run, inside.trans (skipSpace_suffix cs).isInfix, digits, long⟩

/-- A row of too many digits, of which the first is no zero, is refused for their number. -/
theorem parse_of_digits {c : Char} {more : List Char} (noZero : c ≠ '0')
    (digits : ∀ d ∈ c :: more, isAsciiDigit d = true)
    (long : Numeral.digitLimit < (c :: more).length) :
    parse (c :: more) = .error (.tooManyDigits (c :: more).length) := by
  have digit := digits c List.mem_cons_self
  have out (d : Char) (other : isAsciiDigit d = false) : c ≠ d := by
    rintro rfl
    rw [digit] at other
    cases other
  have solid : skipSpace (c :: more) = c :: more := by
    refine List.dropWhile_cons_of_neg ?_
    simp [isSpace, out ' ' (by decide), out '\t' (by decide), out '\n' (by decide),
      out '\r' (by decide)]
  have whole : wholePart? (c :: more) = some (c :: more, []) := by
    obtain ⟨taken, left⟩ :=
      @takeWhile_run isAsciiDigit more [] (List.forall_mem_cons.mp digits).2 (by simp)
    rw [List.append_nil] at taken left
    rw [wholePart?]
    · rw [if_pos digit, taken, left]
    · exact noZero
  have read : number (c :: more) = .error (.tooManyDigits (c :: more).length) := by
    have unsigned : unsigned (c :: more) = c :: more := if_neg (by simp [out '-' (by decide)])
    rw [number_eq, unsigned, whole]
    change (numberOf _ (c :: more) none none).map _ = _
    rw [numberOf, if_pos long]
    rfl
  have noMark : (c :: more).head? ≠ some byteOrderMark := by
    simp [out byteOrderMark (by decide)]
  rw [parse, if_neg noMark, document, solid, value_number ⟨c, more, .inl rfl, digit⟩, read]
  rfl

end DesignToCode.Json
