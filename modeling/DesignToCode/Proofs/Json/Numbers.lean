import DesignToCode.Proofs.Json.Settled

set_option autoImplicit false

namespace DesignToCode.Json

open DesignToCode.Text

/-- A text that is read if it is there. -/
def optionalPart (part? : List Char → Option (List Char × List Char)) (cs : List Char) :
    Option (List Char) × List Char :=
  match part? cs with
  | none => (none, cs)
  | some (text, rest) => (some text, rest)

/-- The number of a sign, the digits before the point, and a fraction and an exponent if there are
any. -/
def numberOf (negative : Bool) (whole : List Char) (fraction exponent : Option (List Char)) :
    Except Halt Number :=
  match fraction, exponent with
  | none, none =>
    if whole.length > Numeral.digitLimit then .error (.tooManyDigits whole.length)
    else .ok (.int (Numeral.signed negative (ofDigits (digitValues whole))))
  | _, _ =>
    let decimal : Numeral.Decimal := {
      whole := digitValues whole
      fraction := digitValues (fraction.getD [])
      exponent := (exponent.bind (Numeral.exponent? asciiDigit?)).getD 0 }
    .ok (.real (decimal.value negative))

/-- The text of a number without its sign. -/
def unsigned (cs : List Char) : List Char := if cs.head? = some '-' then cs.drop 1 else cs

theorem number_eq (cs : List Char) :
    number cs =
      match wholePart? (unsigned cs) with
      | none => halt .noValue cs
      | some (whole, rest) =>
        let fraction := optionalPart fractionPart? rest
        let exponent := optionalPart exponentPart? fraction.2
        (numberOf (cs.head? = some '-') whole fraction.1 exponent.1).map (·, exponent.2) := by
  unfold number unsigned
  simp only
  cases wholePart? (if cs.head? = some '-' then cs.drop 1 else cs) with
  | none => rfl
  | some parts =>
    obtain ⟨whole, rest⟩ := parts
    unfold optionalPart
    dsimp only
    cases fractionPart? rest with
    | some fraction =>
      simp only [Option.map_some, Option.getD_some]
      cases exponentPart? fraction.2 <;> rfl
    | none =>
      simp only [Option.map_none, Option.getD_none]
      cases exponentPart? rest with
      | some exponent => rfl
      | none =>
        simp only [Option.map_none, Option.getD_none, numberOf]
        split <;> rfl

theorem wholePart?_eq_some {cs whole rest : List Char} (h : wholePart? cs = some (whole, rest)) :
    whole ≠ [] ∧ (∀ c ∈ whole, isAsciiDigit c = true) ∧ cs = whole ++ rest ∧
      ∀ text, (∀ c ∈ text.head?, isAsciiDigit c = false) →
        wholePart? (whole ++ text) = some (whole, text) := by
  unfold wholePart? at h
  split at h
  · cases h
    exact ⟨by simp, forall_mem_of_all (by decide), rfl, fun _ _ => rfl⟩
  · rename_i c rest noZero
    split at h
    · rename_i digit
      cases h
      have all := List.all_eq_true.mp (List.all_takeWhile (p := isAsciiDigit) (l := rest))
      refine ⟨by simp, List.forall_mem_cons.mpr ⟨digit, all⟩, ?_, ?_⟩
      · rw [List.cons_append, List.takeWhile_append_dropWhile]
      · intro text ends
        obtain ⟨taken, left⟩ := takeWhile_run all ends
        rw [List.cons_append, wholePart?]
        · rw [if_pos digit, taken, left]
        · exact noZero
    · cases h
  · cases h

theorem notMem_of_digits {run : List Char} (digits : ∀ c ∈ run, isAsciiDigit c = true) {c : Char}
    (other : isAsciiDigit c = false) : c ∉ run := by
  intro member
  rw [digits c member] at other
  cases other

/-- What an optional part of a number takes of a text, and takes again in front of whatever `ends`
it. -/
structure IsTaken (part? : List Char → Option (List Char × List Char)) (ends : List Char → Prop)
    (start : Char → Prop) (cs text : List Char) : Prop where
  split : cs = text ++ (optionalPart part? cs).2
  plain : '\x60' ∉ text
  first : ∀ c ∈ text.head?, start c
  again : ∀ rest, ends rest → optionalPart part? (text ++ rest) = ((optionalPart part? cs).1, rest)

theorem IsTaken.of_none {part? : List Char → Option (List Char × List Char)}
    {ends : List Char → Prop}
    {start : Char → Prop} {cs : List Char} (none : part? cs = none)
    (others : ∀ rest, ends rest → part? rest = Option.none) : IsTaken part? ends start cs [] where
  split := by simp [optionalPart, none]
  plain := List.not_mem_nil
  first := nofun
  again rest stops := by simp [optionalPart, none, others rest stops]

theorem fractionPart?_of_ends {rest : List Char}
    (ends : ∀ c ∈ rest.head?, isAsciiDigit c = false ∧ c ≠ '.') : fractionPart? rest = none := by
  cases rest with
  | nil => rfl
  | cons c rest =>
    have other : c ≠ '.' := (ends c rfl).2
    simp [fractionPart?, other]

theorem exists_fraction (cs : List Char) :
    ∃ text, IsTaken fractionPart? (fun rest => ∀ c ∈ rest.head?, isAsciiDigit c = false ∧ c ≠ '.')
      (fun c => isAsciiDigit c = false) cs text := by
  cases found : fractionPart? cs with
  | none => exact ⟨[], .of_none found fun _ => fractionPart?_of_ends⟩
  | some part =>
    unfold fractionPart? at found
    split at found
    · rename_i rest
      cases none : (rest.takeWhile isAsciiDigit).isEmpty with
      | true => simp [none] at found
      | false =>
        have all := List.all_eq_true.mp (List.all_takeWhile (p := isAsciiDigit) (l := rest))
        refine ⟨'.' :: rest.takeWhile isAsciiDigit, ?_, ?_, by simp; decide, ?_⟩
        · simp [optionalPart, fractionPart?, none]
        · simpa using notMem_of_digits all (by decide)
        · intro text ends
          obtain ⟨taken, left⟩ := takeWhile_run all fun c first => (ends c first).1
          simp [optionalPart, fractionPart?, none, taken, left]
    · cases found

/-- The sign that an exponent may start with. -/
def signOf (cs : List Char) : List Char := (cs.take 1).filter fun c => c = '+' || c = '-'

theorem signOf_append {cs text : List Char} (digit : ∀ c ∈ text.head?, isAsciiDigit c = true)
    (given : text ≠ []) : signOf (signOf cs ++ text) = signOf cs := by
  have alone : signOf text = [] := by
    cases text with
    | nil => exact absurd rfl given
    | cons c rest =>
      have noSign : ¬(c = '+' ∨ c = '-') := by
        rintro (rfl | rfl) <;> exact absurd (digit _ rfl) (by decide)
      simpa [signOf] using noSign
  cases cs with
  | nil => exact alone
  | cons c rest =>
    by_cases sign : c = '+' ∨ c = '-'
    · simp [signOf, sign]
    · have none : signOf (c :: rest) = [] := by simpa [signOf] using sign
      rw [none]
      exact alone

theorem signOf_append_drop (cs : List Char) : signOf cs ++ cs.drop (signOf cs).length = cs := by
  cases cs with
  | nil => rfl
  | cons c rest =>
    by_cases sign : c = '+' ∨ c = '-'
    · simp [signOf, sign]
    · have none : signOf (c :: rest) = [] := by simpa [signOf] using sign
      rw [none]
      rfl

theorem notMem_signOf {c : Char} (other : c ≠ '+' ∧ c ≠ '-') (cs : List Char) : c ∉ signOf cs := by
  simp [signOf, other]

theorem exponentPart?_cons {c : Char} (mark : c = 'e' ∨ c = 'E') (rest : List Char) :
    exponentPart? (c :: rest) =
      let body := rest.drop (signOf rest).length
      if (body.takeWhile isAsciiDigit).isEmpty then none
      else some (c :: signOf rest ++ body.takeWhile isAsciiDigit, body.dropWhile isAsciiDigit) := by
  rw [exponentPart?, if_pos mark]
  rfl

theorem exponentPart?_of_ne {c : Char} (noMark : ¬(c = 'e' ∨ c = 'E')) (rest : List Char) :
    exponentPart? (c :: rest) = none := if_neg noMark

theorem exponentPart?_of_ends {rest : List Char} (ends : Ends rest) :
    exponentPart? rest = none := by
  cases rest with
  | nil => rfl
  | cons c rest =>
    have other := (ends c rfl).2
    exact exponentPart?_of_ne (by simp_all) rest

theorem exists_exponent (cs : List Char) :
    ∃ text, IsTaken exponentPart? Ends (fun c => isAsciiDigit c = false ∧ c ≠ '.') cs text := by
  cases found : exponentPart? cs with
  | none => exact ⟨[], .of_none found fun _ => exponentPart?_of_ends⟩
  | some part =>
    cases cs with
    | nil => cases found
    | cons c rest =>
      have mark : c = 'e' ∨ c = 'E' := by
        refine Decidable.byContradiction ?_
        intro noMark
        rw [exponentPart?_of_ne noMark] at found
        cases found
      have step (tail : List Char) := exponentPart?_cons mark tail
      generalize body : rest.drop (signOf rest).length = behind
      have whole : rest = signOf rest ++ behind := by rw [← body, signOf_append_drop]
      cases none : (behind.takeWhile isAsciiDigit).isEmpty with
      | true => simp [step, body, none] at found
      | false =>
        have all := List.all_eq_true.mp (List.all_takeWhile (p := isAsciiDigit) (l := behind))
        have given : behind.takeWhile isAsciiDigit ≠ [] := by simpa using none
        have noDigit : isAsciiDigit c = false ∧ c ≠ '.' ∧ '\x60' ≠ c := by
          rcases mark with rfl | rfl <;> decide
        refine ⟨c :: signOf rest ++ behind.takeWhile isAsciiDigit, ?_, ?_, ?_, ?_⟩
        · simp only [optionalPart, step, body, none, if_neg Bool.false_ne_true]
          rw [List.append_assoc, List.takeWhile_append_dropWhile, List.cons_append, ← whole]
        · rw [List.cons_append, List.mem_cons, List.mem_append, not_or, not_or]
          exact ⟨noDigit.2.2, notMem_signOf (by decide) rest, notMem_of_digits all (by decide)⟩
        · rintro _ ⟨⟩
          exact ⟨noDigit.1, noDigit.2.1⟩
        · intro text ends
          obtain ⟨taken, left⟩ := takeWhile_run all fun c first => (ends c first).1
          have sign : signOf (signOf rest ++ (behind.takeWhile isAsciiDigit ++ text)) =
              signOf rest := by
            refine signOf_append ?_ (List.append_ne_nil_of_left_ne_nil given text)
            intro d first
            obtain ⟨e, more, shape⟩ := List.exists_cons_of_ne_nil given
            rw [shape] at all first
            cases first
            exact all _ List.mem_cons_self
          rw [List.append_assoc, List.cons_append]
          simp only [optionalPart, step, sign, List.drop_left, body, taken, left, none,
            if_neg Bool.false_ne_true]

theorem exists_sign (cs : List Char) :
    ∃ front, cs = front ++ unsigned cs ∧ '\x60' ∉ front ∧ ∀ text, text.head? ≠ some '-' →
      ((front ++ text).head? = some '-' ↔ cs.head? = some '-') ∧
        unsigned (front ++ text) = text := by
  by_cases sign : cs.head? = some '-'
  · obtain ⟨rest, rfl⟩ := List.head?_eq_some_iff.mp sign
    exact ⟨['-'], rfl, by decide, fun text _ => ⟨Iff.rfl, rfl⟩⟩
  · refine ⟨[], by simp [unsigned, sign], List.not_mem_nil, ?_⟩
    intro text other
    exact ⟨iff_of_false other sign, if_neg other⟩

theorem numberOf_eq_error {negative : Bool} {whole : List Char}
    {fraction exponent : Option (List Char)}
    {stop : Halt} (h : numberOf negative whole fraction exponent = .error stop) :
    stop = .tooManyDigits whole.length ∧ Numeral.digitLimit < whole.length := by
  unfold numberOf at h
  split at h
  · split at h
    · rename_i long
      cases h
      exact ⟨rfl, long⟩
    · cases h
  · cases h

/-- A number reads the same in front of whatever does not go on with it. -/
theorem settled_number (spare : Nat) (cs : List Char) :
    Settled (fun _ => number) spare cs (number cs) := by
  rw [number_eq]
  cases found : wholePart? (unsigned cs) with
  | none => exact .at
  | some parts =>
    obtain ⟨whole, rest⟩ := parts
    obtain ⟨given, digits, split, againWhole⟩ := wholePart?_eq_some found
    obtain ⟨point, splitPoint, plainPoint, headPoint, againPoint⟩ := exists_fraction rest
    obtain ⟨mark, splitMark, plainMark, headMark, againMark⟩ :=
      exists_exponent (optionalPart fractionPart? rest).2
    obtain ⟨front, splitFront, plainFront, againFront⟩ := exists_sign cs
    dsimp only
    generalize (optionalPart exponentPart? (optionalPart fractionPart? rest).2).2 = after at *
    have again (text : List Char) (ends : Ends text) :
        number (front ++ (whole ++ (point ++ (mark ++ text)))) =
          (numberOf (cs.head? = some '-') whole (optionalPart fractionPart? rest).1
            (optionalPart exponentPart? (optionalPart fractionPart? rest).2).1).map (·, text) := by
      have headText : ∀ c ∈ text.head?, isAsciiDigit c = false ∧ c ≠ '.' := by
        intro c first
        obtain ⟨digit, other⟩ := ends c first
        refine ⟨digit, ?_⟩
        rintro rfl
        exact other List.mem_cons_self
      have headMark := forall_mem_head?_append headMark headText
      have headPoint := forall_mem_head?_append headPoint fun c first => (headMark c first).1
      have headWhole : (whole ++ (point ++ (mark ++ text))).head? ≠ some '-' := by
        obtain ⟨d, more, rfl⟩ := List.exists_cons_of_ne_nil given
        have digit := digits d List.mem_cons_self
        rintro ⟨⟩
        exact absurd digit (by decide)
      obtain ⟨sign, number⟩ := againFront _ headWhole
      rw [number_eq, number, againWhole _ headPoint]
      simp only [againPoint _ headMark, againMark _ ends, sign]
    have whole_split : cs = front ++ (whole ++ (point ++ (mark ++ after))) := by
      rw [← splitMark, ← splitPoint, ← split, ← splitFront]
    cases outcome : numberOf (cs.head? = some '-') whole (optionalPart fractionPart? rest).1
        (optionalPart exponentPart? (optionalPart fractionPart? rest).2).1 with
    | error stop =>
      obtain ⟨rfl, long⟩ := numberOf_eq_error outcome
      refine .tooManyDigits ?_ digits long
      rw [whole_split]
      exact ⟨front, _, by rw [List.append_assoc]⟩
    | ok n =>
      have plain : '\x60' ∉ front ++ (whole ++ (point ++ mark)) := by
        have := notMem_of_digits digits (c := '\x60') (by decide)
        simp [plainFront, this, plainPoint, plainMark]
      refine .ok ?_ (.of_notMem plain) (by simpa using whole_split) ?_
      · simp [given]
      · intro fuel text enough ends
        have read := again text ends
        rw [outcome] at read
        simp only [List.append_assoc]
        exact read

end DesignToCode.Json
