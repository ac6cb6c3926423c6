import DesignToCode.Json.Parser
import DesignToCode.Proofs.Text.Lines
import DesignToCode.Proofs.Text.Words

set_option autoImplicit false

namespace DesignToCode.Json

open DesignToCode.Text

theorem Read.andThen_eq_ok {α β : Type} {first : Read α} {next : α → List Char → Read β}
    {result : β × List Char} (h : first.andThen next = .ok result) :
    ∃ a rest, first = .ok (a, rest) ∧ next a rest = .ok result := by
  cases first with
  | error stop => cases h
  | ok read => exact ⟨read.1, read.2, rfl, h⟩

theorem Read.after_eq_ok {code : Nat} {tail : Read (List Nat)} {codes : List Nat}
    {rest : List Char} (h : tail.after code = .ok (codes, rest)) :
    ∃ later, tail = .ok (later, rest) ∧ codes = code :: later := by
  obtain ⟨later, behind, read, same⟩ := andThen_eq_ok h
  cases same
  exact ⟨later, read, rfl⟩

/-- A text that stands between quotation marks for `codes`, whatever comes behind the second one. -/
structure IsBody (body : List Char) (codes : List Nat) : Prop where
  oneLine : '\n' ∉ body
  again : ∀ opened rest, stringBody opened (body ++ '\x22' :: rest) = .ok (codes, rest)

theorem exists_cons_of_body (body rest : List Char) :
    ∃ next tail, body ++ '\x22' :: rest = next :: tail := by
  cases body <;> exact ⟨_, _, rfl⟩

theorem IsBody.cons {body : List Char} {code : Nat} {codes : List Nat} (behind : IsBody body codes)
    (front : List Char) (oneLine : '\n' ∉ front)
    (step : ∀ opened next rest, (∃ tail, next :: rest = body ++ '\x22' :: tail) →
      stringBody opened (front ++ next :: rest) = (stringBody opened (next :: rest)).after code) :
    IsBody (front ++ body) (code :: codes) where
  oneLine := by simp [oneLine, behind.oneLine]
  again opened rest := by
    obtain ⟨next, tail, shape⟩ := exists_cons_of_body body rest
    rw [List.append_assoc, shape, step opened next tail ⟨rest, shape.symm⟩, ← shape, behind.again]
    rfl

section Escapes

variable {opened n : Nat} {a b c d e f g h next : Char} {rest : List Char}

theorem not_mem_of_unit? (unit : unit? a b c d = some n) {x : Char} (out : hexValue? x = none) :
    x ∉ [a, b, c, d] := by
  intro member
  simp only [List.mem_cons, List.not_mem_nil, or_false] at member
  unfold unit? at unit
  rcases member with rfl | rfl | rfl | rfl <;> simp [out] at unit

/-- An escaped unit that makes no pair with the next one counts alone. -/
theorem stringBody_unit (unit : unit? a b c d = some n)
    (alone : ∀ e f g h tail, isHighUnit n = true →
      next :: rest = '\\' :: 'u' :: e :: f :: g :: h :: tail →
        ∃ low, unit? e f g h = some low ∧ isLowUnit low = false) :
    stringBody opened ('\\' :: 'u' :: a :: b :: c :: d :: next :: rest) =
      (stringBody opened (next :: rest)).after n := by
  rw [stringBody, unit]
  dsimp only
  split
  · rename_i e f g h last more
    cases high : isHighUnit n with
    | false => rfl
    | true =>
      obtain ⟨low, second, apart⟩ := alone e f g h (last :: more) high rfl
      simp [second, apart]
  · rfl

/-- Two escaped units that make a pair count as one code. -/
theorem stringBody_pair {high low : Nat} (first : unit? a b c d = some high)
    (isHigh : isHighUnit high = true) (second : unit? e f g h = some low)
    (isLow : isLowUnit low = true) :
    stringBody opened ('\\' :: 'u' :: a :: b :: c :: d ::
        '\\' :: 'u' :: e :: f :: g :: h :: next :: rest) =
      (stringBody opened (next :: rest)).after (pairCode high low) := by
  rw [stringBody, first]
  simp [isHigh, second, isLow]

/-- A text that goes on with an escaped unit can only be read if its four digits are there. -/
theorem exists_unit_of_stringBody {codes : List Nat} {tail : List Char}
    (read : stringBody opened ('\\' :: 'u' :: a :: b :: c :: d :: tail) = .ok (codes, rest)) :
    ∃ n, unit? a b c d = some n := by
  cases unit : unit? a b c d with
  | some n => exact ⟨n, rfl⟩
  | none =>
    cases tail with
    | nil => cases read
    | cons next more =>
      rw [stringBody, unit] at read
      cases read

/-- If a text for quotation marks goes on with an escaped unit, the unit is complete within it. -/
theorem IsBody.unit {body tail other : List Char} {codes : List Nat} (inner : IsBody body codes)
    (shape : body ++ '\x22' :: other = '\\' :: 'u' :: a :: b :: c :: d :: tail) :
    ∃ n more, unit? a b c d = some n ∧ body = '\\' :: 'u' :: a :: b :: c :: d :: more := by
  obtain ⟨n, unit⟩ := exists_unit_of_stringBody (shape ▸ inner.again 0 other)
  have digits := not_mem_of_unit? unit (x := '\x22') (by decide)
  have out : '\x22' ∉ ['\\', 'u', a, b, c, d] := by
    intro member
    rcases List.mem_cons.mp member with same | member
    · exact absurd same (by decide)
    rcases List.mem_cons.mp member with same | member
    · exact absurd same (by decide)
    · exact digits member
  obtain ⟨more, rfl⟩ := exists_append_of_append_cons ['\\', 'u', a, b, c, d] shape out
  exact ⟨n, more, unit, rfl⟩

/-- An escaped unit in front of a text for quotation marks that it makes no pair with. -/
theorem IsBody.unit_cons {body : List Char} {codes : List Nat} (inner : IsBody body codes)
    (unit : unit? a b c d = some n)
    (alone : ∀ e f g h more, isHighUnit n = true →
      body = '\\' :: 'u' :: e :: f :: g :: h :: more →
        ∃ low, unit? e f g h = some low ∧ isLowUnit low = false) :
    IsBody ('\\' :: 'u' :: a :: b :: c :: d :: body) (n :: codes) := by
  have digits := not_mem_of_unit? unit (x := '\n') (by decide)
  refine inner.cons ['\\', 'u', a, b, c, d] (by simpa using digits) ?_
  rintro opened next rest ⟨tail, shape⟩
  refine stringBody_unit unit ?_
  intro e f g h behind isHigh begins
  obtain ⟨-, more, -, same⟩ := inner.unit (shape.symm.trans begins)
  exact alone e f g h more isHigh same

end Escapes

/-- What is read between quotation marks reads the same whatever stands behind the second one. -/
theorem exists_body_of_stringBody {opened : Nat} {cs rest : List Char} {codes : List Nat}
    (read : stringBody opened cs = .ok (codes, rest)) :
    ∃ body, cs = body ++ '\x22' :: rest ∧ IsBody body codes := by
  fun_induction stringBody opened cs generalizing codes with
  | case1 | case3 => cases read
  | case2 rest =>
    cases read
    exact ⟨[], rfl, List.not_mem_nil, fun _ _ => rfl⟩
  | case4 | case5 | case10 | case11 | case13 => cases read
  | case6 a b c d high first e f g h last more isHigh low second isLow ih =>
    obtain ⟨later, behind, rfl⟩ := Read.after_eq_ok read
    obtain ⟨body, same, inner⟩ := ih behind
    refine ⟨'\\' :: 'u' :: a :: b :: c :: d :: '\\' :: 'u' :: e :: f :: g :: h :: body, ?_, ?_⟩
    · simp [same]
    · have one := not_mem_of_unit? first (x := '\n') (by decide)
      have two := not_mem_of_unit? second (x := '\n') (by decide)
      refine inner.cons ['\\', 'u', a, b, c, d, '\\', 'u', e, f, g, h] ?_ ?_
      · simp_all
      · exact fun _ _ _ _ => stringBody_pair first isHigh second isLow
  | case7 a b c d high unit e f g h last more isHigh low second apart ih =>
    obtain ⟨later, behind, rfl⟩ := Read.after_eq_ok read
    obtain ⟨body, same, inner⟩ := ih behind
    refine ⟨_, by rw [same]; rfl, inner.unit_cons unit ?_⟩
    intro e' f' g' h' tail _ begins
    rw [begins] at same
    simp only [List.cons_append, List.cons.injEq, true_and] at same
    obtain ⟨rfl, rfl, rfl, rfl, -⟩ := same
    exact ⟨low, second, by simpa using apart⟩
  | case8 a b c d n unit e f g h last more isLow ih =>
    obtain ⟨later, behind, rfl⟩ := Read.after_eq_ok read
    obtain ⟨body, same, inner⟩ := ih behind
    refine ⟨_, by rw [same]; rfl, inner.unit_cons unit ?_⟩
    exact fun _ _ _ _ _ isHigh => absurd isHigh isLow
  | case9 a b c d n unit next more short ih =>
    obtain ⟨later, behind, rfl⟩ := Read.after_eq_ok read
    obtain ⟨body, same, inner⟩ := ih behind
    refine ⟨_, by rw [same]; rfl, inner.unit_cons unit ?_⟩
    intro e f g h tail _ begins
    obtain ⟨last, behind, shape⟩ := exists_cons_of_body tail rest
    subst begins
    exact (short e f g h last behind (List.cons.inj same).1 (by simp_all)).elim
  | case12 c more _ other e simple ih =>
    obtain ⟨later, behind, rfl⟩ := Read.after_eq_ok read
    obtain ⟨body, same, inner⟩ := ih behind
    refine ⟨'\\' :: c :: body, by rw [same]; rfl, inner.cons ['\\', c] ?_ ?_⟩
    · rintro member
      obtain rfl : '\n' = c := by simpa using member
      cases simple
    · intro opened next rest _
      have notUnit : c ≠ 'u' := other
      simp [stringBody, simple, notUnit]
  | case14 c more noMark noText _ _ noEscape visible ih =>
    obtain ⟨later, behind, rfl⟩ := Read.after_eq_ok read
    obtain ⟨body, same, inner⟩ := ih behind
    refine ⟨c :: body, by rw [same]; rfl, inner.cons [c] ?_ ?_⟩
    · rintro member
      obtain rfl : '\n' = c := by simpa using member
      exact visible (by decide)
    · intro opened next rest _
      have plain : c ≠ '\\' := by
        rintro rfl
        cases more with
        | nil => exact noText rfl rfl
        | cons d more => exact noEscape d more rfl rfl
      simp [stringBody, plain, visible]

/-- Between quotation marks no limit is met. -/
theorem exists_at_of_stringBody {opened : Nat} {cs : List Char} {stop : Halt}
    (read : stringBody opened cs = .error stop) : ∃ defect place, stop = .at defect place := by
  have inner {code : Nat} {tail : Read (List Nat)} (read : tail.after code = .error stop) :
      tail = .error stop := by
    cases tail with
    | ok _ => cases read
    | error _ => exact read
  fun_induction stringBody opened cs with
  | case1 | case3 | case4 | case5 | case10 | case11 | case13 =>
    cases read
    exact ⟨_, _, rfl⟩
  | case2 => cases read
  | case6 | case7 | case8 | case9 | case12 | case14 =>
    rename_i ih
    exact ih (inner read)

end DesignToCode.Json
