import DesignToCode.Proofs.Text.Base64
import DesignToCode.Text.Blank

set_option autoImplicit false

namespace DesignToCode.Text.Base64

theorem value?_digit {n : Nat} (small : n < 64) : value? (digit n) = some n := by
  have every : ∀ n < 64, value? (digit n) = some n := by decide +kernel
  exact every n small

theorem digit_ne_pad {n : Nat} (small : n < 64) : digit n ≠ pad :=
  ne_pad_of_value? (value?_digit small)

theorem isBlank_digit {n : Nat} (small : n < 64) : isBlank (digit n) = false := by
  have every : ∀ n < 64, isBlank (digit n) = false := by decide +kernel
  exact every n small

variable (a b c : UInt8)

theorem first_lt : a.toNat / 4 < 64 := by
  have := a.toNat_lt
  omega

theorem second_lt : a.toNat % 4 * 16 + b.toNat / 16 < 64 := by
  have := b.toNat_lt
  omega

theorem third_lt : b.toNat % 16 * 4 + c.toNat / 64 < 64 := by
  have := c.toNat_lt
  omega

theorem fourth_lt : c.toNat % 64 < 64 := Nat.mod_lt _ (by decide)

theorem lone_second_lt : a.toNat % 4 * 16 < 64 := by omega

theorem lone_third_lt : b.toNat % 16 * 4 < 64 := by omega

theorem ofNat_eq_of_toNat {n : Nat} (same : n = a.toNat) : UInt8.ofNat n = a := by
  rw [same]
  exact UInt8.ofNat_toNat

theorem group?_pad (v w x : Char) : group? v w x pad = none := by
  have absent : value? pad = none := by decide
  simp [group?, absent]

theorem group?_digits :
    group? (digit (a.toNat / 4)) (digit (a.toNat % 4 * 16 + b.toNat / 16))
      (digit (b.toNat % 16 * 4 + c.toNat / 64)) (digit (c.toNat % 64)) = some [a, b, c] := by
  simp only [group?, value?_digit (first_lt a), value?_digit (second_lt a b),
    value?_digit (third_lt b c), value?_digit (fourth_lt c), Option.bind_eq_bind,
    Option.bind_some, Option.some.injEq, List.cons.injEq, and_true]
  have := b.toNat_lt
  have := c.toNat_lt
  exact ⟨ofNat_eq_of_toNat a (by omega), ofNat_eq_of_toNat b (by omega),
    ofNat_eq_of_toNat c (by omega)⟩

theorem lastGroup?_one :
    lastGroup? (digit (a.toNat / 4)) (digit (a.toNat % 4 * 16)) pad pad = some [a] := by
  simp only [lastGroup?, value?_digit (first_lt a), value?_digit (lone_second_lt a),
    Option.bind_eq_bind, Option.bind_some, if_true, Option.some.injEq, List.cons.injEq, and_true]
  exact ofNat_eq_of_toNat a (by omega)

theorem lastGroup?_two :
    lastGroup? (digit (a.toNat / 4)) (digit (a.toNat % 4 * 16 + b.toNat / 16))
      (digit (b.toNat % 16 * 4)) pad = some [a, b] := by
  simp only [lastGroup?, value?_digit (first_lt a), value?_digit (second_lt a b),
    value?_digit (lone_third_lt b), digit_ne_pad (lone_third_lt b), Option.bind_eq_bind,
    Option.bind_some, if_true, if_false, Option.some.injEq, List.cons.injEq, and_true]
  have := b.toNat_lt
  exact ⟨ofNat_eq_of_toNat a (by omega), ofNat_eq_of_toNat b (by omega)⟩

/-- A last group of its own, which starts with a digit. -/
theorem decodeGroups?_last {n : Nat} (small : n < 64) (w x : Char) :
    decodeGroups? [digit n, w, x, pad] = lastGroup? (digit n) w x pad := by
  simp [decodeGroups?, group?_pad, digit_ne_pad small]

theorem decodeGroups?_encode (data : List UInt8) : decodeGroups? (encode data) = some data := by
  fun_induction encode data with
  | case1 => rfl
  | case2 a => rw [decodeGroups?_last (first_lt a), lastGroup?_one]
  | case3 a b => rw [decodeGroups?_last (first_lt a), lastGroup?_two]
  | case4 a b c rest ih => simp [decodeGroups?, group?_digits, ih]

theorem head?_encode_ne_pad (data : List UInt8) : (encode data).head? ≠ some pad := by
  fun_cases encode data with
  | case1 => simp
  | case2 a => simpa using digit_ne_pad (first_lt a)
  | case3 a b => simpa using digit_ne_pad (first_lt a)
  | case4 a b c rest => simpa using digit_ne_pad (first_lt a)

/-- What was written is read back. -/
theorem decode?_encode (data : List UInt8) : decode? (encode data) = some data := by
  rw [decode?, if_neg (head?_encode_ne_pad data), decodeGroups?_encode]

theorem length_encode (data : List UInt8) : (encode data).length = 4 * ((data.length + 2) / 3) := by
  fun_induction encode data with
  | case1 => rfl
  | case2 a => simp
  | case3 a b => simp
  | case4 a b c rest ih =>
    simp only [List.length_cons, ih]
    omega

theorem lastPads_append {back : List Char} (enough : 2 ≤ back.length) (front : List Char) :
    lastPads (front ++ back) = lastPads back := by
  have reversed : 2 ≤ back.reverse.length := by simpa using enough
  rw [lastPads, List.reverse_append, List.take_append_of_le_length reversed, lastPads]

/-- There is a pad for every byte that the last group lacks. -/
theorem lastPads_encode (data : List UInt8) :
    lastPads (encode data) = (3 - data.length % 3) % 3 := by
  fun_induction encode data with
  | case1 => rfl
  | case2 a => simp [lastPads]
  | case3 a b => simp [lastPads, digit_ne_pad (lone_third_lt b)]
  | case4 a b c rest ih =>
    cases rest with
    | nil => simp [lastPads, encode, digit_ne_pad (third_lt b c), digit_ne_pad (fourth_lt c)]
    | cons d more =>
      -- the last two characters are those of the groups behind this one
      have enough : 2 ≤ (encode (d :: more)).length := by
        rw [length_encode, List.length_cons]
        omega
      refine (lastPads_append enough [_, _, _, _]).trans ?_
      rw [ih]
      simp only [List.length_cons]
      omega

theorem isBlank_of_mem_encode {data : List UInt8} {x : Char} (member : x ∈ encode data) :
    isBlank x = false := by
  have padded : isBlank pad = false := by decide
  fun_induction encode data with
  | case1 => cases member
  | case2 a =>
    simp only [List.mem_cons, List.not_mem_nil, or_false] at member
    rcases member with rfl | rfl | rfl | rfl
    · exact isBlank_digit (first_lt a)
    · exact isBlank_digit (lone_second_lt a)
    · exact padded
    · exact padded
  | case3 a b =>
    simp only [List.mem_cons, List.not_mem_nil, or_false] at member
    rcases member with rfl | rfl | rfl | rfl
    · exact isBlank_digit (first_lt a)
    · exact isBlank_digit (second_lt a b)
    · exact isBlank_digit (lone_third_lt b)
    · exact padded
  | case4 a b c rest ih =>
    simp only [List.mem_cons] at member
    rcases member with rfl | rfl | rfl | rfl | later
    · exact isBlank_digit (first_lt a)
    · exact isBlank_digit (second_lt a b)
    · exact isBlank_digit (third_lt b c)
    · exact isBlank_digit (fourth_lt c)
    · exact ih later

theorem trimmed_encode (data : List UInt8) : trimmed (encode data) = encode data :=
  trimmed_of_all fun _ member => isBlank_of_mem_encode member

end DesignToCode.Text.Base64
