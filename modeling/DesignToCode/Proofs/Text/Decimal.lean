import DesignToCode.Proofs.Text.Words
import DesignToCode.Text.Digit

set_option autoImplicit false

namespace DesignToCode.Text

@[simp] theorem toString_string (s : String) : toString s = s := rfl

theorem repr_nat_injective {m n : Nat} (h : m.repr = n.repr) : m = n := by
  have digits : Nat.toDigits 10 m = Nat.toDigits 10 n := by
    rw [← Nat.toList_repr, ← Nat.toList_repr, h]
  rw [← Nat.ofDigitChars_ten_toDigits (n := m), digits, Nat.ofDigitChars_ten_toDigits]

theorem isDigit_of_mem_repr {n : Nat} {c : Char} (h : c ∈ n.repr.toList) : c.isDigit = true := by
  rw [Nat.toList_repr] at h
  exact Nat.isDigit_of_mem_toDigits (by decide) (by decide) h

theorem isAsciiDigit_of_isDigit {c : Char} (h : c.isDigit = true) : isAsciiDigit c = true := by
  simp only [Char.isDigit, Bool.and_eq_true, decide_eq_true_eq, ge_iff_le] at h
  have within : '0' ≤ c ∧ c ≤ '9' := h
  simp [isAsciiDigit, asciiDigit?, within]

theorem repr_nat_digits (n : Nat) :
    n.repr.toList ≠ [] ∧ ∀ c ∈ n.repr.toList, isAsciiDigit c = true := by
  refine ⟨?_, fun c member => isAsciiDigit_of_isDigit (isDigit_of_mem_repr member)⟩
  rw [Nat.toList_repr]
  exact Nat.toDigits_ne_nil

theorem dash_notMem_repr (n : Nat) : '-' ∉ n.repr.toList := fun h => by
  have digit := isDigit_of_mem_repr h
  revert digit
  decide

theorem mem_repr_int {i : Int} {c : Char} (h : c ∈ i.repr.toList) : c = '-' ∨ c.isDigit = true := by
  rw [Int.repr_eq_if] at h
  split at h
  · exact .inr (isDigit_of_mem_repr h)
  · rw [String.toList_append, List.mem_append] at h
    rcases h with sign | digit
    · exact .inl (by simpa using sign)
    · exact .inr (isDigit_of_mem_repr digit)

theorem notMem_repr_int {c : Char} (noSign : c ≠ '-') (noDigit : c.isDigit = false) (i : Int) :
    c ∉ i.repr.toList := by
  intro member
  rcases mem_repr_int member with sign | digit
  · exact noSign sign
  · rw [noDigit] at digit
    cases digit

theorem repr_int_injective {i j : Int} (h : i.repr = j.repr) : i = j := by
  have minus (m n : Nat) : m.repr ≠ "-" ++ n.repr := fun equal => by
    have signed : '-' ∈ m.repr.toList := by simp [equal]
    exact dash_notMem_repr m signed
  rw [Int.repr_eq_if, Int.repr_eq_if] at h
  split at h
  · split at h
    · have := repr_nat_injective h
      omega
    · exact absurd h (minus _ _)
  · split at h
    · exact absurd h.symm (minus _ _)
    · have tails : (-i).toNat.repr = (-j).toNat.repr := by
        rw [← String.toList_inj] at h ⊢
        simpa using h
      have := repr_nat_injective tails
      omega

/-- A text is told apart from what follows the first mark behind it. -/
theorem append_mark_inj {mark : Char} {a b x y : List Char} (ha : mark ∉ a) (hb : mark ∉ b) :
    a ++ mark :: x = b ++ mark :: y ↔ a = b ∧ x = y := by
  have unmarked {cs : List Char} (out : mark ∉ cs) : ∀ c ∈ cs, (c != mark) = true := by
    intro c member
    exact bne_iff_ne.mpr (ne_of_mem_of_not_mem member out)
  have ends (rest : List Char) : ∀ c ∈ (mark :: rest).head?, (c != mark) = false := by simp
  rw [run_append_inj (unmarked ha) (unmarked hb) (ends x) (ends y), List.cons_inj_right]

/-- The same from the end: what follows the last mark holds none. -/
theorem mark_append_inj {mark : Char} {a b x y : List Char} (hx : mark ∉ x) (hy : mark ∉ y) :
    a ++ mark :: x = b ++ mark :: y ↔ a = b ∧ x = y := by
  have turned := append_mark_inj (x := a.reverse) (y := b.reverse)
    (fun h => hx (List.mem_reverse.mp h)) (fun h => hy (List.mem_reverse.mp h))
  rw [← List.reverse_inj]
  simp only [List.reverse_append, List.reverse_cons, List.append_assoc, List.singleton_append,
    turned, List.reverse_inj]
  exact And.comm

end DesignToCode.Text
