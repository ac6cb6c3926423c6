import DesignToCode.Text.Digit
import DesignToCode.Text.Search

set_option autoImplicit false

namespace DesignToCode.Text

theorem wordsBy_cons_of_neg {keep : Char → Bool} {c : Char} (out : keep c = false)
    (rest : List Char) :
    wordsBy keep (c :: rest) = wordsBy keep rest := by
  simp [wordsBy, out]

theorem wordsBy_cons_of_pos {keep : Char → Bool} {c : Char} (inside : keep c = true)
    (rest : List Char) :
    wordsBy keep (c :: rest) =
      if rest.head?.any keep then
        match wordsBy keep rest with
        | [] => [[c]]
        | word :: more => (c :: word) :: more
      else [c] :: wordsBy keep rest := by
  conv => lhs; unfold wordsBy
  rw [if_pos inside]
  cases rest with
  | nil => rfl
  | cons d more =>
    cases words : wordsBy keep (d :: more) <;> cases found : keep d <;> simp [found]

theorem exists_word {keep : Char → Bool} {cs : List Char} (inside : cs.head?.any keep = true) :
    ∃ word more, wordsBy keep cs = word :: more := by
  cases cs with
  | nil => cases inside
  | cons c rest =>
    rw [wordsBy_cons_of_pos (by simpa using inside)]
    split
    · split <;> exact ⟨_, _, rfl⟩
    · exact ⟨_, _, rfl⟩

/-- A character between words parts the words before it from those behind it. -/
theorem wordsBy_append_gap {keep : Char → Bool} {gap : Char} (out : keep gap = false)
    (cs rest : List Char) :
    wordsBy keep (cs ++ gap :: rest) = wordsBy keep cs ++ wordsBy keep rest := by
  induction cs with
  | nil => exact wordsBy_cons_of_neg out rest
  | cons c more ih =>
    cases inside : keep c with
    | false => rw [List.cons_append, wordsBy_cons_of_neg inside, wordsBy_cons_of_neg inside, ih]
    | true =>
      have head : (more ++ gap :: rest).head?.any keep = more.head?.any keep := by
        cases more with
        | nil => simpa using out
        | cons d _ => rfl
      rw [List.cons_append, wordsBy_cons_of_pos inside, wordsBy_cons_of_pos inside, head, ih]
      split
      · rename_i goesOn
        obtain ⟨word, later, same⟩ := exists_word goesOn
        rw [same]
        rfl
      · rfl

theorem wordsBy_of_all {keep : Char → Bool} {cs : List Char} (given : cs ≠ [])
    (inside : ∀ c ∈ cs, keep c = true) : wordsBy keep cs = [cs] := by
  induction cs with
  | nil => exact absurd rfl given
  | cons c rest ih =>
    rw [List.forall_mem_cons] at inside
    rw [wordsBy_cons_of_pos inside.1]
    cases rest with
    | nil => rfl
    | cons d more =>
      rw [ih (List.cons_ne_nil d more) inside.2]
      simp [inside.2 d List.mem_cons_self]

theorem mem_wordsBy {keep : Char → Bool} {cs word : List Char} (h : word ∈ wordsBy keep cs) :
    word ≠ [] ∧ ∀ c ∈ word, keep c = true := by
  induction cs generalizing word with
  | nil => cases h
  | cons c rest ih =>
    cases inside : keep c with
    | false =>
      rw [wordsBy_cons_of_neg inside] at h
      exact ih h
    | true =>
      have alone : ∀ d ∈ [c], keep d = true := by simpa using inside
      rw [wordsBy_cons_of_pos inside] at h
      split at h
      · split at h
        · rw [List.mem_singleton.mp h]
          exact ⟨List.cons_ne_nil c [], alone⟩
        · rename_i first more same
          rcases List.mem_cons.mp h with rfl | later
          · refine ⟨List.cons_ne_nil c first, List.forall_mem_cons.mpr ⟨inside, ?_⟩⟩
            exact (ih (same ▸ List.mem_cons_self)).2
          · exact ih (same ▸ List.mem_cons_of_mem first later)
      · rcases List.mem_cons.mp h with rfl | later
        · exact ⟨List.cons_ne_nil c [], alone⟩
        · exact ih later

/-- What is seen of each character of a text holds of all of them; no other characters are tried. -/
theorem forall_mem_of_all {P : Char → Prop} [DecidablePred P] {cs : List Char}
    (seen : cs.all (P ·) = true) : ∀ c ∈ cs, P c := by
  simpa using seen

/-- A run of characters ends where the first other one stands. -/
theorem takeWhile_run {p : Char → Bool} {run rest : List Char} (all : ∀ c ∈ run, p c = true)
    (ends : ∀ c ∈ rest.head?, p c = false) :
    (run ++ rest).takeWhile p = run ∧ (run ++ rest).dropWhile p = rest := by
  rw [List.takeWhile_append_of_pos all, List.dropWhile_append_of_pos all]
  cases rest with
  | nil => simp
  | cons c rest => simp [ends c rfl]

/-- So a run is told apart from what stands behind it. -/
theorem run_append_inj {p : Char → Bool} {a b x y : List Char} (all_a : ∀ c ∈ a, p c = true)
    (all_b : ∀ c ∈ b, p c = true) (ends_x : ∀ c ∈ x.head?, p c = false)
    (ends_y : ∀ c ∈ y.head?, p c = false) : a ++ x = b ++ y ↔ a = b ∧ x = y := by
  constructor
  · intro same
    obtain ⟨run_a, rest_a⟩ := takeWhile_run all_a ends_x
    obtain ⟨run_b, rest_b⟩ := takeWhile_run all_b ends_y
    rw [same] at run_a rest_a
    exact ⟨run_a.symm.trans run_b, rest_a.symm.trans rest_b⟩
  · rintro ⟨rfl, rfl⟩
    rfl

theorem toNat_lt_of_isAsciiAlphanumeric {c : Char} (h : isAsciiAlphanumeric c = true) :
    c.toNat < 128 := by
  have below {d : Char} (small : d.toNat < 128) (le : c ≤ d) : c.toNat < 128 :=
    Nat.lt_of_le_of_lt le small
  simp only [isAsciiAlphanumeric, isAsciiLetter, isAsciiDigit, asciiDigit?, Bool.or_eq_true,
    Bool.and_eq_true, decide_eq_true_eq] at h
  rcases h with (small | capital) | digit
  · exact below (by decide) small.2
  · exact below (by decide) capital.2
  · split at digit
    · rename_i within
      exact below (by decide) within.2
    · cases digit

/-- What a table of the first characters shows holds of each of them. -/
theorem of_ascii_table {P : Char → Prop} (table : ∀ n < 128, P (Char.ofNat n)) {c : Char}
    (small : c.toNat < 128) : P c := by
  have here := table c.toNat small
  rwa [Char.ofNat_toNat] at here

/-- Letters and digits stay what they are in small and in capital form. -/
theorem isAsciiAlphanumeric_forms {c : Char} (h : isAsciiAlphanumeric c = true) :
    isAsciiAlphanumeric c.toLower = true ∧ isAsciiAlphanumeric c.toUpper = true := by
  have small := toNat_lt_of_isAsciiAlphanumeric h
  exact of_ascii_table (P := fun c => isAsciiAlphanumeric c = true →
    isAsciiAlphanumeric c.toLower = true ∧ isAsciiAlphanumeric c.toUpper = true) (by decide) small h

theorem forms_of_isAsciiDigit {c : Char} (h : isAsciiDigit c = true) :
    c.toLower = c ∧ c.toUpper = c := by
  have small : c.toNat < 128 :=
    toNat_lt_of_isAsciiAlphanumeric (by simp [isAsciiAlphanumeric, h])
  exact of_ascii_table (P := fun c => isAsciiDigit c = true → c.toLower = c ∧ c.toUpper = c)
    (by decide) small h

end DesignToCode.Text
