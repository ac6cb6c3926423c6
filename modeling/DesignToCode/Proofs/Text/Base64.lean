import DesignToCode.Text.Base64

set_option autoImplicit false

namespace DesignToCode.Text.Base64

/-- What may stand behind the complete groups, and how many bytes it carries. -/
inductive Ending : List Char → Nat → Prop where
  | pads (count : Nat) : Ending (List.replicate count pad) 0
  | one (a b : Char) (first : a ≠ pad) (second : b ≠ pad) : Ending [a, b, pad, pad] 1
  | two (a b c : Char) (first : a ≠ pad) (second : b ≠ pad) (third : c ≠ pad) :
      Ending [a, b, c, pad] 2

/-- A text of complete groups with an ending, and how many bytes it carries. -/
def Shaped (cs : List Char) (size : Nat) : Prop :=
  ∃ groups ending more, cs = groups ++ ending ∧ pad ∉ groups ∧ groups.length % 4 = 0 ∧
    Ending ending more ∧ size = 3 * (groups.length / 4) + more

/-- Complete groups with one pad or two behind them, where none is needed. -/
def Overpadded (cs : List Char) : Prop :=
  (cs.takeWhile (· != pad)).length % 4 = 0 ∧
    (cs.dropWhile (· != pad) = [pad] ∨ cs.dropWhile (· != pad) = [pad, pad])

instance (cs : List Char) : Decidable (Overpadded cs) :=
  inferInstanceAs (Decidable (_ ∧ _))

theorem ne_pad_of_clean {groups : List Char} (clean : pad ∉ groups) :
    ∀ c ∈ groups, (c != pad) = true := by
  intro c member
  have : c ≠ pad := fun equal => clean (equal ▸ member)
  simpa using this

theorem takeWhile_of_clean {groups ending : List Char} (clean : pad ∉ groups) :
    (groups ++ ending).takeWhile (· != pad) = groups ++ ending.takeWhile (· != pad) :=
  List.takeWhile_append_of_pos (ne_pad_of_clean clean)

theorem dropWhile_of_clean {groups ending : List Char} (clean : pad ∉ groups) :
    (groups ++ ending).dropWhile (· != pad) = ending.dropWhile (· != pad) :=
  List.dropWhile_append_of_pos (ne_pad_of_clean clean)

theorem overpadded_pads_iff {groups : List Char} (clean : pad ∉ groups)
    (whole : groups.length % 4 = 0) (count : Nat) :
    Overpadded (groups ++ List.replicate count pad) ↔ count = 1 ∨ count = 2 := by
  rw [Overpadded, takeWhile_of_clean clean, dropWhile_of_clean clean]
  match count with
  | 0 => simp
  | 1 => simp [whole]
  | 2 => simp [whole, List.replicate_succ]
  | count + 3 => simp [whole, List.replicate_succ]

/-- A last group needs its pads. -/
theorem not_overpadded_of_last {groups pads : List Char} (last : List Char)
    (clean : pad ∉ groups ++ last) (whole : groups.length % 4 = 0)
    (short : 0 < last.length ∧ last.length < 4) (padded : pads.head? = some pad) :
    ¬ Overpadded (groups ++ (last ++ pads)) := by
  rintro ⟨complete, -⟩
  have none : pads.takeWhile (· != pad) = [] := by
    cases pads with
    | nil => cases padded
    | cons c rest =>
      cases padded
      simp
  rw [← List.append_assoc, takeWhile_of_clean clean, none, List.append_nil, List.length_append]
    at complete
  omega

/-- The pads among the last two characters. -/
def lastPads (cs : List Char) : Nat := (cs.reverse.take 2).count pad

theorem lastPads_pads {groups : List Char} (clean : pad ∉ groups) (count : Nat) :
    lastPads (groups ++ List.replicate count pad) = min count 2 := by
  have absent (n : Nat) : (groups.reverse.take n).count pad = 0 :=
    List.count_eq_zero.mpr fun member => clean (List.mem_reverse.mp (List.mem_of_mem_take member))
  rw [lastPads, List.reverse_append, List.reverse_replicate]
  match count with
  | 0 => simpa using absent 2
  | 1 => simpa using absent 1
  | count + 2 => simp [List.replicate_succ]

theorem ne_pad_of_value? {c : Char} {n : Nat} (h : value? c = some n) : c ≠ pad := by
  rintro rfl
  have absent : value? pad = none := by decide
  rw [absent] at h
  cases h

theorem group?_eq_some {a b c d : Char} {bytes : List UInt8} (h : group? a b c d = some bytes) :
    a ≠ pad ∧ b ≠ pad ∧ c ≠ pad ∧ d ≠ pad ∧ bytes.length = 3 := by
  simp only [group?, Option.bind_eq_bind, Option.bind_eq_some_iff, Option.some.injEq] at h
  obtain ⟨v, hv, w, hw, x, hx, y, hy, rfl⟩ := h
  exact ⟨ne_pad_of_value? hv, ne_pad_of_value? hw, ne_pad_of_value? hx, ne_pad_of_value? hy, rfl⟩

theorem lastGroup?_eq_some {a b c d : Char} {bytes : List UInt8}
    (h : lastGroup? a b c d = some bytes) : Ending [a, b, c, d] bytes.length := by
  simp only [lastGroup?, Option.bind_eq_bind, Option.bind_eq_some_iff] at h
  obtain ⟨v, hv, w, hw, h⟩ := h
  by_cases third : c = pad
  · by_cases fourth : d = pad
    · simp only [third, fourth, if_true, Option.some.injEq] at h
      subst third fourth h
      exact .one a b (ne_pad_of_value? hv) (ne_pad_of_value? hw)
    · simp [third, fourth] at h
  · simp only [third, if_false, Option.bind_eq_some_iff] at h
    obtain ⟨x, hx, h⟩ := h
    by_cases fourth : d = pad
    · simp only [fourth, if_true, Option.some.injEq] at h
      subst fourth h
      exact .two a b c (ne_pad_of_value? hv) (ne_pad_of_value? hw) third
    · simp [fourth] at h

/-- An ending on its own is a text without complete groups. -/
theorem Ending.shaped {cs : List Char} {size : Nat} (h : Ending cs size) : Shaped cs size :=
  ⟨[], cs, size, rfl, List.not_mem_nil, rfl, h, by simp⟩

theorem shaped_of_all_pad {cs : List Char} (h : cs.all (· = pad) = true) : Shaped cs 0 := by
  have equal : cs = List.replicate cs.length pad := by
    rw [List.eq_replicate_iff]
    exact ⟨rfl, by simpa using h⟩
  rw [equal]
  exact (Ending.pads cs.length).shaped

/-- One more complete group in front carries three more bytes. -/
theorem Shaped.cons_group {a b c d : Char} {rest : List Char} {size : Nat} (h : Shaped rest size)
    (ha : a ≠ pad) (hb : b ≠ pad) (hc : c ≠ pad) (hd : d ≠ pad) :
    Shaped (a :: b :: c :: d :: rest) (3 + size) := by
  obtain ⟨groups, ending, more, rfl, clean, whole, ends, rfl⟩ := h
  refine ⟨a :: b :: c :: d :: groups, ending, more, rfl, ?_, ?_, ends, ?_⟩
  · simp [clean, ha.symm, hb.symm, hc.symm, hd.symm]
  · simp only [List.length_cons]
    omega
  · simp only [List.length_cons]
    omega

/-- Every text that can be read is complete groups with an ending. -/
theorem shaped_of_decodeGroups? {cs : List Char} {data : List UInt8}
    (h : decodeGroups? cs = some data) : Shaped cs data.length := by
  fun_induction decodeGroups? cs generalizing data with
  | case1 =>
    cases h
    exact (Ending.pads 0).shaped
  | case2 a b c d rest bytes hgroup ih =>
    obtain ⟨more, hmore, rfl⟩ := Option.map_eq_some_iff.mp h
    obtain ⟨ha, hb, hc, hd, size⟩ := group?_eq_some hgroup
    rw [List.length_append, size]
    exact (ih hmore).cons_group ha hb hc hd
  | case3 a b c d rest _ padded =>
    cases h
    exact shaped_of_all_pad padded
  | case4 a b c d rest _ _ last =>
    obtain rfl : rest = [] := by simpa using last
    exact (lastGroup?_eq_some h).shaped
  | case5 => cases h
  | case6 rest _ _ padded =>
    cases h
    exact shaped_of_all_pad padded
  | case7 => cases h

theorem shaped_of_decode? {cs : List Char} {data : List UInt8} (h : decode? cs = some data) :
    Shaped cs data.length := by
  simp only [decode?] at h
  split at h
  · cases h
  · exact shaped_of_decodeGroups? h

end DesignToCode.Text.Base64
