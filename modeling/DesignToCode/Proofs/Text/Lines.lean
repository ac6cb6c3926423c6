import DesignToCode.Text.Blank
import DesignToCode.Text.Search

set_option autoImplicit false

namespace DesignToCode.Text

theorem toList_pushn (n : Nat) : ("".pushn ' ' n).toList = List.replicate n ' ' := by
  induction n with
  | zero => rfl
  | succ n ih =>
    have more : ("".pushn ' ' (n + 1)).toList = ("".pushn ' ' n).toList ++ [' '] :=
      String.toList_push _
    rw [more, ih, List.replicate_succ']

/-- A text up to a character holds whatever the whole starts with, if that is without it. -/
theorem exists_append_of_append_cons {α : Type} {cs rest tail : List α} {c : α} (front : List α)
    (same : cs ++ c :: rest = front ++ tail) (out : c ∉ front) : ∃ more, cs = front ++ more := by
  rcases List.append_eq_append_iff.mp same with ⟨more, rfl, later⟩ | ⟨more, shape, _⟩
  · cases more with
    | nil => exact ⟨[], by simp⟩
    | cons d more =>
      obtain ⟨rfl, -⟩ := List.cons.inj later
      exact absurd (by simp) out
  · exact ⟨more, shape⟩

/-- A text that stands in two others put together stands in one of them, or the first ends and the
second starts with a character of it. -/
theorem isInfix_append_cases {α : Type} {mark front back : List α} (h : mark <:+: front ++ back) :
    mark <:+: front ∨ mark <:+: back ∨
      (∃ c ∈ front.getLast?, c ∈ mark) ∧ ∃ c ∈ back.head?, c ∈ mark := by
  obtain ⟨x, y, same⟩ := h
  rcases List.append_eq_append_iff.mp same with ⟨rest, rfl, -⟩ | ⟨second, start, rfl⟩
  · exact .inl ⟨x, rest, rfl⟩
  rcases List.append_eq_append_iff.mp start with ⟨first, rfl, rfl⟩ | ⟨between, rfl, rfl⟩
  · cases second with
    | nil => exact .inl ⟨x, [], by simp⟩
    | cons d more =>
      rcases List.eq_nil_or_concat first with rfl | ⟨others, c, rfl⟩
      · exact .inr (.inl ⟨[], y, by simp⟩)
      · exact .inr (.inr ⟨⟨c, by simp, by simp⟩, d, by simp, by simp⟩)
  · exact .inr (.inl ⟨between, y, rfl⟩)

theorem exists_last_append {α : Type} {c : α} {cs : List α} (member : c ∈ cs) :
    ∃ front back, cs = front ++ c :: back ∧ c ∉ back := by
  obtain ⟨back, front, turned, plain⟩ :=
    List.eq_append_cons_of_mem (List.mem_reverse.mpr member)
  refine ⟨front.reverse, back.reverse, ?_, by simpa using plain⟩
  rw [← List.reverse_inj, turned]
  simp

theorem forall_mem_head?_append {p : Char → Prop} {front back : List Char}
    (first : ∀ c ∈ front.head?, p c) (second : ∀ c ∈ back.head?, p c) :
    ∀ c ∈ (front ++ back).head?, p c := by
  cases front with
  | nil => exact second
  | cons c rest => exact first

variable {mark : Char}

theorem pieces_of_notMem {cs : List Char} (out : mark ∉ cs) : pieces mark cs = [cs] := by
  induction cs with
  | nil => rfl
  | cons c rest ih =>
    rw [List.mem_cons, not_or] at out
    rw [pieces, if_neg (Ne.symm out.1), ih out.2]

/-- A mark parts the pieces before it from those behind it. -/
theorem pieces_append (cs rest : List Char) :
    pieces mark (cs ++ mark :: rest) = pieces mark cs ++ pieces mark rest := by
  induction cs with
  | nil => simp [pieces]
  | cons c more ih =>
    rw [List.cons_append, pieces, pieces, ih]
    split
    · rfl
    · cases first : pieces mark more with
      | nil => exact absurd first (pieces_ne_nil mark more)
      | cons piece others => rfl

theorem intercalate_append {items : List (List Char)} (given : items ≠ [])
    (more : List (List Char)) :
    List.intercalate [mark] (items ++ more) =
      List.intercalate [mark] items ++ List.intercalate [mark] ([] :: more) := by
  induction items with
  | nil => exact absurd rfl given
  | cons item rest ih =>
    cases rest with
    | nil => cases more <;> simp [List.intercalate]
    | cons next others =>
      have := ih (List.cons_ne_nil next others)
      simp_all [List.intercalate]

/-- Pieces joined with the mark between them are the text again. -/
theorem intercalate_pieces (cs : List Char) : List.intercalate [mark] (pieces mark cs) = cs := by
  induction cs with
  | nil => rfl
  | cons c rest ih =>
    rw [pieces]
    cases first : pieces mark rest with
    | nil => exact absurd first (pieces_ne_nil mark rest)
    | cons piece others =>
      rw [first] at ih
      split
      · rename_i same
        simp [List.intercalate, ← ih, same]
      · cases others <;> simp_all [List.intercalate]

/-- Trimming the start stops at a character that is no blank. -/
theorem trimStart_append_cons {c : Char} (solid : isBlank c = false) (front rest : List Char) :
    trimStart (front ++ c :: rest) = trimStart front ++ c :: rest := by
  induction front with
  | nil => exact List.dropWhile_cons_of_neg (by simp [solid])
  | cons d more ih =>
    cases blank : isBlank d with
    | true =>
      have skip (tail : List Char) : trimStart (d :: tail) = trimStart tail :=
        List.dropWhile_cons_of_pos blank
      rw [List.cons_append, skip, skip, ih]
    | false =>
      have stop (tail : List Char) : trimStart (d :: tail) = d :: tail :=
        List.dropWhile_cons_of_neg (by simp [blank])
      rw [List.cons_append, stop, stop]
      rfl

/-- Trimming the end stops at a character that is no blank. -/
theorem trimEnd_append_cons {c : Char} (solid : isBlank c = false) (front rest : List Char) :
    trimEnd (front ++ c :: rest) = front ++ c :: trimEnd rest := by
  have turned : (front ++ c :: rest).reverse = rest.reverse ++ c :: front.reverse := by simp
  rw [trimEnd, turned, trimStart_append_cons solid, trimEnd]
  simp

theorem trimStart_of_blanks {cs : List Char} (blanks : ∀ c ∈ cs, isBlank c = true) :
    trimStart cs = [] := by
  induction cs with
  | nil => rfl
  | cons c rest ih =>
    rw [List.forall_mem_cons] at blanks
    rw [trimStart, List.dropWhile_cons_of_pos blanks.1]
    exact ih blanks.2

theorem trimEnd_of_blanks {cs : List Char} (blanks : ∀ c ∈ cs, isBlank c = true) :
    trimEnd cs = [] := by
  rw [trimEnd, trimStart_of_blanks (by simpa using blanks), List.reverse_nil]

/-- Trimming leaves what stands between two characters that are no blanks. -/
theorem trimmed_append_cons {lead : List Char} (blanks : ∀ c ∈ lead, isBlank c = true) {c d : Char}
    (solid : isBlank c = false ∧ isBlank d = false) (inner tail : List Char) :
    trimmed (lead ++ c :: (inner ++ d :: tail)) = c :: (inner ++ d :: trimEnd tail) := by
  rw [trimmed, trimStart_append_cons solid.1, trimStart_of_blanks blanks, List.nil_append,
    ← List.cons_append, trimEnd_append_cons solid.2, List.cons_append]

theorem trimmed_isInfix (cs : List Char) : trimmed cs <:+: cs :=
  (trimEnd_isPrefix (trimStart cs)).isInfix.trans (trimStart_suffix cs).isInfix

end DesignToCode.Text
