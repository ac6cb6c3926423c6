import DesignToCode.Capability.Extraction
import DesignToCode.Proofs.Json.Documents
import DesignToCode.Proofs.Text.Lines

set_option autoImplicit false

namespace DesignToCode.Extraction

open DesignToCode.Text
open DesignToCode.Json (Quoted isSpace)

theorem isBlank_of_isSpace {c : Char} (h : isSpace c = true) : isBlank c = true := by
  have all : ∀ c ∈ [' ', '\t', '\n', '\r'], isBlank c = true :=
    forall_mem_of_all (by decide)
  exact all c (Json.isSpace_cases h)

theorem isBlank_of_space {cs : List Char} (space : ∀ c ∈ cs, isSpace c = true) :
    ∀ c ∈ cs, isBlank c = true := fun c member => isBlank_of_isSpace (space c member)

theorem blockAt?_of_not_isPrefixOf {cs : List Char} (apart : fence.isPrefixOf cs = false) :
    blockAt? cs = none := by
  rw [blockAt?, apart]
  rfl

theorem blockAt?_of_ne {c : Char} (other : c ≠ '\x60') (rest : List Char) :
    blockAt? (c :: rest) = none := by
  refine blockAt?_of_not_isPrefixOf ?_
  simp [fence, List.isPrefixOf, other.symm]

theorem afterBreaks_of_oneLine {front : List Char} (oneLine : '\n' ∉ front) {c : Char}
    (solid : isBlank c = false) (found : List (List Char)) (rest : List Char) :
    afterBreaks found (front ++ c :: rest) = found := by
  induction front with
  | nil => simp [afterBreaks, solid]
  | cons d more ih =>
    rw [List.mem_cons, not_or] at oneLine
    rw [List.cons_append, afterBreaks, if_neg (Ne.symm oneLine.1), ih oneLine.2]
    exact ite_self found

/-- Before a quotation mark on its line no block opens. -/
theorem blockAt?_of_quote {front : List Char} (oneLine : '\n' ∉ front) (rest : List Char) :
    blockAt? (front ++ '\x22' :: rest) = none := by
  unfold blockAt?
  split
  · rename_i opens
    obtain ⟨tail, begins⟩ := List.isPrefixOf_iff_prefix.mp opens
    obtain ⟨more, rfl⟩ := exists_append_of_append_cons fence begins.symm (by decide)
    rw [List.append_assoc, List.drop_left]
    have oneLine : '\n' ∉ more := fun member => oneLine (List.mem_append_right fence member)
    dsimp only
    split
    · rename_i named
      obtain ⟨tail, begins⟩ := List.isPrefixOf_iff_prefix.mp named
      obtain ⟨more, rfl⟩ := exists_append_of_append_cons label begins.symm (by decide)
      have oneLine : '\n' ∉ more := fun member => oneLine (List.mem_append_right label member)
      rw [List.append_assoc, List.drop_left, afterBreaks_of_oneLine oneLine (by decide)]
      rfl
    · rw [afterBreaks_of_oneLine oneLine (by decide)]
      rfl
  · rfl

/-- The first block is not within a text in which none opens. -/
theorem block?_append {front rest : List Char}
    (none : ∀ cs, cs ≠ [] → cs <:+ front → blockAt? (cs ++ rest) = none) :
    block? (front ++ rest) = block? rest := by
  induction front with
  | nil => rfl
  | cons c more ih =>
    have here := none (c :: more) (List.cons_ne_nil c more) (List.suffix_refl _)
    rw [List.cons_append] at here ⊢
    rw [block?, here]
    exact ih fun cs given within => none cs given (within.trans (List.suffix_cons c more))

/-- No block opens in a text without a fence. -/
theorem block?_of_noFence {cs : List Char} (noFence : ¬fence <:+: cs) : block? cs = none := by
  have later : block? (cs ++ []) = none := by
    refine block?_append ?_
    intro part given within
    refine blockAt?_of_not_isPrefixOf (Bool.eq_false_iff.mpr ?_)
    intro opens
    rw [List.append_nil] at opens
    exact noFence ((List.isPrefixOf_iff_prefix.mp opens).isInfix.trans within.isInfix)
  rwa [List.append_nil] at later

theorem block?_of_quoted {text : List Char} (quoted : Quoted text) (rest : List Char) :
    block? (text ++ rest) = block? rest := by
  refine block?_append ?_
  rintro cs given ⟨front, rfl⟩
  obtain ⟨c, more, rfl⟩ := List.exists_cons_of_ne_nil given
  by_cases mark : c = '\x60'
  · subst mark
    obtain ⟨-, x, y, rfl, oneLine⟩ := quoted front more rfl
    have oneLine : '\n' ∉ '\x60' :: x := by simpa using oneLine
    simpa using blockAt?_of_quote oneLine (y ++ rest)
  · exact blockAt?_of_ne mark _

/-- Words without a fence, up to a line break. -/
structure IsPreamble (front : List Char) : Prop where
  noFence : ¬fence <:+: front
  ends : front = [] ∨ front.getLast? = some '\n'

theorem IsPreamble.of_suffix {front cs : List Char} (h : IsPreamble front) (within : cs <:+ front) :
    IsPreamble cs where
  noFence inside := h.noFence (inside.trans within.isInfix)
  ends := by
    obtain ⟨before, rfl⟩ := within
    rcases h.ends with empty | last
    · exact .inl (List.append_eq_nil_iff.mp empty).2
    · cases cs with
      | nil => exact .inl rfl
      | cons c rest =>
        rw [List.getLast?_append] at last
        right
        simpa using last

/-- No fence opens before the end of such words. -/
theorem IsPreamble.not_isPrefixOf {front : List Char} (h : IsPreamble front) (given : front ≠ [])
    (rest : List Char) : fence.isPrefixOf (front ++ rest) = false := by
  rw [Bool.eq_false_iff]
  intro opens
  rcases List.prefix_or_prefix_of_prefix (List.isPrefixOf_iff_prefix.mp opens)
    (List.prefix_append front rest) with within | within
  · exact h.noFence within.isInfix
  · have last := h.ends.resolve_left given
    have member := within.subset (List.mem_of_getLast? last)
    exact absurd member (by decide)

theorem block?_of_isPreamble {front : List Char} (h : IsPreamble front) (rest : List Char) :
    block? (front ++ rest) = block? rest := by
  refine block?_append ?_
  intro cs given within
  exact blockAt?_of_not_isPrefixOf ((h.of_suffix within).not_isPrefixOf given rest)

/-- Blanks that hold a line break are left up to the last one. -/
theorem exists_afterBreaks {c : Char} (solid : isBlank c = false) (rest : List Char)
    {lead : List Char}
    (space : ∀ d ∈ lead, isSpace d = true) (front : List Char)
    (before : ∀ d ∈ front, isSpace d = true) (found : List (List Char)) :
    ∃ left others, (∀ d ∈ left, isSpace d = true) ∧
      afterBreaks ((front ++ (lead ++ c :: rest)) :: found) (lead ++ c :: rest) =
        (left ++ c :: rest) :: others := by
  induction lead generalizing front found with
  | nil => exact ⟨front, found, before, by simp [afterBreaks, solid]⟩
  | cons d more ih =>
    rw [List.forall_mem_cons] at space
    have blank := isBlank_of_isSpace space.1
    by_cases lineEnd : d = '\n'
    · obtain ⟨left, others, inside, same⟩ := ih space.2 [] (by simp)
        ((front ++ (d :: more ++ c :: rest)) :: found)
      refine ⟨left, others, inside, ?_⟩
      rw [← same, List.cons_append, afterBreaks, blank, if_pos lineEnd]
      rfl
    · obtain ⟨left, others, inside, same⟩ := ih space.2 (front ++ [d])
        (List.forall_mem_append.mpr ⟨before, by simpa using space.1⟩) found
      refine ⟨left, others, inside, ?_⟩
      rw [← same, List.cons_append, afterBreaks, blank, if_neg lineEnd]
      simp

/-- The inside of a block ends at the first line that starts with a fence. -/
theorem before?_append {inside : List Char} (none : ∀ x y, inside ≠ x ++ '\n' :: '\x60' :: y)
    (rest : List Char) :
    before? ('\n' :: fence) (inside ++ '\n' :: (fence ++ rest)) = some inside := by
  induction inside with
  | nil => rfl
  | cons c more ih =>
    have later : ∀ x y, more ≠ x ++ '\n' :: '\x60' :: y := by
      rintro x y rfl
      exact none (c :: x) y rfl
    have apart : ('\n' :: fence).isPrefixOf (c :: (more ++ '\n' :: (fence ++ rest))) = false := by
      by_cases lineEnd : c = '\n'
      · subst lineEnd
        cases more with
        | nil => rfl
        | cons d more =>
          have other : '\x60' ≠ d := by
            rintro rfl
            exact none [] more rfl
          simp [fence, List.isPrefixOf, other]
      · simp [List.isPrefixOf, Ne.symm lineEnd]
    rw [List.cons_append, before?, apart, ih later]
    rfl

theorem block?_of_blockAt? {cs inside : List Char} (h : blockAt? cs = some inside) :
    block? cs = some inside := by
  cases cs with
  | nil => cases h
  | cons c rest => rw [block?, h]

/-- A block that opens at the start of a text and holds a document holds it up to white space. -/
theorem exists_block?_of_isText {lead text tail : List Char} {v : Json.Coded}
    (before : ∀ c ∈ lead, isSpace c = true) (h : Json.IsText text v)
    (solid : ∀ c ∈ text.head?, isBlank c = false) (behind : ∀ c ∈ tail, isSpace c = true)
    (back : List Char) :
    ∃ left, (∀ c ∈ left, isSpace c = true) ∧
      block? (fence ++ (label ++ '\n' :: (lead ++ (text ++ tail) ++ '\n' :: (fence ++ back)))) =
        some (left ++ (text ++ tail)) := by
  obtain ⟨c, more, rfl⟩ := List.exists_cons_of_ne_nil h.given
  obtain ⟨left, others, space, same⟩ := exists_afterBreaks (solid c rfl)
    (more ++ tail ++ '\n' :: (fence ++ back)) before [] (by simp) []
  refine ⟨left, space, block?_of_blockAt? ?_⟩
  have quoted : Quoted (left ++ (c :: more ++ tail)) :=
    (Json.quoted_of_space space).append (h.quoted.append (Json.quoted_of_space behind))
  have inside := before?_append quoted.ne_break back
  have opens : afterBreaks []
      ('\n' :: (lead ++ (c :: more ++ tail) ++ '\n' :: (fence ++ back))) =
        (left ++ (c :: more ++ tail) ++ '\n' :: (fence ++ back)) :: others := by
    simpa [afterBreaks, show isBlank '\n' = true from rfl] using same
  have start (rest : List Char) : blockAt? (fence ++ (label ++ '\n' :: rest)) =
      (afterBreaks [] ('\n' :: rest)).findSome? (before? ('\n' :: fence)) := rfl
  rw [start, opens, List.findSome?_cons, inside]

/-- From an opening brace to the last closing one. -/
theorem braced?_append (inner : List Char) {rest : List Char} (plain : '\x7d' ∉ rest) :
    braced? ('\x7b' :: (inner ++ '\x7d' :: rest)) = some ('\x7b' :: (inner ++ ['\x7d'])) := by
  have others : ∀ c ∈ rest.reverse, (c != '\x7d') = true := by
    intro c member
    have : c ≠ '\x7d' := by
      rintro rfl
      exact plain (List.mem_reverse.mp member)
    simpa using this
  have turned : ('\x7b' :: (inner ++ '\x7d' :: rest)).reverse =
      rest.reverse ++ '\x7d' :: (inner.reverse ++ ['\x7b']) := by
    simp
  have start : ('\x7b' :: (inner ++ '\x7d' :: rest)).dropWhile (· != '\x7b') =
      '\x7b' :: (inner ++ '\x7d' :: rest) := rfl
  rw [braced?, start, turned, List.dropWhile_append_of_pos others,
    List.dropWhile_cons_of_neg (by decide)]
  simp

theorem firstDocument_append (first later : List (List Char)) :
    firstDocument (first ++ later) =
      match firstDocument first with
      | .ok none => firstDocument later
      | found => found := by
  induction first with
  | nil => rfl
  | cons cs rest ih =>
    rw [List.cons_append, firstDocument, firstDocument]
    cases Json.parse cs with
    | ok v => rfl
    | error refusal =>
      cases refusal with
      | malformed defect position => exact ih
      | tooDeep inner => rfl
      | tooManyDigits n => rfl

theorem firstDocument_of_parse {cs : List Char} {v : Json.Coded} (read : Json.parse cs = .ok v)
    (later : List (List Char)) : firstDocument (cs :: later) = .ok (some v) := by
  rw [firstDocument, read]

theorem firstDocument_of_malformed {cs : List Char} {defect : Json.Defect} {position : Nat}
    (read : Json.parse cs = .error (.malformed defect position)) (later : List (List Char)) :
    firstDocument (cs :: later) = firstDocument later := by
  rw [firstDocument, read]

theorem firstDocument_of_tooDeep {cs : List Char} {inner : Json.Container}
    (read : Json.parse cs = .error (.tooDeep inner)) (later : List (List Char)) :
    firstDocument (cs :: later) = .error (.tooDeep inner) := by
  rw [firstDocument, read]

end DesignToCode.Extraction
