import DesignToCode.Proofs.Capability.Fences

set_option autoImplicit false

namespace DesignToCode.Extraction

open DesignToCode.Text
open DesignToCode.Json (IsText isSpace)

/-- Words without a fence and without a brace. -/
structure IsPlain (cs : List Char) : Prop where
  noFence : ¬fence <:+: cs
  noOpening : '\x7b' ∉ cs
  noClosing : '\x7d' ∉ cs

theorem isPlain_of_space {space : List Char} (all : ∀ c ∈ space, isSpace c = true) :
    IsPlain space where
  noFence := noFence_of_notMem (Json.notMem_of_space all)
  noOpening := fun member => absurd (all _ member) (by decide)
  noClosing := fun member => absurd (all _ member) (by decide)

theorem IsPlain.within {cs part : List Char} (h : IsPlain cs) (infixed : part <:+: cs) :
    IsPlain part where
  noFence := fun inside => h.noFence (inside.trans infixed)
  noOpening := fun member => h.noOpening (infixed.subset member)
  noClosing := fun member => h.noClosing (infixed.subset member)

/-- Plain words put together are plain if no fence can reach from the first into the second. -/
theorem IsPlain.append {front back : List Char} (first : IsPlain front) (second : IsPlain back)
    (apart : '\x60' ∉ front ∨ '\x60' ∉ back) : IsPlain (front ++ back) where
  noFence := by
    intro inside
    have marks : ∀ c ∈ fence, c = '\x60' := by simp [fence]
    rcases isInfix_append_cases inside with here | there | ⟨⟨c, last, mark⟩, d, head, mark'⟩
    · exact first.noFence here
    · exact second.noFence there
    · obtain rfl := marks c mark
      obtain rfl := marks d mark'
      exact apart.elim (· (List.mem_of_getLast? last)) (· (List.mem_of_head? head))
  noOpening := by simp [first.noOpening, second.noOpening]
  noClosing := by simp [first.noClosing, second.noClosing]

/-- A text that goes on with a brace behind words without a fence does not start with one. -/
theorem not_isPrefixOf_brace {front : List Char} (noFence : ¬fence <:+: front) (rest : List Char) :
    fence.isPrefixOf (front ++ '\x7b' :: rest) = false := by
  rw [Bool.eq_false_iff]
  intro opens
  obtain ⟨tail, begins⟩ := List.isPrefixOf_iff_prefix.mp opens
  obtain ⟨more, rfl⟩ := exists_append_of_append_cons fence begins.symm (by decide)
  exact noFence (List.prefix_append fence more).isInfix

/-- The words before the first brace are left out. -/
theorem braced?_of_notMem {front : List Char} (plain : '\x7b' ∉ front) (rest : List Char) :
    braced? (front ++ rest) = braced? rest := by
  have others : ∀ c ∈ front, (c != '\x7b') = true := by
    intro c member
    rw [bne_iff_ne]
    rintro rfl
    exact plain member
  rw [braced?, List.dropWhile_append_of_pos others, ← braced?]

section Object

variable {front text back : List Char} {fields : List (Json.Word × Json.Coded)}

/-- An object between plain words opens no block, whatever its strings hold. -/
theorem block?_of_isText (h : IsText text (.obj fields)) (before : IsPlain front)
    (behind : IsPlain back) : block? (front ++ (text ++ back)) = none := by
  obtain ⟨inner, shape⟩ := exists_braces h
  have skip : block? (front ++ (text ++ back)) = block? (text ++ back) := by
    refine block?_append ?_
    intro cs given within
    refine blockAt?_of_not_isPrefixOf ?_
    have noFence := (before.within within.isInfix).noFence
    simpa [shape] using not_isPrefixOf_brace noFence (inner ++ ['\x7d'] ++ back)
  rw [skip, block?_of_quoted h.quoted, block?_of_noFence behind.noFence]

/-- The outermost braces are those of the object. -/
theorem braced?_of_isText (h : IsText text (.obj fields)) (before : IsPlain front)
    (behind : IsPlain back) : braced? (front ++ (text ++ back)) = some text := by
  obtain ⟨inner, rfl⟩ := exists_braces h
  rw [braced?_of_notMem before.noOpening]
  simpa using braced?_append inner behind.noClosing

theorem unfenced_of_isText (h : IsText text (.obj fields)) (before : IsPlain front) :
    unfenced (front ++ (text ++ back)) = front ++ (text ++ back) := by
  obtain ⟨inner, rfl⟩ := exists_braces h
  have apart := not_isPrefixOf_brace before.noFence (inner ++ ['\x7d'] ++ back)
  rw [unfenced]
  exact if_neg (Bool.eq_false_iff.mp apart)

/-- Trimming stops at the braces of an object. -/
theorem trimmed_of_isText (h : IsText text (.obj fields)) :
    trimmed (front ++ (text ++ back)) = trimStart front ++ (text ++ trimEnd back) := by
  obtain ⟨inner, rfl⟩ := exists_braces h
  have split (front back : List Char) : front ++ ('\x7b' :: (inner ++ ['\x7d']) ++ back) =
      front ++ '\x7b' :: inner ++ '\x7d' :: back := by
    simp
  have start : trimStart (front ++ ('\x7b' :: (inner ++ ['\x7d']) ++ back)) =
      trimStart front ++ ('\x7b' :: (inner ++ ['\x7d']) ++ back) :=
    trimStart_append_cons (by decide) front _
  rw [trimmed, start, split, trimEnd_append_cons (by decide), ← split]

end Object

/-- An object between words that have neither a fence nor a brace is what is found in the whole, if
the whole is refused as no document. -/
theorem document_between_words {front doc back : List Char} {fields : List (Json.Word × Json.Coded)}
    {defect : Json.Defect} {position : Nat} (read : Json.parse doc = .ok (.obj fields))
    (before : IsPlain front) (behind : IsPlain back)
    (refused : Json.parse (trimmed (front ++ (doc ++ back))) =
      .error (.malformed defect position)) :
    document (.str (String.ofList (front ++ (doc ++ back)))) = .ok (some (.obj fields)) := by
  obtain ⟨lead, text, tail, rfl, leading, trailing, h⟩ := Json.exists_text_of_parse read
  have shape : front ++ (lead ++ (text ++ tail) ++ back) =
      (front ++ lead) ++ (text ++ (tail ++ back)) := by
    simp
  have plainBefore : IsPlain (trimStart (front ++ lead)) :=
    (before.append (isPlain_of_space leading) (.inr (Json.notMem_of_space leading))).within
      (trimStart_suffix _).isInfix
  have plainBehind : IsPlain (trimEnd (tail ++ back)) :=
    ((isPlain_of_space trailing).append behind (.inl (Json.notMem_of_space trailing))).within
      (trimEnd_isPrefix _).isInfix
  have given : (front ++ lead) ++ (text ++ (tail ++ back)) ≠ [] := by simp [h.given]
  rw [shape, trimmed_of_isText h] at refused
  rw [shape, document_str given, trimmed_of_isText h, unfenced_of_isText h plainBefore, candidates,
    block?_of_isText h plainBefore plainBehind, braced?_of_isText h plainBefore plainBehind,
    List.cons_append, firstDocument_of_malformed refused]
  exact firstDocument_of_parse (parse_of_isText h) []

/-- A string of the object holds a fenced block with a brace in it. -/
def fencedString : List Char := "\x7b\"code\": \"```json\\n\x7d\\n```\"\x7d".toList

theorem fencedString_document :
    document (.str (String.ofList
        ("Layout: ".toList ++ (fencedString ++ "\n(`one` page)".toList)))) =
      .ok (some (.obj [("code", .str "```json\n\x7d\n```")])) := by
  have read : Json.parse fencedString = .ok (.obj [("code", .str "```json\n\x7d\n```")]) := by
    have written : fencedString = ['\x7b', '\x22', 'c', 'o', 'd', 'e', '\x22', ':', ' ', '\x22',
        '\x60', '\x60', '\x60', 'j', 's', 'o', 'n', '\\', 'n', '\x7d', '\\', 'n', '\x60', '\x60',
        '\x60', '\x22', '\x7d'] := by decide
    rw [written]
    rfl
  have before : IsPlain "Layout: ".toList :=
    ⟨noFence_of_notMem (by decide), by decide, by decide⟩
  have behind : IsPlain "\n(`one` page)".toList := ⟨by decide, by decide, by decide⟩
  have refused : Json.parse (trimmed
      ("Layout: ".toList ++ (fencedString ++ "\n(`one` page)".toList))) =
        .error (.malformed .noValue 0) := by
    rfl
  exact document_between_words read before behind refused

end DesignToCode.Extraction
