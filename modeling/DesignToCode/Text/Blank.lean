set_option autoImplicit false

namespace DesignToCode.Text

/-- White space of every script, the four separator controls and the next-line control included. -/
def isBlank (c : Char) : Bool :=
  let n := c.toNat
  n == 0x20 || (0x9 ≤ n && n ≤ 0xd) || (0x1c ≤ n && n ≤ 0x1f) || n == 0x85 || n == 0xa0 ||
    n == 0x1680 || (0x2000 ≤ n && n ≤ 0x200a) || n == 0x2028 || n == 0x2029 || n == 0x202f ||
    n == 0x205f || n == 0x3000

def trimStart (cs : List Char) : List Char := cs.dropWhile isBlank

def trimEnd (cs : List Char) : List Char := (trimStart cs.reverse).reverse

/-- The characters without the blanks at both ends. -/
def trimmed (cs : List Char) : List Char := trimEnd (trimStart cs)

/-- White space alone; the separator controls are none. -/
def isWhiteSpace (c : Char) : Bool := isBlank c && !(0x1c ≤ c.toNat && c.toNat ≤ 0x1f)

/-- The characters without white space at both ends. -/
def unspaced (cs : List Char) : List Char :=
  ((cs.dropWhile isWhiteSpace).reverse.dropWhile isWhiteSpace).reverse

def trim (s : String) : String := String.ofList (trimmed s.toList)

/-- Whether a text is empty or holds blanks only. -/
def blank (s : String) : Bool := (trimmed s.toList).isEmpty

theorem trimStart_of_all {cs : List Char} (h : ∀ c ∈ cs, isBlank c = false) :
    trimStart cs = cs := by
  cases cs with
  | nil => rfl
  | cons c rest => simp [trimStart, h c List.mem_cons_self]

/-- A text without blanks stays as it is. -/
theorem trimmed_of_all {cs : List Char} (h : ∀ c ∈ cs, isBlank c = false) : trimmed cs = cs := by
  have turned : ∀ c ∈ cs.reverse, isBlank c = false := by
    intro c member
    exact h c (List.mem_reverse.mp member)
  rw [trimmed, trimEnd, trimStart_of_all h, trimStart_of_all turned, List.reverse_reverse]

theorem trimStart_append {front : List Char} (given : front ≠ [])
    (clean : ∀ c ∈ front, isBlank c = false) (rest : List Char) :
    trimStart (front ++ rest) = front ++ rest := by
  cases front with
  | nil => exact absurd rfl given
  | cons c more => simp [trimStart, clean c List.mem_cons_self]

theorem trimEnd_append {back : List Char} (given : back ≠ [])
    (clean : ∀ c ∈ back, isBlank c = false) (rest : List Char) :
    trimEnd (rest ++ back) = rest ++ back := by
  have turned : ∀ c ∈ back.reverse, isBlank c = false := by
    intro c member
    exact clean c (List.mem_reverse.mp member)
  rw [trimEnd, List.reverse_append, trimStart_append (by simpa using given) turned,
    ← List.reverse_append, List.reverse_reverse]

/-- Blanks between others stay. -/
theorem trimmed_append {front back : List Char} (given : front ≠ [] ∧ back ≠ [])
    (clean : (∀ c ∈ front, isBlank c = false) ∧ ∀ c ∈ back, isBlank c = false)
    (between : List Char) :
    trimmed (front ++ between ++ back) = front ++ between ++ back := by
  rw [trimmed, List.append_assoc, trimStart_append given.1 clean.1, ← List.append_assoc,
    trimEnd_append given.2 clean.2]

theorem trimStart_suffix (cs : List Char) : trimStart cs <:+ cs := List.dropWhile_suffix _

theorem trimEnd_isPrefix (cs : List Char) : trimEnd cs <+: cs := by
  simpa [trimEnd] using List.reverse_prefix.mpr (trimStart_suffix cs.reverse)

end DesignToCode.Text
