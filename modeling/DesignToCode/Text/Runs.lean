set_option autoImplicit false

namespace DesignToCode.Text

/-- An ascending list of code points: outside before the first, inside from the first to just
before the second, and so on. -/
abbrev Runs := List Nat

namespace Runs

def contains : Runs → Nat → Bool
  | [], _ => false
  | flip :: rest, code => if code < flip then false else !contains rest code

@[simp] theorem contains_nil (code : Nat) : contains [] code = false := rfl

end Runs

end DesignToCode.Text
