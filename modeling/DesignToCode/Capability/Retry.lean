import DesignToCode.Number.Basic

set_option autoImplicit false

/-!
Trying something again when it failed. The pause before each attempt but the first doubles, and is
not shorter than a floor once a failure told of a limit on the rate.
-/
namespace DesignToCode

/-- How often an attempt is repeated, and the pause in seconds before the first repetition. -/
structure RetryPolicy where
  maxRetries : Int := 0
  baseDelay : Number := .real (.ofInt 10)

namespace RetryPolicy

/-- A negative number of repetitions is none. -/
def retries (p : RetryPolicy) : Nat := p.maxRetries.toNat

/-- The pause is not shorter than this where the rate is limited. -/
def limitedDelay : Number := .real (.ofInt 30)

/-- The first pause doubled so many times. A real pause is multiplied by a factor of its own format,
which has no power of two beyond its greatest. -/
def pause? (p : RetryPolicy) (times : Nat) : Option Number :=
  match p.baseDelay with
  | .int i => some (Number.doubled times (.int i))
  | .real x =>
    if times ≤ Binary64.greatestPower then some (Number.doubled times (.real x)) else none

/-- The pause before a repetition, of which the first has the number one; nothing if it cannot be
told in the binary format. -/
def delay? (p : RetryPolicy) (repetition : Nat) (limited : Bool) : Option Binary64 :=
  (p.pause? (repetition - 1)).bind fun pause =>
    (if limited then Number.greatest pause limitedDelay else pause).binary64?

end RetryPolicy

/-- How one attempt went. A failure may tell whether the rate is limited, and after an attempt that
stopped there is no other. -/
inductive Attempt (ε α : Type) where
  | succeeded (value : α)
  | failed (failure : ε) (limited : Option Bool)
  | stopped (failure : ε)

/-- What attempts came to, how many there were, and the pauses between them. -/
structure Tries (ε α : Type) where
  result : Except ε α
  made : Nat
  delays : List Binary64

namespace Tries

/-- How many attempts repeated an earlier one. -/
def repeated {ε α : Type} (tries : Tries ε α) : Nat := tries.made - 1

/-- Goes on with the value. -/
def andThen {ε α β : Type} (tries : Tries ε α) (next : α → Except ε β) : Tries ε β where
  result := tries.result.bind next
  made := tries.made
  delays := tries.delays

/-- Puts an attempt that failed, and the pause after it, in front of further attempts. -/
def after {ε α : Type} (delay : Binary64) (rest : Tries ε α) : Tries ε α :=
  { rest with delays := delay :: rest.delays }

/-- The attempts from `made` on, of which `left` may follow the first, where the rate is limited as
was told last. They also end where a pause is too long, which is told as `overlong`. -/
def run {ε α : Type} (policy : RetryPolicy) (overlong : ε) (attempt : Nat → Attempt ε α)
    (limited : Bool) (made left : Nat) : Tries ε α :=
  match attempt made, left with
  | .succeeded value, _ => ⟨.ok value, made + 1, []⟩
  | .stopped failure, _ | .failed failure _, 0 => ⟨.error failure, made + 1, []⟩
  | .failed _ told, left + 1 =>
    let limited := told.getD limited
    match policy.delay? (made + 1) limited with
    | none => ⟨.error overlong, made + 1, []⟩
    | some delay => after delay (run policy overlong attempt limited (made + 1) left)

/-- The attempts that a policy allows, up to the first that does not fail. -/
def ofPolicy {ε α : Type} (policy : RetryPolicy) (overlong : ε) (attempt : Nat → Attempt ε α) :
    Tries ε α :=
  run policy overlong attempt false 0 policy.retries

end Tries

end DesignToCode
