import DesignToCode.Proofs.Capability.Starts

set_option autoImplicit false

namespace DesignToCode

namespace Binary64

theorem sign_of_ofRatio {negative s : Bool} {num den m : Nat} {e : Int}
    (same : ofRatio negative num den = .finite s m e) : s = negative := by
  rw [ofRatio] at same
  split at same
  · cases same
    rfl
  · dsimp only at same
    repeat' split at same
    all_goals cases same
    all_goals rfl

theorem ofInt_thirty : ofInt 30 = .finite false (15 * Nat.pow 2 49) (-48) := by
  decide +kernel

/-- Rounding takes no whole number below thirty to thirty. -/
theorem ofInt_ne_thirty {i : Int} (low : i < 30) : ofInt i ≠ ofInt 30 := by
  by_cases below : i < 0
  · intro same
    rw [ofInt_thirty, ofInt] at same
    have sign := sign_of_ofRatio same
    simp [below] at sign
  · have few : ∀ n < 30, ofInt (n : Nat) ≠ ofInt 30 := by decide +kernel
    have other := few i.toNat (by omega)
    rwa [Int.toNat_of_nonneg (by omega)] at other

end Binary64

namespace RetryPolicy

/-- The pause doubled so many times is below the floor where the rate is limited. -/
def IsShort (p : RetryPolicy) (times : Nat) : Prop :=
  ∃ pause, p.pause? times = some pause ∧ pause.lt limitedDelay = true

theorem lt_of_lt_limitedDelay {i : Int} (short : (Number.int i).lt limitedDelay = true) :
    i < 30 := by
  rw [limitedDelay, Binary64.ofInt_thirty, Number.lt, Bool.and_eq_true] at short
  -- Both are compared at the smaller power of two, the one of the floor.
  have scaled : (!decide (15 * 562949953421312 ≤ i * 281474976710656)) = true := short.2
  have above := of_decide_eq_false ((Bool.not_eq_true' _).mp scaled)
  omega

/-- No number below the floor is told as the floor. -/
theorem binary64?_ne_of_lt {pause : Number} (short : pause.lt limitedDelay = true) :
    pause.binary64? ≠ limitedDelay.binary64? := by
  cases pause with
  | real x =>
    intro same
    cases same
    exact absurd short (by decide)
  | int i =>
    have other := Binary64.ofInt_ne_thirty (lt_of_lt_limitedDelay short)
    intro same
    rw [Number.binary64?] at same
    split at same
    · exact other (Option.some.inj same)
    · cases same

/-- A limit on the rate makes no difference exactly if the pause is not short. -/
theorem delay?_limited_iff (p : RetryPolicy) (times : Nat) :
    p.delay? (times + 1) true = p.delay? (times + 1) false ↔ ¬p.IsShort times := by
  rw [delay?, delay?, Nat.add_sub_cancel, IsShort]
  cases told : p.pause? times with
  | none => simp
  | some pause =>
    simp only [Option.bind_some, if_true, Bool.false_eq_true, if_false, Number.greatest]
    by_cases short : pause.lt limitedDelay = true
    · simpa [short] using (binary64?_ne_of_lt short).symm
    · simp [short]

end RetryPolicy

/-- A start that failed and told of a limit on the rate. -/
def Ending.tellsLimit : Ending → Bool
  | .finished code output errors =>
    match Command.Output.ofBytes output with
    | .ok o => o.isError code && Command.tellsOfLimit (o.told errors)
    | .error _ => false
  | _ => false

/-- A start that did not come to an end of its own told nothing. -/
def Ending.isSilent : Ending → Bool
  | .finished .. => false
  | _ => true

/-- A start before this one told of a limit on the rate, and since then none told anything. -/
def Lingers (ending : Nat → Ending) (i : Nat) : Prop :=
  ∃ j < i, (ending j).tellsLimit = true ∧ ∀ k, j < k → k ≤ i → (ending k).isSilent = true

theorem Ending.tellsLimit_of_isSilent {ending : Ending} (silent : ending.isSilent = true) :
    ending.tellsLimit = false := by
  cases ending with
  | finished => cases silent
  | _ => rfl

theorem not_lingers_zero (ending : Nat → Ending) : ¬Lingers ending 0 := by
  rintro ⟨j, before, _⟩
  omega

theorem lingers_succ (ending : Nat → Ending) (i : Nat) :
    Lingers ending (i + 1) ↔
      (ending (i + 1)).isSilent = true ∧ ((ending i).tellsLimit = true ∨ Lingers ending i) := by
  constructor
  · rintro ⟨j, before, limit, silent⟩
    refine ⟨silent (i + 1) before (Nat.le_refl _), ?_⟩
    by_cases here : j = i
    · exact .inl (here ▸ limit)
    · exact .inr ⟨j, by omega, limit, fun k after within => silent k after (by omega)⟩
  · rintro ⟨last, limit | ⟨j, before, limit, silent⟩⟩
    · refine ⟨i, Nat.lt_succ_self i, limit, ?_⟩
      intro k after within
      have here : k = i + 1 := by omega
      exact here ▸ last
    · refine ⟨j, by omega, limit, ?_⟩
      intro k after within
      by_cases here : k = i + 1
      · exact here ▸ last
      · exact silent k after (by omega)

namespace Command

section Pauses

variable {c : Command} {caller : String} {ending : Nat → Ending}

/-- What a failure tells of a limit on the rate. -/
theorem told_of_failed {e : Ending} {failure : CommandFailure} {told : Option Bool}
    (tried : c.attempt caller e = .failed failure told) :
    told = if e.isSilent then none else some e.tellsLimit := by
  cases e with
  | notStarted reason =>
    cases tried
    rfl
  | timedOut =>
    cases tried
    rfl
  | cancelled => cases tried
  | finished code output errors =>
    rw [attempt] at tried
    split at tried
    · cases tried
    · rename_i o read
      split at tried
      · rename_i failing
        cases tried
        simp [Ending.isSilent, Ending.tellsLimit, read, failing]
      · cases tried

/-- Behind failures the rate is held to be limited if the last one told so, or an earlier one did
and none told anything since. -/
theorem limitedBefore_iff {i : Nat}
    (failed : ∀ k ≤ i, ∃ failure told, c.attempt caller (ending k) = .failed failure told) :
    Tries.limitedBefore (fun k => c.attempt caller (ending k)) (i + 1) = true ↔
      (ending i).tellsLimit = true ∨ Lingers ending i := by
  induction i with
  | zero =>
    obtain ⟨failure, told, tried⟩ := failed 0 (Nat.le_refl 0)
    rw [Tries.limitedBefore_succ tried, told_of_failed tried]
    cases silent : (ending 0).isSilent with
    | true => simp [Tries.limitedBefore, Ending.tellsLimit_of_isSilent silent, not_lingers_zero]
    | false => simp [not_lingers_zero]
  | succ i ih =>
    obtain ⟨failure, told, tried⟩ := failed (i + 1) (Nat.le_refl _)
    have earlier := ih fun k within => failed k (by omega)
    rw [Tries.limitedBefore_succ tried, told_of_failed tried, lingers_succ, ← earlier]
    cases silent : (ending (i + 1)).isSilent with
    | true => simp [Ending.tellsLimit_of_isSilent silent]
    | false => simp

/-- A pause is longer for a limit on the rate if the start before it told of one or one lingers. -/
theorem pause_eq {i : Nat} (paused : i < (c.ask caller ending).delays.length) :
    ∃ limited, (c.ask caller ending).delays[i]? = c.retries.delay? (i + 1) limited ∧
      (limited = true ↔ (ending i).tellsLimit = true ∨ Lingers ending i) := by
  obtain ⟨last, course⟩ := c.exists_course caller ending
  rw [course.length_delays] at paused
  have failed : ∀ k ≤ i, ∃ failure told, c.attempt caller (ending k) = .failed failure told :=
    fun k within => course.failed k (Nat.zero_le k) (by omega)
  exact ⟨_, course.getElem?_delays paused, limitedBefore_iff failed⟩

/-- A limit on the rate that lingers makes the pause no shorter than the floor. -/
theorem getElem?_delays_of_lingers {i : Nat} (paused : i < (c.ask caller ending).delays.length)
    (lingers : Lingers ending i) :
    (c.ask caller ending).delays[i]? = c.retries.delay? (i + 1) true := by
  obtain ⟨limited, pause, known⟩ := pause_eq paused
  rw [pause, known.mpr (.inr lingers)]

end Pauses

/-- The pause behind a start is as long as this start calls for unless a limit on the rate lingers
that makes it longer. -/
theorem getElem?_delays_iff (c : Command) (caller : String) (ending : Nat → Ending) {i : Nat}
    (paused : i < (c.ask caller ending).delays.length) :
    (c.ask caller ending).delays[i]? = c.retries.delay? (i + 1) (ending i).tellsLimit ↔
      ¬(Lingers ending i ∧ c.retries.IsShort i) := by
  by_cases lingers : Lingers ending i
  · have silent : (ending i).isSilent = true := by
      obtain ⟨j, before, _, silent⟩ := lingers
      exact silent i before (Nat.le_refl i)
    rw [getElem?_delays_of_lingers paused lingers, Ending.tellsLimit_of_isSilent silent,
      RetryPolicy.delay?_limited_iff]
    simp [lingers]
  · obtain ⟨limited, pause, known⟩ := pause_eq paused
    have same : limited = (ending i).tellsLimit := by
      rw [Bool.eq_iff_iff, known]
      simp [lingers]
    simp [pause, same, lingers]

/-- A start that tells of a limit on the rate, one that is not made, and then one that answers. -/
def throttled : Nat → Ending
  | 0 => .finished 1 [] (bytesOf "HTTP 429")
  | 1 => .notStarted "no such file"
  | _ => answering

/-- A command whose second pause is above the floor. -/
def leisurely : Command := { retries := ⟨2, .int 40⟩ }

theorem throttled_leisurely :
    1 < (leisurely.ask "Layout" throttled).delays.length ∧
      (leisurely.ask "Layout" throttled).delays[1]? =
        leisurely.retries.delay? 2 (throttled 1).tellsLimit := by
  have paused : 1 < (leisurely.ask "Layout" throttled).delays.length := by decide +kernel
  refine ⟨paused, (getElem?_delays_iff leisurely "Layout" throttled paused).mpr ?_⟩
  rintro ⟨_, pause, told, short⟩
  cases told
  exact absurd short (by decide)

/-- A command with the first pause of ten seconds, which is started at most three times. -/
def thrice : Command := { retries := { maxRetries := 2 } }

/-- The second pause is the floor, though the start before it told nothing. -/
theorem not_forall_getElem?_delays :
    ¬∀ (c : Command) (caller : String) (ending : Nat → Ending) (i : Nat),
      i < (c.ask caller ending).delays.length →
        (c.ask caller ending).delays[i]? = c.retries.delay? (i + 1) (ending i).tellsLimit := by
  intro always
  have paused : 1 < (thrice.ask "Layout" throttled).delays.length := by decide +kernel
  have longer : (thrice.ask "Layout" throttled).delays[1]? ≠
      thrice.retries.delay? 2 (throttled 1).tellsLimit := by
    decide +kernel
  exact longer (always thrice "Layout" throttled 1 paused)

end Command

end DesignToCode
