import DesignToCode.Capability.Retry

set_option autoImplicit false

namespace DesignToCode

namespace Tries

variable {ε α : Type} {policy : RetryPolicy} {overlong : ε} {attempt : Nat → Attempt ε α}

/-- What the failures of the first so many attempts told last of a limit on the rate. -/
def limitedBefore (attempt : Nat → Attempt ε α) : Nat → Bool
  | 0 => false
  | k + 1 =>
    match attempt k with
    | .failed _ told => told.getD (limitedBefore attempt k)
    | _ => limitedBefore attempt k

/-- The pause behind an attempt. -/
def pauseBehind (policy : RetryPolicy) (attempt : Nat → Attempt ε α) (k : Nat) : Option Binary64 :=
  policy.delay? (k + 1) (limitedBefore attempt (k + 1))

/-- What attempts come to with the one of a number as the last. -/
inductive EndsAt (policy : RetryPolicy) (overlong : ε) (attempt : Nat → Attempt ε α) (last : Nat) :
    Except ε α → Prop
  | succeeded {value : α} (tried : attempt last = .succeeded value) :
      EndsAt policy overlong attempt last (.ok value)
  | stopped {failure : ε} (tried : attempt last = .stopped failure) :
      EndsAt policy overlong attempt last (.error failure)
  | exhausted {failure : ε} {told : Option Bool} (tried : attempt last = .failed failure told)
      (none : last = policy.retries) : EndsAt policy overlong attempt last (.error failure)
  | overlong {failure : ε} {told : Option Bool} (tried : attempt last = .failed failure told)
      (more : last < policy.retries) (untold : pauseBehind policy attempt last = none) :
      EndsAt policy overlong attempt last (.error overlong)

/-- How attempts went from the one of number `first` to the one of number `last`. -/
structure Course (policy : RetryPolicy) (overlong : ε) (attempt : Nat → Attempt ε α)
    (first last : Nat) (tries : Tries ε α) : Prop where
  within : first ≤ last ∧ last ≤ policy.retries
  made : tries.made = last + 1
  failed : ∀ k, first ≤ k → k < last → ∃ failure told, attempt k = .failed failure told
  paused : tries.delays.map some =
    (List.range' first (last - first)).map (pauseBehind policy attempt)
  ends : EndsAt policy overlong attempt last tries.result

theorem limitedBefore_succ {k : Nat} {failure : ε} {told : Option Bool}
    (tried : attempt k = .failed failure told) :
    limitedBefore attempt (k + 1) = told.getD (limitedBefore attempt k) := by
  rw [limitedBefore, tried]

/-- One attempt that failed, and its pause, in front of a course of further attempts. -/
theorem Course.after {first last : Nat} {tries : Tries ε α} {failure : ε} {told : Option Bool}
    {delay : Binary64} (later : Course policy overlong attempt (first + 1) last tries)
    (tried : attempt first = .failed failure told)
    (pause : pauseBehind policy attempt first = some delay) :
    Course policy overlong attempt first last (Tries.after delay tries) where
  within := ⟨by have := later.within.1; omega, later.within.2⟩
  made := later.made
  failed := by
    intro k low high
    by_cases here : k = first
    · exact ⟨failure, told, here ▸ tried⟩
    · exact later.failed k (by omega) high
  paused := by
    have more : last - first = last - (first + 1) + 1 := by
      have := later.within.1
      omega
    rw [Tries.after, List.map_cons, more, List.range'_succ, List.map_cons, pause, later.paused]
  ends := later.ends

/-- An attempt that is the last one, with as many allowed behind it as the policy leaves. -/
theorem Course.one {last left : Nat} {result : Except ε α}
    (ends : EndsAt policy overlong attempt last result) (allowed : last + left = policy.retries) :
    Course policy overlong attempt last last ⟨result, last + 1, []⟩ where
  within := ⟨Nat.le_refl last, by omega⟩
  made := rfl
  failed := by
    intro k low high
    omega
  paused := by simp
  ends := ends

/-- From any attempt on. -/
theorem exists_course_run {limited : Bool} {made left : Nat}
    (known : limited = limitedBefore attempt made) (allowed : made + left = policy.retries) :
    ∃ last, Course policy overlong attempt made last
      (run policy overlong attempt limited made left) := by
  fun_induction run policy overlong attempt limited made left with
  | case1 left limited made value tried =>
    exact ⟨made, .one (.succeeded tried) allowed⟩
  | case2 left limited made failure tried =>
    exact ⟨made, .one (.stopped tried) allowed⟩
  | case3 limited made failure told tried =>
    exact ⟨made, .one (.exhausted tried (by omega)) allowed⟩
  | case4 limited made failure told left tried latest untold =>
    have same : latest = limitedBefore attempt (made + 1) := by
      rw [limitedBefore_succ tried, ← known]
    refine ⟨made, .one (.overlong tried (by omega) ?_) allowed⟩
    rw [pauseBehind, ← same]
    exact untold
  | case5 limited made failure told left tried latest delay pause ih =>
    have same : latest = limitedBefore attempt (made + 1) := by
      rw [limitedBefore_succ tried, ← known]
    obtain ⟨last, later⟩ := ih same (by omega)
    refine ⟨last, later.after tried ?_⟩
    rw [pauseBehind, ← same]
    exact pause

theorem exists_course (policy : RetryPolicy) (overlong : ε) (attempt : Nat → Attempt ε α) :
    ∃ last, Course policy overlong attempt 0 last (ofPolicy policy overlong attempt) :=
  exists_course_run rfl (Nat.zero_add _)

/-- Attempts go on until one succeeds or the policy allows no more, where `outcome` says what each
of them comes to. -/
structure Persists (limit : Nat) (outcome : Nat → Except ε α) (tries : Tries ε α) : Prop where
  made_le : tries.made ≤ 1 + limit
  ofSuccess : ∀ k value, k ≤ limit → outcome k = .ok value →
    (∀ i < k, ∃ failure, outcome i = .error failure) →
      tries.result = .ok value ∧ tries.made = k + 1 ∧ tries.delays.length = k ∧ tries.repeated = k
  ofFailures : (∀ k ≤ limit, ∃ failure, outcome k = .error failure) →
    tries.result = outcome limit ∧ tries.made = limit + 1 ∧ tries.delays.length = limit

/-- Either all of some outcomes are failures, or there is a first success. -/
theorem failures_or_success (outcome : Nat → Except ε α) (limit : Nat) :
    (∀ k ≤ limit, ∃ failure, outcome k = .error failure) ∨
      ∃ k value, k ≤ limit ∧ outcome k = .ok value ∧
        ∀ i < k, ∃ failure, outcome i = .error failure := by
  induction limit with
  | zero =>
    cases first : outcome 0 with
    | ok value => exact .inr ⟨0, value, Nat.le_refl 0, first, nofun⟩
    | error failure =>
      refine .inl fun k none => ⟨failure, ?_⟩
      rw [Nat.le_zero.mp none, first]
  | succ limit ih =>
    rcases ih with failures | ⟨k, value, within, success, before⟩
    · cases last : outcome (limit + 1) with
      | ok value =>
        exact .inr ⟨limit + 1, value, Nat.le_refl _, last, fun i early => failures i (by omega)⟩
      | error failure =>
        refine .inl fun k within => ?_
        by_cases here : k = limit + 1
        · exact ⟨failure, here ▸ last⟩
        · exact failures k (by omega)
    · exact .inr ⟨k, value, by omega, success, before⟩

namespace Course

variable {last : Nat} {tries : Tries ε α}

theorem length_delays (course : Course policy overlong attempt 0 last tries) :
    tries.delays.length = last := by
  simpa using congrArg List.length course.paused

theorem getElem?_delays (course : Course policy overlong attempt 0 last tries) {i : Nat}
    (before : i < last) : tries.delays[i]? = pauseBehind policy attempt i := by
  have within : i < tries.delays.length := by
    rw [course.length_delays]
    exact before
  have here := congrArg (·[i]?) course.paused
  simpa [before, within] using here

/-- Behind failures, attempts persist exactly if they come to what the last one comes to, and this
is a success or leaves none to follow. -/
theorem persists_iff (course : Course policy overlong attempt 0 last tries)
    {outcome : Nat → Except ε α} (failed : ∀ k < last, ∃ failure, outcome k = .error failure) :
    Persists policy.retries outcome tries ↔
      tries.result = outcome last ∧
        (last = policy.retries ∨ ∃ value, outcome last = .ok value) := by
  have made := course.made
  have paused := course.length_delays
  have within := course.within.2
  constructor
  · intro persists
    rcases failures_or_success outcome policy.retries with
      failures | ⟨k, value, allowed, success, before⟩
    · obtain ⟨same, count, -⟩ := persists.ofFailures failures
      have final : last = policy.retries := by omega
      exact ⟨final ▸ same, .inl final⟩
    · obtain ⟨same, count, -⟩ := persists.ofSuccess k value allowed success before
      have final : last = k := by omega
      rw [final]
      exact ⟨same.trans success.symm, .inr ⟨value, success⟩⟩
  · rintro ⟨same, final⟩
    refine ⟨by omega, ?_, ?_⟩
    · intro k value allowed success before
      have here : k = last := by
        rcases Nat.lt_trichotomy k last with early | here | late
        · obtain ⟨failure, none⟩ := failed k early
          rw [success] at none
          cases none
        · exact here
        · obtain ⟨failure, none⟩ := before last late
          rcases final with exhausted | ⟨value, given⟩
          · omega
          · rw [given] at none
            cases none
      subst here
      refine ⟨same.trans success, made, paused, ?_⟩
      rw [repeated, made, Nat.add_sub_cancel]
    · intro failures
      have exhausted : last = policy.retries := by
        rcases final with exhausted | ⟨value, given⟩
        · exact exhausted
        · obtain ⟨failure, none⟩ := failures last within
          rw [given] at none
          cases none
      rw [← exhausted]
      exact ⟨same, made, paused⟩

end Course

end Tries

end DesignToCode
