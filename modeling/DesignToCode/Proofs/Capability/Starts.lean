import DesignToCode.Capability.Command
import DesignToCode.Proofs.Capability.Attempts
import DesignToCode.Proofs.Json.Documents

set_option autoImplicit false

namespace DesignToCode

namespace Command

open DesignToCode.Text

/-- An output whose document is left out where none can be read. -/
def Output.lenient (bytes : List UInt8) : Output :=
  (Output.ofBytes bytes).toOption.getD ⟨trim (Utf8.decode bytes), none⟩

/-- What a start comes to, whether or not its output can be read: a command that was not started,
did not end in time, ended with a code other than zero or with an envelope that says so has failed,
and any other one has answered. -/
def outcome (c : Command) (caller : String) : Ending → Except CommandFailure CommandAnswer
  | .notStarted reason => .error (.notStarted caller reason)
  | .timedOut => .error (.timedOut caller c.timeout)
  | .cancelled => .error .cancelled
  | .finished code output errors =>
    let o := Output.lenient output
    if o.isError code then .error (.exited caller code (o.told errors)) else .ok o.answer

/-- The output is a document or none, within the limits on its numbers and its nesting. -/
def IsReadable : Ending → Prop
  | .finished _ output _ => ∃ o, Output.ofBytes output = .ok o
  | _ => True

def HasFailed (c : Command) (caller : String) (ending : Ending) : Prop :=
  ∃ failure, c.outcome caller ending = .error failure

/-- Each start that failures lead to can be read, and so can be told each pause behind failures. -/
structure Proceeds (c : Command) (caller : String) (ending : Nat → Ending) : Prop where
  readable : ∀ k ≤ c.retries.retries, (∀ i < k, c.HasFailed caller (ending i)) →
    IsReadable (ending k)
  told : ∀ k < c.retries.retries, (∀ i ≤ k, c.HasFailed caller (ending i)) →
    (Tries.pauseBehind c.retries (fun i => c.attempt caller (ending i)) k).isSome

section Starts

variable (c : Command) (caller : String)

theorem outcome_of_finished {output : List UInt8} {o : Output}
    (read : Output.ofBytes output = .ok o)
    (code : Int) (errors : List UInt8) :
    c.outcome caller (.finished code output errors) =
      if o.isError code then .error (.exited caller code (o.told errors)) else .ok o.answer := by
  have same : Output.lenient output = o := by
    rw [Output.lenient, read]
    rfl
  rw [outcome, same]

theorem attempt_of_refused {output : List UInt8} {refusal : Extraction.Refusal}
    (refused : Output.ofBytes output = .error refusal) (code : Int) (errors : List UInt8) :
    c.attempt caller (.finished code output errors) = .stopped (.unreadable refusal) := by
  simp only [attempt, refused]

/-- A start that is waited for succeeds or fails as its outcome says, or its output stops it. -/
theorem attempt_cases {ending : Ending} (kept : ending ≠ .cancelled) :
    (IsReadable ending ∧ ∃ answer, c.attempt caller ending = .succeeded answer ∧
        c.outcome caller ending = .ok answer) ∨
      (IsReadable ending ∧ ∃ failure told, c.attempt caller ending = .failed failure told ∧
        c.outcome caller ending = .error failure) ∨
      (¬IsReadable ending ∧
        ∃ refusal, c.attempt caller ending = .stopped (.unreadable refusal)) := by
  cases ending with
  | notStarted reason => exact .inr (.inl ⟨trivial, _, _, rfl, rfl⟩)
  | timedOut => exact .inr (.inl ⟨trivial, _, _, rfl, rfl⟩)
  | cancelled => exact absurd rfl kept
  | finished code output errors =>
    cases read : Output.ofBytes output with
    | error refusal =>
      refine .inr (.inr ⟨?_, refusal, c.attempt_of_refused caller read code errors⟩)
      rintro ⟨o, same⟩
      rw [read] at same
      cases same
    | ok o =>
      rw [c.outcome_of_finished caller read]
      cases failing : o.isError code with
      | true =>
        refine .inr (.inl ⟨⟨o, read⟩, .exited caller code (o.told errors),
          some (tellsOfLimit (o.told errors)), ?_, rfl⟩)
        simp only [attempt, read, failing, if_true]
      | false =>
        refine .inl ⟨⟨o, read⟩, o.answer, ?_, rfl⟩
        simp [attempt, read, failing]

/-- No outcome is that an output cannot be read or a pause cannot be told. -/
theorem outcome_ne (ending : Ending) :
    (∀ refusal, c.outcome caller ending ≠ .error (.unreadable refusal)) ∧
      c.outcome caller ending ≠ .error .overlongPause := by
  cases ending with
  | finished code output errors =>
    rw [outcome]
    split <;> exact ⟨nofun, nofun⟩
  | _ => exact ⟨nofun, nofun⟩

theorem exists_course (ending : Nat → Ending) :
    ∃ last, Tries.Course c.retries .overlongPause (fun k => c.attempt caller (ending k)) 0 last
      (c.ask caller ending) :=
  Tries.exists_course c.retries .overlongPause fun k => c.attempt caller (ending k)

variable {c caller} {ending : Nat → Ending}

theorem hasFailed_of_failed {k : Nat} (kept : ending k ≠ .cancelled) {failure : CommandFailure}
    {told : Option Bool} (tried : c.attempt caller (ending k) = .failed failure told) :
    c.outcome caller (ending k) = .error failure ∧ IsReadable (ending k) := by
  rcases c.attempt_cases caller kept with
    ⟨_, _, other, _⟩ | ⟨readable, _, _, same, fails⟩ | ⟨_, _, other⟩
  · cases tried.symm.trans other
  · cases tried.symm.trans same
    exact ⟨fails, readable⟩
  · cases tried.symm.trans other

theorem hasAnswered_of_succeeded {k : Nat} (kept : ending k ≠ .cancelled) {answer : CommandAnswer}
    (tried : c.attempt caller (ending k) = .succeeded answer) :
    c.outcome caller (ending k) = .ok answer ∧ IsReadable (ending k) := by
  rcases c.attempt_cases caller kept with
    ⟨readable, _, same, success⟩ | ⟨_, _, _, other, _⟩ | ⟨_, _, other⟩
  · cases tried.symm.trans same
    exact ⟨success, readable⟩
  · cases tried.symm.trans other
  · cases tried.symm.trans other

theorem isUnreadable_of_stopped {k : Nat} (kept : ending k ≠ .cancelled) {failure : CommandFailure}
    (tried : c.attempt caller (ending k) = .stopped failure) :
    ¬IsReadable (ending k) ∧ c.outcome caller (ending k) ≠ .error failure := by
  rcases c.attempt_cases caller kept with
    ⟨_, _, other, _⟩ | ⟨_, _, _, other, _⟩ | ⟨unreadable, refusal, same⟩
  · cases tried.symm.trans other
  · cases tried.symm.trans other
  · cases tried.symm.trans same
    exact ⟨unreadable, (c.outcome_ne caller (ending k)).1 refusal⟩

/-- Starts that end with the last one that failures lead to have proceeded, if it can be read. -/
theorem proceeds_of_course {last : Nat} (kept : ∀ k, ending k ≠ .cancelled)
    (course : Tries.Course c.retries .overlongPause (fun k => c.attempt caller (ending k)) 0 last
      (c.ask caller ending))
    (reach : ∀ k ≤ c.retries.retries, (∀ i < k, c.HasFailed caller (ending i)) → k ≤ last)
    (readable : IsReadable (ending last)) : c.Proceeds caller ending where
  readable := by
    intro k within failures
    rcases Nat.lt_or_eq_of_le (reach k within failures) with early | rfl
    · obtain ⟨failure, told, tried⟩ := course.failed k (Nat.zero_le k) early
      exact (hasFailed_of_failed (kept k) tried).2
    · exact readable
  told := by
    intro k within failures
    have early : k < last := reach (k + 1) within fun i before => failures i (by omega)
    have index : k < (c.ask caller ending).delays.length := by
      rw [course.length_delays]
      exact early
    rw [← course.getElem?_delays early, List.getElem?_eq_getElem index]
    rfl

end Starts

/-- Starts of a command that are waited for go on until one succeeds or the policy allows no more
exactly if every output that they come to can be read and every pause can be told. -/
theorem ask_persists_iff (c : Command) (caller : String) {ending : Nat → Ending}
    (kept : ∀ k, ending k ≠ .cancelled) :
    (c.ask caller ending).Persists c.retries.retries (fun k => c.outcome caller (ending k)) ↔
      c.Proceeds caller ending := by
  obtain ⟨last, course⟩ := c.exists_course caller ending
  have failed : ∀ k < last, c.HasFailed caller (ending k) := by
    intro k early
    obtain ⟨failure, told, tried⟩ := course.failed k (Nat.zero_le k) early
    exact ⟨failure, (hasFailed_of_failed (kept k) tried).1⟩
  have reach {k : Nat} (failures : ∀ i < k, c.HasFailed caller (ending i)) {answer : CommandAnswer}
      (success : c.outcome caller (ending last) = .ok answer) : k ≤ last := by
    by_contra late
    obtain ⟨failure, none⟩ := failures last (by omega)
    rw [success] at none
    cases none
  rw [course.persists_iff failed]
  have ends := course.ends
  generalize (c.ask caller ending).result = result at ends
  cases ends with
  | succeeded tried =>
    obtain ⟨success, readable⟩ := hasAnswered_of_succeeded (kept last) tried
    refine iff_of_true ⟨success.symm, .inr ⟨_, success⟩⟩ ?_
    exact proceeds_of_course kept course (fun k _ failures => reach failures success) readable
  | stopped tried =>
    obtain ⟨unreadable, other⟩ := isUnreadable_of_stopped (kept last) tried
    refine iff_of_false (fun persists => other persists.1.symm) ?_
    exact fun proceeds => unreadable (proceeds.readable last course.within.2 failed)
  | exhausted tried none =>
    obtain ⟨fails, readable⟩ := hasFailed_of_failed (kept last) tried
    refine iff_of_true ⟨fails.symm, .inl none⟩ ?_
    exact proceeds_of_course kept course (fun k within _ => none ▸ within) readable
  | overlong tried more untold =>
    have other := (c.outcome_ne caller (ending last)).2
    refine iff_of_false (fun persists => other persists.1.symm) ?_
    intro proceeds
    have fails := (hasFailed_of_failed (kept last) tried).1
    have told := proceeds.told last more fun i within => by
      rcases Nat.lt_or_eq_of_le within with early | rfl
      · exact failed i early
      · exact ⟨_, fails⟩
    rw [untold] at told
    cases told

/-- The bytes of a text in small characters. -/
def bytesOf (s : String) : List UInt8 := s.toList.map fun c => c.val.toUInt8

/-- A start that answers with a plain text. -/
def answering : Ending := .finished 0 (bytesOf "ok") []

theorem ofBytes_answering : Output.ofBytes (bytesOf "ok") = .ok ⟨"ok", none⟩ := by
  rfl

theorem outcome_answering (c : Command) (caller : String) :
    c.outcome caller answering = .ok ⟨.str "ok", none⟩ := by
  rw [answering, c.outcome_of_finished caller ofBytes_answering]
  rfl

/-- Two starts that fail, and then one that answers. -/
def faltering : Nat → Ending
  | 0 => .notStarted "no such file"
  | 1 => .timedOut
  | _ => answering

/-- A command that is started at most three times, with a whole first pause. -/
def patient : Command := { retries := ⟨2, .int 7⟩ }

theorem faltering_persists :
    (∀ k, faltering k ≠ .cancelled) ∧
      (patient.ask "Layout" faltering).Persists patient.retries.retries
        fun k => patient.outcome "Layout" (faltering k) := by
  have kept : ∀ k, faltering k ≠ .cancelled := by
    rintro (_ | _ | k) <;> exact nofun
  refine ⟨kept, (ask_persists_iff patient "Layout" kept).mpr ⟨?_, ?_⟩⟩
  · rintro (_ | _ | k) _ _
    · trivial
    · trivial
    · exact ⟨_, ofBytes_answering⟩
  · intro k within _
    have first : k = 0 ∨ k = 1 := by
      have : k < 2 := within
      omega
    rcases first with rfl | rfl <;> decide

/-- A start that fails and tells a whole number of so many digits. -/
def spilling (digits : Nat) : Ending := .finished 1 (List.replicate digits 0x31) []

theorem decodeFrom_replicate (digits : Nat) :
    Utf8.decodeFrom none (List.replicate digits 0x31) = List.replicate digits '1' := by
  induction digits with
  | zero => rfl
  | succ digits ih =>
    rw [List.replicate_succ, List.replicate_succ, Utf8.decodeFrom]
    exact congrArg ('1' :: ·) ih

theorem ofBytes_replicate {more : Nat} (long : Numeral.digitLimit < more + 1) :
    Output.ofBytes (List.replicate (more + 1) 0x31) = .error (.tooManyDigits ⟨more + 1⟩) := by
  have only : ∀ c ∈ List.replicate (more + 1) '1', isAsciiDigit c = true ∧ isBlank c = false := by
    intro c member
    rw [List.eq_of_mem_replicate member]
    decide
  have clean : trimmed (List.replicate (more + 1) '1') = List.replicate (more + 1) '1' :=
    trimmed_of_all fun c member => (only c member).2
  have refused : Json.parse (List.replicate (more + 1) '1') =
      .error (.tooManyDigits (more + 1)) := by
    have digits : ∀ d ∈ '1' :: List.replicate more '1', isAsciiDigit d = true :=
      fun d member => (only d member).1
    have length : ('1' :: List.replicate more '1').length = more + 1 := by
      rw [List.length_cons, List.length_replicate]
    have tooMany := Json.parse_of_digits (by decide) digits (length ▸ long)
    rwa [length] at tooMany
  rw [Output.ofBytes, Utf8.decode, decodeFrom_replicate, trim, String.toList_ofList, clean]
  simp only [String.toList_ofList, Extraction.firstDocument, refused]
  rfl

/-- A start that spills so many digits, and then one that answers. -/
def spilled (digits : Nat) : Nat → Ending
  | 0 => spilling digits
  | _ => answering

/-- A command that is started at most twice. -/
def hasty : Command := { retries := { maxRetries := 1 } }

/-- A command that fails with an output that cannot be read is not started again. -/
theorem not_forall_persists :
    ¬∀ (c : Command) (caller : String) (ending : Nat → Ending), (∀ k, ending k ≠ .cancelled) →
      (c.ask caller ending).Persists c.retries.retries (fun k => c.outcome caller (ending k)) := by
  intro always
  -- The number of digits stays unknown, so that nothing writes them out.
  obtain ⟨more, long⟩ : ∃ more, Numeral.digitLimit < more + 1 :=
    ⟨Numeral.digitLimit, Nat.lt_succ_self _⟩
  have kept : ∀ k, spilled (more + 1) k ≠ .cancelled := by
    rintro (_ | k) <;> exact nofun
  have stopped : hasty.attempt "Layout" (spilled (more + 1) 0) =
      .stopped (.unreadable (.tooManyDigits ⟨more + 1⟩)) :=
    hasty.attempt_of_refused "Layout" (ofBytes_replicate long) 1 []
  have once : (hasty.ask "Layout" (spilled (more + 1))).made = 1 := by
    rw [ask, Tries.ofPolicy, Tries.run.eq_def]
    simp only [stopped]
  have fails : hasty.HasFailed "Layout" (spilled (more + 1) 0) := ⟨_, rfl⟩
  have twice := (always hasty "Layout" _ kept).ofSuccess 1 _ (Nat.le_refl 1)
    (hasty.outcome_answering "Layout") fun i early => by
      rw [Nat.lt_one_iff.mp early]
      exact fails
  have made := twice.2.1
  omega

end Command

end DesignToCode
