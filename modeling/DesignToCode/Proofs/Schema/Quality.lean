import DesignToCode.Schema.Quality

set_option autoImplicit false

namespace DesignToCode

def Confidence.rank : Confidence → Nat
  | .low => 0
  | .medium => 1
  | .high => 2

def Adjustment.rank : Adjustment → Nat
  | .none => 0
  | .minor => 1
  | .moderate => 2
  | .major => 3

instance : LE Confidence := ⟨fun a b => a.rank ≤ b.rank⟩

instance : LE Adjustment := ⟨fun a b => a.rank ≤ b.rank⟩

instance (a b : Confidence) : Decidable (a ≤ b) := inferInstanceAs (Decidable (a.rank ≤ b.rank))

instance (a b : Adjustment) : Decidable (a ≤ b) := inferInstanceAs (Decidable (a.rank ≤ b.rank))

theorem Confidence.low_le (level : Confidence) : .low ≤ level := Nat.zero_le _

theorem Confidence.le_high (level : Confidence) : level ≤ .high := by cases level <;> decide

theorem Confidence.le_refl (level : Confidence) : level ≤ level := Nat.le_refl _

theorem Adjustment.none_le (level : Adjustment) : .none ≤ level := Nat.zero_le _

namespace Quality

/-- Even the middle between a limit and the number above it lies below one. -/
def IsBelowOne (limit : Binary64) : Prop :=
  ∃ m e, limit = .finite false m e ∧
    (2 * m + 1) * Nat.pow 2 (e - 1).toNat < Nat.pow 2 (1 - e).toNat

theorem isBelowOne_highShare : IsBelowOne highShare :=
  ⟨7205759403792794, -56, by decide, by decide⟩

theorem isBelowOne_mediumShare : IsBelowOne mediumShare :=
  ⟨5404319552844595, -54, by decide, by decide⟩

/-- One more of both moves a quotient towards one, that is, not down below a limit. -/
theorem nearestAtMost_of_succ {num den m : Nat} {e : Int}
    (below : (2 * m + 1) * Nat.pow 2 (e - 1).toNat < Nat.pow 2 (1 - e).toNat)
    (within : nearestAtMost (num + 1) (den + 1) m e = true) :
    0 < den ∧ nearestAtMost num den m e = true := by
  simp only [nearestAtMost, Nat.mul_assoc, Bool.or_eq_true, Bool.and_eq_true, decide_eq_true_eq,
    beq_iff_eq] at within ⊢
  generalize (2 * m + 1) * Nat.pow 2 (e - 1).toNat = limit at *
  generalize Nat.pow 2 (1 - e).toNat = unit at *
  have under : (num + 1) * unit ≤ (den + 1) * limit := by
    rcases within with less | ⟨equal, -⟩ <;> omega
  rw [Nat.succ_mul, Nat.succ_mul] at under
  have strict : num * unit < den * limit := by omega
  refine ⟨?_, .inl strict⟩
  rw [Nat.pos_iff_ne_zero]
  rintro rfl
  rw [Nat.zero_mul] at strict
  exact absurd strict (Nat.not_lt_zero _)

theorem shareAtMost_of_succ {limit : Binary64} (below : IsBelowOne limit) {num den : Int}
    (num_nonneg : 0 ≤ num) (den_nonneg : 0 ≤ den)
    (within : shareAtMost (num + 1) (den + 1) limit = true) :
    den ≠ 0 ∧ shareAtMost num den limit = true := by
  obtain ⟨m, e, rfl, below⟩ := below
  rw [shareAtMost, if_neg (by omega), Int.natAbs_add_of_nonneg num_nonneg (by decide),
    Int.natAbs_add_of_nonneg den_nonneg (by decide)] at within
  obtain ⟨positive, within⟩ := nearestAtMost_of_succ below within
  refine ⟨by omega, ?_⟩
  rw [shareAtMost]
  split
  · rfl
  · exact within

theorem structuralConfidence_of_ne {s : Signals} (some : s.structuralItems ≠ 0) :
    structuralConfidence s =
      if shareAtMost s.unresolved s.structuralItems highShare then .high
      else if shareAtMost s.unresolved s.structuralItems mediumShare then .medium
      else .low :=
  if_neg some

/-- One more item that is unresolved never raises the structural confidence. -/
theorem structuralConfidence_le {s t : Signals} (unresolved_nonneg : 0 ≤ s.unresolved)
    (items_nonneg : 0 ≤ s.structuralItems) (unresolved : t.unresolved = s.unresolved + 1)
    (items : t.structuralItems = s.structuralItems + 1) :
    structuralConfidence t ≤ structuralConfidence s := by
  have step {limit : Binary64} (below : IsBelowOne limit) :=
    shareAtMost_of_succ below unresolved_nonneg items_nonneg
  rw [structuralConfidence_of_ne (s := t) (by omega), unresolved, items]
  split
  · rename_i high
    obtain ⟨some, within⟩ := step isBelowOne_highShare high
    rw [structuralConfidence_of_ne some, if_pos within]
    exact Confidence.le_refl _
  · split
    · rename_i medium
      obtain ⟨some, within⟩ := step isBelowOne_mediumShare medium
      rw [structuralConfidence_of_ne some, if_pos within]
      split
      · exact Confidence.le_high _
      · exact Confidence.le_refl _
    · exact Confidence.low_le _

/-- More ambiguities never raise the confidence, if the scores stay. -/
theorem overallConfidence_le {s t : Signals} (scores : t.weakestConfidence = s.weakestConfidence)
    {few many : Nat} (more : few ≤ many) : overallConfidence t many ≤ overallConfidence s few := by
  unfold overallConfidence
  rw [scores]
  dsimp only
  generalize confidenceOf s.weakestConfidence = level
  split
  · exact Confidence.low_le _
  · rename_i within
    rw [if_neg (show ¬ few > 5 by omega)]
    split
    · split
      · exact Confidence.le_refl _
      · rename_i capped _
        rw [capped.2]
        decide
    · rename_i free
      rw [if_neg fun (both : few > 1 ∧ level = .high) => free ⟨by omega, both.2⟩]
      exact Confidence.le_refl _

theorem ambiguityAdjustment_le {few many : Nat} (more : few ≤ many) :
    ambiguityAdjustment few ≤ ambiguityAdjustment many := by
  unfold ambiguityAdjustment
  split
  · exact Adjustment.none_le _
  · rw [if_neg (show many ≠ 0 by omega)]
    split
    · split
      · decide
      · split <;> decide
    · rw [if_neg (show ¬ many ≤ 2 by omega)]
      split
      · split <;> decide
      · rw [if_neg (show ¬ many ≤ 5 by omega)]
        decide

theorem raiseAdjustment_le {a b : Adjustment} (less : a ≤ b) :
    raiseAdjustment a ≤ raiseAdjustment b := by
  revert less
  cases a <;> cases b <;> decide

/-- More ambiguities never lessen the need for adjustment. -/
theorem adjustment_le {few many : Nat} (more : few ≤ many) (visual : Confidence) :
    adjustment few visual ≤ adjustment many visual := by
  unfold adjustment
  split
  · exact raiseAdjustment_le (ambiguityAdjustment_le more)
  · exact ambiguityAdjustment_le more

end Quality

end DesignToCode
