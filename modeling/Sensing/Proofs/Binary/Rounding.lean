import Sensing.Binary.Basic

/-!
# Rounding keeps the order

A number of the format next to `x` is `nearest x`: `x` rounded to a multiple of the gap at its own
magnitude. Within one power of two the gap is fixed and rounding is monotone; across a power of two
it cannot overtake, since the powers of two are numbers of the format themselves
(`pow_le_nearest`, `nearest_le_pow`).

Main result: `ofInt_le_ofInt`, a greater integer has no lesser number nearest to it.
-/

namespace Sensing

-- `^` is the power of core, also beside a library that brings a more general one.
attribute [local instance (2000)] instPowNat

/-! ## Rounding a quotient -/

/-- Rounding does not go below the whole part. -/
theorem div_le_roundHalfEven (num den : Nat) : num / den ≤ roundHalfEven num den := by
  unfold roundHalfEven
  dsimp only
  split
  · omega
  · split <;> omega

/-- Rounding goes up by one at most. -/
theorem roundHalfEven_le (num den : Nat) : roundHalfEven num den ≤ num / den + 1 := by
  unfold roundHalfEven
  dsimp only
  split
  · omega
  · split <;> omega

/-- Rounding quotients by one divisor keeps their order. -/
theorem roundHalfEven_mono {a b : Nat} (den : Nat) (h : a ≤ b) :
    roundHalfEven a den ≤ roundHalfEven b den := by
  have quotients : a / den ≤ b / den := Nat.div_le_div_right h
  by_cases same : a / den = b / den
  · -- With one quotient the order is that of the remainders.
    have ha := Nat.div_add_mod a den
    have hb := Nat.div_add_mod b den
    rw [same] at ha
    have remainders : a % den ≤ b % den := by omega
    unfold roundHalfEven
    rw [same]
    dsimp only
    split <;> split <;> (try split) <;> (try split) <;> omega
  · have below := roundHalfEven_le a den
    have above := div_le_roundHalfEven b den
    omega

/-- A whole quotient is not rounded. -/
theorem roundHalfEven_mul (q : Nat) {den : Nat} (h : 0 < den) :
    roundHalfEven (q * den) den = q := by
  unfold roundHalfEven
  rw [Nat.mul_div_cancel q h, Nat.mul_mod_left]
  simp [h]

/-- A power of two is a whole multiple of any lesser one. -/
theorem roundHalfEven_pow {gap k : Nat} (h : gap ≤ k) :
    roundHalfEven (2 ^ k) (2 ^ gap) * 2 ^ gap = 2 ^ k := by
  have split : 2 ^ k = 2 ^ (k - gap) * 2 ^ gap := by rw [← Nat.pow_add, Nat.sub_add_cancel h]
  rw [split, roundHalfEven_mul _ (Nat.two_pow_pos gap)]

namespace Precision

/-- The multiple of the smallest number that is nearest to `units` at the gap of its magnitude. -/
def nearest (p : Precision) (units : Nat) : Nat :=
  roundHalfEven units (2 ^ p.gap units) * 2 ^ p.gap units

variable {p : Precision} (digits : 0 < p.digits) {a b : Nat}
include digits

/-- The gap at a magnitude is no more than the power of two below it. -/
theorem gap_le (units : Nat) : p.gap units ≤ units.log2 := by
  unfold gap
  omega

/-- Zero is not rounded. -/
theorem nearest_zero : p.nearest 0 = 0 := by
  have h := gap_le digits 0
  rw [Nat.log2_zero, Nat.le_zero] at h
  unfold nearest
  rw [h]
  rfl

/-- Rounding does not go below the power of two under a number. -/
theorem pow_le_nearest (h : a ≠ 0) : 2 ^ a.log2 ≤ p.nearest a := by
  have below : 2 ^ a.log2 ≤ a := Nat.log2_self_le h
  rw [← roundHalfEven_pow (gap_le digits a)]
  exact Nat.mul_le_mul_right _ (roundHalfEven_mono _ below)

/-- Rounding does not go beyond the power of two over a number. -/
theorem nearest_le_pow : p.nearest a ≤ 2 ^ (a.log2 + 1) := by
  have above : a ≤ 2 ^ (a.log2 + 1) := Nat.le_of_lt Nat.lt_log2_self
  rw [← roundHalfEven_pow (Nat.le_succ_of_le (gap_le digits a))]
  exact Nat.mul_le_mul_right _ (roundHalfEven_mono _ above)

/-- Rounding keeps the order, within one power of two and across them. -/
theorem nearest_mono (h : a ≤ b) : p.nearest a ≤ p.nearest b := by
  by_cases zero : a = 0
  · rw [zero, nearest_zero digits]
    exact Nat.zero_le _
  · have hb : b ≠ 0 := by omega
    have logs : a.log2 ≤ b.log2 := (Nat.le_log2 hb).2 (Nat.le_trans (Nat.log2_self_le zero) h)
    by_cases same : a.log2 = b.log2
    · have gaps : p.gap a = p.gap b := by unfold gap; rw [same]
      unfold nearest
      rw [gaps]
      exact Nat.mul_le_mul_right _ (roundHalfEven_mono _ h)
    · calc p.nearest a ≤ 2 ^ (a.log2 + 1) := nearest_le_pow digits
        _ ≤ 2 ^ b.log2 := Nat.pow_le_pow_right (by decide) (by omega)
        _ ≤ p.nearest b := pow_le_nearest digits hb

/-- What is rounded is a number of the format, short of its reach. -/
theorem holds_nearest {k : Nat} (reach : k < p.reach) (h : a < 2 ^ k) : p.Holds (p.nearest a) := by
  by_cases zero : a = 0
  · rw [zero, nearest_zero digits]
    exact ⟨Nat.two_pow_pos _, Nat.zero_mod _⟩
  · have above : p.nearest a ≤ 2 ^ (a.log2 + 1) := nearest_le_pow digits
    have log : a.log2 < k := (Nat.log2_lt zero).2 h
    refine ⟨?_, ?_⟩
    · calc p.nearest a ≤ 2 ^ (a.log2 + 1) := above
        _ ≤ 2 ^ k := Nat.pow_le_pow_right (by decide) log
        _ < 2 ^ p.reach := Nat.pow_lt_pow_right (by decide) reach
    · by_cases carry : p.nearest a = 2 ^ (a.log2 + 1)
      · -- The rounding carried into the next power of two, where the gap may be wider.
        rw [carry]
        refine Nat.mod_eq_zero_of_dvd (Nat.pow_dvd_pow 2 ?_)
        have h := gap_le digits (2 ^ (a.log2 + 1))
        rwa [Nat.log2_two_pow] at h
      · have below : 2 ^ a.log2 ≤ p.nearest a := pow_le_nearest digits zero
        have positive : p.nearest a ≠ 0 := by have := Nat.two_pow_pos a.log2; omega
        have log : (p.nearest a).log2 = a.log2 :=
          (Nat.log2_eq_iff positive).2 ⟨below, by omega⟩
        have gaps : p.gap (p.nearest a) = p.gap a := by unfold gap; rw [log]
        rw [gaps]
        exact Nat.mul_mod_left _ _

end Precision

namespace Binary

variable {p : Precision}

/-- An integer short of a format's reach has a finite number nearest to it. -/
theorem ofInt_eq_finite (digits : 0 < p.digits) {bits : Nat} (reach : bits + p.scale < p.reach)
    {n : Int} (h : n.natAbs < 2 ^ bits) :
    ∃ holds, ofInt p n = .finite (n < 0) (p.nearest (n.natAbs * 2 ^ p.scale)) holds := by
  have scaled : n.natAbs * 2 ^ p.scale < 2 ^ (bits + p.scale) := by
    rw [Nat.pow_add]
    exact Nat.mul_lt_mul_of_pos_right h (Nat.two_pow_pos _)
  have holds := Precision.holds_nearest digits reach scaled
  have units : ofInt p n = ofUnits p (n < 0) (p.nearest (n.natAbs * 2 ^ p.scale)) := by
    unfold ofInt ofRatio Precision.nearest
    dsimp only
    rw [Nat.div_one, Nat.one_mul]
  refine ⟨holds, ?_⟩
  rw [units, ofUnits, dif_pos holds]

/-- Going from integers to the numbers nearest to them keeps their order. -/
theorem ofInt_le_ofInt (digits : 0 < p.digits) {bits : Nat} (reach : bits + p.scale < p.reach)
    {m n : Int} (hm : m.natAbs < 2 ^ bits) (hn : n.natAbs < 2 ^ bits) (h : m ≤ n) :
    (ofInt p m).le (ofInt p n) = true := by
  obtain ⟨_, hm⟩ := ofInt_eq_finite digits reach hm
  obtain ⟨_, hn⟩ := ofInt_eq_finite digits reach hn
  have mono {a b : Nat} (h : a ≤ b) :
      p.nearest (a * 2 ^ p.scale) ≤ p.nearest (b * 2 ^ p.scale) :=
    Precision.nearest_mono digits (Nat.mul_le_mul_right _ h)
  rw [hm, hn]
  unfold le
  rw [decide_eq_true_eq]
  -- Below zero the magnitudes are ordered the other way round.
  by_cases negative : n < 0
  · have both : m < 0 := by omega
    have order := mono (a := n.natAbs) (b := m.natAbs) (by omega)
    simp only [signedUnits, both, negative, decide_true, if_true]
    omega
  · by_cases lesser : m < 0
    · simp only [signedUnits, lesser, negative, decide_true, decide_false, if_true]
      simp only [Bool.false_eq_true, if_false]
      omega
    · have order := mono (a := m.natAbs) (b := n.natAbs) (by omega)
      simp only [signedUnits, lesser, negative, decide_false, Bool.false_eq_true, if_false]
      omega

end Binary

end Sensing
