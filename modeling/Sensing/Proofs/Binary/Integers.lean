import Sensing.Proofs.Binary.Rounding

/-!
# Integers among the numbers of a format

A format has every integer that its significand can hold (`amounts_ofInt_exact`). Integers beyond
are rounded, but never across one of those, so comparing with an integer that the format has is
comparing integers (`le_ofInt_iff`, `ofInt_le_iff`).

In the other direction, `Nearest` says what the integer next to a number is, without saying how it
is found. There is only one, it lies within all integer bounds that the number lies within, and it
is what `toIntClamped` comes to between the bounds of the latter (`toIntClamped_nearest`).
-/

namespace Sensing

-- `^` is the power of core, also beside a library that brings a more general one.
attribute [local instance (2000)] instPowNat

namespace Precision

/-- The gap at the magnitude of an integer that the significand holds is at most one. -/
theorem gap_le_scale (p : Precision) {a : Nat} (positive : a ≠ 0) (h : a < 2 ^ p.digits) :
    p.gap (a * 2 ^ p.scale) ≤ p.scale := by
  have log : a.log2 < p.digits := (Nat.log2_lt positive).2 h
  have shifted : (a * 2 ^ p.scale).log2 = a.log2 + p.scale := by
    refine (Nat.log2_eq_iff (Nat.mul_ne_zero positive (Nat.ne_of_gt (Nat.two_pow_pos _)))).2 ?_
    rw [Nat.pow_add, Nat.add_right_comm, Nat.pow_add]
    exact ⟨Nat.mul_le_mul_right _ (Nat.log2_self_le positive),
      Nat.mul_lt_mul_of_pos_right Nat.lt_log2_self (Nat.two_pow_pos _)⟩
  unfold gap
  omega

/-- So such an integer is not rounded. -/
theorem nearest_mul_pow {p : Precision} (digits : 0 < p.digits) {a : Nat} (h : a < 2 ^ p.digits) :
    p.nearest (a * 2 ^ p.scale) = a * 2 ^ p.scale := by
  by_cases zero : a = 0
  · rw [zero, Nat.zero_mul, nearest_zero digits]
  · have gap := gap_le_scale p zero h
    unfold nearest
    generalize p.gap (a * 2 ^ p.scale) = k at gap
    have split : a * 2 ^ p.scale = a * 2 ^ (p.scale - k) * 2 ^ k := by
      rw [Nat.mul_assoc, ← Nat.pow_add, Nat.sub_add_cancel gap]
    rw [split, roundHalfEven_mul _ (Nat.two_pow_pos k)]

end Precision

/-! ## The integer next to a number -/

/-- How many of the smallest numbers one is. -/
def Precision.one (p : Precision) : Nat := 2 ^ p.scale

theorem Precision.one_pos (p : Precision) : 0 < p.one := Nat.two_pow_pos _

/-- An integer is next to the number that is `x` times the smallest one: no integer is nearer, and
if another one is as near, then this is the one further from zero. -/
structure Nearest (p : Precision) (x n : Int) : Prop where
  near : 2 * (n * p.one - x).natAbs ≤ p.one
  away : 2 * (n * p.one - x).natAbs = p.one → x.natAbs ≤ (n * p.one).natAbs

namespace Nearest

variable {p : Precision} {x n m : Int}

/-- Multiples of one are as far apart as their factors, at least. -/
theorem mul_one_le (p : Precision) {a b : Int} (h : a ≤ b) : a * p.one ≤ b * p.one :=
  Int.mul_le_mul_of_nonneg_right h (Int.natCast_nonneg _)

/-- Of two integers next to a number neither is greater. -/
theorem le (hn : Nearest p x n) (hm : Nearest p x m) : n ≤ m := by
  refine Int.not_lt.1 fun greater => ?_
  -- They would be one apart and the number halfway between them, so further from zero than one.
  have positive := p.one_pos
  have apart := mul_one_le p (a := m + 1) (b := n) (by omega)
  rw [Int.add_mul, Int.one_mul] at apart
  have := hn.near
  have := hm.near
  rcases Int.lt_or_le m 0 with negative | natural
  · rcases Int.lt_or_le 0 n with positive | negative
    · have wide := mul_one_le p (a := m + 2) (b := n) (by omega)
      rw [Int.add_mul] at wide
      omega
    · have := mul_one_le p negative
      have := hn.away (by omega)
      omega
  · have := mul_one_le p natural
    have := hm.away (by omega)
    omega

/-- So there is only one. -/
theorem unique (hn : Nearest p x n) (hm : Nearest p x m) : n = m :=
  Int.le_antisymm (hn.le hm) (hm.le hn)

/-- It is within the integer bounds that the number is within. -/
theorem within (h : Nearest p x n) {least greatest : Int} (above : least * p.one ≤ x)
    (below : x ≤ greatest * p.one) : least ≤ n ∧ n ≤ greatest := by
  have positive := p.one_pos
  have near := h.near
  refine ⟨Int.not_lt.1 fun less => ?_, Int.not_lt.1 fun more => ?_⟩
  · have apart := mul_one_le p (a := n + 1) (b := least) (by omega)
    rw [Int.add_mul, Int.one_mul] at apart
    omega
  · have apart := mul_one_le p (a := greatest + 1) (b := n) (by omega)
    rw [Int.add_mul, Int.one_mul] at apart
    omega

end Nearest

namespace Binary

variable {p : Precision} {a b v : Binary p} {x y : Int} {n m : Int}

/-- Rounding away from zero comes to the integer next to a number. -/
theorem nearest_roundAway (p : Precision) (negative : Bool) (units : Nat) :
    Nearest p (signedUnits negative units) (roundAway negative units p) := by
  -- Adding half of the divisor before dividing rounds up exactly where the remainder is a half or
  -- more.
  have positive := p.one_pos
  have half :
      (2 * units + 2 ^ p.scale) / 2 ^ (p.scale + 1) = (2 * units + p.one) / (2 * p.one) := by
    rw [Nat.pow_succ, Nat.mul_comm _ 2]
    rfl
  have division := Nat.div_add_mod (2 * units + p.one) (2 * p.one)
  have remainder := Nat.mod_lt (2 * units + p.one) (Nat.mul_pos Nat.two_pos positive)
  rw [Nat.mul_assoc, Nat.mul_comm p.one] at division
  unfold signedUnits roundAway
  dsimp only
  rw [half]
  generalize (2 * units + p.one) / (2 * p.one) = n at division
  have product : ((n : Nat) : Int) * p.one = (n * p.one : Nat) := (Int.natCast_mul _ _).symm
  cases negative with
  | false =>
    simp only [Bool.false_eq_true, if_false]
    constructor <;> rw [product] <;> omega
  | true =>
    simp only [if_true]
    constructor <;> rw [Int.neg_mul, product] <;> omega

/-! ## Numbers by their multiples of the smallest one -/

/-- A finite number is so many times the smallest one. -/
def Amounts (a : Binary p) (x : Int) : Prop :=
  ∃ negative units holds, a = .finite negative units holds ∧ signedUnits negative units = x

/-- Numbers are compared as their multiples are. -/
theorem Amounts.le_iff (ha : a.Amounts x) (hb : b.Amounts y) : a.le b = true ↔ x ≤ y := by
  obtain ⟨s, u, hu, rfl, rfl⟩ := ha
  obtain ⟨t, v, hv, rfl, rfl⟩ := hb
  exact decide_eq_true_iff

/-- Whatever lies between two finite numbers is finite. -/
theorem amounts_of_between (ha : a.Amounts x) (hb : b.Amounts y) (lower : a.le v = true)
    (upper : v.le b = true) : ∃ z, v.Amounts z := by
  obtain ⟨s, u, hu, rfl, -⟩ := ha
  obtain ⟨t, w, hw, rfl, -⟩ := hb
  cases v with
  | nan => cases lower
  | infinite negative =>
    cases negative with
    | true => cases lower
    | false => cases upper
  | finite r k hk => exact ⟨_, r, k, hk, rfl, rfl⟩

/-- Every number between integer bounds is taken to the integer next to it, whatever wider bounds
are in force. -/
theorem toIntClamped_nearest {lower upper least greatest : Int} (h : v.Amounts x)
    (above : least * p.one ≤ x) (below : x ≤ greatest * p.one) (hl : lower ≤ least)
    (hu : greatest ≤ upper) : Nearest p x (v.toIntClamped lower upper) := by
  obtain ⟨s, u, hs, rfl, rfl⟩ := h
  have nearest := nearest_roundAway p s u
  obtain ⟨ge, le⟩ := nearest.within above below
  have unclamped : max lower (min upper (roundAway s u p)) = roundAway s u p := by omega
  show Nearest p _ (max lower (min upper (roundAway s u p)))
  rw [unclamped]
  exact nearest

/-! ## Integers -/

variable (digits : 0 < p.digits)
include digits

/-- A format whose numbers reach beyond its significand has the integers of the significand. -/
theorem amounts_ofInt_exact (reach : p.digits + p.scale < p.reach) (h : n.natAbs < 2 ^ p.digits) :
    (ofInt p n).Amounts (n * p.one) := by
  obtain ⟨holds, finite⟩ := ofInt_eq_finite digits reach h
  refine ⟨_, _, holds, finite, ?_⟩
  have magnitude : p.nearest (n.natAbs * 2 ^ p.scale) = n.natAbs * p.one :=
    Precision.nearest_mul_pow digits h
  rw [magnitude]
  unfold signedUnits
  by_cases negative : n < 0
  · have absolute : ((n.natAbs : Nat) : Int) = -n := by omega
    rw [decide_eq_true negative, if_pos rfl, Int.natCast_mul, absolute, Int.neg_mul, Int.neg_neg]
  · have absolute : ((n.natAbs : Nat) : Int) = n := by omega
    rw [decide_eq_false negative, if_neg Bool.false_ne_true, Int.natCast_mul, absolute]

/-- Within reach an integer has a finite number next to it, whether or not the significand holds it.
-/
theorem amounts_ofInt {bits : Nat} (reach : bits + p.scale < p.reach) (h : n.natAbs < 2 ^ bits) :
    ∃ x, (ofInt p n).Amounts x := by
  obtain ⟨holds, finite⟩ := ofInt_eq_finite digits reach h
  exact ⟨_, _, _, holds, finite, rfl⟩

variable (bits : Nat) (wide : p.digits ≤ bits) (reach : bits + p.scale < p.reach)
include wide reach

/-- An integer that the format has is compared with any other one as integers are. -/
theorem le_ofInt_iff (hm : m.natAbs + 1 < 2 ^ p.digits) (hn : n.natAbs < 2 ^ bits) :
    (ofInt p m).le (ofInt p n) = true ↔ m ≤ n := by
  have exact : p.digits + p.scale < p.reach := by omega
  have widened : 2 ^ p.digits ≤ 2 ^ bits := Nat.pow_le_pow_right Nat.two_pos wide
  refine ⟨fun le => Int.not_lt.1 fun less => ?_, ofInt_le_ofInt digits reach (by omega) hn⟩
  -- The integer before it is one that the format has as well.
  have before : (m - 1).natAbs < 2 ^ p.digits := by omega
  obtain ⟨x, hx⟩ := amounts_ofInt digits reach hn
  have h₁ := amounts_ofInt_exact digits exact (n := m) (by omega)
  have h₂ := amounts_ofInt_exact digits exact before
  have below := (hx.le_iff h₂).1
    (ofInt_le_ofInt digits reach hn (by omega) (Int.le_sub_one_of_lt less))
  have above := (h₁.le_iff hx).1 le
  have positive := p.one_pos
  rw [Int.sub_mul, Int.one_mul] at below
  omega

/-- And so is any other one with it. -/
theorem ofInt_le_iff (hm : m.natAbs + 1 < 2 ^ p.digits) (hn : n.natAbs < 2 ^ bits) :
    (ofInt p n).le (ofInt p m) = true ↔ n ≤ m := by
  have exact : p.digits + p.scale < p.reach := by omega
  have widened : 2 ^ p.digits ≤ 2 ^ bits := Nat.pow_le_pow_right Nat.two_pos wide
  refine ⟨fun le => Int.not_lt.1 fun less => ?_, ofInt_le_ofInt digits reach hn (by omega)⟩
  have after : (m + 1).natAbs < 2 ^ p.digits := by omega
  obtain ⟨x, hx⟩ := amounts_ofInt digits reach hn
  have h₁ := amounts_ofInt_exact digits exact (n := m) (by omega)
  have h₂ := amounts_ofInt_exact digits exact after
  have above := (h₂.le_iff hx).1
    (ofInt_le_ofInt digits reach (by omega) hn (Int.add_one_le_of_lt less))
  have below := (hx.le_iff h₁).1 le
  have positive := p.one_pos
  rw [Int.add_mul, Int.one_mul] at above
  omega

end Binary

end Sensing
