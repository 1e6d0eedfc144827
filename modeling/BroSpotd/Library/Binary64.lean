import Mathlib.Data.Rat.Cast.Order
import Mathlib.Tactic.Linarith
import Mathlib.Tactic.NormNum
import Mathlib.Tactic.Positivity

/-! Binary64 words and the exact extended rationals they decode to. Nothing rounds
here: the only operations are the comparisons a program makes on a stored word. -/

/-- A stored binary64 word, named by its bits. -/
structure Binary64 where
  bits : BitVec 64
  deriving DecidableEq, Repr

namespace Binary64

def sign (w : Binary64) : Bool := decide (2^63 ≤ w.bits.toNat)
def exponent (w : Binary64) : Nat := w.bits.toNat / 2^52 % 2^11
def fraction (w : Binary64) : Nat := w.bits.toNat % 2^52

/-- What a word stands for; both zeros are the rational 0. -/
inductive Value where
  | finite (value : ℚ)
  | infinite (negative : Bool)
  | nan
  deriving DecidableEq

/-- The order against 0 that a comparison sees: a NaN is never positive. -/
def Value.Positive : Value → Prop
  | .finite value => 0 < value
  | .infinite negative => negative = false
  | .nan => False

/-- Exponent 0 is subnormal: the fraction without its implicit bit. -/
def magnitude (w : Binary64) : ℚ :=
  if w.exponent = 0 then (w.fraction : ℚ) / 2^1074
  else ((2^52 + w.fraction : Nat) : ℚ) * 2^w.exponent / 2^1075

def decode (w : Binary64) : Value :=
  if w.exponent = 2047 then if w.fraction = 0 then .infinite w.sign else .nan
  else .finite (if w.sign then -w.magnitude else w.magnitude)

def isNaN (w : Binary64) : Bool := decide (w.exponent = 2047 ∧ w.fraction ≠ 0)
def isZero (w : Binary64) : Bool := decide (w.bits.toNat % 2^63 = 0)

/-- `w > 0.`: sign clear, some bit set, and not past the infinity's word. -/
def isPositive (w : Binary64) : Bool :=
  decide (0 < w.bits.toNat ∧ w.bits.toNat ≤ 0x7FF0000000000000)

/-- `v == w` on doubles: a NaN equals nothing and the two zeros are equal. -/
def ieeeEq (v w : Binary64) : Bool :=
  !v.isNaN && !w.isNaN && (decide (v = w) || (v.isZero && w.isZero))

theorem magnitude_nonneg (w : Binary64) : 0 ≤ w.magnitude := by
  unfold magnitude
  split <;> positivity

theorem magnitude_pos_iff (w : Binary64) :
    0 < w.magnitude ↔ w.exponent ≠ 0 ∨ w.fraction ≠ 0 := by
  unfold magnitude
  by_cases subnormal : w.exponent = 0
  · rw [if_pos subnormal]
    simp only [subnormal, ne_eq, not_true_eq_false, false_or]
    constructor
    · rintro positive zero
      simp [zero] at positive
    · intro nonzero
      have : (0 : ℚ) < w.fraction := by exact_mod_cast Nat.pos_of_ne_zero nonzero
      positivity
  · rw [if_neg subnormal]
    simp only [ne_eq, subnormal, not_false_eq_true, true_or, iff_true]
    positivity

/-- The bit test of `w > 0.` is the order of the decoded values. -/
theorem isPositive_iff (w : Binary64) : w.isPositive = true ↔ w.decode.Positive := by
  have bound := w.bits.isLt
  have fields : w.bits.toNat / 2^52 % 2^11 = w.exponent ∧ w.bits.toNat % 2^52 = w.fraction :=
    ⟨rfl,rfl⟩
  have signed : w.sign = true ↔ 2^63 ≤ w.bits.toNat := by simp [sign]
  unfold isPositive decode
  simp only [decide_eq_true_eq]
  by_cases special : w.exponent = 2047
  · by_cases infinity : w.fraction = 0
    · cases negative : w.sign <;> simp [special,infinity,Value.Positive] <;> simp [negative] at signed <;> omega
    · cases negative : w.sign <;> simp [special,infinity,Value.Positive] <;> simp [negative] at signed <;> omega
  · rw [if_neg special]
    cases negative : w.sign
    · simp only [negative, Bool.false_eq_true, false_iff] at signed
      simp only [Bool.false_eq_true, if_false, Value.Positive, magnitude_pos_iff]
      omega
    · simp only [negative, true_iff] at signed
      have := magnitude_nonneg w
      simp only [if_true, Value.Positive]
      constructor
      · omega
      · intro positive; linarith

/-- Words below 2^53 all lie on the subnormal grid: they decode to `bits / 2^1074`. -/
theorem decode_small (w : Binary64) (small : w.bits.toNat < 2^53) :
    w.decode = .finite ((w.bits.toNat : ℚ) / 2^1074) := by
  have positive : w.sign = false := by simp [sign]; omega
  have fields : w.bits.toNat / 2^52 % 2^11 = w.exponent ∧ w.bits.toNat % 2^52 = w.fraction :=
    ⟨rfl,rfl⟩
  have ordinary : w.exponent ≠ 2047 := by omega
  simp only [decode, if_neg ordinary, positive, Bool.false_eq_true, if_false, magnitude]
  by_cases subnormal : w.exponent = 0
  · have same : w.fraction = w.bits.toNat := by omega
    rw [if_pos subnormal, same]
  · have one : w.exponent = 1 := by omega
    have same : 2^52 + w.fraction = w.bits.toNat := by omega
    rw [if_neg subnormal, one, same, pow_succ (2 : ℚ) 1074, pow_one]
    congr 1
    exact mul_div_mul_right _ _ two_ne_zero

/-- A word below 2^53 read as a double is itself only when it is 0. -/
theorem decode_small_eq_iff (w : Binary64) (small : w.bits.toNat < 2^53) :
    w.decode = .finite (w.bits.toNat : ℚ) ↔ w.bits.toNat = 0 := by
  rw [decode_small w small, Value.finite.injEq]
  constructor
  · intro same
    by_contra nonzero
    have positive : (0 : ℚ) < w.bits.toNat := by exact_mod_cast Nat.pos_of_ne_zero nonzero
    have shrinks := div_lt_self positive (one_lt_pow₀ (one_lt_two (α := ℚ)) (by decide : 1074 ≠ 0))
    exact shrinks.ne same
  · intro zero; simp [zero]

/-- The top 2^53 words, which two's complement gives to the small negative integers,
are NaNs, the negative infinity, or values below -2^64. -/
theorem decode_top (w : Binary64) (top : 2^64 - 2^53 < w.bits.toNat) :
    w.decode = .nan ∨ w.decode = .infinite true ∨
      ∃ value : ℚ, w.decode = .finite value ∧ value < -2^64 := by
  have bound := w.bits.isLt
  have negative : w.sign = true := by simp [sign]; omega
  have fields : w.bits.toNat / 2^52 % 2^11 = w.exponent ∧ w.bits.toNat % 2^52 = w.fraction :=
    ⟨rfl,rfl⟩
  by_cases special : w.exponent = 2047
  · by_cases infinity : w.fraction = 0
    · exact .inr (.inl (by simp [decode,special,infinity,negative]))
    · exact .inl (by simp [decode,special,infinity])
  · have large : w.exponent = 2046 := by omega
    refine .inr (.inr ⟨-w.magnitude, by simp [decode,special,negative], ?_⟩)
    have implicit : (2^52 : ℚ) ≤ ((2^52 + w.fraction : Nat) : ℚ) := by exact_mod_cast Nat.le_add_right _ _
    have split : (2 : ℚ)^2046 = 2^971 * 2^1075 := by rw [← pow_add]
    have grows : (2^52 * 2^971 : ℚ) ≤ w.magnitude := by
      rw [magnitude, large, if_neg (by decide), split, ← mul_assoc,
        mul_div_cancel_right₀ _ (by positivity)]
      gcongr
    have far : (2^64 : ℚ) < 2^52 * 2^971 := by
      rw [← pow_add]
      exact pow_lt_pow_right₀ one_lt_two (by decide)
    exact neg_lt_neg (far.trans_le grows)

@[simp] theorem ieeeEq_iff_of_ordinary (v w : Binary64) (ordinary : w.isNaN = false)
    (nonzero : w.isZero = false) : v.ieeeEq w = true ↔ v = w := by
  simp only [ieeeEq, ordinary, nonzero, Bool.not_false, Bool.and_true, Bool.and_false,
    Bool.or_false, Bool.and_eq_true, Bool.not_eq_true', decide_eq_true_eq]
  constructor
  · exact And.right
  · rintro rfl; exact ⟨ordinary,rfl⟩

end Binary64
