import Checkup.Score
import Mathlib.Algebra.Order.Field.Basic
import Mathlib.Data.Nat.Prime.Basic
import Mathlib.Data.Rat.Cast.Order
import Mathlib.Data.Rat.Lemmas
import Mathlib.Tactic.Linarith
import Mathlib.Tactic.Positivity

/-!
# Scores as numbers

A finite double-precision number stands for a rational number. A fraction of at most 53 binary
digits becomes a double that stands for it, so the score stands for the points that it is made from.
These are halves: what the findings leave of two hundred of them. The more findings there are, the
lower is the score.
-/

namespace Checkup

namespace Double

/-- The number that a double stands for, if it is finite. -/
def value? : Double → Option ℚ
  | finite negative significand exponent =>
    some ((if negative then -1 else 1) * significand * 2 ^ exponent)
  | infinite _ => none
  | notANumber => none

/-- Both doubles are finite, and the first stands for a number that is at most the second one. -/
def Le (x y : Double) : Prop := ∃ p ∈ x.value?, ∃ q ∈ y.value?, p ≤ q

lemma le_of_halves {x y : Double} {m n : Nat} (hx : x.value? = some ((m : ℚ) / 2))
    (hy : y.value? = some ((n : ℚ) / 2)) (h : m ≤ n) : x.Le y :=
  ⟨_, hx, _, hy, div_le_div_of_nonneg_right (Nat.cast_le.mpr h) zero_le_two⟩

/-- The double stands for a score. -/
def IsScore (x : Double) : Prop :=
  ∃ errors warnings notes, x.value? = (qualityScore errors warnings notes).value?

lemma scale_neg (n d m : Nat) : scale n d (-(m : Int)) = (n * 2 ^ m, d) := by
  unfold scale
  by_cases h : -(m : Int) < 0
  · rw [if_pos h, neg_neg, Int.toNat_natCast]
    rfl
  · obtain rfl : m = 0 := by omega
    simp

lemma roundHalfEven_mul (n : Nat) {d : Nat} (hd : 0 < d) : roundHalfEven (n * d) d = n := by
  unfold roundHalfEven
  simp [Nat.mul_div_cancel n hd, hd]

/-- A fraction of so few binary digits is not rounded, only its significand is made long. -/
lemma ofRatio_two_pow {n k : Nat} (hpos : n ≠ 0) (hn : n < 2 ^ 53) (hk : k ≤ 1000) :
    ofRatio false n (2 ^ k) =
      .finite false (n * 2 ^ (52 - n.log2)) (-((52 - n.log2 + k : Nat) : Int)) := by
  have hlog : n.log2 ≤ 52 := Nat.le_of_lt_succ ((Nat.log2_lt hpos).mpr hn)
  have hlow : 2 ^ 52 ≤ n * 2 ^ (52 - n.log2) := by
    calc 2 ^ 52 = 2 ^ n.log2 * 2 ^ (52 - n.log2) := by rw [← Nat.pow_add]; congr 1; omega
      _ ≤ n * 2 ^ (52 - n.log2) := Nat.mul_le_mul_right _ (Nat.log2_self_le hpos)
  have hhigh : n * 2 ^ (52 - n.log2) < 2 ^ 53 := by
    calc n * 2 ^ (52 - n.log2) < 2 ^ (n.log2 + 1) * 2 ^ (52 - n.log2) :=
          Nat.mul_lt_mul_of_pos_right Nat.lt_log2_self (Nat.two_pow_pos _)
      _ = 2 ^ 53 := by rw [← Nat.pow_add]; congr 1; omega
  have hexponent :
      (n.log2 : Int) - ((2 ^ k).log2 : Int) - 52 = -((52 - n.log2 + k : Nat) : Int) := by
    rw [Nat.log2_two_pow]
    omega
  have hnumerator : n * 2 ^ (52 - n.log2 + k) = n * 2 ^ (52 - n.log2) * 2 ^ k := by
    rw [Nat.pow_add, Nat.mul_assoc]
  have hmin :
      max (-((52 - n.log2 + k : Nat) : Int)) minExponent = -((52 - n.log2 + k : Nat) : Int) := by
    unfold minExponent
    omega
  have hquotient : n * 2 ^ (52 - n.log2) * 2 ^ k / 2 ^ k = n * 2 ^ (52 - n.log2) :=
    Nat.mul_div_cancel _ (Nat.two_pow_pos k)
  have hlow' : ¬n * 2 ^ (52 - n.log2) < Nat.pow 2 52 := Nat.not_lt.mpr hlow
  have hhigh' : n * 2 ^ (52 - n.log2) ≠ Nat.pow 2 53 := Nat.ne_of_lt hhigh
  unfold ofRatio
  simp only [hpos, if_false, hexponent, scale_neg, hnumerator, hquotient, hlow', hmin,
    roundHalfEven_mul _ (Nat.two_pow_pos k), hhigh']
  rw [if_neg (by omega)]

lemma value?_ofRatio_two_pow {n k : Nat} (hn : n < 2 ^ 53) (hk : k ≤ 1000) :
    (ofRatio false n (2 ^ k)).value? = some ((n : ℚ) / 2 ^ k) := by
  by_cases hpos : n = 0
  · subst hpos
    simp [ofRatio, value?]
  · rw [ofRatio_two_pow hpos hn hk]
    simp only [value?, Bool.false_eq_true, if_false, one_mul, zpow_neg, zpow_natCast, pow_add,
      Nat.cast_mul, Nat.cast_pow, Nat.cast_ofNat]
    rw [mul_inv, ← mul_assoc, mul_inv_cancel_right₀ (by positivity), div_eq_mul_inv]

/-- A rational number with so few binary digits is a double. -/
theorem value?_ofRat {n k : Nat} (hn : n < 2 ^ 53) (hk : k ≤ 1000) :
    (ofRat (n / 2 ^ k)).value? = some ((n : ℚ) / 2 ^ k) := by
  obtain ⟨q, hq⟩ : ∃ q : ℚ, q = n / 2 ^ k := ⟨_, rfl⟩
  have hdiv : q = Rat.divInt (n : Int) ((2 ^ k : Nat) : Int) := by
    rw [hq, Rat.divInt_eq_div]
    push_cast
    rfl
  have hnonneg : 0 ≤ q := by
    rw [hq]
    positivity
  obtain ⟨j, hj, hden⟩ : ∃ j ≤ k, q.den = 2 ^ j := by
    apply (Nat.dvd_prime_pow Nat.prime_two).mp
    rw [hdiv]
    exact_mod_cast Rat.den_dvd (n : Int) ((2 ^ k : Nat) : Int)
  obtain ⟨m, hm⟩ := Int.eq_ofNat_of_zero_le (Rat.num_nonneg.mpr hnonneg)
  have hvalue : q = m / 2 ^ j := by
    rw [← Rat.num_div_den q, hm, hden]
    push_cast
    rfl
  have hle : m ≤ n := by
    have hcross : m * 2 ^ k = n * 2 ^ j := by
      rw [hq, div_eq_div_iff (by positivity) (by positivity)] at hvalue
      exact_mod_cast hvalue.symm
    have hpow : 2 ^ j ≤ 2 ^ k := Nat.pow_le_pow_right two_pos hj
    apply Nat.le_of_mul_le_mul_right _ (Nat.two_pow_pos k)
    rw [hcross]
    exact Nat.mul_le_mul_left n hpow
  rw [← hq, ofRat, hm, hden, Int.natAbs_natCast, decide_eq_false (by omega),
    value?_ofRatio_two_pow (Nat.lt_of_le_of_lt hle hn) (Nat.le_trans hj hk), hvalue]

lemma value?_ofRat_half {n : Nat} (hn : n < 2 ^ 53) :
    (ofRat (n / 2)).value? = some ((n : ℚ) / 2) := by
  have hvalue := value?_ofRat hn (by decide : 1 ≤ 1000)
  rwa [pow_one] at hvalue

end Double

variable {errors warnings notes errors' warnings' notes' : Nat}

/-- The score in halves for these numbers of findings. -/
def halfPoints (errors warnings notes : Nat) : Nat := 200 - (10 * errors + 4 * warnings + notes)

lemma penalty_eq (errors warnings notes : Nat) :
    penalty errors warnings notes = ((10 * errors + 4 * warnings + notes : Nat) : ℚ) / 2 := by
  unfold penalty Severity.penalty
  push_cast
  linarith

/-- The upper bound is never reached from above, and at the lower one nothing is left. -/
lemma points_eq (errors warnings notes : Nat) :
    points errors warnings notes = (halfPoints errors warnings notes : ℚ) / 2 := by
  unfold points clamp halfPoints
  rw [penalty_eq]
  obtain ⟨cost, hcost⟩ : ∃ cost, cost = 10 * errors + 4 * warnings + notes := ⟨_, rfl⟩
  rw [← hcost]
  have hnonneg : (0 : ℚ) ≤ cost := Nat.cast_nonneg cost
  rcases Nat.le_total cost 200 with h | h
  · have hle : (cost : ℚ) ≤ 200 := by exact_mod_cast h
    rw [if_neg (by linarith), if_neg (by linarith), Nat.cast_sub h, Nat.cast_ofNat]
    linarith
  · have hle : (200 : ℚ) ≤ cost := by exact_mod_cast h
    rw [Nat.sub_eq_zero_of_le h, Nat.cast_zero, zero_div]
    split_ifs <;> linarith

lemma halfPoints_le (errors warnings notes : Nat) : halfPoints errors warnings notes ≤ 200 := by
  unfold halfPoints
  omega

lemma halfPoints_anti (herrors : errors ≤ errors') (hwarnings : warnings ≤ warnings')
    (hnotes : notes ≤ notes') :
    halfPoints errors' warnings' notes' ≤ halfPoints errors warnings notes := by
  unfold halfPoints
  omega

lemma qualityScore_eq (errors warnings notes : Nat) :
    qualityScore errors warnings notes = .ofRat ((halfPoints errors warnings notes : ℚ) / 2) := by
  rw [qualityScore, points_eq]

/-- The score is not rounded. -/
theorem value?_qualityScore (errors warnings notes : Nat) :
    (qualityScore errors warnings notes).value? =
      some ((halfPoints errors warnings notes : ℚ) / 2) := by
  have hle := halfPoints_le errors warnings notes
  rw [qualityScore_eq, Double.value?_ofRat_half (by omega)]

/-- More findings of any kind do not make a score higher. -/
theorem qualityScore_anti (herrors : errors ≤ errors') (hwarnings : warnings ≤ warnings')
    (hnotes : notes ≤ notes') :
    (qualityScore errors' warnings' notes').Le (qualityScore errors warnings notes) := by
  apply Double.le_of_halves (value?_qualityScore _ _ _) (value?_qualityScore _ _ _)
  exact halfPoints_anti herrors hwarnings hnotes

end Checkup
