import Blocklist.Number.Binary64
import Mathlib.Algebra.Order.Ring.Rat
import Mathlib.Data.Nat.Log
import Mathlib.Tactic.NormNum

/-!
# Powers of two as floating-point numbers

A power of two up to that of 1023 is a floating-point number, and all greater ones are too large
(`Binary64.round_two_pow`).
-/

namespace Blocklist.Binary64

variable {b i : Nat}

theorem roundDiv_mul (hb : 0 < b) (n : Nat) : roundDiv (n * b) b = n := by
  rw [roundDiv, Nat.mul_mod_left, Nat.mul_div_cancel n hb]
  simp [hb]

/-- A power of two is a mantissa with one bit of 53 that is set. -/
theorem scaled_two_pow (i : Nat) : ∃ b > 0, scaled (2 ^ i) 1 (i - 52) = (2 ^ 52 * b, b) := by
  rcases Nat.lt_or_ge i 52 with hi | hi
  · refine ⟨1, Nat.one_pos, ?_⟩
    have he : (i : Int) - 52 = .negSucc (51 - i) := by omega
    rw [he, scaled]
    show (2 ^ i * 2 ^ (51 - i + 1), 1) = _
    rw [← Nat.pow_add, show i + (51 - i + 1) = 52 by omega, Nat.mul_one]
  · obtain ⟨k, rfl⟩ := Nat.exists_eq_add_of_le hi
    refine ⟨2 ^ k, Nat.two_pow_pos k, ?_⟩
    have he : ((52 + k : Nat) : Int) - 52 = .ofNat k := by
      rw [Int.ofNat_eq_natCast]
      omega
    rw [he, scaled, Nat.pow_add, Nat.one_mul]
    rfl

theorem exponentFor_two_pow (i : Nat) : exponentFor (2 ^ i) 1 = i - 52 := by
  obtain ⟨b, hb, hscaled⟩ := scaled_two_pow i
  have hd : ((2 ^ i : Nat).log2 : Int) - (1 : Nat).log2 = i := by
    rw [Nat.log2_two_pow]
    exact sub_zero _
  have hlarge : ¬ 2 ^ 52 * b < b * Nat.pow 2 52 := by
    rw [Nat.mul_comm]
    exact Nat.lt_irrefl _
  rw [exponentFor, hd, hscaled]
  dsimp only
  rw [if_neg hlarge]
  omega

theorem ofFraction_two_pow (negative : Bool) (i : Nat) :
    ofFraction negative (2 ^ i) 1 =
      if i < 1024 then .finite negative (2 ^ 52) (i - 52) else .infinite negative := by
  obtain ⟨b, hb, hscaled⟩ := scaled_two_pow i
  rw [ofFraction, if_neg (Nat.two_pow_pos i).ne', exponentFor_two_pow]
  dsimp only
  rw [hscaled]
  dsimp only
  rw [roundDiv_mul hb, if_neg (show ¬ 2 ^ 52 = Nat.pow 2 53 by decide)]
  dsimp only
  by_cases hi : i < 1024
  · rw [if_pos hi, if_neg (by omega)]
  · rw [if_neg hi, if_pos (by omega)]

theorem toAmount_two_pow (i : Nat) : (finite false (2 ^ 52) (i - 52)).toAmount = .finite (2 ^ i) := by
  have hfraction : ∃ q > 0, fraction (2 ^ 52) (i - 52) = (2 ^ i * q, q) := by
    rcases Nat.lt_or_ge i 52 with hi | hi
    · refine ⟨2 ^ (52 - i), Nat.two_pow_pos _, ?_⟩
      have he : (i : Int) - 52 = .negSucc (51 - i) := by omega
      rw [he, fraction, ← Nat.pow_add, show i + (52 - i) = 52 by omega, show 52 - i = 51 - i + 1 by omega]
      rfl
    · obtain ⟨k, rfl⟩ := Nat.exists_eq_add_of_le hi
      refine ⟨1, Nat.one_pos, ?_⟩
      have he : ((52 + k : Nat) : Int) - 52 = .ofNat k := by
        rw [Int.ofNat_eq_natCast]
        omega
      rw [he, fraction, Nat.pow_add, Nat.mul_one]
      rfl
  obtain ⟨q, hq, hfraction⟩ := hfraction
  have hq : (q : Rat) ≠ 0 := Nat.cast_ne_zero.2 hq.ne'
  rw [toAmount, hfraction]
  simp only [Bool.false_eq_true, if_false]
  rw [Nat.cast_mul, mul_div_cancel_right₀ _ hq, Nat.cast_pow, Nat.cast_ofNat]

/-- A power of two rounds to itself, as long as it is not too large. -/
theorem round_two_pow (i : Nat) : round (2 ^ i) = if i < 1024 then .finite (2 ^ i) else .infinite false := by
  have hcast : (2 ^ i : Rat) = ((2 ^ i : Nat) : Rat) := by norm_cast
  have hrat : ofRat (2 ^ i) = ofFraction false (2 ^ i) 1 := by
    rw [ofRat, hcast, Rat.num_natCast, Rat.den_natCast, Int.natAbs_natCast]
    rw [decide_eq_false (not_lt.2 (Nat.cast_nonneg _))]
  rw [round, hrat, ofFraction_two_pow]
  split
  · exact toAmount_two_pow i
  · rfl

end Blocklist.Binary64
