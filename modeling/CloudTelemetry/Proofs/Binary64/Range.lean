import CloudTelemetry.Binary64
import Mathlib.Algebra.Group.Nat.Defs

/-!
# Integers in the range of binary64

An integer has a nearest binary64 value unless it lies as far out as half a step beyond the greatest
one: there the tie goes to the even mantissa, which is the one that is not there
(`isFinite_ofInt_iff`).
-/

namespace CloudTelemetry

theorem roundDiv_cases (num den : Nat) :
    roundDiv num den = num / den ∧ 2 * (num % den) ≤ den ∨
      roundDiv num den = num / den + 1 ∧ den ≤ 2 * (num % den) := by
  unfold roundDiv
  dsimp only
  split
  · exact .inl ⟨rfl, by omega⟩
  · split
    · exact .inr ⟨rfl, by omega⟩
    · split
      · exact .inl ⟨rfl, by omega⟩
      · exact .inr ⟨rfl, by omega⟩

theorem roundDiv_of_odd {num den : Nat} (odd : num / den % 2 = 1) (half : den ≤ 2 * (num % den)) :
    roundDiv num den = num / den + 1 := by
  unfold roundDiv
  dsimp only
  rw [if_neg (Nat.not_lt.2 half)]
  split
  · rfl
  · rw [if_neg (by omega)]

namespace Binary64

/-- The least integer that is rounded beyond the range. -/
def leastBeyond : Nat := 2 ^ 1024 - 2 ^ 970

/-- Below `2 ^ 1024` the last quotient that fits is odd, so that a half more is rounded up. -/
theorem roundDiv_lt_iff {k d : Nat} (low : k < 2 ^ 54 * d) :
    roundDiv k (2 * d) < 2 ^ 53 ↔ k < 2 ^ 54 * d - d := by
  have pos : 0 < d := Nat.pos_of_ne_zero (by rintro rfl; omega)
  have split := Nat.div_add_mod k (2 * d)
  have rest := Nat.mod_lt k (show 0 < 2 * d by omega)
  have quotient : k / (2 * d) < 2 ^ 53 := (Nat.div_lt_iff_lt_mul (by omega)).2 (by omega)
  have rounded := roundDiv_cases k (2 * d)
  have up (last : k / (2 * d) = 2 ^ 53 - 1) (half : d ≤ k % (2 * d)) :
      roundDiv k (2 * d) = 2 ^ 53 := by
    have up := roundDiv_of_odd (show k / (2 * d) % 2 = 1 by omega) (by omega)
    omega
  rcases Nat.lt_or_ge (k / (2 * d) + 1) (2 ^ 53) with fits | last
  · have := Nat.mul_le_mul_left (2 * d) (show k / (2 * d) + 1 ≤ 2 ^ 53 - 1 by omega)
    rw [Nat.mul_succ] at this
    omega
  · have last : k / (2 * d) = 2 ^ 53 - 1 := by omega
    rw [last] at split rounded up
    omega

theorem isFinite_pack_iff (negative : Bool) (m : Nat) (e : Int) :
    (pack negative m e).isFinite = true ↔ if m < 2 ^ 53 then e ≤ 971 else e ≤ 970 := by
  unfold pack
  rw [show precision = 53 from rfl, show greatestExponent = 971 from rfl, Nat.pow_eq]
  by_cases fits : m < 2 ^ 53
  · rw [if_pos fits, if_pos fits]
    dsimp only
    split <;> simp [isFinite, *]
  · rw [if_neg fits, if_neg fits]
    dsimp only
    split <;> simp only [isFinite, true_iff, Bool.false_eq_true, false_iff] <;> omega

theorem binaryOrder_one {k : Nat} (pos : k ≠ 0) : binaryOrder k 1 = k.log2 := by
  have order := Nat.log2_self_le pos
  unfold binaryOrder
  simp only [show Nat.log2 1 = 0 from rfl, Nat.pow_eq]
  rw [if_pos]
  · omega
  · simpa using order

theorem isFinite_ofRatio_iff (negative : Bool) {k : Nat} (pos : k ≠ 0) :
    (ofRatio negative k 1).isFinite = true ↔
      if roundDiv (k * 2 ^ (52 - k.log2)) (2 ^ (k.log2 - 52)) < 2 ^ 53 then k.log2 ≤ 1023
      else k.log2 ≤ 1022 := by
  have exponent : max (binaryOrder k 1 - (precision - 1 : Nat)) leastExponent = k.log2 - 52 := by
    rw [binaryOrder_one pos, show precision = 53 from rfl, show leastExponent = -1074 from rfl]
    omega
  unfold ofRatio
  rw [if_neg pos, exponent, isFinite_pack_iff, Nat.pow_eq, Nat.pow_eq, Nat.one_mul,
    show (-((k.log2 : Int) - 52)).toNat = 52 - k.log2 by omega,
    show ((k.log2 : Int) - 52).toNat = k.log2 - 52 by omega]
  split <;> constructor <;> intro h <;> omega

theorem two_pow_of_eq_add {a b c : Nat} (h : a = b + c) : 2 ^ a = 2 ^ b * 2 ^ c :=
  h ▸ Nat.pow_add 2 b c

theorem isFinite_ofInt_iff (n : Int) : (ofInt n).isFinite = true ↔ n.natAbs < leastBeyond := by
  unfold ofInt leastBeyond
  generalize n.natAbs = k
  -- the powers are not to be computed
  have step := two_pow_of_eq_add (show 971 = 1 + 970 from rfl)
  have last := two_pow_of_eq_add (show 1023 = 53 + 970 from rfl)
  have next := two_pow_of_eq_add (show 1024 = 54 + 970 from rfl)
  have unit := Nat.two_pow_pos 970
  by_cases zero : k = 0
  · rw [zero, next]
    exact iff_of_true rfl (by omega)
  · have above : 2 ^ k.log2 ≤ k := Nat.log2_self_le zero
    have below : k < 2 ^ (k.log2 + 1) := Nat.lt_log2_self
    rw [isFinite_ofRatio_iff _ zero]
    rcases Nat.lt_trichotomy k.log2 1023 with small | greatest | great
    · have bound := Nat.pow_le_pow_right Nat.two_pos (show k.log2 + 1 ≤ 1023 from small)
      refine iff_of_true ?_ ?_
      · split <;> omega
      · omega
    · rw [greatest] at above below ⊢
      rw [show 52 - 1023 = 0 from rfl, show 1023 - 52 = 971 from rfl, Nat.pow_zero, Nat.mul_one,
        step, Nat.pow_one, next]
      rw [show 1023 + 1 = 1024 from rfl, next] at below
      rw [← roundDiv_lt_iff below]
      split
      · rename_i fits
        exact iff_of_true (Nat.le_refl 1023) fits
      · rename_i beyond
        exact iff_of_false (by decide) beyond
    · have bound := Nat.pow_le_pow_right Nat.two_pos (show 1024 ≤ k.log2 from great)
      refine iff_of_false ?_ ?_
      · split <;> omega
      · omega

theorem isFinite_ofInt {n : Int} (narrow : n.natAbs < 2 ^ 64) : (ofInt n).isFinite = true := by
  refine (isFinite_ofInt_iff n).2 ?_
  have next := two_pow_of_eq_add (show 1024 = 54 + 970 from rfl)
  have wide := Nat.pow_le_pow_right Nat.two_pos (show 64 ≤ 970 by decide)
  unfold leastBeyond
  omega

end Binary64

end CloudTelemetry
