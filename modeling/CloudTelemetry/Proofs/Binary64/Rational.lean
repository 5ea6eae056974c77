import CloudTelemetry.Binary64
import Mathlib.Algebra.Order.Field.Basic
import Mathlib.Data.Rat.Floor

/-!
# Binary64 values as rationals

The rational number that a finite value stands for (`Binary64.rational?_finite`). Its whole part is
the integer part of the value (`Binary64.truncate?_eq`).
-/

namespace CloudTelemetry

/-- A number without its fraction. -/
def wholePart (q : ℚ) : Int := if 0 ≤ q then ⌊q⌋ else ⌈q⌉

theorem wholePart_intCast (n : Int) : wholePart n = n := by
  unfold wholePart
  split
  · exact Int.floor_intCast n
  · exact Int.ceil_intCast n

theorem wholePart_neg (q : ℚ) : wholePart (-q) = -wholePart q := by
  unfold wholePart
  rcases lt_trichotomy q 0 with below | rfl | above
  · rw [if_pos (neg_nonneg.2 below.le), if_neg (not_le.2 below), Int.floor_neg]
  · simp
  · rw [if_neg (by simpa using above), if_pos above.le, Int.ceil_neg]

theorem wholePart_natCast_div (k d : Nat) : wholePart (k / d) = (k / d : Nat) := by
  have nonneg : (0 : ℚ) ≤ k / d := by positivity
  unfold wholePart
  rw [if_pos nonneg, Rat.floor_natCast_div_natCast]
  rfl

def Place.rational? : Place → Option ℚ
  | .ratio num den => some (num / den)
  | _ => none

namespace Binary64

/-- The number that a value is, if it is finite. -/
def rational? (x : Binary64) : Option ℚ := x.place.rational?

theorem cast_signed (negative : Bool) (n : Nat) :
    ((signed negative n : Int) : ℚ) = if negative then -(n : ℚ) else n := by
  cases negative <;> simp [signed]

theorem magnitude_div (m : Nat) (e : Int) :
    ((magnitude m e).1 : ℚ) / (magnitude m e).2 = m * (2 : ℚ) ^ e := by
  unfold magnitude
  rcases le_total 0 e with nonneg | neg
  · obtain ⟨n, rfl⟩ := Int.eq_ofNat_of_zero_le nonneg
    simp
  · obtain ⟨n, rfl⟩ := Int.exists_eq_neg_ofNat neg
    simp [div_eq_mul_inv]

theorem rational?_finite (negative : Bool) (m : Nat) (e : Int) :
    (finite negative m e).rational? =
      some (if negative then -(m * (2 : ℚ) ^ e) else m * (2 : ℚ) ^ e) := by
  show some (((signed negative (magnitude m e).1 : Int) : ℚ) / (magnitude m e).2) = _
  rw [cast_signed, ← magnitude_div]
  cases negative with
  | false => rfl
  | true => exact congrArg some (neg_div _ _)

theorem truncate?_eq (x : Binary64) : x.truncate? = x.rational?.map wholePart := by
  rcases x with _ | negative | ⟨negative, m, e⟩
  · rfl
  · cases negative <;> rfl
  · rw [rational?_finite, ← magnitude_div, Option.map_some, truncate?, signed]
    congr 1
    cases negative with
    | false => exact (wholePart_natCast_div _ _).symm
    | true =>
      rw [if_pos rfl, if_pos rfl, wholePart_neg, wholePart_natCast_div]

end Binary64

end CloudTelemetry
