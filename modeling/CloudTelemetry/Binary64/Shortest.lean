import CloudTelemetry.Binary64

/-!
# Shortest decimals

`shortest m e`: of the decimals that read back as the value `m * 2 ^ e`, one with the fewest
digits, and of those the nearest; on a tie the even one. Everything is decided in exact natural
arithmetic: `readsBack` is the interval of reals that round to the value.
-/

namespace CloudTelemetry.Binary64

structure Decimal where
  digits : Nat
  exponent : Int
deriving DecidableEq, Repr

/-- Compares `a * 10 ^ i` with `n * 2 ^ j`. -/
def compareScaled (a : Nat) (i : Int) (n : Nat) (j : Int) : Ordering :=
  compare (a * Nat.pow 10 i.toNat * Nat.pow 2 (-j).toNat)
    (n * Nat.pow 2 j.toNat * Nat.pow 10 (-i).toNat)

/-- Whether the decimal lies among the reals that round to `m * 2 ^ e`: up to halfway to either
neighbour, the ends included for an even mantissa. Just above a power of two the lower neighbour
is half as far away. -/
def readsBack (m : Nat) (e : Int) (d : Decimal) : Bool :=
  let narrow := m = Nat.pow 2 (precision - 1) ∧ leastExponent < e
  let low := if narrow then 4 * m - 1 else 4 * m - 2
  let ends := m % 2 == 0
  let atLow := compareScaled d.digits d.exponent low (e - 2)
  let atHigh := compareScaled d.digits d.exponent (4 * m + 2) (e - 2)
  (atLow == .gt || (ends && atLow == .eq)) && (atHigh == .lt || (ends && atHigh == .eq))

/-- The least `k` with `m * 2 ^ e < 10 ^ k`, for positive `m`: an estimate from the binary order,
at most one too small, corrected exactly. -/
def decimalOrder (m : Nat) (e : Int) : Int :=
  let k := Int.fdiv (((m.log2 : Int) + e) * 30103) 100000
  if compareScaled 1 k m e == .gt then k
  else if compareScaled 1 (k + 1) m e == .gt then k + 1
  else k + 2

/-- The better of the value's two neighbours among the multiples of `10 ^ g`, if one reads back. -/
def onGrid? (mantissa : Nat) (e g : Int) : Option Decimal :=
  let low := mantissa * Nat.pow 2 e.toNat * Nat.pow 10 (-g).toNat /
    (Nat.pow 2 (-e).toNat * Nat.pow 10 g.toNat)
  let below : Decimal := ⟨low, g⟩
  let above : Decimal := ⟨low + 1, g⟩
  match readsBack mantissa e below, readsBack mantissa e above with
  | false, false => none
  | true, false => some below
  | false, true => some above
  | true, true =>
    match compareScaled (2 * low + 1) g (2 * mantissa) e with
    | .gt => some below
    | .lt => some above
    | .eq => some (if low % 2 = 0 then below else above)

def dropZeros : Nat → Decimal → Decimal
  | 0, d => d
  | fuel + 1, d =>
    if d.digits % 10 = 0 then dropZeros fuel ⟨d.digits / 10, d.exponent + 1⟩ else d

def exact (m : Nat) (e : Int) : Decimal :=
  if 0 ≤ e then ⟨m * Nat.pow 2 e.toNat, 0⟩ else ⟨m * Nat.pow 5 (-e).toNat, e⟩

/-- The fewest digits that read back, for positive `m`. Seventeen always suffice. -/
def shortest (m : Nat) (e : Int) : Decimal :=
  let order := decimalOrder m e
  let found := (List.range 17).findSome? fun (n : Nat) => onGrid? m e (order - n - 1)
  let d := found.getD (exact m e)
  dropZeros d.digits.log2 d

end CloudTelemetry.Binary64
