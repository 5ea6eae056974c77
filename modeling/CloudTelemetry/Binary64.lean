/-!
# Binary64 values

`Binary64`: the values of the 64-bit binary floating-point format, kept as sign, mantissa and
exponent of two. Every operation takes the exact result and rounds it once, to the nearest value
and on a tie to the even mantissa; `ofRatio` is that rounding. `Place` puts a value beside the
exact rationals, and all comparisons are made there.
-/

namespace CloudTelemetry

/-- A value of the 64-bit format. `finite s m e` stands for `m * 2 ^ e`, negated where `s` holds;
a zero keeps its sign. -/
inductive Binary64 where
  | nan
  | infinite (negative : Bool)
  | finite (negative : Bool) (mantissa : Nat) (exponent : Int)
deriving DecidableEq, Repr, Inhabited

/-- Where a value lies among the rationals: nowhere, beyond one of the two ends, or at the ratio
of an integer and a positive natural number. -/
inductive Place where
  | nowhere
  | below
  | ratio (num : Int) (den : Nat)
  | above
deriving DecidableEq, Repr

namespace Place

/-- Strictly before; nothing is before or after `nowhere`. -/
def lt : Place → Place → Bool
  | .below, .ratio _ _ => true
  | .below, .above => true
  | .ratio _ _, .above => true
  | .ratio a b, .ratio c d => a * d < c * b
  | _, _ => false

/-- At the same place; `nowhere` is not even at its own place. -/
def same : Place → Place → Bool
  | .below, .below => true
  | .above, .above => true
  | .ratio a b, .ratio c d => a * d == c * b
  | _, _ => false

def le (a b : Place) : Bool := a.lt b || a.same b

end Place

/-- The integer nearest to `num / den`; a tie goes to the even one. -/
def roundDiv (num den : Nat) : Nat :=
  let q := num / den
  let r := num % den
  if 2 * r < den then q
  else if den < 2 * r then q + 1
  else if q % 2 = 0 then q else q + 1

namespace Binary64

/-! ### The format -/

def precision : Nat := 53

def leastExponent : Int := -1074

def greatestExponent : Int := 971

/-! ### Rounding -/

/-- The greatest `e` with `2 ^ e ≤ num / den`, for positive `num` and `den`. -/
def binaryOrder (num den : Nat) : Int :=
  let e : Int := num.log2 - den.log2
  if den * Nat.pow 2 e.toNat ≤ num * Nat.pow 2 (-e).toNat then e else e - 1

/-- A mantissa that rounding may have carried to one bit more, put in range. -/
def pack (negative : Bool) (mantissa : Nat) (exponent : Int) : Binary64 :=
  let (m, e) :=
    if mantissa < Nat.pow 2 precision then (mantissa, exponent) else (mantissa / 2, exponent + 1)
  if e ≤ greatestExponent then .finite negative m e else .infinite negative

/-- The value nearest to `num / den`, negated where asked, for positive `den`. Beyond the range it
is infinite. -/
def ofRatio (negative : Bool) (num den : Nat) : Binary64 :=
  if num = 0 then .finite negative 0 leastExponent
  else
    let e := max (binaryOrder num den - (precision - 1 : Nat)) leastExponent
    pack negative (roundDiv (num * Nat.pow 2 (-e).toNat) (den * Nat.pow 2 e.toNat)) e

def ofInt (n : Int) : Binary64 := ofRatio (n < 0) n.natAbs 1

def zero : Binary64 := .finite false 0 leastExponent

/-! ### Reading a value -/

def magnitude (mantissa : Nat) (exponent : Int) : Nat × Nat :=
  (mantissa * Nat.pow 2 exponent.toNat, Nat.pow 2 (-exponent).toNat)

def signed (negative : Bool) (n : Nat) : Int := if negative then -n else n

def place : Binary64 → Place
  | .nan => .nowhere
  | .infinite true => .below
  | .infinite false => .above
  | .finite negative m e => .ratio (signed negative (magnitude m e).1) (magnitude m e).2

def isZero : Binary64 → Bool
  | .finite _ m _ => m == 0
  | _ => false

def isFinite : Binary64 → Bool
  | .finite _ _ _ => true
  | _ => false

def isNegative : Binary64 → Bool
  | .nan => false
  | .infinite negative => negative
  | .finite negative _ _ => negative

/-- The integer part: the fraction is dropped. Only a finite value has one. -/
def truncate? : Binary64 → Option Int
  | .finite negative m e => some (signed negative ((magnitude m e).1 / (magnitude m e).2))
  | _ => none

/-! ### Arithmetic -/

/-- The sum; two zeros of different signs, and two values that cancel, sum to the positive zero. -/
def add : Binary64 → Binary64 → Binary64
  | .nan, _ => .nan
  | _, .nan => .nan
  | .infinite s, .infinite t => if s = t then .infinite s else .nan
  | .infinite s, _ => .infinite s
  | _, .infinite t => .infinite t
  | .finite s m e, .finite t n f =>
    let (a, b) := magnitude m e
    let (c, d) := magnitude n f
    let sum := signed s a * d + signed t c * b
    ofRatio (sum < 0 || sum == 0 && s && t) sum.natAbs (b * d)

def mul : Binary64 → Binary64 → Binary64
  | .nan, _ => .nan
  | _, .nan => .nan
  | .finite s m e, .finite t n f =>
    let (num, den) := magnitude (m * n) (e + f)
    ofRatio (s != t) num den
  | x, y => if x.isZero || y.isZero then .nan else .infinite (x.isNegative != y.isNegative)

def div : Binary64 → Binary64 → Binary64
  | .nan, _ => .nan
  | _, .nan => .nan
  | .infinite _, .infinite _ => .nan
  | .infinite s, y => .infinite (s != y.isNegative)
  | x, .infinite t => .finite (x.isNegative != t) 0 leastExponent
  | .finite s m e, .finite t n f =>
    if n = 0 then (if m = 0 then .nan else .infinite (s != t))
    else
      let (num, den) := magnitude m (e - f)
      ofRatio (s != t) num (den * n)

end Binary64

end CloudTelemetry
