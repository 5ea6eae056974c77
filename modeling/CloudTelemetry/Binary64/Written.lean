import CloudTelemetry.Binary64.Shortest

/-!
# The written form of a binary64 value

The shortest digits, positional where the leading digit stands between the fourth place after the
point and the sixteenth before it, otherwise with a signed exponent of at least two digits. A
positional form always shows a digit on both sides of the point.
-/

namespace CloudTelemetry.Binary64

/-- The least exponent of the leading digit that is written positionally. -/
def positionalFrom : Int := -4

/-- The least exponent of the leading digit from which on the exponent is written. -/
def positionalBelow : Int := 16

/-- The digits with the point after the first `point` of them, zeros filling in on either side. -/
def positional (digits : List Char) (point : Int) : List Char :=
  if point ≤ 0 then '0' :: '.' :: (List.replicate (-point).toNat '0' ++ digits)
  else
    let n := point.toNat
    if digits.length ≤ n then
      digits ++ List.replicate (n - digits.length) '0' ++ ['.', '0']
    else digits.take n ++ '.' :: digits.drop n

def scientific (digits : List Char) (exponent : Int) : List Char :=
  let fraction := digits.drop 1
  let point := if fraction.isEmpty then [] else ['.']
  let sign := if exponent < 0 then '-' else '+'
  let places := Nat.toDigits 10 exponent.natAbs
  digits.take 1 ++ point ++ fraction ++
    'e' :: sign :: (List.replicate (2 - places.length) '0' ++ places)

def layout (d : Decimal) : List Char :=
  let digits := Nat.toDigits 10 d.digits
  let leading := d.exponent + digits.length - 1
  if positionalFrom ≤ leading ∧ leading < positionalBelow then positional digits (leading + 1)
  else scientific digits leading

def writtenMagnitude (m : Nat) (e : Int) : List Char :=
  if m = 0 then ['0', '.', '0'] else layout (shortest m e)

def written : Binary64 → String
  | .nan => "nan"
  | .infinite negative => if negative then "-inf" else "inf"
  | .finite negative m e =>
    String.ofList ((if negative then ['-'] else []) ++ writtenMagnitude m e)

end CloudTelemetry.Binary64
