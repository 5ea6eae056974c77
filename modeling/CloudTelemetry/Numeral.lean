import CloudTelemetry.Binary64
import CloudTelemetry.Text.Blank
import CloudTelemetry.Text.DecimalDigit

/-!
# Numbers written as text

What a text must look like to be read as an integer or as a binary64 value: blanks around it,
a sign, digits of any script, single underscores between digits, and for a value also a point, an
exponent of ten or one of the words for infinity and for the value that is no number. Reading
rounds once.
-/

namespace CloudTelemetry.Numeral

/-- The longest integer that is read or written, in digits. -/
def digitLimit : Nat := 4300

/-- Digits of all scripts become Latin ones, and blanks at the ends go. -/
def normalize (s : List Char) : List Char :=
  Text.trimBy Text.isBlank <| s.map fun c =>
    match Text.digitValue? c with
    | some d => Char.ofNat (48 + d)
    | none => c

def isDigit (c : Char) : Bool := '0' ≤ c && c ≤ '9'

/-- Removes underscores, each of which must stand between two digits; `before` tells whether the
character just read is a digit. -/
def withoutUnderscores (before : Bool) : List Char → Option (List Char)
  | [] => some []
  | '_' :: c :: rest =>
    if before && isDigit c then (withoutUnderscores true rest).map (c :: ·) else none
  | ['_'] => none
  | c :: rest => (withoutUnderscores (isDigit c) rest).map (c :: ·)

def splitSign : List Char → Bool × List Char
  | '-' :: rest => (true, rest)
  | '+' :: rest => (false, rest)
  | s => (false, s)

def digitsValue (digits : List Char) : Nat :=
  digits.foldl (fun n c => 10 * n + (c.toNat - 48)) 0

def readInt? (s : List Char) : Option Int := do
  let plain ← withoutUnderscores false (normalize s)
  let (negative, digits) := splitSign plain
  if digits.isEmpty || !digits.all isDigit || digitLimit < digits.length then none
  else some (Binary64.signed negative (digitsValue digits))

/-- The value of `digits * 10 ^ exponent`. Far beyond the range the power is not computed. -/
def scaled (negative : Bool) (digits : List Char) (exponent : Int) : Binary64 :=
  let digits := digits.dropWhile (· == '0')
  let order := digits.length + exponent
  if digits.isEmpty || order < -400 then .finite negative 0 Binary64.leastExponent
  else if 400 < order then .infinite negative
  else
    let n := digitsValue digits
    Binary64.ofRatio negative (n * Nat.pow 10 exponent.toNat) (Nat.pow 10 (-exponent).toNat)

/-- The exponent part: nothing, or a letter, a sign and digits to the end. -/
def readExponent? : List Char → Option Int
  | [] => some 0
  | c :: rest =>
    let (negative, digits) := splitSign rest
    if (c == 'e' || c == 'E') && !digits.isEmpty && digits.all isDigit then
      some (Binary64.signed negative (digitsValue digits))
    else none

def readDecimal? (negative : Bool) (s : List Char) : Option Binary64 :=
  let whole := s.takeWhile isDigit
  let afterWhole := s.dropWhile isDigit
  let (fraction, rest) :=
    match afterWhole with
    | '.' :: rest => (rest.takeWhile isDigit, rest.dropWhile isDigit)
    | rest => ([], rest)
  if whole.isEmpty && fraction.isEmpty then none
  else (readExponent? rest).map fun exponent =>
    scaled negative (whole ++ fraction) (exponent - fraction.length)

def readBinary64? (s : List Char) : Option Binary64 := do
  let plain ← withoutUnderscores false (normalize s)
  let (negative, rest) := splitSign plain
  let word := String.ofList (rest.map Char.toLower)
  if word = "inf" || word = "infinity" then some (.infinite negative)
  else if word = "nan" then some .nan
  else readDecimal? negative rest

end CloudTelemetry.Numeral
