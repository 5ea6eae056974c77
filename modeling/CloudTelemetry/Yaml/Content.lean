import CloudTelemetry.Text.Base64
import CloudTelemetry.Value.Number
import CloudTelemetry.Yaml.Tag

/-!
# What scalars stand for

`Tag.content`: the value of a scalar of some type. A scalar that has its type from its form can be
read, but for numbers and moments that do not exist; one that is only marked as being of a type may
be anything. Underscores in numbers say nothing.
-/

namespace CloudTelemetry.Yaml

def defect {α : Type} (cause : Defect) : Except Fault α := .error (.defect cause)

def orDefect {α : Type} (cause : Defect) : Option α → Except Fault α
  | some a => .ok a
  | none => defect cause

namespace Tag

/-! ### Numbers -/

def withoutUnderscores (s : List Char) : List Char := s.filter (· != '_')

def withoutBaseSign (letter : Char) : List Char → List Char
  | '0' :: c :: digits => if c.toLower == letter then digits else '0' :: c :: digits
  | s => s

def readBase? (base : Nat) (letter : Char) (s : List Char) : Option Int := do
  let (negative, rest) := Numeral.splitSign (Numeral.normalize s)
  match ← (withoutBaseSign letter rest).mapM (Text.latinDigit? base) with
  | [] => none
  | digits => some (Binary64.signed negative (digits.foldl (fun n d => base * n + d) 0))

/-- Parts of sixty, the greatest first. -/
def sixtieths (parts : List (List Char)) : Option Int :=
  parts.foldlM (fun n part => do return 60 * n + (← Numeral.readInt? part)) 0

def magnitude (s : List Char) : Except Fault Int :=
  match s with
  | [] => defect .noCharacter
  | '0' :: 'b' :: digits => orDefect .badValue (readBase? 2 'b' digits)
  | '0' :: 'x' :: digits => orDefect .badValue (readBase? 16 'x' digits)
  | '0' :: _ => orDefect .badValue (readBase? 8 'o' s)
  | _ =>
    if s.contains ':' then orDefect .badValue (sixtieths (Text.parts ':' s))
    else orDefect .badValue (Numeral.readInt? s)

def integerOf (s : List Char) : Except Fault Int := do
  let s := withoutUnderscores s
  if s.isEmpty then defect .noCharacter
  else
    let (negative, rest) := Numeral.splitSign s
    let n ← magnitude rest
    return if negative then -n else n

def sixtiethsSum (parts : List (List Char)) : Except Fault Binary64 := do
  let values ← orDefect .badValue (parts.mapM Numeral.readBinary64?)
  let step (out : Binary64 × Nat) (value : Binary64) : Except Fault (Binary64 × Nat) :=
    let weight := Binary64.ofInt out.2
    if weight.isFinite then .ok (out.1.add (value.mul weight), 60 * out.2)
    else defect .outOfRange
  return (← values.reverse.foldlM step (Binary64.zero, 1)).1

def plainForm (s : List Char) : List Char := (withoutUnderscores s).map Char.toLower

def isNanWord (s : List Char) : Bool := (Numeral.splitSign (plainForm s)).2 == ".nan".toList

def doubleOf (s : List Char) : Except Fault Binary64 := do
  let s := plainForm s
  if s.isEmpty then defect .noCharacter
  else
    let (negative, rest) := Numeral.splitSign s
    let x ←
      if String.ofList rest == ".inf" then pure (Binary64.infinite false)
      else if isNanWord s then pure Binary64.nan
      else if rest.contains ':' then sixtiethsSum (Text.parts ':' rest)
      else orDefect .badValue (Numeral.readBinary64? rest)
    return if negative then x.mul (Binary64.ofInt (-1)) else x

/-! ### Moments -/

def natOf (digits : List Char) : Nat := Numeral.digitsValue digits

def micros (fraction : List Char) : Nat :=
  let places := fraction.take 6
  natOf (places ++ List.replicate (6 - places.length) '0')

/-- How many minutes a zone is ahead of the universal time. -/
def ahead (parts : MomentParts) : Option Int :=
  parts.zone.map fun sign =>
    let minutes : Int := 60 * natOf parts.zoneHour + natOf parts.zoneMinute
    if sign == '-' then -minutes else minutes

def momentOf (s : List Char) : Except Fault Moment := do
  let parts ← orDefect .missingPart (momentParts? s)
  let clock : Option Clock :=
    if parts.hour.isEmpty then none
    else some ⟨natOf parts.hour, natOf parts.minute, natOf parts.second, micros parts.fraction,
      ahead parts⟩
  orDefect .badValue (Moment.make? (natOf parts.year) (natOf parts.month) (natOf parts.day) clock)

/-! ### All types -/

/-- The value of a scalar of a type, whose characters are whole. -/
def wholeContent (tag : Tag) (text : String) : Except Fault Atom :=
  match tag with
  | .null => .ok .null
  | .bool => (orDefect .unknownWord (boolWords.lookup text.toLower)).map .bool
  | .int => (integerOf text.toList).map .int
  | .float => (doubleOf text.toList).map .float
  | .bytes =>
    if text.toList.all fun c => c.toNat < 0x80 then
      match Text.base64? text.toList with
      | some found => .ok (.bytes found)
      | none => .error .malformed
    else .error .malformed
  | .moment => (momentOf text.toList).map .moment
  | .text => .ok (.text text)
  | _ => .error .malformed

def brokenContent (tag : Tag) (text : Glyphs) : Except Fault Atom :=
  match tag with
  | .null => .ok .null
  | .bool => defect .unknownWord
  | .int => defect .badValue
  | .float => defect .badValue
  | .moment => defect .missingPart
  | .text => .ok (.text text)
  | _ => .error .malformed

/-- The value of a scalar of a type; the signs that stand for no value have none. -/
def content (tag : Tag) (text : Glyphs) : Except Fault Atom :=
  match text.string? with
  | some text => tag.wholeContent text
  | none => tag.brokenContent text

end Tag

end CloudTelemetry.Yaml
