import CloudTelemetry.Numeral
import CloudTelemetry.Text.Glyphs
import CloudTelemetry.Text.Parts
import CloudTelemetry.Yaml.Cursor

/-!
# Types of nodes

A `Tag` is the type of a node, one of YAML 1.1. A node that is not marked has the type of its kind,
and a plain scalar that of its form (`Tag.ofPlain`): nothing, a truth value, an integer of four
bases or in parts of sixty, a number with a point, or a moment. What has no other form is text.
-/

namespace CloudTelemetry.Yaml

inductive Tag where
  | null
  | bool
  | int
  | float
  | bytes
  | moment
  | text
  | sequence
  | mapping
  | set
  /-- a sequence of single entries whose keys differ -/
  | orderedMap
  /-- a sequence of single entries -/
  | pairs
  | merge
  /-- the sign for a default value -/
  | default
  | unknown
deriving DecidableEq, Repr

namespace Tag

def stem : String := "tag:yaml.org,2002:"

def names : List (String × Tag) := [
  ("null", .null), ("bool", .bool), ("int", .int), ("float", .float), ("binary", .bytes),
  ("timestamp", .moment), ("str", .text), ("seq", .sequence), ("map", .mapping), ("set", .set),
  ("omap", .orderedMap), ("pairs", .pairs), ("merge", .merge), ("value", .default)]

def ofName (name : String) : Tag :=
  ((names.find? fun entry => stem ++ entry.1 == name).map Prod.snd).getD .unknown

def isCollection (tag : Tag) : Bool :=
  [.sequence, .mapping, .set, .orderedMap, .pairs].contains tag

def isScalar (tag : Tag) : Bool :=
  [.null, .bool, .int, .float, .bytes, .moment, .text].contains tag

/-! ### Words -/

def nullWords : List String := ["", "~", "null", "Null", "NULL"]

def boolWords : List (String × Bool) :=
  [("yes", true), ("no", false), ("true", true), ("false", false), ("on", true), ("off", false)]

/-- Whether a text is a word for a truth value in small letters, in large ones, or in small ones
after a first large one. -/
def isBoolWord (text : String) : Bool :=
  boolWords.any fun entry =>
    [entry.1, entry.1.toUpper, entry.1.capitalize].contains text

def infinityWords : List String := [".inf", ".Inf", ".INF"]

def nanWords : List String := [".nan", ".NaN", ".NAN"]

/-! ### Integers -/

def isDigitOf (base : Nat) (c : Char) : Bool := c == '_' || (Text.latinDigit? base c).isSome

def isDigitRun (base : Nat) (s : List Char) : Bool := !s.isEmpty && s.all (isDigitOf base)

def isNumeral (s : List Char) : Bool :=
  match s with
  | [] => false
  | c :: rest => Numeral.isDigit c && rest.all (isDigitOf 10)

def isPositiveNumeral (s : List Char) : Bool := isNumeral s && s.head? != some '0'

/-- A part of sixty: one digit, or two of which the first is at most five. -/
def isSixtieth : List Char → Bool
  | [d] => Numeral.isDigit d
  | [t, d] => '0' ≤ t && t ≤ '5' && Numeral.isDigit d
  | _ => false

def isMagnitude (s : List Char) : Bool :=
  match s, Text.parts ':' s with
  | ['0'], _ => true
  | '0' :: 'b' :: digits, _ => isDigitRun 2 digits
  | '0' :: 'x' :: digits, _ => isDigitRun 16 digits
  | '0' :: digits, _ => isDigitRun 8 digits
  | _, first :: more => isPositiveNumeral first && more.all isSixtieth
  | _, [] => false

def isInteger (s : List Char) : Bool := isMagnitude (Numeral.splitSign s).2

/-! ### Numbers with a point -/

def isExponent : List Char → Bool
  | e :: sign :: digits =>
    (e == 'e' || e == 'E') && (sign == '+' || sign == '-') && !digits.isEmpty &&
      digits.all Numeral.isDigit
  | _ => false

def isFraction (s : List Char) : Bool :=
  let rest := s.dropWhile (isDigitOf 10)
  rest.isEmpty || isExponent rest

def isPointed (hasSign : Bool) (s : List Char) : Bool :=
  let whole := s.takeWhile (· != '.')
  match s.dropWhile (· != '.') with
  | [] => false
  | _ :: fraction =>
    let parts := Text.parts ':' whole
    isNumeral whole && isFraction fraction ||
      whole.isEmpty && !hasSign && isNumeral (fraction.take 1) && isFraction fraction ||
      1 < parts.length && isNumeral (parts.headD []) && parts.tail.all isSixtieth &&
        fraction.all (isDigitOf 10)

def isDouble (s : List Char) : Bool :=
  let (_, rest) := Numeral.splitSign s
  let hasSign := rest.length != s.length
  infinityWords.contains (String.ofList rest) ||
    !hasSign && nanWords.contains (String.ofList rest) || isPointed hasSign rest

/-! ### Moments -/

/-- A moment as its parts are written; a part that is missing is empty. -/
structure MomentParts where
  year : List Char
  month : List Char
  day : List Char
  hour : List Char
  minute : List Char
  second : List Char
  fraction : List Char
  /-- the sign of the distance from the universal time, or the letter for none -/
  zone : Option Char
  zoneHour : List Char
  zoneMinute : List Char

/-- The digits that follow, at most `most` of them; there have to be `least`. -/
def takeDigits? (least most : Nat) (s : List Char) : Option (List Char × List Char) :=
  let digits := (s.take most).takeWhile Numeral.isDigit
  if least ≤ digits.length then some (digits, s.drop digits.length) else none

def after? (c : Char) : List Char → Option (List Char)
  | found :: rest => if found == c then some rest else none
  | [] => none

def zone? (parts : MomentParts) (s : List Char) : Option MomentParts :=
  match s.dropWhile isSpaceOrTab with
  | ['Z'] => some { parts with zone := some 'Z' }
  | sign :: rest => do
    if sign != '+' && sign != '-' then none
    let (hour, rest) ← takeDigits? 1 2 rest
    if rest.isEmpty then return { parts with zone := some sign, zoneHour := hour }
    let (minute, rest) ← takeDigits? 2 2 (← after? ':' rest)
    if !rest.isEmpty then none
    return { parts with zone := some sign, zoneHour := hour, zoneMinute := minute }
  | [] => if s.isEmpty then some parts else none

/-- A text without a break at its end, which says nothing of its form. -/
def withoutLastBreak (s : List Char) : List Char :=
  if s.getLast? == some '\n' then s.dropLast else s

def momentParts? (text : List Char) : Option MomentParts := do
  let s := withoutLastBreak text
  let (year, s) ← takeDigits? 4 4 s
  let (month, s) ← takeDigits? 1 2 (← after? '-' s)
  let (day, s) ← takeDigits? 1 2 (← after? '-' s)
  let dayOnly : MomentParts := ⟨year, month, day, [], [], [], [], none, [], []⟩
  match s with
  | [] => return dayOnly
  | c :: rest =>
    let blanks := s.dropWhile isSpaceOrTab
    let s ← if c == 'T' || c == 't' then some rest
      else if blanks.length < s.length then some blanks else none
    let (hour, s) ← takeDigits? 1 2 s
    let (minute, s) ← takeDigits? 2 2 (← after? ':' s)
    let (second, s) ← takeDigits? 2 2 (← after? ':' s)
    let (fraction, s) :=
      match s with
      | '.' :: rest => (rest.takeWhile Numeral.isDigit, rest.dropWhile Numeral.isDigit)
      | _ => ([], s)
    zone? { dayOnly with hour := hour, minute := minute, second := second, fraction := fraction } s

/-- Whether a plain scalar is a moment; one without a time has two digits for month and day. -/
def isMoment (s : List Char) : Bool :=
  match momentParts? s with
  | some parts =>
    !parts.hour.isEmpty || parts.month.length == 2 && parts.day.length == 2
  | none => false

/-! ### Plain scalars -/

def ofPlain (scalar : String) : Tag :=
  let text := if scalar == "\n" then scalar else String.ofList (withoutLastBreak scalar.toList)
  if nullWords.contains text then .null
  else if isBoolWord text then .bool
  else if text == "<<" then .merge
  else if text == "=" then .default
  else if isDouble text.toList then .float
  else if isInteger text.toList then .int
  else if isMoment text.toList then .moment
  else .text

/-- The type of a scalar by its form; a text with half of a character has no other form. -/
def ofForm (text : Glyphs) : Tag :=
  match text.string? with
  | some text => ofPlain text
  | none => .text

end Tag

end CloudTelemetry.Yaml
