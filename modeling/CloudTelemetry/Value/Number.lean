import CloudTelemetry.Failure
import CloudTelemetry.Numeral

/-!
# Values as numbers

Conversions of values to integers and to binary64 values, their comparison and their arithmetic,
with the defect that each meets on a value it is not meant for. Truth values are zero and one.
Texts are read by the grammar of numerals.
-/

namespace CloudTelemetry

def fails {α : Type} (d : Defect) : Except Failure α := .error (.defect d)

/-- What is found, where all that can go wrong is a defect. -/
def raise {α : Type} : Except Defect α → Except Failure α
  | .ok a => .ok a
  | .error d => fails d

theorem bind_eq_ok {ε α β : Type} {x : Except ε α} {f : α → Except ε β} {b : β}
    (h : x >>= f = .ok b) : ∃ a, x = .ok a ∧ f a = .ok b := by
  cases x with
  | ok a => exact ⟨a, rfl, h⟩
  | error cause => cases h

theorem bind_eq_ok_iff {ε α β : Type} {x : Except ε α} {f : α → Except ε β} {b : β} :
    x >>= f = .ok b ↔ ∃ a, x = .ok a ∧ f a = .ok b := by
  refine ⟨bind_eq_ok, ?_⟩
  rintro ⟨a, rfl, h⟩
  exact h

def leastInt64 : Int := -0x8000000000000000

def greatestInt64 : Int := 0x7fffffffffffffff

def fitsInt64 (n : Int) : Bool := leastInt64 ≤ n && n ≤ greatestInt64

def fitsInt32 (n : Int) : Bool := -0x80000000 ≤ n && n ≤ 0x7fffffff

namespace Value

/-- The characters of a byte string; bytes beyond ASCII are no part of a numeral. -/
def byteChars (bytes : List UInt8) : List Char :=
  bytes.map fun b => if b.toNat < 0x80 then Char.ofNat b.toNat else '\ufffd'

def nearest (n : Int) : Except Failure Binary64 :=
  let x := Binary64.ofInt n
  if x.isFinite then .ok x else fails .outOfRange

def found {α : Type} : Option α → Except Failure α
  | some a => .ok a
  | none => fails .badValue

/-- The value as a binary64 value. Texts are read. -/
def toBinary64 : Value → Except Failure Binary64
  | .bool b => nearest (if b then 1 else 0)
  | .int n => nearest n
  | .float x => .ok x
  | .text s => found (Numeral.readBinary64? s.toList)
  | .broken _ => fails .badValue
  | .bytes b => found (Numeral.readBinary64? (byteChars b))
  | _ => fails .wrongKind

/-- The value as an integer. A fraction is dropped; texts are read. -/
def toInt : Value → Except Failure Int
  | .bool b => .ok (if b then 1 else 0)
  | .int n => .ok n
  | .float .nan => fails .badValue
  | .float x =>
    match x.truncate? with
    | some n => .ok n
    | none => fails .outOfRange
  | .text s => found (Numeral.readInt? s.toList)
  | .broken _ => fails .badValue
  | .bytes b => found (Numeral.readInt? (byteChars b))
  | _ => fails .wrongKind

/-- The value as a member of a field that holds binary64 values: numbers only. -/
def asDouble (v : Value) : Except Failure Binary64 :=
  match v with
  | .text _ => fails .wrongKind
  | .broken _ => fails .wrongKind
  | .bytes _ => fails .wrongKind
  | v => v.toBinary64

/-- The value as a member of a field that holds integers. Truth values are none. -/
def asInteger : Value → Except Failure Int
  | .int n => .ok n
  | _ => fails .wrongKind

/-- The value as a member of a field that holds text. Bytes count as the text that they encode. -/
def asText : Value → Except Failure String
  | .text s => .ok s
  | .broken _ => fails .halfCharacter
  | .bytes b =>
    match String.fromUTF8? ⟨b.toArray⟩ with
    | some s => .ok s
    | none => fails .noText
  | _ => fails .wrongKind

def checkWritable (v : Value) : Except Failure Unit :=
  if v.isWritable then .ok () else fails .badValue

def inText (v : Value) : Except Failure String := do
  v.checkWritable
  return v.shown

def number (v : Value) : Except Failure Place :=
  match v.place? with
  | some place => .ok place
  | none => fails .wrongKind

/-- Whether the value is a number from `low` to `high`, the ends included. -/
def within (low high : Int) (v : Value) : Except Failure Bool := do
  let place ← v.number
  return (Place.ratio low 1).le place && place.le (.ratio high 1)

def counted : Value → Value
  | .bool b => .int (if b then 1 else 0)
  | v => v

/-- The quotient of two numbers, the second not zero. Two integers are divided exactly and the
quotient is rounded; otherwise both are rounded first. -/
def quotient (n d : Value) : Except Failure Binary64 :=
  match n.counted, d.counted with
  | .int n, .int d =>
    let x := Binary64.ofRatio (n < 0 && 0 < d || 0 ≤ n && d < 0) n.natAbs d.natAbs
    if x.isFinite then .ok x else fails .outOfRange
  | .int n, .float d => do return (← nearest n).div d
  | .float n, .int d => do return n.div (← nearest d)
  | .float n, .float d => .ok (n.div d)
  | _, _ => fails .wrongKind

/-- The sum of two numbers. Where one is no integer, both are rounded first. -/
def plus (a b : Value) : Except Failure Value :=
  match a.counted, b.counted with
  | .int m, .int n => .ok (.int (m + n))
  | .int m, .float y => do return .float ((← nearest m).add y)
  | .float x, .int n => do return .float (x.add (← nearest n))
  | .float x, .float y => .ok (.float (x.add y))
  | _, _ => fails .wrongKind

def times (count : Nat) : Value → Except Failure Value
  | .bool b => .ok (.int (if b then count else 0))
  | .int n => .ok (.int (n * count))
  | .float x => .ok (.float (x.mul (Binary64.ofInt count)))
  | .text s => .ok (.text (String.join (List.replicate count s)))
  | .bytes b => .ok (.bytes (List.replicate count b).flatten)
  | .list items => .ok (.list (List.replicate count items).flatten)
  | .tuple items => .ok (.tuple (List.replicate count items).flatten)
  | _ => fails .wrongKind

end Value

end CloudTelemetry
