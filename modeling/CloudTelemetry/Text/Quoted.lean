import CloudTelemetry.Text.Glyphs
import CloudTelemetry.Text.Printable

/-!
# Quoted text

The quoted form of a text and of a byte string, as they stand inside the written form of a
collection. The quote is an apostrophe, or a double quote where the text holds apostrophes and no
double quote. Backslash, the quote and the line characters take a letter escape, every other
unprintable character and every half of one a hexadecimal one of two, four or eight digits.
-/

namespace CloudTelemetry.Text

/-- The hexadecimal digits of `n`, lower case, padded on the left to `width`. -/
def hexPadded (width n : Nat) : List Char :=
  let digits := Nat.toDigits 16 n
  List.replicate (width - digits.length) '0' ++ digits

def quoteFor (contains : Char → Bool) : Char :=
  if contains '\'' && !contains '"' then '"' else '\''

/-- The escapes that both kinds of quoted text share. -/
def letterEscape? (quote c : Char) : Option (List Char) :=
  if c = quote ∨ c = '\\' then some ['\\', c]
  else if c = '\n' then some ['\\', 'n']
  else if c = '\r' then some ['\\', 'r']
  else if c = '\t' then some ['\\', 't']
  else none

def codeEscape (code : Nat) : List Char :=
  if code < 0x100 then '\\' :: 'x' :: hexPadded 2 code
  else if code < 0x10000 then '\\' :: 'u' :: hexPadded 4 code
  else '\\' :: 'U' :: hexPadded 8 code

def escapeChar (quote c : Char) : List Char :=
  match letterEscape? quote c with
  | some escape => escape
  | none => if isPrintable c then [c] else codeEscape c.toNat

def escapeGlyph (quote : Char) : Glyph → List Char
  | .whole c => escapeChar quote c
  | .half code => codeEscape code

def escapeByte (quote : Char) (b : UInt8) : List Char :=
  let c := Char.ofNat b.toNat
  match letterEscape? quote c with
  | some escape => escape
  | none =>
    if 0x20 ≤ b.toNat ∧ b.toNat < 0x7F then [c] else '\\' :: 'x' :: hexPadded 2 b.toNat

def quoted (text : Glyphs) : String :=
  let quote := quoteFor fun c => text.list.contains (.whole c)
  String.ofList (quote :: text.list.flatMap (escapeGlyph quote) ++ [quote])

/-- A byte string between quotes, marked by a leading letter. -/
def quotedBytes (bytes : List UInt8) : String :=
  let quote := quoteFor fun c => bytes.contains c.toNat.toUInt8
  String.ofList ('b' :: quote :: bytes.flatMap (escapeByte quote) ++ [quote])

end CloudTelemetry.Text
