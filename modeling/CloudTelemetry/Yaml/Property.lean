import CloudTelemetry.Numeral
import CloudTelemetry.Text.DecimalDigit
import CloudTelemetry.Yaml.Cursor

/-!
# Names, tags and directives

What may stand in front of a node, and in front of a document. An anchor names a node, and an
alias refers to it by that name. A tag names a type: by a handle, which a directive may define, and
a suffix in the characters of resource identifiers.
-/

namespace CloudTelemetry.Yaml

inductive Directive where
  | version (major : Nat)
  /-- a handle of tags, and what it stands for -/
  | handle (handle stem : String)
  | other
deriving DecidableEq, Repr

/-- A tag as it is written. One without a handle is complete. -/
structure TagMark where
  handle : Option String
  suffix : String
deriving DecidableEq, Repr

def isNameChar (c : Char) : Bool := c.isAlphanum || c == '-' || c == '_'

def isIdentifierChar (c : Char) : Bool :=
  isNameChar c || ";/?:@&=+$,.!~*'()[]".toList.contains c

namespace Cursor

def expect (c : Cursor) (ch : Char) : Except Fault Cursor :=
  if c.peek? == some ch then .ok (c.skip 1) else .error .malformed

/-- The cursor itself, where a blank, a break or the end stands. -/
def expectGap (c : Cursor) : Except Fault Cursor :=
  if endsPhrase c.rest then .ok c else .error .malformed

def name (c : Cursor) : Except Fault (String × Cursor) :=
  match c.takeWhile isNameChar with
  | ([], _) => .error .malformed
  | (found, after) => .ok (String.ofList found, after)

def anchor (c : Cursor) : Except Fault (String × Cursor) := do
  let (name, after) ← c.name
  if endsWord after.rest || "?:,]\x7d%@`".toList.contains (after.rest.headD ' ') then
    return (name, after)
  else throw .malformed

/-! ### Tags -/

/-- The bytes that follow, each written as a percent sign and two hexadecimal digits. -/
def escapedBytes : Nat → Cursor → Except Fault (List UInt8 × Cursor)
  | 0, c => .ok ([], c)
  | fuel + 1, c =>
    match c.rest with
    | '%' :: high :: low :: _ => do
      match Text.latinDigit? 16 high, Text.latinDigit? 16 low with
      | some h, some l =>
        let (more, after) ← escapedBytes fuel (c.skip 3)
        return ((16 * h + l).toUInt8 :: more, after)
      | _, _ => throw .malformed
    | '%' :: _ => throw .malformed
    | _ => return ([], c)

def identifierRest : Nat → Cursor → Except Fault (String × Cursor)
  | 0, _ => .error .malformed
  | fuel + 1, c => do
    let (plain, after) := c.takeWhile isIdentifierChar
    if after.peek? == some '%' then
      let (bytes, after) ← escapedBytes after.rest.length after
      match String.fromUTF8? ⟨bytes.toArray⟩ with
      | some text =>
        let (more, last) ← identifierRest fuel after
        return (String.ofList plain ++ text ++ more, last)
      | none => throw .malformed
    else return (String.ofList plain, after)

def identifier (c : Cursor) : Except Fault (String × Cursor) := do
  let (text, after) ← identifierRest (c.rest.length + 1) c
  if after.index == c.index then throw .malformed
  return (text, after)

def handle (c : Cursor) : Except Fault (String × Cursor) := do
  let c ← c.expect '!'
  if c.peek? == some ' ' then return ("!", c)
  let (name, after) := c.takeWhile isNameChar
  return ("!" ++ String.ofList name ++ "!", ← after.expect '!')

def tag (c : Cursor) : Except Fault (TagMark × Cursor) := do
  let inside := c.rest.tail
  let (mark, after) ←
    if inside.head? == some '<' then do
      let (suffix, after) ← (c.skip 2).identifier
      pure (TagMark.mk none suffix, ← after.expect '>')
    else if endsWord inside then pure (TagMark.mk none "!", c.skip 1)
    else do
      let word := inside.takeWhile fun ch => !(isSpace ch || isBreak ch)
      let (handle, after) ← if word.contains '!' then c.handle else pure ("!", c.skip 1)
      let (suffix, after) ← after.identifier
      pure (TagMark.mk (some handle) suffix, after)
  return (mark, ← after.expectGap)

/-! ### Directives -/

def versionNumber (c : Cursor) : Except Fault (Nat × Cursor) :=
  match c.takeWhile Numeral.isDigit with
  | ([], _) => .error .malformed
  | (digits, after) =>
    if Numeral.digitLimit < digits.length then .error (.defect .badValue)
    else .ok (Numeral.digitsValue digits, after)

/-- The cursor on the next line; a comment may stand before it. -/
def endOfLine (c : Cursor) : Except Fault Cursor :=
  let c := c.skipWhile isSpace
  let c := if c.peek? == some '#' then c.skipWhile (!isBreak ·) else c
  match c.rest with
  | [] => .ok c
  | ch :: rest => if isBreak ch then .ok (c.past ch rest) else .error .malformed

def directive (c : Cursor) : Except Fault (Directive × Cursor) := do
  let (name, after) ← c.name
  let after ← after.expectGap
  let (directive, after) ←
    if name == "YAML" then do
      let (major, after) ← (after.skipWhile isSpace).versionNumber
      let (_, after) ← (← after.expect '.').versionNumber
      pure (.version major, ← after.expectGap)
    else if name == "TAG" then do
      let (handle, after) ← (after.skipWhile isSpace).handle
      let after ← after.expect ' '
      let (stem, after) ← (after.skipWhile isSpace).identifier
      pure (.handle handle stem, ← after.expectGap)
    else pure (Directive.other, after.skipWhile (!isBreak ·))
  return (directive, ← after.endOfLine)

end Cursor

end CloudTelemetry.Yaml
