import CloudTelemetry.Text.DecimalDigit
import CloudTelemetry.Text.Glyphs
import CloudTelemetry.Yaml.Cursor

/-!
# Scalars

How plain and quoted scalars are read. A scalar may run over several lines: one break between two
lines is read as a blank, and of several breaks the first goes. A plain scalar ends before a
comment, before a colon that marks a value, and in flow also before the signs of flow.
-/

namespace CloudTelemetry.Yaml

def readBreak (ch : Char) : Char := if ch == '\x85' then '\n' else ch

/-- A break and the breaks after it, in the text of a scalar. -/
def folded (first : Char) (more : List Char) : List Char :=
  if readBreak first != '\n' then first :: more
  else if more.isEmpty then [' ']
  else more

namespace Cursor

/-! ### Plain scalars -/

def endsPlain (inFlow : Bool) (ch : Char) (rest : List Char) : Bool :=
  isSpaceOrTab ch || isBreak ch ||
    ch == ':' && (endsWord rest || inFlow && ",[]{}".toList.contains (rest.headD ' ')) ||
    inFlow && ",?[]{}".toList.contains ch

def word (inFlow : Bool) (c : Cursor) : List Char × Cursor :=
  match _h : c.rest with
  | [] => ([], c)
  | ch :: rest =>
    if endsPlain inFlow ch rest then ([], c)
    else
      let (more, after) := (c.past ch rest).word inFlow
      (ch :: more, after)
termination_by c.rest.length
decreasing_by simp_all [rest_past]

/-- Breaks, and the blanks that satisfy `blank` around them, up to a mark between documents. -/
def breaks (blank : Char → Bool) (c : Cursor) : List Char × Cursor :=
  match _h : c.rest with
  | [] => ([], c)
  | ch :: rest =>
    if c.column == 0 && c.atSeparator then ([], c)
    else if blank ch then (c.past ch rest).breaks blank
    else if isBreak ch then
      let (more, after) := (c.past ch rest).breaks blank
      (readBreak ch :: more, after)
    else ([], c)
termination_by c.rest.length
decreasing_by all_goals simp_all [rest_past]

structure Gap where
  /-- what stands for it in the scalar; nothing where the scalar ends -/
  filling : List Char
  /-- whether a line ended -/
  broken : Bool
  after : Cursor

def gap (c : Cursor) : Gap :=
  let (blanks, c) := c.takeWhile isSpace
  match c.rest with
  | [] => ⟨blanks, false, c⟩
  | ch :: rest =>
    if isBreak ch then
      let (more, after) := (c.past ch rest).breaks isSpace
      let filling := if after.column == 0 && after.atSeparator then [] else folded ch more
      ⟨filling, true, after⟩
    else ⟨blanks, false, c⟩

/-- The words after the first, whether the scalar ends with its line, and the cursor after it.
In a block each line has to reach the column `indent`. -/
def moreWords (inFlow : Bool) (indent : Nat) : Nat → Cursor → List Char × Bool × Cursor
  | 0, c => ([], false, c)
  | fuel + 1, c =>
    let g := c.gap
    let (word, after) := g.after.word inFlow
    if g.filling.isEmpty || g.after.peek? == some '#' ||
        !inFlow && g.after.column < indent || word.isEmpty then
      ([], g.broken, g.after)
    else
      let (more, broken, last) := moreWords inFlow indent fuel after
      (g.filling ++ word ++ more, broken, last)

def plain (inFlow : Bool) (indent : Nat) (c : Cursor) : List Char × Bool × Cursor :=
  let (first, after) := c.word inFlow
  let (more, broken, last) := moreWords inFlow indent after.rest.length after
  (first ++ more, broken, last)

/-! ### Quoted scalars -/

def escaped? (letter : Char) : Option Char :=
  [('0', '\x00'), ('a', '\x07'), ('b', '\x08'), ('t', '\t'), ('\t', '\t'), ('n', '\n'),
    ('v', '\x0b'), ('f', '\x0c'), ('r', '\r'), ('e', '\x1b'), (' ', ' '), ('"', '"'),
    ('\\', '\\'), ('/', '/'), ('N', '\x85'), ('_', '\xa0'), ('L', '\u2028'),
    ('P', '\u2029')].lookup letter

/-- The number of digits after a backslash and a letter, where they spell a character. -/
def escapeDigits? (letter : Char) : Option Nat :=
  [('x', 2), ('u', 4), ('U', 8)].lookup letter

def character (code : Nat) : Except Fault Glyph :=
  if code ≤ 0x10ffff then .ok (.ofCode code)
  else if code < 0x80000000 then .error (.defect .badValue)
  else .error (.defect .outOfRange)

def spelled (digits : List Char) (count : Nat) : Except Fault Glyph :=
  match digits.mapM (Text.latinDigit? 16) with
  | some values =>
    if values.length = count then character (values.foldl (fun n d => 16 * n + d) 0)
    else .error .malformed
  | none => .error .malformed

/-- The breaks after a line of a quoted scalar; no mark between documents may stand there. -/
def quotedBreaks (c : Cursor) : Except Fault (List Char × Cursor) :=
  let (more, after) := c.breaks isSpaceOrTab
  if after.column == 0 && after.atSeparator then .error .malformed else .ok (more, after)

def escape (c : Cursor) : Except Fault (List Glyph × Cursor) :=
  match c.rest with
  | [] => .error .malformed
  | ch :: rest =>
    let after := c.past ch rest
    match escaped? ch, escapeDigits? ch with
    | some e, _ => .ok ([.whole e], after)
    | none, some count => do
      return ([← spelled (rest.take count) count], after.skip count)
    | none, none =>
      if isBreak ch then do
        let (more, last) ← after.quotedBreaks
        return (more.map .whole, last)
      else .error .malformed

/-- Blanks of a quoted scalar; at the end of a line they go. -/
def quotedBlanks (c : Cursor) : Except Fault (List Glyph × Cursor) :=
  let (blanks, c) := c.takeWhile isSpaceOrTab
  match c.rest with
  | [] => .error .malformed
  | ch :: rest =>
    if isBreak ch then do
      let (more, after) ← (c.past ch rest).quotedBreaks
      return ((folded ch more).map .whole, after)
    else .ok (blanks.map .whole, c)

def quotedRest (quote : Char) : Nat → Cursor → Except Fault (List Glyph × Cursor)
  | 0, _ => .error .malformed
  | fuel + 1, c =>
    match c.rest with
    | [] => .error .malformed
    | ch :: rest => do
      let after := c.past ch rest
      if ch == quote && quote == '\'' && rest.head? == some '\'' then
        let (more, last) ← quotedRest quote fuel (after.skip 1)
        return (.whole ch :: more, last)
      else if ch == quote then return ([], after)
      else
        let (read, next) ←
          if ch == '\\' && quote == '"' then after.escape
          else if isSpaceOrTab ch || isBreak ch then c.quotedBlanks
          else .ok ([.whole ch], after)
        let (more, last) ← quotedRest quote fuel next
        return (read ++ more, last)

def quoted (quote : Char) (c : Cursor) : Except Fault (Glyphs × Cursor) := do
  let (text, after) ← quotedRest quote (c.rest.length + 1) c
  return (⟨text⟩, after)

end Cursor

end CloudTelemetry.Yaml
