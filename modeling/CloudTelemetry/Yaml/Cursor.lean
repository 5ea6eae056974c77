import CloudTelemetry.Yaml.Data

/-!
# A place in a document

A `Cursor` is a place in the text of a YAML document: what follows it, and its line and column.
Lines end with a line feed or with one of the rarer breaks of Unicode.
-/

namespace CloudTelemetry.Yaml

def isBreak (c : Char) : Bool :=
  c == '\n' || c == '\x85' || c == '\u2028' || c == '\u2029'

def isSpace (c : Char) : Bool := c == ' '

def isSpaceOrTab (c : Char) : Bool := c == ' ' || c == '\t'

/-- Whether a word ends before what follows: before a blank, a break or the end. -/
def endsWord : List Char → Bool
  | [] => true
  | c :: _ => isSpaceOrTab c || isBreak c

/-- Whether what follows ends something that a tab does not end. -/
def endsPhrase : List Char → Bool
  | [] => true
  | c :: _ => isSpace c || isBreak c

/-- A byte order mark takes no column. -/
def byteOrderMark : Char := '\ufeff'

structure Cursor where
  rest : List Char
  index : Nat
  line : Nat
  column : Nat

namespace Cursor

def start (text : List Char) : Cursor := ⟨text, 0, 0, 0⟩

def peek? (c : Cursor) : Option Char := c.rest.head?

def past (c : Cursor) (ch : Char) (rest : List Char) : Cursor :=
  if isBreak ch then ⟨rest, c.index + 1, c.line + 1, 0⟩
  else ⟨rest, c.index + 1, c.line, if ch == byteOrderMark then c.column else c.column + 1⟩

theorem rest_past (c : Cursor) (ch : Char) (rest : List Char) : (c.past ch rest).rest = rest := by
  unfold past
  split <;> rfl

def skip : Nat → Cursor → Cursor
  | 0, c => c
  | n + 1, c =>
    match c.rest with
    | [] => c
    | ch :: rest => skip n (c.past ch rest)

def takeWhile (p : Char → Bool) (c : Cursor) : List Char × Cursor :=
  let taken := c.rest.takeWhile p
  (taken, c.skip taken.length)

def skipWhile (p : Char → Bool) (c : Cursor) : Cursor := (c.takeWhile p).2

/-- Whether a mark of three equal characters stands here by itself. -/
def atMark (mark : Char) (c : Cursor) : Bool :=
  match c.rest with
  | x :: y :: z :: rest => x == mark && y == mark && z == mark && endsWord rest
  | _ => false

def atSeparator (c : Cursor) : Bool := c.atMark '-' || c.atMark '.'

end Cursor

end CloudTelemetry.Yaml
