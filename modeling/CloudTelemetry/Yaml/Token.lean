import CloudTelemetry.Yaml.Block

/-!
# Tokens

`Tokens.ofText`: the tokens of a text, one after another up to its end or to a fault. The extent
of a block is told by the columns of its lines, so the start and the end of a block are tokens of
their own. Whether a scalar or a collection is a key is known only at the colon after it; the
key's token is then put in front of it, so a token is not given out while it may still turn out to
be a key. A key stands on one line and is not longer than `longestKey`.
-/

namespace CloudTelemetry.Yaml

inductive Token where
  | directive (d : Directive)
  | documentStart
  | documentEnd
  | blockSequenceStart
  | blockMappingStart
  | blockEnd
  | flowSequenceStart
  | flowSequenceEnd
  | flowMappingStart
  | flowMappingEnd
  | blockEntry
  | flowEntry
  | key
  | value
  | alias (name : String)
  | anchor (name : String)
  | tag (mark : TagMark)
  | scalar (plain : Bool) (text : Glyphs)
deriving DecidableEq, Repr

inductive Tokens where
  | done
  /-- the text goes wrong, and no more tokens can be had -/
  | broken (fault : Fault)
  | next (token : Token) (rest : Tokens)

namespace Tokens

def length : Tokens → Nat
  | .done => 0
  | .broken _ => 0
  | .next _ rest => rest.length + 1

end Tokens

/-- The length of a key that its colon is awaited for, in characters. -/
def longestKey : Nat := 1024

structure PossibleKey where
  /-- how many tokens come before it -/
  position : Nat
  /-- whether it has to be a key, because it starts a line of a mapping -/
  required : Bool
  index : Nat
  line : Nat
  column : Nat

structure Lexer where
  cursor : Cursor
  /-- how many tokens have been given out -/
  given : Nat
  /-- tokens that have been read and not given out -/
  queue : List Token
  /-- whether the end of the text has been read -/
  finished : Bool
  /-- the columns of the open blocks, the innermost first -/
  indents : List Nat
  /-- whether a key may start here -/
  keyAllowed : Bool
  /-- the possible key of the innermost level -/
  possible : Option PossibleKey
  /-- the possible keys of the levels around the open flow collections, the innermost first -/
  outer : List (Option PossibleKey)

namespace Lexer

def start (text : List Char) : Lexer := ⟨.start text, 0, [], false, [], true, none, []⟩

def inFlow (l : Lexer) : Bool := !l.outer.isEmpty

def count (l : Lexer) : Nat := l.given + l.queue.length

def nextIndent (l : Lexer) : Nat :=
  match l.indents with
  | [] => 0
  | column :: _ => column + 1

def push (l : Lexer) (token : Token) : Lexer := { l with queue := l.queue ++ [token] }

def insertAt (l : Lexer) (position : Nat) (token : Token) : Lexer :=
  { l with queue := l.queue.insertIdx (position - l.given) token }

def advance (l : Lexer) (count : Nat) : Lexer := { l with cursor := l.cursor.skip count }

/-! ### Blocks -/

/-- Opens a block at a column beyond that of the innermost one; its first token comes before
`position`. -/
def open? (l : Lexer) (column position : Nat) (token : Token) : Lexer :=
  if l.nextIndent ≤ column then
    { l.insertAt position token with indents := column :: l.indents }
  else l

def close (l : Lexer) (beyond : Nat → Bool) : Lexer :=
  if l.inFlow then l
  else
    let closed := l.indents.takeWhile beyond
    { l with
      indents := l.indents.dropWhile beyond
      queue := l.queue ++ closed.map fun _ => Token.blockEnd }

/-! ### Possible keys -/

/-- Forgets a possible key; one that has to be a key must not be forgotten. -/
def forget : Option PossibleKey → Except Fault (Option PossibleKey)
  | some key => if key.required then .error .malformed else .ok none
  | none => .ok none

def isStale (l : Lexer) (key : PossibleKey) : Bool :=
  key.line != l.cursor.line || longestKey < l.cursor.index - key.index

def forgetStale (l : Lexer) : Except Fault Lexer := do
  let fresh (key? : Option PossibleKey) : Except Fault (Option PossibleKey) :=
    match key? with
    | some key => if l.isStale key then forget key? else .ok key?
    | none => .ok none
  return { l with possible := ← fresh l.possible, outer := ← l.outer.mapM fresh }

def forgetKey (l : Lexer) : Except Fault Lexer := do
  return { l with possible := ← forget l.possible }

def saveKey (l : Lexer) : Except Fault Lexer := do
  if l.keyAllowed then
    let required := !l.inFlow && l.indents.head? == some l.cursor.column
    let key : PossibleKey :=
      ⟨l.count, required, l.cursor.index, l.cursor.line, l.cursor.column⟩
    return { ← l.forgetKey with possible := some key }
  else return l

/-! ### Tokens -/

/-- Blanks, breaks and comments; outside of flow a key may start on a new line. -/
def skipBlank : Nat → Lexer → Lexer
  | 0, l => l
  | fuel + 1, l =>
    let cursor := l.cursor.skipWhile isSpace
    let cursor := if cursor.peek? == some '#' then cursor.skipWhile (!isBreak ·) else cursor
    match cursor.rest with
    | [] => { l with cursor := cursor }
    | ch :: rest =>
      if isBreak ch then
        skipBlank fuel { l with
          cursor := cursor.past ch rest
          keyAllowed := l.keyAllowed || !l.inFlow }
      else { l with cursor := cursor }

def separator (l : Lexer) (token : Token) : Except Fault Lexer := do
  let l ← (l.close fun _ => true).forgetKey
  return ({ l with keyAllowed := false }.push token).advance 3

def flowStart (l : Lexer) (token : Token) : Except Fault Lexer := do
  let l ← l.saveKey
  return ({ l with
    outer := l.possible :: l.outer, possible := none, keyAllowed := true }.push token).advance 1

def flowEnd (l : Lexer) (token : Token) : Except Fault Lexer := do
  match l.outer with
  | [] => .error .malformed
  | possible :: outer =>
    let l ← l.forgetKey
    return ({ l with
      outer := outer, possible := possible, keyAllowed := false }.push token).advance 1

def flowEntry (l : Lexer) : Except Fault Lexer := do
  let l ← l.forgetKey
  return ({ l with keyAllowed := true }.push .flowEntry).advance 1

def blockHere (l : Lexer) (token : Token) : Except Fault Lexer :=
  if l.inFlow then .ok l
  else if l.keyAllowed then .ok (l.open? l.cursor.column l.count token)
  else .error .malformed

def blockEntry (l : Lexer) : Except Fault Lexer := do
  let l ← (← l.blockHere .blockSequenceStart).forgetKey
  return ({ l with keyAllowed := true }.push .blockEntry).advance 1

def key (l : Lexer) : Except Fault Lexer := do
  let l ← (← l.blockHere .blockMappingStart).forgetKey
  return ({ l with keyAllowed := !l.inFlow }.push .key).advance 1

/-- A colon: what may have been a key is one, or the key is missing. -/
def value (l : Lexer) : Except Fault Lexer := do
  match l.possible with
  | some key =>
    let l := { l.insertAt key.position .key with possible := none, keyAllowed := false }
    let l := if l.inFlow then l else l.open? key.column key.position .blockMappingStart
    return (l.push .value).advance 1
  | none =>
    let l ← l.blockHere .blockMappingStart
    return ({ l with keyAllowed := !l.inFlow }.push .value).advance 1

def quoted (l : Lexer) (quote : Char) : Except Fault Lexer := do
  let l ← l.saveKey
  let (text, after) ← (l.cursor.skip 1).quoted quote
  return { l with cursor := after, keyAllowed := false }.push (.scalar false text)

def plain (l : Lexer) : Except Fault Lexer := do
  let l ← l.saveKey
  let (text, broken, after) := l.cursor.plain l.inFlow l.nextIndent
  return { l with cursor := after, keyAllowed := broken }.push
    (.scalar true (.ofChars text))

def directive (l : Lexer) : Except Fault Lexer := do
  let l ← (l.close fun _ => true).forgetKey
  let (directive, after) ← (l.cursor.skip 1).directive
  return { l with cursor := after, keyAllowed := false }.push (.directive directive)

def named (l : Lexer) (token : String → Token) : Except Fault Lexer := do
  let l ← l.saveKey
  let (name, after) ← (l.cursor.skip 1).anchor
  return { l with cursor := after, keyAllowed := false }.push (token name)

def tag (l : Lexer) : Except Fault Lexer := do
  let l ← l.saveKey
  let (mark, after) ← l.cursor.tag
  return { l with cursor := after, keyAllowed := false }.push (.tag mark)

def block (l : Lexer) (folded : Bool) : Except Fault Lexer := do
  let l ← { l with keyAllowed := true }.forgetKey
  let (text, after) ← (l.cursor.skip 1).block folded (max 1 l.nextIndent)
  return { l with cursor := after }.push (.scalar false (.ofChars text))

def startsPlain (inFlow : Bool) (ch : Char) (rest : List Char) : Bool :=
  !(isSpaceOrTab ch || isBreak ch || "-?:,[]{}#&*!|>'\"%@`".toList.contains ch) ||
    !endsWord rest && (ch == '-' || !inFlow && (ch == '?' || ch == ':'))

def token (l : Lexer) (ch : Char) (rest : List Char) : Except Fault Lexer :=
  if l.cursor.column == 0 && ch == '%' then l.directive
  else if l.cursor.column == 0 && l.cursor.atMark '-' then l.separator .documentStart
  else if l.cursor.column == 0 && l.cursor.atMark '.' then l.separator .documentEnd
  else
    match ch with
    | '[' => l.flowStart .flowSequenceStart
    | '{' => l.flowStart .flowMappingStart
    | ']' => l.flowEnd .flowSequenceEnd
    | '}' => l.flowEnd .flowMappingEnd
    | ',' => l.flowEntry
    | '*' => l.named .alias
    | '&' => l.named .anchor
    | '!' => l.tag
    | '\'' => l.quoted '\''
    | '"' => l.quoted '"'
    | _ =>
      if ch == '-' && endsWord rest then l.blockEntry
      else if ch == '?' && (l.inFlow || endsWord rest) then l.key
      else if ch == ':' && (l.inFlow || endsWord rest) then l.value
      else if (ch == '|' || ch == '>') && !l.inFlow then l.block (ch == '>')
      else if startsPlain l.inFlow ch rest then l.plain
      else .error .malformed

/-! ### One after another -/

def step (l : Lexer) : Except Fault Lexer := do
  let l ← (l.skipBlank (l.cursor.rest.length + 1)).forgetStale
  match l.cursor.rest with
  | [] =>
    let l ← (l.close fun _ => true).forgetKey
    return { l with finished := true, keyAllowed := false, outer := l.outer.map fun _ => none }
  | ch :: rest => (l.close (l.cursor.column < ·)).token ch rest

/-- Whether the first token of the queue may still turn out to be a key. -/
def awaitsColon (l : Lexer) : Bool :=
  (l.possible :: l.outer).any fun key? => key?.any fun key => key.position == l.given

def settle : Nat → Lexer → Except Fault Lexer
  | 0, _ => .error .malformed
  | fuel + 1, l => do
    if l.finished then return l
    else if l.queue.isEmpty then settle fuel (← l.step)
    else
      let l ← l.forgetStale
      if l.awaitsColon then settle fuel (← l.step) else return l

def tokens : Nat → Lexer → Tokens
  | 0, _ => .broken .malformed
  | fuel + 1, l =>
    match l.settle (l.cursor.rest.length + 2) with
    | .error fault => .broken fault
    | .ok l =>
      match l.queue with
      | [] => .done
      | token :: rest =>
        .next token (tokens fuel { l with queue := rest, given := l.given + 1 })

end Lexer

/-- The tokens of a text. A byte order mark in front is none of them. -/
def Tokens.ofText (text : List Char) : Tokens :=
  let l := Lexer.start text
  let l := if text.head? == some byteOrderMark then l.advance 1 else l
  l.tokens (4 * text.length + 8)

end CloudTelemetry.Yaml
