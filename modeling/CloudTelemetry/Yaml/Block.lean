import CloudTelemetry.Yaml.Property
import CloudTelemetry.Yaml.Scalar

/-!
# Scalars of whole lines

A scalar that is introduced by a sign and takes the lines of a block as they are. In the literal
kind all breaks stay; in the folded kind a single break between two lines that start with no blank
is read as a blank. Of the breaks at the end one stays, unless the header says that none or all of
them do.
-/

namespace CloudTelemetry.Yaml

inductive Chomp where
  /-- one of them stays -/
  | clip
  /-- none of them stays -/
  | strip
  /-- all of them stay -/
  | keep
deriving DecidableEq, Repr

structure BlockHeader where
  chomp : Chomp
  /-- how many columns the lines are set in -/
  indent : Option Nat

namespace Cursor

/-! ### The header -/

def chomp? (c : Cursor) : Option Chomp :=
  match c.peek? with
  | some '+' => some .keep
  | some '-' => some .strip
  | _ => none

def indentDigit (c : Cursor) : Except Fault (Option Nat × Cursor) :=
  match c.rest with
  | '0' :: _ => .error .malformed
  | ch :: _ =>
    if Numeral.isDigit ch then .ok (some (ch.toNat - 48), c.skip 1) else .ok (none, c)
  | [] => .ok (none, c)

/-- The rule for breaks and the indentation, in any order, to the end of the line. -/
def blockHeader (c : Cursor) : Except Fault (BlockHeader × Cursor) := do
  let (header, after) ←
    match c.chomp? with
    | some chomp => do
      let (indent, after) ← (c.skip 1).indentDigit
      pure (BlockHeader.mk chomp indent, after)
    | none => do
      let (indent, after) ← c.indentDigit
      match indent, after.chomp? with
      | some _, some chomp => pure (BlockHeader.mk chomp indent, after.skip 1)
      | _, _ => pure (BlockHeader.mk .clip indent, after)
  return (header, ← (← after.expectGap).endOfLine)

/-! ### Lines -/

/-- Breaks and blanks before the first line, and the greatest column that the blanks reach. -/
def leadingBreaks (c : Cursor) : List Char × Nat × Cursor :=
  match _h : c.rest with
  | [] => ([], 0, c)
  | ch :: rest =>
    if isSpace ch then
      let (more, column, after) := (c.past ch rest).leadingBreaks
      (more, max (c.past ch rest).column column, after)
    else if isBreak ch then
      let (more, column, after) := (c.past ch rest).leadingBreaks
      (readBreak ch :: more, column, after)
    else ([], 0, c)
termination_by c.rest.length
decreasing_by all_goals simp_all [rest_past]

def breaksBefore (indent : Nat) (c : Cursor) : List Char × Cursor :=
  match _h : c.rest with
  | [] => ([], c)
  | ch :: rest =>
    if isSpace ch && c.column < indent then (c.past ch rest).breaksBefore indent
    else if isBreak ch then
      let (more, after) := (c.past ch rest).breaksBefore indent
      (readBreak ch :: more, after)
    else ([], c)
termination_by c.rest.length
decreasing_by all_goals simp_all [rest_past]

def startsLine (indent : Nat) (c : Cursor) : Bool := c.column == indent && !c.rest.isEmpty

def startsBlank (c : Cursor) : Bool := c.peek?.any isSpaceOrTab

structure Lines where
  text : List Char
  last : List Char
  trailing : List Char
  after : Cursor

/-- What stands for the break between two lines, given the breaks after it. -/
def lineGlue (folded : Bool) (ending more : List Char) (blankSide : Bool) : List Char :=
  if folded && ending == ['\n'] && !blankSide then (if more.isEmpty then [' '] else [])
  else ending

/-- The lines from here on, which some breaks come before. -/
def blockLines (folded : Bool) (indent : Nat) : Nat → List Char → Cursor → Lines
  | 0, breaks, c => ⟨[], [], breaks, c⟩
  | fuel + 1, breaks, c =>
    if c.startsLine indent then
      let (line, lineEnd) := c.takeWhile (!isBreak ·)
      let ending := (lineEnd.peek?.map readBreak).toList
      let (more, next) := (lineEnd.skip 1).breaksBefore indent
      if next.startsLine indent then
        let glue := lineGlue folded ending more (c.startsBlank || next.startsBlank)
        let lines := blockLines folded indent fuel more next
        { lines with text := breaks ++ line ++ glue ++ lines.text }
      else ⟨breaks ++ line, ending, more, next⟩
    else ⟨[], [], breaks, c⟩

/-- A scalar of whole lines, read after its sign; `least` is the least column of its lines. -/
def block (folded : Bool) (least : Nat) (c : Cursor) : Except Fault (List Char × Cursor) := do
  let (header, c) ← c.blockHeader
  let (indent, breaks, c) :=
    match header.indent with
    | some columns =>
      let indent := least + columns - 1
      let (breaks, c) := c.breaksBefore indent
      (indent, breaks, c)
    | none =>
      let (breaks, column, c) := c.leadingBreaks
      (max least column, breaks, c)
  let lines := c.blockLines folded indent (c.rest.length + 1) breaks
  let ending :=
    match header.chomp with
    | .strip => []
    | .clip => lines.last
    | .keep => lines.last ++ lines.trailing
  return (lines.text ++ ending, lines.after)

end Cursor

end CloudTelemetry.Yaml
