import CloudTelemetry.Value
import CloudTelemetry.Binary64.Written
import CloudTelemetry.Numeral
import CloudTelemetry.Text.Quoted

/-!
# The written form of a value

`Value.written`: a text stands for itself, everything else is written out; inside a collection
texts are quoted. A tuple of one item keeps a comma, so that it differs from the item in brackets.
An integer of too many digits is not written at all (`Value.isWritable`).
-/

namespace CloudTelemetry.Value

mutual

/-- The form inside a collection. -/
def nested : Value → String
  | .null => "None"
  | .bool b => if b then "True" else "False"
  | .int n => toString n
  | .float x => x.written
  | .text s => Text.quoted s
  | .broken t => Text.quoted t.glyphs
  | .bytes b => Text.quotedBytes b
  | .moment m => m.nested
  | .list items => "[" ++ ", ".intercalate (nestedItems items) ++ "]"
  | .tuple [item] => "(" ++ nested item ++ ",)"
  | .tuple items => "(" ++ ", ".intercalate (nestedItems items) ++ ")"
  | .set [] => "set()"
  | .set items => "\x7b" ++ ", ".intercalate (nestedItems items) ++ "\x7d"
  | .map entries => "\x7b" ++ ", ".intercalate (nestedEntries entries) ++ "\x7d"
  | .enclosing .list => "[...]"
  | .enclosing .tuple => "(...)"
  | .enclosing .map => "\x7b...\x7d"

def nestedItems : List Value → List String
  | [] => []
  | item :: rest => nested item :: nestedItems rest

def nestedEntries : List (Value × Value) → List String
  | [] => []
  | (key, value) :: rest => (nested key ++ ": " ++ nested value) :: nestedEntries rest

end

def written : Value → Glyphs
  | .text s => s
  | .broken t => t.glyphs
  | .moment m => m.written
  | value => nested value

/-- The form that stands by itself, as it can be shown. -/
def shown (v : Value) : String := v.written.shown

/-! ### Integers that are too wide -/

/-- Integers below this one are written; it has one digit too many. -/
def leastUnwritten : Nat := Nat.pow 10 Numeral.digitLimit

mutual

/-- Whether the value has a written form: an integer may have too many digits. -/
def isWritable : Value → Bool
  | .int n => n.natAbs < leastUnwritten
  | .list items => allWritable items
  | .tuple items => allWritable items
  | .set items => allWritable items
  | .map entries => allEntriesWritable entries
  | _ => true

def allWritable : List Value → Bool
  | [] => true
  | v :: rest => isWritable v && allWritable rest

def allEntriesWritable : List (Value × Value) → Bool
  | [] => true
  | (key, value) :: rest => isWritable key && isWritable value && allEntriesWritable rest

end

end CloudTelemetry.Value
