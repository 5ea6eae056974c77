import CloudTelemetry.Yaml.Datum

/-!
# Reading documents

`Document.read`: the document in a text. The characters of the text have to be ones that may stand
in a document, and line breaks of all kinds are one.
-/

namespace CloudTelemetry.Yaml

def isPrintable (c : Char) : Bool :=
  c == '\t' || c == '\n' || c == '\r' || ' ' ≤ c && c ≤ '~' || c == '\x85' ||
    '\xa0' ≤ c && c ≤ '\ufffd' || 0x10000 ≤ c.toNat

/-- The text with a line feed for each carriage return, and for one that a line feed follows. -/
def withLineFeeds : List Char → List Char
  | '\r' :: '\n' :: rest => '\n' :: withLineFeeds rest
  | '\r' :: rest => '\n' :: withLineFeeds rest
  | c :: rest => c :: withLineFeeds rest
  | [] => []

def Document.read : Parser := fun text => do
  let chars := withLineFeeds text.toList
  if !chars.all isPrintable then throw .malformed
  match ← Graph.ofTokens (Tokens.ofText chars) with
  | some graph => return ⟨← Data.ofGraph graph, some graph.root⟩
  | none => return ⟨#[], none⟩

end CloudTelemetry.Yaml
