import CloudTelemetry.Text.Glyphs
import CloudTelemetry.Text.Parts

/-!
# Paths

A `Path` names a file by the directories that lead to it. Reading a text drops what says nothing:
doubled slashes, a slash at the end, and names that stay where they are (`.`). A step up (`..`) is
kept, because what it leads to depends on the files.
-/

namespace CloudTelemetry

/-- The root, empty for a relative path, and the names after it. -/
structure Path where
  root : String
  names : List Glyphs
deriving DecidableEq, Repr

namespace Path

def slash : Glyph := .whole '/'

/-- The root of a text: two slashes at its start are a root of their own, any other number is the
usual one. -/
def rootOf (text : List Glyph) : String :=
  match text.takeWhile (· == slash) with
  | [] => ""
  | [_, _] => "//"
  | _ => "/"

def isName (part : List Glyph) : Bool := part != [] && part != [.whole '.']

def ofText (text : Glyphs) : Path where
  root := rootOf text.list
  names := ((Text.parts slash text.list).filter isName).map Glyphs.mk

/-- The path as text; the path to where one stands is a dot. -/
def text (p : Path) : Glyphs :=
  match p.root, p.names with
  | "", [] => "."
  | root, names => root ++ Glyphs.intercalate "/" names

def isAbsolute (p : Path) : Bool := p.root != ""

def join (base p : Path) : Path :=
  if p.isAbsolute then p else { base with names := base.names ++ p.names }

def parent (p : Path) : Path := { p with names := p.names.dropLast }

def fileNames? (p : Path) : Option (List (List UInt8)) := p.names.mapM Glyphs.bytes?

end Path

end CloudTelemetry
