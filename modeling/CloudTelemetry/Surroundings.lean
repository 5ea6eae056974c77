import CloudTelemetry.Fields
import CloudTelemetry.Path
import CloudTelemetry.Value.Number
import CloudTelemetry.Yaml.Data

/-!
# Surroundings

What a program finds around it: the variables of its environment, the files, and a parser for what
stands in them. A look at the files may fail, and what fails is a defect.
-/

namespace CloudTelemetry

structure FileSystem where
  /-- whether a path leads to a file -/
  isFile : Path → Except Defect Bool
  /-- whether it leads to a file or a directory -/
  isThere : Path → Except Defect Bool
  /-- the text of the file to which it leads -/
  text : Path → Except Defect String

structure Surroundings where
  environment : Fields String
  files : FileSystem
  parser : Yaml.Parser

namespace Surroundings

def valueOf? (s : Surroundings) (name : String) : Option String := s.environment.get? name

/-- The value of the variable of a name, which is looked up by its bytes. -/
def lookUp (s : Surroundings) (name : Glyphs) : Except Failure (Option String) :=
  match name.string?, name.bytes? with
  | some name, _ => .ok (s.valueOf? name)
  | none, some bytes => .ok ((String.fromUTF8? ⟨bytes.toArray⟩).bind s.valueOf?)
  | none, none => fails .halfCharacter

def file? (s : Surroundings) (path : Path) : Except Failure (Option String) := do
  if ← raise (s.files.isFile path) then return some (← raise (s.files.text path))
  else return none

def leads (s : Surroundings) (path : Path) : Except Failure Bool :=
  raise (s.files.isThere path)

end Surroundings

end CloudTelemetry
