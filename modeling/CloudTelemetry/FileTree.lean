import CloudTelemetry.Surroundings

/-!
# Trees of files

A `FileTree` holds the files in and below the directory where a program runs, and the names of some
things elsewhere. `FileTree.system` is the file system in which there is nothing else. A path is
followed step by step, so a step up from a directory that does not exist leads nowhere. The
directory where the program runs is one for temporary files. A name that is too long is refused
where it is looked for.
-/

namespace CloudTelemetry

abbrev FileName := List UInt8

def fileName (name : String) : FileName := name.toUTF8.toList

structure FileTree where
  files : List (List FileName × String)
  /-- directories elsewhere, by the names that lead to them from the root -/
  directories : List (List FileName)
  /-- files elsewhere -/
  others : List (List FileName)

namespace FileTree

inductive Position where
  /-- in or below the directory where the program runs -/
  | inside (names : List FileName)
  /-- elsewhere, by the names from the root -/
  | outside (names : List FileName)
  | nowhere
deriving DecidableEq, Repr

def temporaryDirectory : List FileName := [fileName "tmp"]

/-- Whether names lead to a directory: to where the program runs, or to one that holds a file. -/
def isDirectory (t : FileTree) (names : List FileName) : Bool :=
  names.isEmpty || t.files.any fun file => names.isPrefixOf file.1 && names != file.1

def longestName : Nat := 255

def longestPath : Nat := 4095

def checkLength (most : Nat) (bytes : List UInt8) : Except Defect Unit :=
  if most < bytes.length then .error .tooLong else .ok ()

def upward : FileName := fileName ".."

/-- One step. Only directories can be left. -/
def step (t : FileTree) : Position → FileName → Except Defect Position
  | .inside names, name => do
    if !t.isDirectory names then return .nowhere
    checkLength longestName name
    if name != upward then return .inside (names ++ [name])
    else if names.isEmpty then return .outside temporaryDirectory
    else return .inside names.dropLast
  | .outside names, name => do
    if !t.directories.contains names then return .nowhere
    checkLength longestName name
    return .outside (if name == upward then names.dropLast else names ++ [name])
  | .nowhere, _ => return .nowhere

/-- Where a path leads. No file has a name without bytes, or with the sign of the end of a text. -/
def follow (t : FileTree) (path : Path) : Except Defect Position :=
  match path.text.bytes?, path.fileNames? with
  | some bytes, some names => do
    if bytes.contains 0 then return .nowhere
    checkLength longestPath bytes
    names.foldlM t.step (if path.isAbsolute then .outside [] else .inside [])
  | _, _ => return .nowhere

/-- The text of the file at a position. What stands in files elsewhere is not known. -/
def textAt? (t : FileTree) : Position → Option String
  | .inside names => t.files.lookup names
  | _ => none

def isThereAt (t : FileTree) : Position → Bool
  | .inside names => t.isDirectory names || (t.files.lookup names).isSome
  | .outside names => t.directories.contains names || t.others.contains names
  | .nowhere => false

def system (t : FileTree) : FileSystem where
  isFile path := (t.follow path).map fun position => (t.textAt? position).isSome
  isThere path := (t.follow path).map t.isThereAt
  text path := do return (t.textAt? (← t.follow path)).getD ""

end FileTree

end CloudTelemetry
