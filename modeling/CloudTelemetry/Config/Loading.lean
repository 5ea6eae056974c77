import CloudTelemetry.Config.Reading

/-!
# Loading a configuration

`Config.load`: a configuration from a file of YAML. An empty document is an empty configuration;
any other document that is no mapping is refused.
-/

namespace CloudTelemetry

namespace Yaml.Document

/-- The value of a section that is looked at before references are replaced, so that its entries are
seen as they stand. -/
def sectionAt (document : Document) (id : NodeId) : Value :=
  match document.data.getD id none with
  | some (.map entries) =>
    .map (entries.map fun (key, item) => (key.value, document.valueAt .direct item))
  | _ => document.valueAt .copied id

/-- The entries of a mapping at the root, some of them sections that are looked at early. -/
def rootEntries? (document : Document) (early : List String) : Option (List (Value × Value)) := do
  match document.data.getD (← document.root) none with
  | some (.map entries) =>
    return entries.map fun (key, item) =>
      match key.value with
      | .text name =>
        let value := if early.contains name then document.sectionAt item
          else document.valueAt .copied item
        (key.value, value)
      | _ => (key.value, document.valueAt .copied item)
  | _ => none

end Yaml.Document

namespace Config

def optionsOf? (document : Yaml.Document) : Option Options :=
  match document.rootEntries? ["validation"] with
  | some options => some options
  | none => if document.value.isPresent then none else some []

def unreadable (path : Path) : Yaml.Fault → Failure
  | .malformed => .configuration (.unreadable path.text)
  | .defect cause => .defect cause

def load (s : Surroundings) (path : Path) (forced : Option Mode) : Report LogEntry Config :=
  match s.file? path with
  | .error cause => .fail cause
  | .ok none => .fail (.configuration (.fileMissing path.text))
  | .ok (some text) =>
    match s.parser text with
    | .error fault => .fail (unreadable path fault)
    | .ok document =>
      match optionsOf? document with
      | none => .fail (.configuration (.notMapping path.text))
      | some options => ofEntries s (some path.parent) forced options

end Config

end CloudTelemetry
