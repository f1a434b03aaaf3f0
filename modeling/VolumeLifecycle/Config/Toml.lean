import VolumeLifecycle.FileTree
import VolumeLifecycle.Toml.Document
import VolumeLifecycle.Wire.ConfigRecords

namespace VolumeLifecycle.Config

/-- The sections that may be written as an array of their settings, with the number of these. -/
def sections : List (String × Nat) :=
  [("provider", 3), ("conflict", 3), ("admission", 2), ("host", 1)]

/-- A section that is written as an array counts up to its last setting; nobody reads what
follows, so that it need not have a value. -/
def fitSection (entry : String × Toml.Node) : String × Toml.Node :=
  match sections.lookup entry.1, entry.2 with
  | some n, .array items => (entry.1, .array (items.take n))
  | some n, .tables items => (entry.1, .tables (items.take n))
  | _, _ => entry

/-- The configuration in the entries of a document. All of them need a value, those that are no
settings too. -/
def ofEntries? (entries : Toml.Entries) : Option Config := do
  let entries ← Toml.entryDrafts? (entries.map fitSection)
  Wire.configRecord.codec.decode? (.members entries)

/-- The configuration that a TOML document gives. The failure does not say what is wrong with the
document. -/
def ofToml (text : String) : Except Failure Config :=
  match (Toml.ofText? text).bind ofEntries? with
  | some c => .ok c
  | none => .error (.config "parse config: ")

def load (files : FileTree) (path : Path) : Except Failure Config :=
  match files.readText path with
  | .ok text => ofToml text
  | .error e => .error (.config ("read " ++ path.text ++ ": " ++ e.message))

end VolumeLifecycle.Config
