import SparseTransfer.Settings
import SparseTransfer.Toml.Document
import SparseTransfer.Toml.Misfit

/- The settings that a configuration file gives. Every one may be left out. -/
namespace SparseTransfer
open Toml

structure RepositorySettings where
  url : Option String := none
  branch : Option String := none
  dirPath : Option String := none
  deriving Repr, DecidableEq

structure StorageOverrides where
  endpoint : Option String := none
  accessKey : Option String := none
  secretKey : Option String := none
  target : Option String := none
  secure : Option Bool := none
  region : Option String := none
  deriving Repr, DecidableEq

structure FileSettings where
  repository : RepositorySettings := {}
  storage : StorageOverrides := {}
  deriving Repr, DecidableEq

/-- A structure as a document writes it: a table with some of the fields, or an array with all of
them in order. -/
structure Shape (α : Type) where
  name : String
  /-- The fields in order, each with how a value is put into it. -/
  fields : List (String × (Node → α → Except Misfit α))

namespace Shape

def fieldNames (shape : Shape α) : List String := shape.fields.map (·.1)

/-- Puts an entry behind all entries with smaller keys. -/
def insertByName (entry : Key × Node) : Entries → Entries
  | [] => [entry]
  | other :: rest =>
    if entry.1.name < other.1.name then entry :: other :: rest
    else other :: insertByName entry rest

/-- The entries of a table in the order of their keys. -/
def sortByName (entries : Entries) : Entries :=
  entries.foldl (fun sorted e => insertByName e sorted) []

def readEntry (shape : Shape α) (x : α) (entry : Key × Node) : Except Misfit α :=
  match shape.fields.find? (·.1 == entry.1.name) with
  | some (_, put) => put entry.2 x
  | none => .error ⟨entry.1.span, .unknownField entry.1.name shape.fieldNames⟩

/-- Reads the entries of a table, the smallest key first. -/
def readEntries (shape : Shape α) (start : α) (entries : Entries) : Except Misfit α :=
  (sortByName entries).foldlM (readEntry shape) start

/-- Reads the items of an array as the fields in order; further items are not looked at. -/
def readItems (shape : Shape α) (span : Span) (length : Nat) :
    List (String × (Node → α → Except Misfit α)) → List Node → α → Except Misfit α
  | [], _, x => .ok x
  | _ :: _, [], _ =>
    .error ⟨span, .tooShort length (shape.name ++ " with " ++ toString shape.fields.length ++
      " elements")⟩
  | (_, put) :: fields, item :: items, x =>
    match put item x with
    | .ok x => readItems shape span length fields items x
    | .error e => .error e

/-- The name under which the parts of a date or a time stand. -/
def datetimeField : String := "$__toml_private_datetime"

def read (shape : Shape α) (start : α) : Node → Except Misfit α
  | .table _ _ entries => shape.readEntries start entries
  | .array span _ items => shape.readItems span items.length shape.fields items start
  | .datetime span => .error ⟨span, .unknownField datetimeField shape.fieldNames⟩
  | node => .error ⟨node.span, .wrongType node.described shape.name⟩

end Shape

def readText : Node → Except Misfit String
  | .string _ text => .ok text
  | node => .error ⟨node.span, .wrongType node.described "a string"⟩

def readSwitch : Node → Except Misfit Bool
  | .boolean _ value => .ok value
  | node => .error ⟨node.span, .wrongType node.described "a boolean"⟩

namespace RepositorySettings

def shape : Shape RepositorySettings where
  name := "struct RepositoryConfig"
  fields := [
    ("url", fun n s => (readText n).map fun v => { s with url := some v }),
    ("branch", fun n s => (readText n).map fun v => { s with branch := some v }),
    ("dir_path", fun n s => (readText n).map fun v => { s with dirPath := some v })]

def inspect (s : RepositorySettings) : String :=
  "RepositoryConfig \x7b url: " ++ Text.Quoted.option Text.Quoted.text s.url ++ ", branch: " ++
    Text.Quoted.option Text.Quoted.text s.branch ++ ", dir_path: " ++
    Text.Quoted.option Text.Quoted.text s.dirPath ++ " \x7d"

end RepositorySettings

namespace StorageOverrides

def shape : Shape StorageOverrides where
  name := "struct StorageConfig"
  fields := [
    ("endpoint", fun n s => (readText n).map fun v => { s with endpoint := some v }),
    ("access_key", fun n s => (readText n).map fun v => { s with accessKey := some v }),
    ("secret_key", fun n s => (readText n).map fun v => { s with secretKey := some v }),
    ("target", fun n s => (readText n).map fun v => { s with target := some v }),
    ("secure", fun n s => (readSwitch n).map fun v => { s with secure := some v }),
    ("region", fun n s => (readText n).map fun v => { s with region := some v })]

def inspect (s : StorageOverrides) : String :=
  let shown := Text.Quoted.option Text.Quoted.text
  "StorageConfig \x7b endpoint: " ++ shown s.endpoint ++ ", access_key: " ++ shown s.accessKey ++
    ", secret_key: " ++ shown (s.secretKey.map fun _ => StorageSettings.redacted) ++
    ", target: " ++ shown s.target ++ ", secure: " ++ Text.Quoted.option toString s.secure ++
    ", region: " ++ shown s.region ++ " \x7d"

end StorageOverrides

namespace FileSettings

def shape : Shape FileSettings where
  name := "struct TomlConfig"
  fields := [
    ("repository", fun n s =>
      (RepositorySettings.shape.read {} n).map fun v => { s with repository := v }),
    ("storage", fun n s =>
      (StorageOverrides.shape.read {} n).map fun v => { s with storage := v })]

/-- The settings in a tree of tables and values. -/
def ofEntries (entries : Entries) : Except Misfit FileSettings := shape.readEntries {} entries

/-- What is said of a text that is no document. It stands for the words of a parser, which are not
the same for every such text. -/
def malformed : String := "malformed document"

def ofText (text : String) : Except TransferError FileSettings :=
  match Toml.parse text with
  | none => .error (.config (.toml malformed))
  | some entries =>
    match ofEntries entries with
    | .ok settings => .ok settings
    | .error misfit => .error (.config (.toml (misfit.report text)))

def inspect (s : FileSettings) : String :=
  "TomlConfig \x7b repository: " ++ s.repository.inspect ++ ", storage: " ++ s.storage.inspect ++
    " \x7d"

end FileSettings
end SparseTransfer
