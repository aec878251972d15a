import SparseTransfer.Action
import SparseTransfer.File.Walk

/- Packing a folder into an archive: every regular file below it, and every link to one. -/
namespace SparseTransfer

structure ArchiveSummary where
  path : Path
  entries : Nat
  bytes : Nat
  deriving Repr, DecidableEq

namespace Archive

/-- Where the names of entries begin: the directory that holds the folder. -/
def baseOf (folder : Path) : Path := (Path.parent? folder).getD folder

/-- The name of an entry: the components of its path from the base on, with slashes between them. -/
def entryName (base path : Path) : Except TransferError String :=
  let parts := Path.components path
  let above := Path.components base
  if above.isPrefixOf parts then
    let names := (parts.drop above.length).map fun c => Utf8.shown c.bytes
    .ok (String.intercalate "/" names)
  else
    .error (.file (.other (Path.shown path ++ " is outside " ++ Path.shown base)))

/-- The file that stands for an item of a walk, if one does: a regular file for itself, and a link
for the regular file that it leads to. -/
def fileOf (v : Visit) : Action (World π) (Option FileData) := do
  let w ← Action.get
  match v.item with
  | .link _ =>
    match w.files.stat true v.path with
    | .ok (_, .file data) => pure (some data)
    | .ok _ =>
      Action.report (.notFollowing v.path)
      pure none
    | .error e =>
      Action.report (.skippingLink v.path e)
      pure none
  | .file _ =>
    match w.files.stat false v.path with
    | .ok (_, .file data) => pure (some data)
    | .ok _ => pure none
    | .error e => Action.fail (.walk ⟨v.path, e⟩)
  | _ => pure none

/-- The entry for an item of a walk, if there is one. No two entries have one name. -/
def entryFor (base : Path) (written : List Entry) :
    Except WalkError Visit → Action (World π) (Option Entry)
  | .error e => Action.fail (.walk e)
  | .ok v => do
    match ← fileOf v with
    | none => pure none
    | some data =>
      let name ← Action.ofExcept (entryName base v.path)
      if written.any (·.name == name) then Action.fail (.archive (.duplicateName name))
      else
        Action.report (.fileAdded name)
        pure (some ⟨name, data.permissions &&& 0o777, data.content.bytes⟩)

/-- The entries for a walk, after those already written, up to the first failure. -/
def entriesFor (base : Path) (written : List Entry) :
    List (Except WalkError Visit) → Action (World π) (List Entry × Option TransferError)
  | [] => pure (written, none)
  | v :: rest => do
    match ← (entryFor base written v).attempt with
    | .error e => pure (written, some e)
    | .ok none => entriesFor base written rest
    | .ok (some entry) => entriesFor base (written ++ [entry]) rest

def createFile (out : Path) : Action (World π) Location := fun w =>
  match w.files.create out with
  | .ok (files, loc) => ⟨.ok loc, { w with files }, []⟩
  | .error e => ⟨.error (.file e), w, []⟩

def sizeOf (fs : FileSystem) (p : Path) : Except FileError Nat :=
  match fs.stat true p with
  | .ok (_, .file data) => .ok data.content.size
  | .ok _ => .ok 0
  | .error e => .error e

/-- Packs a folder. The archive holds what could be packed, also when packing fails. -/
def packFolder (folder out : Path) : Action (World π) ArchiveSummary := do
  Action.report (.zipping folder out)
  let loc ← createFile out
  let w ← Action.get
  let (entries, failure) ← entriesFor (baseOf folder) [] (w.files.walk folder)
  Action.modify fun w => { w with files := w.files.writeAt loc (.archive entries) }
  match failure with
  | some e => Action.fail e
  | none =>
    if entries.isEmpty then Action.fail (.emptyArchive folder)
    else
      let bytes ← World.inspectFiles (sizeOf · out)
      Action.report (.archiveWritten entries.length bytes)
      return ⟨out, entries.length, bytes⟩

end Archive
end SparseTransfer
