import SparseTransfer.Action

/- Working directories: made for one run with a name that nothing else has, and removed after it. -/
namespace SparseTransfer

/-- Random texts, one for each number drawn. -/
abbrev Suffixes := Nat → Bytes

namespace WorkDir

/-- What the name of a working directory begins with. -/
def nameStart : Bytes := Utf8.bytes "push-transfer-"

/-- How many names are tried. -/
def attempts : Nat := 65536

/-- Makes a directory with the first drawn name that is free. -/
def createNamed (suffixes : Suffixes) (parent : Path) : (attempts : Nat) → Action (World π) Path
  | 0 => Action.fail (.file (.atPath parent (.other "too many temporary files exist")))
  | attempts + 1 => fun w =>
    let path := Path.append parent (nameStart ++ suffixes w.drawn)
    let w := { w with drawn := w.drawn + 1 }
    match w.files.createDir path with
    | .ok files => ⟨.ok path, { w with files }, []⟩
    | .error e =>
      if e = .os .alreadyExists then createNamed suffixes parent attempts w
      else ⟨.error (.file (.atPath path e)), w, []⟩

/-- Makes a working directory in `parent`. Its path begins at the root. -/
def create (suffixes : Suffixes) (parent : Path) : Action (World π) Path := do
  let w ← Action.get
  let path ← createNamed suffixes (w.files.absolute parent) attempts
  Action.report (.workDirCreated path)
  return path

def remove (path : Path) : Action (World π) Unit := fun w =>
  match w.files.removeTree path with
  | .ok files => ⟨.ok (), { w with files }, []⟩
  | .error e => ⟨.error (.file (.atPath path e)), w, []⟩

def cleanup (path : Path) : Action (World π) Unit := do
  Action.report (.workDirCleaning path)
  remove path

/-- Removes a working directory that nobody needs any more, if that can be done. -/
def drop (path : Path) : Action (World π) Unit := do
  let _ ← (remove path).attempt

end WorkDir
end SparseTransfer
