import SparseTransfer.File.Operations

/- Walks through directories: everything below a path, each directory before its content and the
entries of a directory in the order of their names. Links below the path are not followed. -/
namespace SparseTransfer

/-- Something that a walk comes to: its path, and what stands there itself. -/
structure Visit where
  path : Path
  item : Item
  deriving Repr, DecidableEq

namespace FileSystem

/-- Everything below a place with its names from there on, in the order of a walk: a shorter list of
names comes before a longer one that it begins, and else the first different names decide. -/
def below (fs : FileSystem) (loc : Location) : List (Location × Item) :=
  let found := fs.items.filter fun e => isBelow loc e.1 && e.1 != loc
  (found.map fun e => (e.1.drop loc.length, e.2)).mergeSort fun a b => decide (a.1 ≤ b.1)

/-- The path of a place below a directory. -/
def pathBelow (dir : Path) (names : Location) : Path := names.foldl Path.append dir

/-- Comes to one item. A directory whose path is too long cannot be listed, and any other can. -/
def visit (path : Path) (item : Item) : List (Except WalkError Visit) :=
  if item.isDirectory && path.length ≥ maxPath then
    [.ok ⟨path, item⟩, .error ⟨path, .os .nameTooLong⟩]
  else [.ok ⟨path, item⟩]

def visitsBelow (fs : FileSystem) (dir : Path) (loc : Location) : List (Except WalkError Visit) :=
  (fs.below loc).flatMap fun (names, item) => visit (pathBelow dir names) item

/-- The walk from a path on. The path itself may be a link to a directory. -/
def walk (fs : FileSystem) (root : Path) : List (Except WalkError Visit) :=
  match fs.stat false root with
  | .error e => [.error ⟨root, e⟩]
  | .ok (loc, .directory) => .ok ⟨root, .directory⟩ :: fs.visitsBelow root loc
  | .ok (_, .link target) =>
    match fs.stat true root with
    | .error e => [.error ⟨root, e⟩]
    | .ok (loc, .directory) => .ok ⟨root, .link target⟩ :: fs.visitsBelow root loc
    | .ok _ => [.ok ⟨root, .link target⟩]
  | .ok (_, item) => [.ok ⟨root, item⟩]

end FileSystem
end SparseTransfer
