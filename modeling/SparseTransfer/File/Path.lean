import SparseTransfer.Text.Split
import SparseTransfer.Text.Utf8

/- Paths: byte strings that are read as components between slashes. -/
namespace SparseTransfer

abbrev Path := Bytes

namespace Path
open Text

def slash : UInt8 := 0x2F

def dot : UInt8 := 0x2E

def ofText (text : String) : Path := Utf8.bytes text

inductive Component where
  | root
  | here
  | parent
  | name (n : Bytes)
  deriving Repr, DecidableEq

def Component.bytes : Component → Bytes
  | .root => [slash]
  | .here => [dot]
  | .parent => [dot, dot]
  | .name n => n

def isAbsolute (p : Path) : Bool := p.head? == some slash

/-- Empty pieces and single dots do not count. -/
def Component.ofPiece : Bytes → Option Component
  | [] => none
  | piece =>
    if piece = [dot] then none else if piece = [dot, dot] then some .parent else some (.name piece)

/-- The components of a path. A single dot counts only where a relative path begins with it. -/
def components (p : Path) : List Component :=
  let pieces := split (· == slash) p
  let start : List Component :=
    if isAbsolute p then [.root] else if pieces.head? = some [dot] then [.here] else []
  start ++ pieces.filterMap Component.ofPiece

/-- A path that has the given components. -/
def ofComponents : List Component → Path
  | .root :: rest => slash :: join [slash] (rest.map Component.bytes)
  | components => join [slash] (components.map Component.bytes)

/-- The path without its last component; a root and the empty path have none. -/
def parent? (p : Path) : Option Path :=
  match (components p).getLast? with
  | none | some .root => none
  | some _ => some (ofComponents (components p).dropLast)

/-- `p` as seen from `base`: an absolute path is kept. -/
def append (base p : Path) : Path :=
  if isAbsolute p then p
  else if base.isEmpty || base.getLast? = some slash then base ++ p
  else base ++ slash :: p

/-- The path of an entry of a directory. -/
def child (dir : Path) (name : String) : Path := append dir (ofText name)

abbrev shown (p : Path) : String := Utf8.shown p

end Path
end SparseTransfer
