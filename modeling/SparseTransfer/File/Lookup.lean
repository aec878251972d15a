import SparseTransfer.File.FileSystem
import SparseTransfer.TransferError

/- Looking up paths: from directory to directory, through symbolic links. -/
namespace SparseTransfer.FileSystem
open SparseTransfer.Path

inductive Place where
  | occupied (loc : Location) (item : Item)
  /-- The last name is not in its directory; `slash` says that one was written after it. -/
  | free (dir : Location) (name : Bytes) (slash : Bool)
  deriving Repr, DecidableEq

/-- Paths have fewer bytes than this. -/
def maxPath : Nat := 4096

/-- This many links are followed on one path. -/
def maxLinks : Nat := 40

/-- The names between the slashes, dots included. -/
def namesOf (p : Path) : List Bytes := (Text.split (· == slash) p).filter (!·.isEmpty)

/-- A slash at the end asks for a directory. -/
def endsInSlash (p : Path) : Bool := p.getLast? == some slash

/-- How far a path leads without following a link. -/
inductive Reached where
  | place (p : Place)
  /-- A link in `dir` to `target`, with names still to look up behind it. -/
  | link (dir : Location) (target : Path) (rest : List Bytes)

/-- Looks names up from a directory on. A last name that is a link is followed if `follow` says so
or a slash is after it. -/
def descend (fs : FileSystem) (follow slash : Bool) (dir : Location) :
    List Bytes → Except OsError Reached
  | [] => .ok (.place (.occupied dir .directory))
  | name :: rest =>
    if name = [dot] then descend fs follow slash dir rest
    else if name = [dot, dot] then descend fs follow slash dir.dropLast rest
    else if name.length > maxName then .error .nameTooLong
    else match fs.at? (dir ++ [name]) with
      | none => if rest.isEmpty then .ok (.place (.free dir name slash)) else .error .notFound
      | some .directory => descend fs follow slash (dir ++ [name]) rest
      | some (.link target) =>
        if rest.isEmpty && !follow && !slash then
          .ok (.place (.occupied (dir ++ [name]) (.link target)))
        else .ok (.link dir target rest)
      | some item =>
        if rest.isEmpty && !slash then .ok (.place (.occupied (dir ++ [name]) item))
        else .error .notADirectory

/-- Looks names up, following at most `links` links. -/
def descendThrough (fs : FileSystem) (follow : Bool) :
    (links : Nat) → (slash : Bool) → Location → List Bytes → Except OsError Place
  | links, slash, dir, names =>
    match descend fs follow slash dir names with
    | .error e => .error e
    | .ok (.place p) => .ok p
    | .ok (.link dir target rest) =>
      match links with
      | 0 => .error .tooManyLinks
      | links + 1 =>
        descendThrough fs follow links (slash || (rest.isEmpty && endsInSlash target))
          (if isAbsolute target then [] else dir) (namesOf target ++ rest)

def lookup (fs : FileSystem) (follow : Bool) (p : Path) : Except FileError Place :=
  if p.contains 0 then .error .nulInName
  else if p.isEmpty then .error (.os .notFound)
  else if p.length ≥ maxPath then .error (.os .nameTooLong)
  else
    (descendThrough fs follow maxLinks (endsInSlash p) (if isAbsolute p then [] else fs.cwd)
      (namesOf p)).mapError .os

end SparseTransfer.FileSystem
