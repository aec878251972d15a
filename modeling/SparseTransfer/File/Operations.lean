import SparseTransfer.File.Lookup

/- What programs do with files: look, read, write, make and remove. They may do all of it
everywhere; what fails does so because of what stands at a path, or because of the path. -/
namespace SparseTransfer.FileSystem
open SparseTransfer.Path

/-- What stands at a path; a last name that is a link is followed if `follow` says so. -/
def stat (fs : FileSystem) (follow : Bool) (p : Path) : Except FileError (Location × Item) :=
  match fs.lookup follow p with
  | .error e => .error e
  | .ok (.occupied loc item) => .ok (loc, item)
  | .ok (.free ..) => .error (.os .notFound)

def isDirectory (fs : FileSystem) (p : Path) : Bool :=
  match fs.stat true p with
  | .ok (_, item) => item.isDirectory
  | .error _ => false

def exists? (fs : FileSystem) (p : Path) : Bool :=
  match fs.stat true p with
  | .ok _ => true
  | .error _ => false

def read (fs : FileSystem) (p : Path) : Except FileError Content :=
  match fs.stat true p with
  | .error e => .error e
  | .ok (_, .file data) => .ok data.content
  | .ok (_, .device) => .ok (.plain [])
  | .ok (_, .socket) => .error (.os .noSuchDevice)
  | .ok (_, .directory) | .ok (_, .link _) => .error (.os .isADirectory)

def readText (fs : FileSystem) (p : Path) : Except FileError String :=
  match fs.read p with
  | .error e => .error e
  | .ok content =>
    match Utf8.decode? content.bytes with
    | some text => .ok (String.ofList text)
    | none => .error .notText

def newFilePermissions : Nat := 0o644

/-- Whether names lead to a directory in which a slash is after the last of them, or at the end of
the target of a link to which they lead. What has that last name does not count. -/
def asksDirectory (fs : FileSystem) : (links : Nat) → (slash : Bool) → Location → List Bytes → Bool
  | links, true, dir, names =>
    match fs.descendThrough true links true dir names.dropLast with
    | .ok (.occupied ..) => true
    | _ => false
  | 0, false, _, _ => false
  | links + 1, false, dir, names =>
    match fs.descendThrough false links false dir names with
    | .ok (.occupied loc (.link target)) =>
      asksDirectory fs links (endsInSlash target) (if isAbsolute target then [] else loc.dropLast)
        (namesOf target)
    | _ => false

/-- Why no file can be made at a path that cannot be looked up: a path that asks for a directory is
refused for that before its last name is looked up. -/
def refusal (fs : FileSystem) (p : Path) : FileError → FileError
  | .os e =>
    let asks := fs.asksDirectory maxLinks (endsInSlash p) (if isAbsolute p then [] else fs.cwd)
      (namesOf p)
    .os (if p.length < maxPath && asks then .isADirectory else e)
  | e => e

/-- Makes a file, or empties the one that is there, and says where it is. -/
def create (fs : FileSystem) (p : Path) : Except FileError (FileSystem × Location) :=
  match fs.lookup true p with
  | .error e => .error (fs.refusal p e)
  | .ok (.free dir name slash) =>
    if slash then .error (.os .isADirectory)
    else .ok (fs.insert dir name (.file ⟨newFilePermissions, .plain []⟩), dir ++ [name])
  | .ok (.occupied loc (.file _)) =>
    .ok (fs.changeFile loc fun data => { data with content := .plain [] }, loc)
  | .ok (.occupied loc .device) => .ok (fs, loc)
  | .ok (.occupied _ .socket) => .error (.os .noSuchDevice)
  | .ok (.occupied _ .directory) | .ok (.occupied _ (.link _)) => .error (.os .isADirectory)

/-- Puts a content into a file that has been made. There is room for it: to write never fails. -/
def writeAt (fs : FileSystem) (loc : Location) (content : Content) : FileSystem :=
  fs.changeFile loc fun data => { data with content }

def write (fs : FileSystem) (p : Path) (content : Content) : Except FileError FileSystem :=
  (fs.create p).map fun (fs, loc) => fs.writeAt loc content

/-- A path without slashes at its end, except that of the root. -/
def withoutSlashes (p : Path) : Path :=
  match (p.reverse.dropWhile (· == slash)).reverse with
  | [] => p.take 1
  | q => q

/-- Makes something at a path where nothing is. -/
def make (fs : FileSystem) (p : Path) (item : Item) : Except FileError FileSystem :=
  match fs.lookup false (withoutSlashes p) with
  | .error e => .error e
  | .ok (.occupied ..) => .error (.os .alreadyExists)
  | .ok (.free dir name _) => .ok (fs.insert dir name item)

def createDir (fs : FileSystem) (p : Path) : Except FileError FileSystem := fs.make p .directory

/-- A path and the paths above it, as long as they are not empty. -/
def ancestors (p : Path) : List Path :=
  let parts := components p
  let above := (List.range parts.length).reverse.map fun n => ofComponents (parts.take n)
  (if parts.isEmpty then [] else [p]) ++ above.filter (!·.isEmpty)

/-- Makes the first of some directories, and before it the others if they are missing. -/
def createDirs (fs : FileSystem) : List Path → Except FileError FileSystem
  | [] => .ok fs
  | p :: above =>
    match fs.createDir p with
    | .ok fs => .ok fs
    | .error (.os e) =>
      if e = .notFound then
        match createDirs fs above with
        | .error e => .error e
        | .ok fs =>
          match fs.createDir p with
          | .ok fs => .ok fs
          | .error e => if fs.isDirectory p then .ok fs else .error e
      else if fs.isDirectory p then .ok fs else .error (.os e)
    | .error e => .error e

/-- Makes a directory and all that are missing above it. One that is there is no error. -/
def createDirAll (fs : FileSystem) (p : Path) : Except FileError FileSystem :=
  fs.createDirs (ancestors p)

/-- Removes a directory and all below it. A link is removed and not followed. What is there can
always be removed: permissions do not keep anything. -/
def removeTree (fs : FileSystem) (p : Path) : Except FileError FileSystem :=
  match fs.stat false p with
  | .error e => .error e
  | .ok (loc, .directory) | .ok (loc, .link _) => .ok (fs.remove loc)
  | .ok (_, _) => .error (.os .notADirectory)

def pathOf (loc : Location) : Path :=
  if loc.isEmpty then [slash] else loc.flatMap fun name => slash :: name

/-- A path that begins at the root. -/
def absolute (fs : FileSystem) (p : Path) : Path := Path.append (pathOf fs.cwd) p

end SparseTransfer.FileSystem
