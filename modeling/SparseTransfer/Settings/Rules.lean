import SparseTransfer.File.Path
import SparseTransfer.Text.Blank
import SparseTransfer.TransferError
import SparseTransfer.Url

/- The rules that single values of the settings obey. Each check names the first rule broken. -/
namespace SparseTransfer.Rules
open Text

/-- A URL with the scheme `http` or `https`, and a host. -/
def checkUrl (field value : String) : Except TransferError Unit :=
  if value.isEmpty then .error (.invalidValue field value .urlEmpty)
  else match Url.parse value with
    | .error fault => .error (.invalidValue field value (.urlMalformed fault))
    | .ok url =>
      if url.scheme = "http".toList || url.scheme = "https".toList then
        if url.host.isSome then .ok () else .error (.invalidValue field value .urlWithoutHost)
      else .error (.invalidValue field value (.urlScheme (String.ofList url.scheme)))

/-- Some character that is not blank. -/
def checkPresent (field value : String) : Except TransferError Unit :=
  if value.toList.all isBlank then .error (.missingValue field) else .ok ()

/-- A branch stands among the arguments of a command, so it must not look like an option. -/
def checkBranch (field value : String) : Except TransferError Unit := do
  checkPresent field value
  if value.toList.head? = some '-' then throw (.invalidValue field value .branchDash)
  if value.toList.any fun c => isBlank c || isControl c then
    throw (.invalidValue field value .branchBlank)

/-- The rule that a component of a relative path breaks. -/
def componentRule : Path.Component → Option BrokenRule
  | .parent => some .pathParent
  | .root => some .pathAbsolute
  | .here | .name _ => none

/-- A path that stays below the directory from which it is seen. -/
def checkRelativePath (field value : String) : Except TransferError Unit :=
  if value.isEmpty then .error (.invalidValue field value .pathEmpty)
  else if value.toList.contains '\x00' then .error (.invalidValue field value .pathNul)
  else match (Path.ofText value).components.findSome? componentRule with
    | some rule => .error (.invalidValue field value rule)
    | none => .ok ()

def isBucketChar (c : Char) : Bool :=
  c.isLower || c.isDigit || c == '-' || c == '.'

/-- The name of a bucket; its length counts bytes. -/
def checkBucket (field value : String) : Except TransferError Unit :=
  let size := (Utf8.bytes value).length
  if size < 3 || size > 63 then .error (.invalidValue field value .bucketLength)
  else if !value.toList.all isBucketChar then .error (.invalidValue field value .bucketCharacter)
  else if value.toList.head? = some '-' || value.toList.getLast? = some '-' then
    .error (.invalidValue field value .bucketHyphen)
  else .ok ()

end SparseTransfer.Rules
