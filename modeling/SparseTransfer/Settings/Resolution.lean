import SparseTransfer.Action
import SparseTransfer.CommandLine
import SparseTransfer.Settings.FileSettings
import SparseTransfer.Text.Blank

/- Putting settings together: the command line first, then the configuration file, then what holds
without either. -/
namespace SparseTransfer.TransferSettings

/-- The settings of a command line and a configuration file. Slashes at the end of the directory are
left out, and either source can ask for a secure storage. -/
def resolve (c : CommandLine) (file : FileSettings) : Except TransferError TransferSettings :=
  let standard : TransferSettings := {}
  let pick (o : TextOption) (fromFile : Option String) (otherwise : String) : String :=
    ((c.text o).or fromFile).getD otherwise
  match UploadTarget.parse (pick .target file.storage.target standard.target.text) with
  | .error e => .error e
  | .ok target =>
    let dirPath := pick .dirPath file.repository.dirPath standard.dirPath
    .ok
      { repoUrl := pick .repoUrl file.repository.url standard.repoUrl
        branch := pick .branch file.repository.branch standard.branch
        dirPath := String.ofList (Text.trimEnd '/' dirPath.toList)
        target
        storage :=
          { endpoint := pick .endpoint file.storage.endpoint standard.storage.endpoint
            accessKey := pick .accessKey file.storage.accessKey standard.storage.accessKey
            secretKey := pick .secretKey file.storage.secretKey standard.storage.secretKey
            secure := c.switch .secure || file.storage.secure.getD false
            region := pick .region file.storage.region standard.storage.region } }

def loadFile (path : Path) : Action (World π) FileSettings := do
  Action.report (.loadingFile path)
  let w ← Action.get
  match w.files.readText path with
  | .error e => Action.fail (.config (.unreadable path e))
  | .ok text => Action.ofExcept (FileSettings.ofText text)

/-- Puts settings together; the command line may name a configuration file. -/
def ofCommandLine (c : CommandLine) : Action (World π) TransferSettings := do
  let file ← match c.config with
    | some path => loadFile path
    | none => pure {}
  Action.ofExcept (resolve c file)

end SparseTransfer.TransferSettings
