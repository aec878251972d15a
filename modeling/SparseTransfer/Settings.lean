import SparseTransfer.UploadTarget

/- The settings of a transfer. -/
namespace SparseTransfer

structure StorageSettings where
  /-- A host and port, or a URL. -/
  endpoint : String := "localhost:7460"
  accessKey : String := "minio"
  secretKey : String := "minio123"
  /-- Whether to use TLS if the endpoint does not say. -/
  secure : Bool := false
  region : String := "us-east-1"
  deriving Repr, DecidableEq

/-- Whether a text names a scheme. -/
def namesScheme : List Char → Bool
  | [] => false
  | c :: rest => "://".toList.isPrefixOf (c :: rest) || namesScheme rest

namespace StorageSettings

def scheme (s : StorageSettings) : String := if s.secure then "https" else "http"

/-- The URL of the endpoint: a scheme is put in front of one that names none. -/
def endpointUrl (s : StorageSettings) : String :=
  if namesScheme s.endpoint.toList then s.endpoint else s.scheme ++ "://" ++ s.endpoint

/-- What stands for a secret. -/
def redacted : String := "<redacted>"

def inspect (s : StorageSettings) : String :=
  "StorageSettings \x7b endpoint: " ++ Text.Quoted.text s.endpoint ++ ", access_key: " ++
    Text.Quoted.text s.accessKey ++ ", secret_key: " ++ Text.Quoted.text redacted ++
    ", secure: " ++ toString s.secure ++ ", region: " ++ Text.Quoted.text s.region ++ " \x7d"

end StorageSettings

/-- All that one transfer needs to know. -/
structure TransferSettings where
  repoUrl : String := "https://github.com/artefactual/archivematica-sampledata.git"
  branch : String := "master"
  /-- The directory of the repository that is transferred. -/
  dirPath : String := "SampleTransfers/Images/pictures"
  target : UploadTarget := ⟨"sips", "transfer.zip"⟩
  storage : StorageSettings := {}
  deriving Repr, DecidableEq

def TransferSettings.inspect (s : TransferSettings) : String :=
  "TransferConfig \x7b repo_url: " ++ Text.Quoted.text s.repoUrl ++ ", branch: " ++
    Text.Quoted.text s.branch ++ ", dir_path: " ++ Text.Quoted.text s.dirPath ++ ", target: " ++
    s.target.inspect ++ ", storage: " ++ s.storage.inspect ++ " \x7d"

end SparseTransfer
