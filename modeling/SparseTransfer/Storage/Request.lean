import SparseTransfer.File.FileSystem
import SparseTransfer.Storage.Client
import SparseTransfer.UploadReceipt

/- The request that puts an object into a storage over a network, and what can come of it. -/
namespace SparseTransfer

/-- Characters of a path that are sent as they are: letters, digits, four marks, and the slash. -/
def isKeptInPath (b : UInt8) : Bool :=
  let c := Char.ofNat b.toNat
  b < 0x80 && (c.isAlphanum || c == '-' || c == '.' || c == '_' || c == '~' || c == '/')

/-- One byte of a path: itself, or a percent sign and two hexadecimal digits. -/
def percentEncodeByte (b : UInt8) : List Char :=
  if isKeptInPath b then [Char.ofNat b.toNat]
  else
    let digit (n : Nat) : Char := (Nat.digitChar n).toUpper
    ['%', digit (b.toNat / 16), digit (b.toNat % 16)]

def percentEncode (b : Bytes) : String := String.ofList (b.flatMap percentEncodeByte)

example : percentEncode (Utf8.bytes "/a b/é%") = "/a%20b/%C3%A9%25" := by decide

structure Request where
  method : String
  endpointUrl : String
  /-- The bucket, if it is named in front of the host. -/
  subdomain : Option String
  /-- Percent-encoded, and behind the path of the endpoint, which a host and a port do not have. -/
  path : String
  query : String
  contentType : String
  /-- Who signs, and for which region. -/
  accessKey : String
  region : String
  body : Content
  /-- Whether a checksum goes with the body. -/
  checksummed : Bool
  deriving Repr, DecidableEq

/-- To put an object takes no checksum. -/
def Request.put (client : StorageClient) (target : UploadTarget) (body : Content) : Request where
  method := "PUT"
  endpointUrl := client.endpointUrl
  subdomain := if client.pathStyle then none else some target.bucket
  path := percentEncode (Utf8.bytes ("/" ++ if client.pathStyle then target.text else target.key))
  query := "x-id=PutObject"
  contentType := "application/zip"
  accessKey := client.accessKey
  region := client.region
  body
  checksummed := client.checksums == .whenSupported

/-- What comes of trying to send a request; `detail` says more in words. -/
inductive Exchange where
  /-- No connection was made, and nothing was sent. -/
  | unreachable (detail : String)
  /-- The connection ended before an answer. -/
  | broken (detail : String)
  | answered (status : Nat) (headers : List (String × String)) (detail : String)
  deriving Repr, DecidableEq

namespace Exchange

def wasSent : Exchange → Bool
  | .unreachable _ => false
  | _ => true

/-- What comes of a request that is not sent at all, in the words for what came of it. -/
def withheld : Exchange → Exchange
  | .unreachable detail | .broken detail | .answered _ _ detail => .unreachable detail

/-- The headers of an answer that says that all is well, or what went wrong. -/
def accepted : Exchange → Except String (List (String × String))
  | .answered status headers detail =>
    if 200 ≤ status && status < 300 then .ok headers else .error detail
  | .unreachable detail | .broken detail => .error detail

end Exchange

/-- A network, with the storage in it. It answers a request always in the same way. -/
def Network : Type := Request → Exchange

/-- The value of a header. Upper and lower case make no difference in its name. -/
def header? (headers : List (String × String)) (name : String) : Option String :=
  (headers.find? fun h => h.1.toLower == name.toLower).map (·.2)

end SparseTransfer
