import SparseTransfer.Url.Host

/- Reading absolute URLs as far as the transfer needs them: the scheme and the host. A path, a query
or a fragment is never wrong, so they are not looked at. -/
namespace SparseTransfer
open Text

/-- The scheme in lower case, and the host if the URL has one. -/
structure Url where
  scheme : List Char
  host : Option Host
  deriving Repr, DecidableEq

namespace Url

/-- Schemes are of three kinds, with different rules for what follows. -/
inductive SchemeKind where
  | file
  | network
  | other
  deriving Repr, DecidableEq

def SchemeKind.of (scheme : List Char) : SchemeKind :=
  if scheme = "file".toList then .file
  else if ["http", "https", "ws", "wss", "ftp"].any fun s => s.toList = scheme then .network
  else .other

/-- Where a backslash counts as a slash. -/
def SchemeKind.isSpecial : SchemeKind → Bool
  | .other => false
  | _ => true

/-- Text without blanks and controls of ASCII at its ends, and without tabs and line ends. -/
def cleaned (text : List Char) : List Char :=
  let isEdge (c : Char) : Bool := c.toNat ≤ 0x20
  let trimmed := ((text.dropWhile isEdge).reverse.dropWhile isEdge).reverse
  trimmed.filter fun c => c != '\t' && c != '\n' && c != '\r'

def isSchemeChar (c : Char) : Bool :=
  c.isAlphanum || c == '+' || c == '-' || c == '.'

/-- A letter, further scheme characters and a colon, in front of the rest. -/
def splitScheme (text : List Char) : Option (List Char × List Char) :=
  match text.head?, text.dropWhile isSchemeChar with
  | some c, ':' :: rest =>
    if c.isAlpha then some ((text.takeWhile isSchemeChar).map Char.toLower, rest) else none
  | _, _ => none

def endsAuthority (kind : SchemeKind) (c : Char) : Bool :=
  c == '/' || c == '?' || c == '#' || (kind.isSpecial && c == '\\')

def isSlash (c : Char) : Bool := c == '/' || c == '\\'

/-- The text before the first `:` outside square brackets, and what follows it. -/
def splitPort (inBrackets : Bool) : List Char → List Char × Option (List Char)
  | [] => ([], none)
  | c :: rest =>
    if c == ':' && !inBrackets then ([], some rest)
    else
      let inside := if c == '[' then true else if c == ']' then false else inBrackets
      let (host, port) := splitPort inside rest
      (c :: host, port)

/-- Ports are numbers of 16 bits in base ten; no digits stand for no port. -/
def isPort (digits : List Char) : Bool :=
  digits.all Char.isDigit &&
    digits.foldl (fun n c => 10 * n + (c.toNat - '0'.toNat)) 0 ≤ 65535

/-- Reads what follows the slashes: perhaps a user, up to the last `@`, then a host and perhaps a
port. -/
def parseAuthority (kind : SchemeKind) (text : List Char) : Except UrlFault (Option Host) := do
  let authority := text.takeWhile fun c => !endsAuthority kind c
  let hostAndPort := (authority.reverse.takeWhile (· != '@')).reverse
  let user := authority.take (authority.length - hostAndPort.length)
  if authority = ['@'] && authority.length < text.length then throw .emptyHost
  let (hostText, port) := splitPort false hostAndPort
  let host ← match kind with
    | .other =>
      if hostText.isEmpty then
        if port.isSome || !(user ∈ [[], ['@'], [':', '@']]) then throw .emptyHost
        pure none
      else (Host.parseOpaque hostText).map some
    | _ =>
      if hostText.isEmpty then throw .emptyHost
      (Host.parse hostText).map some
  match port with
  | some digits => if isPort (digits.takeWhile (· != '\\')) then pure host else throw .badPort
  | none => pure host

/-- Reads what follows a network scheme: any number of slashes, then the authority. -/
def parseNetwork (rest : List Char) : Except UrlFault (Option Host) :=
  parseAuthority .network (rest.dropWhile isSlash)

/-- A drive letter, which is no host. -/
def isDrive : List Char → Bool
  | [c, d] => c.isAlpha && (d == ':' || d == '|')
  | _ => false

/-- Reads what follows `file:`. Only after two slashes is there a host, and it may be empty. -/
def parseFile (rest : List Char) : Except UrlFault (Option Host) :=
  match rest with
  | a :: b :: rest =>
    if isSlash a && isSlash b then
      let hostText := rest.takeWhile fun c => !endsAuthority .file c
      if hostText.isEmpty || isDrive hostText then .ok none
      else (Host.parse hostText).map fun host =>
        if host = .domain "localhost".toList then none else some host
    else .ok none
  | _ => .ok none

/-- Reads what follows any other scheme. Only two slashes begin an authority. -/
def parseOther (rest : List Char) : Except UrlFault (Option Host) :=
  match rest with
  | '/' :: '/' :: rest => parseAuthority .other rest
  | _ => .ok none

def parse (text : String) : Except UrlFault Url :=
  match splitScheme (cleaned text.toList) with
  | none => .error .noScheme
  | some (scheme, rest) =>
    let host := match SchemeKind.of scheme with
      | .file => parseFile rest
      | .network => parseNetwork rest
      | .other => parseOther rest
    host.map fun host => ⟨scheme, host⟩

end Url
end SparseTransfer
