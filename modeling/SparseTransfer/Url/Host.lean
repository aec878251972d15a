import SparseTransfer.Text.Utf8
import SparseTransfer.Url.Fault
import SparseTransfer.Url.HostName
import SparseTransfer.Url.Ipv6

/- The host of a URL. -/
namespace SparseTransfer
open Text

inductive Host where
  | domain (name : List Char)
  | ipv4 (address : Nat)
  | ipv6 (address : List Char)
  deriving Repr, DecidableEq

namespace Host

/-- Bytes with every `%` and two hexadecimal digits read as one byte. -/
def percentDecode : Bytes → Bytes
  | 0x25 :: a :: b :: rest =>
    match hexDigit? (Char.ofNat a.toNat), hexDigit? (Char.ofNat b.toNat) with
    | some x, some y => (16 * x + y).toUInt8 :: percentDecode rest
    | _, _ => 0x25 :: percentDecode (a :: b :: rest)
  | b :: rest => b :: percentDecode rest
  | [] => []

/-- An address in square brackets. -/
def bracketed (text : List Char) : Except UrlFault Host :=
  let inner := text.drop 1
  if inner.getLast? = some ']' && Ipv6.isAddress inner.dropLast then .ok (.ipv6 inner.dropLast)
  else .error .badIpv6

/-- The host of a URL that names a machine: an address or an international name. -/
def parse (text : List Char) : Except UrlFault Host :=
  if text.head? = some '[' then bracketed text
  else match HostName.ascii (Utf8.decodeLossy (percentDecode (Utf8.encode text))) with
    | none => .error .badHostName
    | some [] => .error .emptyHost
    | some name =>
      if Ipv4.endsInNumber name then
        match Ipv4.parse name with
        | some address => .ok (.ipv4 address)
        | none => .error .badIpv4
      else .ok (.domain name)

def isOpaqueForbidden (c : Char) : Bool :=
  "\x00\t\n\r #/:<>?@[\\]^|".toList.contains c

/-- The host of a URL with a scheme of its own: kept as written. -/
def parseOpaque (text : List Char) : Except UrlFault Host :=
  if text.head? = some '[' then bracketed text
  else if text.any isOpaqueForbidden then .error .badHostCharacter
  else .ok (.domain text)

end Host
end SparseTransfer
