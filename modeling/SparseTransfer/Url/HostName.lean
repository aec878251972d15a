import SparseTransfer.Text.Split
import SparseTransfer.Url.HostName.Direction
import SparseTransfer.Url.HostName.Joining
import SparseTransfer.Url.Punycode

/- International host names: the form in ASCII of a name, if it has one. -/
namespace SparseTransfer.HostName
open Text

/-- Characters that no host name may hold. -/
def isForbidden (c : Char) : Bool :=
  c.toNat ≤ 0x20 || c.toNat == 0x7F || "%#/:<>?@[\\]^|".toList.contains c

/-- What a label begins with that is written in Punycode. -/
def punycodeMark : List Char := ['x', 'n', '-', '-']

def isAscii (label : List Char) : Bool := label.all (·.toNat < 0x80)

/-- A label in Unicode, from one that may be written in Punycode. A label written so must need to
be, and stand for a text that the mapping keeps. -/
def labelText (label : List Char) : Option (List Char) :=
  if punycodeMark.isPrefixOf label then
    match Punycode.decode (label.drop punycodeMark.length) with
    | none => none
    | some text =>
      if isAscii text || mapped text != some text || composed text != text then none else some text
  else some label

/-- The rules on the characters of one label. -/
def labelAllowed (label : List Char) : Bool :=
  !label.any isForbidden &&
    (isAscii label ||
      (!(label.head?.any (combiningMarks.contains ·)) && joinersAllowed [] label &&
        label.all fun c => standing c != .refused))

def labelAscii (label : List Char) : List Char :=
  if isAscii label then label else punycodeMark ++ Punycode.encode label

/-- The name in ASCII: mapped, composed, each label checked, and labels outside ASCII written in
Punycode. -/
def ascii (name : List Char) : Option (List Char) :=
  match mapped name with
  | none => none
  | some name =>
    match (split (· == '.') (composed name)).mapM labelText with
    | none => none
    | some labels =>
      if labels.all labelAllowed && (!runsRightToLeft labels || labels.all keepsDirection) then
        some (join ['.'] (labels.map labelAscii))
      else none

end SparseTransfer.HostName
