import SparseTransfer.Text.CodeRanges
import SparseTransfer.Url.HostName.MappingTable

/- Mapping of host names: each character is kept, left out, replaced or refused. -/
namespace SparseTransfer.HostName
open Text

/-- How a character counts in a host name. -/
inductive Standing where
  | kept
  | leftOut
  | replaced (by_ : List Char)
  | refused
  deriving Repr, DecidableEq

/-- A range of characters of one standing; `replaced` holds the text for the first of them. -/
structure MappingRange where
  first : Nat
  last : Nat
  standing : Standing

/-- A text written as hexadecimal numbers with plus signs between them. -/
def codesText (codes : String) : List Char :=
  (codes.splitOn "+").map fun code => Char.ofNat (hexValue code.toList)

def MappingRange.ofText (text : String) : MappingRange :=
  match text.splitOn "=" with
  | [range, codes] =>
    let (first, last) := CodeRange.ofText range
    ⟨first, last, .replaced (codesText codes)⟩
  | _ =>
    let (first, last) := CodeRange.ofText text
    ⟨first, last, if text.toList.getLast? = some '!' then .leftOut else .kept⟩

def mappingRanges : Array MappingRange :=
  (words mappingText).toArray.map MappingRange.ofText

/-- In ASCII only the capital letters change. Above it, the later characters of a range are
replaced by texts as much later. -/
def standing (c : Char) : Standing :=
  if c.toNat < 0x80 then
    if c.isUpper then .replaced [c.toLower] else .kept
  else
    match mappingRanges.find? fun r => r.first ≤ c.toNat && c.toNat ≤ r.last with
    | none => .refused
    | some r =>
      match r.standing with
      | .replaced [d] => .replaced [Char.ofNat (d.toNat + (c.toNat - r.first))]
      | other => other

/-- The name with every character mapped, unless one is refused. -/
def mapped : List Char → Option (List Char)
  | [] => some []
  | c :: rest =>
    match standing c with
    | .kept => (mapped rest).map (c :: ·)
    | .leftOut => mapped rest
    | .replaced by_ => (mapped rest).map (by_ ++ ·)
    | .refused => none

end SparseTransfer.HostName
