import SparseTransfer.Url.HostName.DirectionTable

/- The rule for names with letters that run from right to left: every label keeps to one
direction. -/
namespace SparseTransfer.HostName
open Text

def isRightToLeft (c : Char) : Bool :=
  if c.toNat < 0x80 then false else rightToLeft.contains c || arabicLetter.contains c

/-- A name to which the rule applies. -/
def runsRightToLeft (labels : List (List Char)) : Bool :=
  labels.any fun label => label.any fun c => isRightToLeft c || arabicNumber.contains c

/-- Characters that both kinds of label may hold. -/
def isNeutral (c : Char) : Bool :=
  europeanNumber.contains c || europeanSeparator.contains c || commonSeparator.contains c ||
    europeanTerminator.contains c || otherNeutral.contains c || boundaryNeutral.contains c ||
    nonspacingMark.contains c

/-- Letters that run from left to right are all that are in no other class. -/
def isLeftToRight (c : Char) : Bool :=
  !(isRightToLeft c || arabicNumber.contains c || isNeutral c)

/-- The last character that is no mark. -/
def lastLetter? (label : List Char) : Option Char :=
  label.reverse.find? fun c => !nonspacingMark.contains c

def keepsDirection (label : List Char) : Bool :=
  match label, lastLetter? label with
  | [], _ => true
  | first :: _, last =>
    if isRightToLeft first then
      label.all (fun c => isRightToLeft c || arabicNumber.contains c || isNeutral c) &&
        last.any (fun c => isRightToLeft c || europeanNumber.contains c ||
          arabicNumber.contains c) &&
        !(label.any (europeanNumber.contains ·) && label.any (arabicNumber.contains ·))
    else if isLeftToRight first then
      label.all (fun c => isLeftToRight c || isNeutral c) &&
        last.any fun c => isLeftToRight c || europeanNumber.contains c
    else false

end SparseTransfer.HostName
