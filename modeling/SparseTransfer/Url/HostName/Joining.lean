import SparseTransfer.Url.HostName.Composition
import SparseTransfer.Url.HostName.JoiningTable

/- Where the two invisible joiners may stand in a label. -/
namespace SparseTransfer.HostName
open Text

def nonJoiner : Char := '\u200C'

def joiner : Char := '\u200D'

/-- The class of marks that take a vowel away. -/
def viramaClass : Nat := 9

/-- `before` are the characters before a joiner, the nearest first. -/
def joinerAllowed (c : Char) (before after : List Char) : Bool :=
  let afterVirama := match before with
    | d :: _ => markClass d == viramaClass
    | [] => false
  let letterBefore := before.find? fun d => !joinsThrough.contains d
  let letterAfter := after.find? fun d => !joinsThrough.contains d
  if c == joiner then afterVirama
  else if c == nonJoiner then
    afterVirama ||
      (letterBefore.any (fun d => joinsAfter.contains d || joinsBothSides.contains d) &&
        letterAfter.any fun d => joinsBefore.contains d || joinsBothSides.contains d)
  else true

/-- All joiners of a label stand where they may; `before` has been read, the last first. -/
def joinersAllowed (before : List Char) : List Char → Bool
  | [] => true
  | c :: rest => joinerAllowed c before rest && joinersAllowed (c :: before) rest

end SparseTransfer.HostName
