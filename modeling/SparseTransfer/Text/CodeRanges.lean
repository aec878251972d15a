/- Sets of code points, written as ranges of hexadecimal numbers. -/
namespace SparseTransfer.Text

/-- The value of a digit of base sixteen. -/
def hexDigit? (c : Char) : Option Nat :=
  if c.isDigit then some (c.toNat - '0'.toNat)
  else if 'a' ≤ c && c ≤ 'f' then some (c.toNat - 'a'.toNat + 10)
  else if 'A' ≤ c && c ≤ 'F' then some (c.toNat - 'A'.toNat + 10)
  else none

/-- The number that hexadecimal digits write; other characters are passed over. -/
def hexValue (digits : List Char) : Nat :=
  digits.foldl (fun n c => match hexDigit? c with
    | some d => 16 * n + d
    | none => n) 0

/-- Lower-case hexadecimal digits, without leading zeros. -/
def hexDigits (n : Nat) : List Char := Nat.toDigits 16 n

def words (table : String) : List String :=
  (table.splitOn "\n").flatMap fun line => (line.splitOn " ").filter (· ≠ "")

/-- Ranges with both ends included. -/
abbrev CodeRanges := Array (Nat × Nat)

/-- A range is `first-last`, or one number standing for itself. -/
def CodeRange.ofText (text : String) : Nat × Nat :=
  match text.splitOn "-" with
  | [first, last] => (hexValue first.toList, hexValue last.toList)
  | _ => (hexValue text.toList, hexValue text.toList)

namespace CodeRanges

def ofText (table : String) : CodeRanges := (words table).toArray.map CodeRange.ofText

def contains (ranges : CodeRanges) (c : Char) : Bool :=
  ranges.any fun (first, last) => first ≤ c.toNat && c.toNat ≤ last

end CodeRanges
end SparseTransfer.Text
