import SparseTransfer.Text.CodeRanges
import SparseTransfer.Text.Split

/- IPv4 addresses: one to four numbers, each in base ten, eight or sixteen. -/
namespace SparseTransfer.Ipv4
open Text

/-- The number of a part: `0x` begins base sixteen and a further `0` base eight; without digits
after the beginning it is 0. -/
def number? (part : List Char) : Option Nat :=
  match part with
  | [] => none
  | '0' :: 'x' :: digits | '0' :: 'X' :: digits =>
    if digits.all fun c => (hexDigit? c).isSome then some (hexValue digits) else none
  | '0' :: d :: digits =>
    if (d :: digits).all fun c => '0' ≤ c && c ≤ '7' then
      some ((d :: digits).foldl (fun n c => 8 * n + (c.toNat - '0'.toNat)) 0)
    else none
  | digits =>
    if digits.all Char.isDigit then
      some (digits.foldl (fun n c => 10 * n + (c.toNat - '0'.toNat)) 0)
    else none

/-- The parts of a name; an empty last part does not count. -/
def parts (name : List Char) : List (List Char) :=
  let parts := split (· == '.') name
  if parts.length > 1 && parts.getLast? == some [] then parts.dropLast else parts

/-- A name whose last part is a number has to be an address. -/
def endsInNumber (name : List Char) : Bool :=
  match (parts name).getLast? with
  | none => false
  | some part => (!part.isEmpty && part.all Char.isDigit) || (number? part).isSome

/-- The address as one number of 32 bits. All parts but the last are bytes; the last fills the
rest. -/
def parse (name : List Char) : Option Nat :=
  match (parts name).mapM number? with
  | none => none
  | some numbers =>
    let last := numbers.getLast?.getD 0
    let bytes := numbers.dropLast
    if numbers.length ≤ 4 && bytes.all (· ≤ 255) && last < Nat.pow 256 (4 - bytes.length) then
      some (bytes.foldr (fun b rest => b * 0x1000000 + rest / 256) 0 + last)
    else none

end SparseTransfer.Ipv4
