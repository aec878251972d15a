import SparseTransfer.Url.Ipv4

/- IPv6 addresses: eight numbers of up to four digits of base sixteen. A run of zeros may be left
out once, and the last two may be written as four bytes in base ten. -/
namespace SparseTransfer.Ipv6
open Text

/-- A byte in base ten, without leading zeros. -/
def isByte (digits : List Char) : Bool :=
  match digits with
  | [] => false
  | ['0'] => true
  | '0' :: _ => false
  | _ => digits.all Char.isDigit && (digits.length ≤ 3) &&
      digits.foldl (fun n c => 10 * n + (c.toNat - '0'.toNat)) 0 ≤ 255

/-- Four bytes with dots between them. -/
def areBytes (text : List Char) : Bool :=
  let parts := split (· == '.') text
  parts.length == 4 && parts.all isByte

/-- Reads numbers when `free` of the eight are still to come; `shortened` says that a run of zeros
has been left out. -/
def reads : (free : Nat) → (shortened : Bool) → List Char → Bool
  | free, shortened, [] => shortened || free == 0
  | 0, _, _ :: _ => false
  | free + 1, shortened, ':' :: rest => !shortened && reads free true rest
  | free + 1, shortened, text =>
    let digits := (text.take 4).takeWhile fun c => (hexDigit? c).isSome
    if digits.isEmpty then false
    else match text.drop digits.length with
      | [] => shortened || free == 0
      | [':'] => false
      | ':' :: rest => reads free shortened rest
      | '.' :: _ => free ≥ 1 && areBytes text && (shortened || free == 1)
      | _ => false

def isAddress (text : List Char) : Bool :=
  match text with
  | ':' :: ':' :: rest => reads 7 true rest
  | ':' :: _ => false
  | [] => false
  | text => reads 8 false text

end SparseTransfer.Ipv6
