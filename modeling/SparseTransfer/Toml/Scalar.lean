import SparseTransfer.Text.CodeRanges
import SparseTransfer.Text.Split
import SparseTransfer.Toml.Node

/- The simple values of TOML without quotes: booleans, numbers, dates and times. -/
namespace SparseTransfer.Toml
open Text

inductive Scalar where
  | boolean (value : Bool)
  | integer (number : Int)
  | float (number : FloatNumber)
  | datetime
  deriving Repr, DecidableEq

/-- A character that such a value may hold. -/
def isScalarChar (c : Char) : Bool :=
  c.isAlphanum || c == '_' || c == '+' || c == '-' || c == '.' || c == ':'

/-- Digits with single underscores between them; the digits alone. -/
def digitRun (isDigit : Char → Bool) (s : List Char) : Option (List Char) :=
  let groups := split (· == '_') s
  if groups.all fun g => !g.isEmpty && g.all isDigit then some groups.flatten else none

def decimalValue (digits : List Char) : Nat :=
  digits.foldl (fun n c => 10 * n + (c.toNat - '0'.toNat)) 0

/-- Digits without a zero in front of others. -/
def decimalRun (s : List Char) : Option (List Char) :=
  match digitRun Char.isDigit s with
  | some ('0' :: _ :: _) => none
  | other => other

/-- A sign, if there is one, and what follows it. -/
def splitSign : List Char → Bool × List Char
  | '-' :: rest => (true, rest)
  | '+' :: rest => (false, rest)
  | rest => (false, rest)

def inRange (n : Int) : Bool := -0x8000000000000000 ≤ n && n < 0x8000000000000000

/-- Whole numbers of 64 bits, in base ten, sixteen, eight or two. -/
def integer? (s : List Char) : Option Int :=
  let value? : Option Int :=
    match s with
    | '0' :: 'x' :: digits =>
      (digitRun (fun c => (hexDigit? c).isSome) digits).map fun d => (hexValue d : Int)
    | '0' :: 'o' :: digits =>
      (digitRun (fun c => '0' ≤ c && c ≤ '7') digits).map fun d =>
        (d.foldl (fun n c => 8 * n + (c.toNat - '0'.toNat)) 0 : Nat)
    | '0' :: 'b' :: digits =>
      (digitRun (fun c => c == '0' || c == '1') digits).map fun d =>
        (d.foldl (fun n c => 2 * n + (c.toNat - '0'.toNat)) 0 : Nat)
    | s =>
      let (negative, digits) := splitSign s
      (decimalRun digits).map fun d =>
        if negative then -(decimalValue d : Int) else (decimalValue d : Int)
  value?.filter inRange

/-- The exponent after `e`: a sign and digits. -/
def exponent? (s : List Char) : Option Int :=
  let (negative, digits) := splitSign s
  (digitRun Char.isDigit digits).map fun d =>
    if negative then -(decimalValue d : Int) else (decimalValue d : Int)

/-- Numbers with a fraction, an exponent or both. Those too large for 64 bits are none. -/
def float? (s : List Char) : Option FloatNumber := do
  let (negative, rest) := splitSign s
  if rest = "inf".toList then return .infinite negative
  if rest = "nan".toList then return .notANumber
  let isMark (c : Char) : Bool := c == 'e' || c == 'E'
  let mantissa := rest.takeWhile (!isMark ·)
  let exponent ← match rest.dropWhile (!isMark ·) with
    | [] => some 0
    | _ :: e => exponent? e
  let whole ← decimalRun (mantissa.takeWhile (· != '.'))
  let fraction ← match mantissa.dropWhile (· != '.') with
    | [] => some []
    | _ :: f => digitRun Char.isDigit f
  if rest.all fun c => !isMark c && c != '.' then none
  let digits := decimalValue (whole ++ fraction)
  let exponent := exponent - fraction.length
  if (Decimal.ofDecimal digits exponent).isNone then none
  return .finite negative digits exponent

/-- Exactly `count` digits, as a number. -/
def fixedDigits (count : Nat) (s : List Char) : Option Nat :=
  if s.length = count && s.all Char.isDigit then some (decimalValue s) else none

def daysInMonth (year month : Nat) : Nat :=
  if month = 2 then
    if (year % 4 = 0 && year % 100 ≠ 0) || year % 400 = 0 then 29 else 28
  else if month = 4 || month = 6 || month = 9 || month = 11 then 30
  else 31

/-- A day, written `YYYY-MM-DD`. -/
def isDate (s : List Char) : Bool :=
  match split (· == '-') s with
  | [y, m, d] =>
    match fixedDigits 4 y, fixedDigits 2 m, fixedDigits 2 d with
    | some year, some month, some day =>
      1 ≤ month && month ≤ 12 && 1 ≤ day && day ≤ daysInMonth year month
    | _, _, _ => false
  | _ => false

/-- Hours and minutes, written `HH:MM`. -/
def hourMinute? (s : List Char) : Option (Nat × Nat) :=
  match split (· == ':') s with
  | [h, m] =>
    match fixedDigits 2 h, fixedDigits 2 m with
    | some h, some m => if m ≤ 59 then some (h, m) else none
    | _, _ => none
  | _ => none

/-- A time of day, written `HH:MM`, `HH:MM:SS` or `HH:MM:SS.f`. -/
def isTime (s : List Char) : Bool :=
  let clock := s.takeWhile (· != '.')
  let fraction := s.dropWhile (· != '.')
  let hasFraction := match fraction with
    | [] => true
    | _ :: digits => !digits.isEmpty && digits.all Char.isDigit
  match (hourMinute? (clock.take 5)), clock.drop 5 with
  | some (h, _), [] => h ≤ 23 && fraction.isEmpty
  | some (h, _), ':' :: seconds =>
    h ≤ 23 && hasFraction && (fixedDigits 2 seconds).any (· ≤ 60)
  | _, _ => false

/-- A distance from universal time: `Z`, or hours and minutes with a sign. -/
def isOffset (s : List Char) : Bool :=
  match s with
  | ['Z'] | ['z'] => true
  | c :: rest =>
    (c == '+' || c == '-') && (hourMinute? rest).any fun (h, m) => 60 * h + m ≤ 24 * 60
  | [] => false

/-- A time of day that may have an offset. -/
def isTimeWithOffset (s : List Char) : Bool :=
  let clock := s.takeWhile fun c => c.isDigit || c == ':' || c == '.'
  let offset := s.dropWhile fun c => c.isDigit || c == ':' || c == '.'
  isTime clock && (offset.isEmpty || isOffset offset)

/-- A date and a time with `T` between them. -/
def isDateTime (s : List Char) : Bool :=
  isDate (s.take 10) &&
    match s.drop 10 with
    | 'T' :: time | 't' :: time => isTimeWithOffset time
    | _ => false

def scalar? (s : List Char) : Option Scalar :=
  if s = "true".toList then some (.boolean true)
  else if s = "false".toList then some (.boolean false)
  else if isDate s || isTime s || isDateTime s then some .datetime
  else match integer? s with
    | some n => some (.integer n)
    | none => (float? s).map .float

/-- Reads a simple value. A date and a time may also have a blank between them. -/
def readScalar (s : List Char) : Option (Scalar × List Char) :=
  let word := s.takeWhile isScalarChar
  let rest := s.dropWhile isScalarChar
  match isDate word, rest with
  | true, ' ' :: c :: more =>
    if c.isDigit then
      let time := (c :: more).takeWhile isScalarChar
      if isTimeWithOffset time then some (.datetime, (c :: more).dropWhile isScalarChar) else none
    else some (.datetime, rest)
  | _, _ => (scalar? word).map fun v => (v, rest)

end SparseTransfer.Toml
