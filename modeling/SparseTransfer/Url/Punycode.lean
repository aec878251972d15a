/- Punycode: the writing of a label in ASCII, as its ASCII characters followed by the places and
values of all others. -/
namespace SparseTransfer.Punycode

def base : Nat := 36
def initialBias : Nat := 72
def firstValue : Nat := 0x80
def digitMin : Nat := 1
def digitMax : Nat := 26

/-- Numbers at or above this do not occur. -/
def limit : Nat := 0x100000000

def digitValue (c : Char) : Option Nat :=
  if 'a' ≤ c && c ≤ 'z' then some (c.toNat - 'a'.toNat)
  else if 'A' ≤ c && c ≤ 'Z' then some (c.toNat - 'A'.toNat)
  else if '0' ≤ c && c ≤ '9' then some (c.toNat - '0'.toNat + 26)
  else none

def digitChar (d : Nat) : Char :=
  if d < 26 then Char.ofNat ('a'.toNat + d) else Char.ofNat ('0'.toNat + (d - 26))

/-- From the threshold on, a digit at place `k` is not the last of its number. -/
def threshold (k bias : Nat) : Nat :=
  if k ≤ bias then digitMin else min digitMax (k - bias)

theorem threshold_pos (k bias : Nat) : 1 ≤ threshold k bias := by
  unfold threshold digitMin digitMax
  split <;> omega

theorem threshold_le (k bias : Nat) : threshold k bias ≤ 26 := by
  unfold threshold digitMin digitMax
  split <;> omega

/-- Scales a difference down, counting the places that are saved. -/
def scale (delta k : Nat) : Nat × Nat :=
  if 455 < delta then scale (delta / 35) (k + base) else (delta, k)
termination_by delta
decreasing_by exact Nat.div_lt_self (by omega) (by omega)

/-- The bias after a number `delta`, when `count` characters have been placed. -/
def adapt (delta count : Nat) (first : Bool) : Nat :=
  let halved := if first then delta / 700 else delta / 2
  let (rest, k) := scale (halved + halved / count) 0
  k + 36 * rest / (rest + 38)

/-- The digits of a number, the lowest first. -/
def digits (bias k number : Nat) : List Char :=
  let t := threshold k bias
  if number < t then [digitChar number]
  else
    digitChar (t + (number - t) % (base - t)) ::
      digits bias (k + base) ((number - t) / (base - t))
termination_by number
decreasing_by
  have := threshold_pos k bias
  have := threshold_le k bias
  calc (number - threshold k bias) / (base - threshold k bias)
      ≤ number - threshold k bias := Nat.div_le_self _ _
    _ < number := by omega

structure EncodeState where
  delta : Nat
  bias : Nat
  placed : Nat
  out : List Char

/-- Passes one character of the text while characters of the value `value` are placed. -/
def EncodeState.pass (basic value : Nat) (s : EncodeState) (c : Char) : EncodeState :=
  if c.toNat < value then { s with delta := s.delta + 1 }
  else if c.toNat = value then
    { delta := 0, bias := adapt s.delta (s.placed + 1) (s.placed == basic), placed := s.placed + 1,
      out := s.out ++ digits s.bias base s.delta }
  else s

/-- Places the characters above ASCII, one value after the other. -/
def encodeValues (text : List Char) (basic : Nat) :
    (from_ : Nat) → List Nat → EncodeState → List Char
  | _, [], s => s.out
  | from_, value :: later, s =>
    let s := { s with delta := s.delta + (value - from_) * (s.placed + 1) }
    let s := text.foldl (EncodeState.pass basic value) s
    encodeValues text basic (value + 1) later { s with delta := s.delta + 1 }

def encode (text : List Char) : List Char :=
  let basic := text.filter (·.toNat < firstValue)
  let values := ((text.map Char.toNat).filter (firstValue ≤ ·)).mergeSort.eraseDups
  let head := if basic.isEmpty then [] else basic ++ ['-']
  head ++ encodeValues text basic.length firstValue values ⟨0, initialBias, basic.length, []⟩

/-- A text read so far, and the number that is being read. -/
structure DecodeState where
  text : List Char
  value : Nat
  place : Nat
  bias : Nat
  /-- The place at which the number that is being read started. -/
  start : Nat
  weight : Nat
  k : Nat

/-- Puts the character of a complete number into the text. -/
def DecodeState.insert (s : DecodeState) : Option DecodeState :=
  let count := s.text.length + 1
  let value := s.value + s.place / count
  let place := s.place % count
  if value.isValidChar then
    some { text := s.text.insertIdx place (Char.ofNat value), value, place := place + 1,
           bias := adapt (s.place - s.start) count (s.start == 0), start := place + 1,
           weight := 1, k := base }
  else none

/-- Reads digits; a text must not end within a number. -/
def decodeDigits (s : DecodeState) : List Char → Option (List Char)
  | [] => if s.k = base then some s.text else none
  | c :: rest =>
    match digitValue c with
    | none => none
    | some digit =>
      let place := s.place + digit * s.weight
      let t := threshold s.k s.bias
      if place ≥ limit then none
      else if digit < t then
        match { s with place }.insert with
        | none => none
        | some s => decodeDigits s rest
      else decodeDigits { s with place, weight := s.weight * (base - t), k := s.k + base } rest

/-- The text that a form in ASCII stands for. What is before the last hyphen is copied, if there is
something before it. -/
def decode (form : List Char) : Option (List Char) :=
  let digits := (form.reverse.takeWhile (· != '-')).reverse
  let copied := (form.take (form.length - digits.length)).dropLast
  let (head, tail) := if copied.isEmpty then ([], form) else (copied, digits)
  if head.all (·.toNat < firstValue) then
    decodeDigits ⟨head, firstValue, 0, initialBias, 0, 1, base⟩ tail
  else none

end SparseTransfer.Punycode
