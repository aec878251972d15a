/- UTF-8: the bytes of a text, and the two readings of bytes as text. -/
namespace SparseTransfer

/-- File names, file contents and what a process prints are bytes. -/
abbrev Bytes := List UInt8

namespace Utf8

/-- The one to four bytes of a character. -/
def encodeChar (c : Char) : Bytes :=
  let n := c.toNat
  if n < 0x80 then [n.toUInt8]
  else if n < 0x800 then [(0xC0 + n / 0x40).toUInt8, (0x80 + n % 0x40).toUInt8]
  else if n < 0x10000 then
    [(0xE0 + n / 0x1000).toUInt8, (0x80 + n / 0x40 % 0x40).toUInt8, (0x80 + n % 0x40).toUInt8]
  else
    [(0xF0 + n / 0x40000).toUInt8, (0x80 + n / 0x1000 % 0x40).toUInt8,
      (0x80 + n / 0x40 % 0x40).toUInt8, (0x80 + n % 0x40).toUInt8]

def encode (text : List Char) : Bytes := text.flatMap encodeChar

def bytes (text : String) : Bytes := encode text.toList

@[simp] theorem encode_nil : encode [] = [] := rfl

@[simp] theorem encode_cons (c : Char) (text : List Char) :
    encode (c :: text) = encodeChar c ++ encode text := rfl

@[simp] theorem encode_append (s t : List Char) : encode (s ++ t) = encode s ++ encode t := by
  simp [encode]

/-- A stretch of bytes that is a character, or the longest stretch that could have begun one. -/
inductive Piece where
  | char (c : Char)
  | stray (bytes : Bytes)
  deriving Repr, DecidableEq

/-- A character of which some bytes have been read: its bits so far, the range of each byte that
has to follow, and the bytes themselves. -/
structure Opened where
  bits : Nat
  next : UInt8 × UInt8
  later : List (UInt8 × UInt8)
  read : Bytes

def continuation : UInt8 × UInt8 := (0x80, 0xBF)

/-- Reads a byte at the beginning of a character. The second byte of some characters has a smaller
range, which keeps out overlong forms, surrogates and numbers above 0x10FFFF. -/
def lead (b : UInt8) : List Piece × Option Opened :=
  let n := b.toNat
  if n < 0x80 then ([.char (Char.ofNat n)], none)
  else if n < 0xC2 then ([.stray [b]], none)
  else if n < 0xE0 then ([], some ⟨n - 0xC0, continuation, [], [b]⟩)
  else if n < 0xF0 then
    let second := if n = 0xE0 then (0xA0, 0xBF) else if n = 0xED then (0x80, 0x9F) else continuation
    ([], some ⟨n - 0xE0, second, [continuation], [b]⟩)
  else if n < 0xF5 then
    let second := if n = 0xF0 then (0x90, 0xBF) else if n = 0xF4 then (0x80, 0x8F) else continuation
    ([], some ⟨n - 0xF0, second, [continuation, continuation], [b]⟩)
  else ([.stray [b]], none)

/-- Reads a byte after `p`: the character goes on, is complete, or breaks off before the byte. -/
def follow (p : Opened) (b : UInt8) : List Piece × Option Opened :=
  if p.next.1 ≤ b && b ≤ p.next.2 then
    let bits := p.bits * 0x40 + (b.toNat - 0x80)
    match p.later with
    | [] => ([.char (Char.ofNat bits)], none)
    | next :: later => ([], some ⟨bits, next, later, p.read ++ [b]⟩)
  else
    let (pieces, opened) := lead b
    (.stray p.read :: pieces, opened)

def piecesFrom : Option Opened → Bytes → List Piece
  | none, [] => []
  | some p, [] => [.stray p.read]
  | none, b :: rest => (lead b).1 ++ piecesFrom (lead b).2 rest
  | some p, b :: rest => (follow p b).1 ++ piecesFrom (follow p b).2 rest

/-- The characters in a byte string and, between them, its maximal invalid stretches. -/
def pieces (b : Bytes) : List Piece := piecesFrom none b

/-- A piece as one character; what is no character reads as the replacement character. -/
def Piece.lossy : Piece → Char
  | .char c => c
  | .stray _ => '\uFFFD'

/-- Each maximal invalid stretch reads as one replacement character. -/
def decodeLossy (b : Bytes) : List Char := (pieces b).map Piece.lossy

/-- The text, if every byte belongs to a character. -/
def decode? (b : Bytes) : Option (List Char) :=
  (pieces b).mapM fun
    | .char c => some c
    | .stray _ => none

def shown (b : Bytes) : String := String.ofList (decodeLossy b)

example : decode? [0xE9] = none := by decide
example : decodeLossy [0xF0, 0x9F, 0x92, 0x41] = ['\uFFFD', 'A'] := by decide
example : decodeLossy [0xED, 0xA0, 0x80] = ['\uFFFD', '\uFFFD', '\uFFFD'] := by decide

end Utf8
end SparseTransfer
