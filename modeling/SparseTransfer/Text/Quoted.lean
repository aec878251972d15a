import SparseTransfer.Text.Unprintable
import SparseTransfer.Text.Utf8

/- Quoted text: what stands between double quotes when a value is shown for inspection. -/
namespace SparseTransfer.Text.Quoted

/-- A character outside ASCII that is shown by its number: a control, format, separator, private or
unassigned character, or one that would attach to the character before it. -/
def isShownByNumber (c : Char) : Bool :=
  if c.toNat < 0x20 || c.toNat = 0x7F then true
  else if c.toNat < 0x7F then false
  else unprintable.contains c

def encodeChar (c : Char) : List Char :=
  if c = '\t' then ['\\', 't']
  else if c = '\n' then ['\\', 'n']
  else if c = '\r' then ['\\', 'r']
  else if c = '\x00' then ['\\', '0']
  else if c = '"' then ['\\', '"']
  else if c = '\\' then ['\\', '\\']
  else if isShownByNumber c then ['\\', 'u', '\x7b'] ++ hexDigits c.toNat ++ ['\x7d']
  else [c]

def text (s : String) : String :=
  String.ofList ('"' :: s.toList.flatMap encodeChar ++ ['"'])

/-- A byte that belongs to no character, as two hexadecimal digits. -/
def encodeByte (b : UInt8) : List Char :=
  let digits := (hexDigits b.toNat).map Char.toUpper
  ['\\', 'x'] ++ List.replicate (2 - digits.length) '0' ++ digits

def encodePiece : Utf8.Piece → List Char
  | .char c => encodeChar c
  | .stray bytes => bytes.flatMap encodeByte

def bytes (b : Bytes) : String :=
  String.ofList ('"' :: (Utf8.pieces b).flatMap encodePiece ++ ['"'])

/-- A value that may be absent, as it is shown for inspection. -/
def option (shown : α → String) : Option α → String
  | none => "None"
  | some x => "Some(" ++ shown x ++ ")"

end SparseTransfer.Text.Quoted
