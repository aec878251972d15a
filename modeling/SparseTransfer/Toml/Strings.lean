import SparseTransfer.Text.CodeRanges

/- Quoted strings of TOML, on one line or on several, with escapes or without. Each reader is given
the text after the opening quotes and returns the string and the text after the closing ones. -/
namespace SparseTransfer.Toml
open Text

def isBlankChar (c : Char) : Bool := c == ' ' || c == '\t'

/-- A character that may stand for itself: a tab, or no control character. -/
def isPlain (c : Char) : Bool :=
  c == '\t' || (c.toNat ≥ 0x20 && c.toNat != 0x7F)

/-- A character by its number, in `count` hexadecimal digits. -/
def numbered (count : Nat) (s : List Char) : Option (Char × List Char) :=
  let digits := s.take count
  if digits.length = count && digits.all fun c => (hexDigit? c).isSome then
    let n := hexValue digits
    if n.isValidChar then some (Char.ofNat n, s.drop count) else none
  else none

/-- What a backslash and the text after it stand for. -/
def escape? : List Char → Option (Char × List Char)
  | 'b' :: rest => some ('\x08', rest)
  | 't' :: rest => some ('\t', rest)
  | 'n' :: rest => some ('\n', rest)
  | 'f' :: rest => some ('\x0c', rest)
  | 'r' :: rest => some ('\r', rest)
  | 'e' :: rest => some ('\x1b', rest)
  | '"' :: rest => some ('"', rest)
  | '\\' :: rest => some ('\\', rest)
  | 'x' :: rest => numbered 2 rest
  | 'u' :: rest => numbered 4 rest
  | 'U' :: rest => numbered 8 rest
  | _ => none

/-- A string on one line, with escapes. -/
def basic : (fuel : Nat) → List Char → Option (List Char × List Char)
  | 0, _ | _, [] => none
  | fuel + 1, c :: rest =>
    if c = '"' then some ([], rest)
    else if c = '\\' then
      match escape? rest with
      | some (d, rest) => (basic fuel rest).map fun (s, rest) => (d :: s, rest)
      | none => none
    else if isPlain c then (basic fuel rest).map fun (s, rest) => (c :: s, rest)
    else none

/-- A string on one line, as written. -/
def literal : List Char → Option (List Char × List Char)
  | [] => none
  | c :: rest =>
    if c = '\'' then some ([], rest)
    else if isPlain c then (literal rest).map fun (s, rest) => (c :: s, rest)
    else none

def skipBlankLines : List Char → List Char
  | ' ' :: rest | '\t' :: rest | '\n' :: rest | '\r' :: '\n' :: rest => skipBlankLines rest
  | rest => rest

def skipLineEnd : List Char → Option (List Char)
  | '\n' :: rest | '\r' :: '\n' :: rest => some rest
  | _ => none

/-- The closing of a string on several lines: three quotes, with up to two more before them. -/
def closing (quote : Char) (s : List Char) : Option (List Char × List Char) :=
  let quotes := (s.takeWhile (· == quote)).length
  if 3 ≤ quotes && quotes ≤ 5 then some (List.replicate (quotes - 3) quote, s.drop quotes)
  else none

/-- A string on several lines, with escapes. A backslash at the end of a line leaves out all blanks
and line ends that follow. -/
def basicLines : (fuel : Nat) → List Char → Option (List Char × List Char)
  | 0, _ => none
  | fuel + 1, s =>
    match closing '"' s, s with
    | some result, _ => some result
    | none, [] => none
    | none, '\\' :: rest =>
      match skipLineEnd (rest.dropWhile isBlankChar) with
      | some rest => basicLines fuel (skipBlankLines rest)
      | none =>
        match escape? rest with
        | some (d, rest) => (basicLines fuel rest).map fun (s, rest) => (d :: s, rest)
        | none => none
    | none, '\r' :: '\n' :: rest =>
      (basicLines fuel rest).map fun (s, rest) => ('\r' :: '\n' :: s, rest)
    | none, c :: rest =>
      if c = '\n' || (isPlain c && !(['"', '"', '"'].isPrefixOf s)) then
        (basicLines fuel rest).map fun (s, rest) => (c :: s, rest)
      else none

/-- A string on several lines, as written. -/
def literalLines : (fuel : Nat) → List Char → Option (List Char × List Char)
  | 0, _ => none
  | fuel + 1, s =>
    match closing '\'' s, s with
    | some result, _ => some result
    | none, [] => none
    | none, '\r' :: '\n' :: rest =>
      (literalLines fuel rest).map fun (s, rest) => ('\r' :: '\n' :: s, rest)
    | none, c :: rest =>
      if c = '\n' || (isPlain c && !(['\'', '\'', '\''].isPrefixOf s)) then
        (literalLines fuel rest).map fun (s, rest) => (c :: s, rest)
      else none

/-- A string of any kind, from its opening quotes. A line end right after three quotes is left
out. -/
def readString (s : List Char) : Option (List Char × List Char) :=
  match s with
  | '"' :: '"' :: '"' :: rest => basicLines (rest.length + 1) ((skipLineEnd rest).getD rest)
  | '\'' :: '\'' :: '\'' :: rest => literalLines (rest.length + 1) ((skipLineEnd rest).getD rest)
  | '"' :: rest => basic (rest.length + 1) rest
  | '\'' :: rest => literal rest
  | _ => none

end SparseTransfer.Toml
