import SparseTransfer.Toml.Scalar
import SparseTransfer.Toml.Strings

/- Reading TOML documents into trees. -/
namespace SparseTransfer.Toml

/-- What is left of a text, and how many characters came before it. -/
structure Cursor where
  pos : Nat
  rest : List Char

namespace Cursor

/-- The cursor before `rest`, an end of what is left. -/
def moveTo (c : Cursor) (rest : List Char) : Cursor :=
  ⟨c.pos + (c.rest.length - rest.length), rest⟩

def skip (c : Cursor) (count : Nat) : Cursor := ⟨c.pos + count, c.rest.drop count⟩

def skipBlanks (c : Cursor) : Cursor := c.moveTo (c.rest.dropWhile isBlankChar)

/-- Passes one character, which has to come next. -/
def expect (c : Cursor) (char : Char) : Option Cursor :=
  if c.rest.head? = some char then some (c.skip 1) else none

end Cursor

/-- Leaves out a comment, up to the end of its line; controls are refused. -/
def skipComment (s : List Char) : Option (List Char) :=
  match s with
  | '#' :: rest =>
    let comment := rest.takeWhile fun c => c != '\n' && c != '\r'
    if comment.all isPlain then some (rest.dropWhile fun c => c != '\n' && c != '\r') else none
  | rest => some rest

/-- Leaves out blanks, comments and line ends. -/
def skipLines : (fuel : Nat) → List Char → Option (List Char)
  | 0, _ => none
  | fuel + 1, s =>
    match skipComment (s.dropWhile isBlankChar) with
    | none => none
    | some rest =>
      match skipLineEnd rest with
      | some rest => skipLines fuel rest
      | none => some rest

def Cursor.skipLines (c : Cursor) : Option Cursor :=
  (Toml.skipLines (c.rest.length + 1) c.rest).map c.moveTo

/-- A character of a key without quotes. -/
def isKeyChar (c : Char) : Bool := c.isAlphanum || c == '_' || c == '-'

/-- One key, with or without quotes; a string on several lines is no key. -/
def readKey (c : Cursor) : Option (Key × Cursor) :=
  match c.rest with
  | '"' :: '"' :: '"' :: _ | '\'' :: '\'' :: '\'' :: _ => none
  | '"' :: _ | '\'' :: _ =>
    match readString c.rest with
    | none => none
    | some (name, rest) =>
      let next := c.moveTo rest
      some (⟨String.ofList name, ⟨c.pos, next.pos⟩⟩, next)
  | rest =>
    let name := rest.takeWhile isKeyChar
    if name.isEmpty then none
    else
      let next := c.skip name.length
      some (⟨String.ofList name, ⟨c.pos, next.pos⟩⟩, next)

/-- Keys with dots between them: the path and the last key. -/
def readPath : (fuel : Nat) → Cursor → Option ((List Key × Key) × Cursor)
  | 0, _ => none
  | fuel + 1, c =>
    match readKey c.skipBlanks with
    | none => none
    | some (key, next) =>
      match next.skipBlanks.expect '.' with
      | none => some (([], key), next.skipBlanks)
      | some next =>
        (readPath fuel next).map fun ((path, last), next) => ((key :: path, last), next)

def Scalar.node (span : Span) : Scalar → Node
  | .boolean b => .boolean span b
  | .integer n => .integer span n
  | .float n => .float span n
  | .datetime => .datetime span

/-- Brackets and braces inside each other, at most. -/
def maxDepth : Nat := 80

mutual

/-- A value of any kind; `depth` is how many more brackets may open. -/
def readValue : (fuel depth : Nat) → Cursor → Option (Node × Cursor)
  | 0, _, _ => none
  | fuel + 1, depth, c =>
    match c.rest with
    | '"' :: _ | '\'' :: _ =>
      (readString c.rest).map fun (text, rest) =>
        let next := c.moveTo rest
        (.string ⟨c.pos, next.pos⟩ (String.ofList text), next)
    | '[' :: _ =>
      match depth with
      | 0 => none
      | depth + 1 =>
        (readItems fuel depth (c.skip 1)).map fun (items, next) =>
          (.array ⟨c.pos, next.pos⟩ .inline items, next)
    | '{' :: _ =>
      match depth with
      | 0 => none
      | depth + 1 =>
        (readPairs fuel depth [] (c.skip 1)).map fun (entries, next) =>
          (.table ⟨c.pos, next.pos⟩ .inline entries, next)
    | _ =>
      (readScalar c.rest).map fun (scalar, rest) =>
        let next := c.moveTo rest
        (scalar.node ⟨c.pos, next.pos⟩, next)

/-- The items of an array and its closing bracket. A comma may follow the last item. -/
def readItems : (fuel depth : Nat) → Cursor → Option (List Node × Cursor)
  | 0, _, _ => none
  | fuel + 1, depth, c =>
    match c.skipLines with
    | none => none
    | some c =>
      match c.expect ']' with
      | some next => some ([], next)
      | none =>
        match readValue fuel depth c with
        | none => none
        | some (item, next) =>
          match next.skipLines with
          | none => none
          | some next =>
            match next.expect ',', next.expect ']' with
            | some next, _ =>
              (readItems fuel depth next).map fun (items, next) => (item :: items, next)
            | none, some next => some ([item], next)
            | none, none => none

/-- The entries of a table in braces, after those already read, and its closing brace. -/
def readPairs : (fuel depth : Nat) → Entries → Cursor → Option (Entries × Cursor)
  | 0, _, _, _ => none
  | fuel + 1, depth, entries, c =>
    match c.skipLines with
    | none => none
    | some c =>
      match c.expect '}' with
      | some next => some (entries, next)
      | none =>
        match readPath (c.rest.length + 1) c with
        | none => none
        | some ((path, key), next) =>
          match next.expect '=' with
          | none => none
          | some next =>
            match readValue fuel depth next.skipBlanks with
            | none => none
            | some (node, next) =>
              match entries.assign path key node .inline, next.skipLines with
              | some entries, some next =>
                match next.expect ',', next.expect '}' with
                | some next, _ => readPairs fuel depth entries next
                | none, some next => some (entries, next)
                | none, none => none
              | _, _ => none

end

/-- Fuel enough for a text of this length. -/
def valueFuel (c : Cursor) : Nat := 2 * c.rest.length + 2

/-- The tables read so far and the header under which the next keys stand. -/
structure Draft where
  root : Entries
  header : List Key

def Draft.assign (d : Draft) (path : List Key) (key : Key) (node : Node) : Option Draft :=
  (Entries.change false (fun kind entries => entries.assign path key node kind) d.header .header
    d.root).map fun root => { d with root }

/-- A header in single or double brackets. -/
def readHeader (d : Draft) (c : Cursor) : Option (Draft × Cursor) :=
  let isElement := ['[', '['].isPrefixOf c.rest
  let start := if isElement then c.skip 2 else c.skip 1
  match readPath (c.rest.length + 1) start with
  | none => none
  | some ((path, key), next) =>
    let close : List Char := if isElement then [']', ']'] else [']']
    if close.isPrefixOf next.rest then
      let next := next.skip close.length
      let span : Span := ⟨c.pos, next.pos⟩
      let opened :=
        if isElement then d.root.openElement path key span else d.root.openTable path key span
      opened.map fun root => (⟨root, path ++ [key]⟩, next)
    else none

/-- A key, an equals sign and a value. -/
def readPair (d : Draft) (c : Cursor) : Option (Draft × Cursor) :=
  match readPath (c.rest.length + 1) c with
  | none => none
  | some ((path, key), next) =>
    match next.expect '=' with
    | none => none
    | some next =>
      match readValue (valueFuel next) maxDepth next.skipBlanks with
      | none => none
      | some (node, next) => (d.assign path key node).map fun d => (d, next)

/-- The lines of a document: each is empty, a header or a pair, and may end in a comment. -/
def readLines : (fuel : Nat) → Draft → Cursor → Option Draft
  | 0, _, _ => none
  | fuel + 1, d, c =>
    let c := c.skipBlanks
    let read := match c.rest.head? with
      | none | some '#' | some '\n' | some '\r' => some (d, c)
      | some '[' => readHeader d c
      | some _ => readPair d c
    match read with
    | none => none
    | some (d, c) =>
      match skipComment c.skipBlanks.rest with
      | none => none
      | some [] => some d
      | some rest =>
        match skipLineEnd rest with
        | none => none
        | some rest => readLines fuel d (c.moveTo rest)

/-- The mark that may stand in front of a document. -/
def byteOrderMark : Char := '\uFEFF'

/-- The tables of a document; none if it is not valid. -/
def parse (text : String) : Option Entries :=
  let all : Cursor := ⟨0, text.toList⟩
  let start := if all.rest.head? = some byteOrderMark then all.skip 1 else all
  (readLines (all.rest.length + 1) ⟨[], []⟩ start).map (·.root)

end SparseTransfer.Toml
