import SparseTransfer.Text.Quoted
import SparseTransfer.Toml.Node

/- A valid document that does not hold what was asked for: what is wrong, and where. -/
namespace SparseTransfer.Toml

/-- What is wrong with a part of a document. -/
inductive Mismatch where
  | unknownField (name : String) (known : List String)
  | wrongType (found expected : String)
  | tooShort (length : Nat) (expected : String)
  deriving Repr, DecidableEq

structure Misfit where
  span : Span
  mismatch : Mismatch
  deriving Repr, DecidableEq

def fieldName (name : String) : String := "\u0060" ++ name ++ "\u0060"

def Mismatch.message : Mismatch → String
  | .unknownField name known =>
    let names := known.map fieldName
    let expected := match names with
      | [a, b] => a ++ " or " ++ b
      | names => "one of " ++ String.intercalate ", " names
    "unknown field " ++ fieldName name ++ ", expected " ++ expected
  | .wrongType found expected => "invalid type: " ++ found ++ ", expected " ++ expected
  | .tooShort length expected =>
    "invalid length " ++ toString length ++ ", expected " ++ expected

/-- The kind of a value, and the value if it is simple. -/
def Node.described : Node → String
  | .string _ text => "string " ++ Text.Quoted.text text
  | .integer _ number => "integer " ++ fieldName (toString number)
  | .float _ number => "floating point " ++ fieldName number.shown
  | .boolean _ value => "boolean " ++ fieldName (toString value)
  | .datetime _ | .table .. => "map"
  | .array .. => "sequence"

/-- A place in a text: how many lines are before it, the whole line, and how many characters of the
line are before it. -/
structure Place where
  line : Nat
  content : List Char
  column : Nat

/-- Finds the place with `offset` characters before it. -/
def Place.find (text : List Char) (offset : Nat) : Place :=
  let before := text.take offset
  let lineStart := (before.reverse.takeWhile (· != '\n')).reverse
  let lineEnd := (text.drop offset).takeWhile (· != '\n')
  { line := before.count '\n'
    content := lineStart ++ lineEnd
    column := lineStart.length }

/-- How many marks stand below a span that begins at `place`: one for each byte, but no more than
fit below the line, and at least one. -/
def markCount (text : List Char) (span : Span) (place : Place) : Nat :=
  let size := (Utf8.encode ((text.drop span.start).take (span.stop - span.start))).length
  let free := (Utf8.encode place.content).length - place.column
  max 1 (min size free)

/-- The report on a misfit: the line that it is in, with marks below the place, and the reason. -/
def Misfit.report (text : String) (misfit : Misfit) : String :=
  let chars := text.toList
  let place := Place.find chars misfit.span.start
  let number := toString (place.line + 1)
  let margin := String.ofList (List.replicate (number.length + 1) ' ')
  let indent := String.ofList (List.replicate (place.column + 1) ' ')
  let marks := String.ofList (List.replicate (markCount chars misfit.span place) '^')
  "TOML parse error at line " ++ number ++ ", column " ++ toString (place.column + 1) ++ "\n" ++
    margin ++ "|\n" ++
    number ++ " | " ++ String.ofList place.content ++ "\n" ++
    margin ++ "|" ++ indent ++ marks ++ "\n" ++
    misfit.mismatch.message ++ "\n"

end SparseTransfer.Toml
