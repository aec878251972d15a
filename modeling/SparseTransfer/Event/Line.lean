import SparseTransfer.CommandLine
import SparseTransfer.Event
import SparseTransfer.Text.CodeRanges
import SparseTransfer.Text.Quoted

/- Events as lines: for people, or as objects for programs. -/
namespace SparseTransfer

def Level.name : Level → String
  | .error => "ERROR"
  | .warn => "WARN"
  | .info => "INFO"
  | .debug => "DEBUG"
  | .trace => "TRACE"

namespace Json

def encodeChar (c : Char) : List Char :=
  if c = '"' then ['\\', '"']
  else if c = '\\' then ['\\', '\\']
  else if c = '\n' then ['\\', 'n']
  else if c = '\r' then ['\\', 'r']
  else if c = '\t' then ['\\', 't']
  else if c = '\x08' then ['\\', 'b']
  else if c = '\x0C' then ['\\', 'f']
  else if c.toNat < 0x20 then
    ['\\', 'u', '0', '0', Nat.digitChar (c.toNat / 16), Nat.digitChar (c.toNat % 16)]
  else [c]

def string (s : String) : String :=
  String.ofList ('"' :: s.toList.flatMap encodeChar ++ ['"'])

def object (members : List (String × String)) : String :=
  let written := members.map fun (name, value) => string name ++ ":" ++ value
  "\x7b" ++ String.intercalate "," written ++ "\x7d"

end Json

namespace FieldValue

def compact : FieldValue → String
  | .shown s => s
  | .text s => Text.Quoted.text s
  | .count n => toString n

def json : FieldValue → String
  | .shown s | .text s => Json.string s
  | .count n => toString n

end FieldValue

namespace Event

def levelColumn (l : Level) : String :=
  String.ofList (List.replicate (5 - l.name.length) ' ') ++ l.name

/-- The line for people: time, level, message, and the fields behind their names. -/
def compactLine (time : String) (e : Event) : String :=
  let fields := e.fields.map fun (name, value) => " " ++ name ++ "=" ++ value.compact
  time ++ " " ++ levelColumn e.level ++ " " ++ e.message ++ String.join fields

def jsonLine (time : String) (e : Event) : String :=
  let fields := ("message", Json.string e.message) ::
    e.fields.map fun (name, value) => (name, value.json)
  Json.object [("timestamp", Json.string time), ("level", Json.string e.level.name),
    ("fields", Json.object fields)]

def line (format : LogFormat) (time : String) (e : Event) : String :=
  match format with
  | .compact => compactLine time e
  | .json => jsonLine time e

end Event
end SparseTransfer
