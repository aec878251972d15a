import SparseTransfer.Decimal.Binary

/- TOML documents as trees in which every part knows where it stands in the text. -/
namespace SparseTransfer.Toml

/-- A stretch of the text, by the numbers of characters before its ends. -/
structure Span where
  start : Nat
  stop : Nat
  deriving Repr, DecidableEq

structure Key where
  name : String
  span : Span
  deriving Repr, DecidableEq

/-- A number with a point or an exponent, or one of the special numbers. -/
inductive FloatNumber where
  /-- `digits · 10^exponent` -/
  | finite (negative : Bool) (digits : Nat) (exponent : Int)
  | infinite (negative : Bool)
  | notANumber
  deriving Repr, DecidableEq

/-- The number as it is shown: the shortest digits of its value in 64 bits, without exponent. -/
def FloatNumber.shown : FloatNumber → String
  | .notANumber => "NaN"
  | .infinite negative => if negative then "-inf" else "inf"
  | .finite negative digits exponent =>
    let (n, e) := match Decimal.ofDecimal digits exponent with
      | some b => Decimal.shortest b
      | none => (digits, exponent)
    (if negative then "-" else "") ++ String.ofList (Decimal.positional n e)

/-- How a table came to be. -/
inductive TableKind where
  /-- By a header of its own. -/
  | header
  /-- By a longer header. -/
  | implied
  /-- By a key with dots. -/
  | dotted
  /-- In braces. -/
  | inline
  deriving Repr, DecidableEq

inductive ArrayKind where
  | inline
  /-- By headers in double brackets. -/
  | tables
  deriving Repr, DecidableEq

inductive Node where
  | string (span : Span) (text : String)
  | integer (span : Span) (number : Int)
  | float (span : Span) (number : FloatNumber)
  | boolean (span : Span) (value : Bool)
  | datetime (span : Span)
  | array (span : Span) (kind : ArrayKind) (items : List Node)
  | table (span : Span) (kind : TableKind) (entries : List (Key × Node))

def Node.span : Node → Span
  | .string s _ | .integer s _ | .float s _ | .boolean s _ | .datetime s | .array s _ _
  | .table s _ _ => s

/-- The entries of a table, in the order in which they were written. -/
abbrev Entries := List (Key × Node)

namespace Entries

def find? (entries : Entries) (name : String) : Option Node :=
  (List.find? (fun e => e.1.name == name) entries).map (·.2)

def replace (entries : Entries) (name : String) (node : Node) : Entries :=
  entries.map fun e => if e.1.name == name then (e.1, node) else e

def erase (entries : Entries) (name : String) : Entries :=
  entries.filter fun e => e.1.name != name

/-- Changes the table at the end of a path. Tables on the way are made if need be; a path leads
through the last element of an array of tables. Keys with dots (`dotted`) do not reach into tables
that have a header, and nothing reaches into a table in braces. -/
def change (dotted : Bool) (f : TableKind → Entries → Option Entries) :
    (path : List Key) → TableKind → Entries → Option Entries
  | [], kind, entries => f kind entries
  | key :: path, _, entries =>
    match entries.find? key.name with
    | none =>
      let kind : TableKind := if dotted then .dotted else .implied
      (change dotted f path kind []).map fun sub => entries ++ [(key, .table key.span kind sub)]
    | some (.table span kind sub) =>
      if kind = .inline || (dotted && kind = .header) then none
      else (change dotted f path kind sub).map fun sub =>
        entries.replace key.name (.table span kind sub)
    | some (.array span .tables items) =>
      match dotted, items.getLast? with
      | false, some (.table last kind sub) =>
        (change dotted f path kind sub).map fun sub =>
          entries.replace key.name (.array span .tables (items.dropLast ++ [.table last kind sub]))
      | _, _ => none
    | some _ => none

/-- Puts a value under a path of keys. No key is given twice, and what a header made is not
extended by keys with dots. -/
def assign (path : List Key) (key : Key) (node : Node) (kind : TableKind) (entries : Entries) :
    Option Entries :=
  change true (fun kind entries =>
    if decide (kind = .dotted) == path.isEmpty || (entries.find? key.name).isSome then none
    else some (entries ++ [(key, node)])) path kind entries

/-- Opens a table by its header. Only a table that a longer header implied may be there already. -/
def openTable (path : List Key) (key : Key) (span : Span) (entries : Entries) : Option Entries :=
  change false (fun _ entries =>
    match entries.find? key.name with
    | none => some (entries ++ [(key, .table span .header [])])
    | some (.table _ .implied sub) =>
      some (entries.erase key.name ++ [(key, .table span .header sub)])
    | some _ => none) path .header entries

/-- Adds a table to an array of tables. -/
def openElement (path : List Key) (key : Key) (span : Span) (entries : Entries) : Option Entries :=
  change false (fun _ entries =>
    match entries.find? key.name with
    | none => some (entries ++ [(key, .array span .tables [.table span .header []])])
    | some (.array first .tables items) =>
      some (entries.replace key.name (.array first .tables (items ++ [.table span .header []])))
    | some _ => none) path .header entries

end Entries
end SparseTransfer.Toml
