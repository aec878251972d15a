import SparseTransfer.Event
import SparseTransfer.Text.Blank
import SparseTransfer.Text.Split

/- Which events are shown: directives that name a part of the program and how much its events have
to matter. -/
namespace SparseTransfer

namespace Level

/-- How many levels matter at least as much. -/
def rank : Level → Nat
  | .error => 1
  | .warn => 2
  | .info => 3
  | .debug => 4
  | .trace => 5

end Level

/-- How much events have to matter to be shown; nothing if none is. -/
abbrev Threshold := Option Level

namespace Threshold

/-- Whether events of a level are shown. -/
def shows (t : Threshold) (l : Level) : Bool :=
  match t with
  | none => false
  | some least => l.rank ≤ least.rank

/-- The names of the thresholds, each at the place of its number. -/
def names : List (String × Threshold) :=
  [("off", none), ("error", some .error), ("warn", some .warn), ("info", some .info),
    ("debug", some .debug), ("trace", some .trace)]

/-- A number, perhaps after a plus sign. -/
def number? (text : List Char) : Option Nat :=
  let digits := match text with
    | '+' :: rest => rest
    | all => all
  if digits.isEmpty || !digits.all Char.isDigit then none
  else some (digits.foldl (fun n c => 10 * n + (c.toNat - '0'.toNat)) 0)

/-- Reads a name, in which upper and lower case make no difference, or a number. No name at all
stands for errors. -/
def ofText? (text : List Char) : Option Threshold :=
  let named := (names.find? fun n => n.1.toList == text.map Char.toLower).map (·.2)
  match (number? text).bind fun n => names[n]? with
  | some (_, t) => some t
  | none => if text.isEmpty then some (some .error) else named

end Threshold

/-- Events from the parts of the program whose names begin with `scope` are shown from a threshold
on; without a scope, those from every part. -/
structure Directive where
  scope : Option String
  threshold : Threshold
  deriving Repr, DecidableEq

namespace Directive

/-- Whether a name can begin with this character. -/
def canStart (c : Char) : Bool :=
  c.isAlphanum || 0x80 ≤ c.toNat || c == '-' || c == ':' || c == '_'

/-- The threshold after an equals sign, where nothing stands for everything. -/
def thresholdAfter (text : List Char) : Option Threshold :=
  if text.isEmpty then some (some .trace) else Threshold.ofText? text

/-- Reads what follows a selection of spans in brackets. -/
def afterSpan (text : List Char) : Option Threshold :=
  match text.dropWhile (· != ']') with
  | [']'] => some (some .trace)
  | ']' :: '=' :: level => thresholdAfter level
  | _ => none

/-- Reads one directive. A well-formed one that selects spans gives nothing, as no event belongs to
a span. -/
def ofText? (text : List Char) : Option (Option Directive) :=
  match Text.trim text with
  | [] => none
  | c :: rest =>
    if c == '[' then (afterSpan rest).map fun _ => none
    else if !canStart c then none
    else
      match text.dropWhile fun c => c != '=' && c != '[' with
      | [] =>
        match Threshold.ofText? text with
        | some t => some (some ⟨none, t⟩)
        | none => some (some ⟨some (String.ofList text), some .trace⟩)
      | '=' :: level =>
        let scope := String.ofList (text.takeWhile (· != '='))
        (thresholdAfter level).map fun t => some ⟨some scope, t⟩
      | _ :: span => (afterSpan span).map fun _ => none

def isAbout (d : Directive) (source : String) : Bool :=
  match d.scope with
  | none => true
  | some scope => scope.toList.isPrefixOf source.toList

/-- A longer scope is more specific. -/
def specificity (d : Directive) : Nat :=
  match d.scope with
  | none => 0
  | some scope => scope.utf8ByteSize + 1

end Directive

abbrev EventFilter := List Directive

namespace EventFilter

/-- Reads directives with commas between neighbours. No text at all shows errors. -/
def ofText? (text : String) : Option EventFilter :=
  if text.isEmpty then some [⟨none, some .error⟩]
  else
    let parts := (Text.split (· == ',') text.toList).filter (!·.isEmpty)
    match parts.mapM Directive.ofText? with
    | none => none
    | some [] => some [⟨none, some .error⟩]
    | some directives => some (directives.filterMap id)

/-- The filter where none is given. -/
def standard (verbose : Bool) : EventFilter :=
  if verbose then [⟨some "push_transfer", some .debug⟩, ⟨none, some .info⟩]
  else [⟨some "push_transfer", some .info⟩]

/-- The directive that decides: the most specific, and of several the last. -/
def deciding? (f : EventFilter) (source : String) : Option Directive :=
  (f.filter (·.isAbout source)).foldl (fun best d =>
    match best with
    | none => some d
    | some b => if b.specificity ≤ d.specificity then some d else some b) none

def shows (f : EventFilter) (e : Event) : Bool :=
  match f.deciding? e.source with
  | none => false
  | some d => d.threshold.shows e.level

end EventFilter
end SparseTransfer
