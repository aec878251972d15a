import SparseTransfer.Engine
import SparseTransfer.Event.Filter
import SparseTransfer.Event.Line
import SparseTransfer.Settings.Resolution
import SparseTransfer.Settings.Validation
import SparseTransfer.Storage.Remote

/- The program: from its arguments and its environment to what it prints and its exit status. -/
namespace SparseTransfer

structure Invocation where
  /-- The arguments after the name of the program. -/
  arguments : List Bytes
  secrets : CommandLine.Environment := {}
  /-- The text of the filter for events. -/
  logFilter : Option Bytes := none
  tempDir : Option Path := none

structure Surroundings where
  git : Git
  network : Network
  suffixes : Suffixes

structure Finish where
  exitCode : Nat
  stdout : String
  /-- What is printed on standard error after the lines of the events. -/
  complaint : String
  log : List Event
  format : LogFormat
  deriving Repr, DecidableEq

namespace Program

/-- Where working directories are made, if nothing else is said. -/
def standardTempDir : Path := Path.ofText "/tmp"

def plan (s : TransferSettings) : String :=
  String.join ["Repository: ", s.repoUrl, "\n", "Branch:     ", s.branch, "\n",
    "Directory:  ", s.dirPath, "\n", "Endpoint:   ", s.storage.endpointUrl, "\n",
    "Target:     ", s.target.text, "\n"]

def uploaded (r : TransferReport) : String :=
  String.join ["Uploaded ", toString r.archive.entries, " files (", toString r.receipt.bytes,
    " bytes) to ", r.receipt.target.text, "\n"]

/-- The settings of a command line, checked. -/
def settle (c : CommandLine) : Action (World Ledger) TransferSettings := do
  let s ← TransferSettings.ofCommandLine c
  s.validate
  return s

/-- Carries a transfer out. -/
def carryOut (around : Surroundings) (monitored : Bool) (tempDir : Path) (s : TransferSettings) :
    Action (World Ledger) TransferReport := do
  Storage.connect s.storage
  let storage := Storage.remote around.network s.storage
  let engine : Engine Ledger :=
    ⟨Pipeline.transfer around.git storage s, ⟨monitored, 0⟩, around.suffixes⟩
  engine.runIn tempDir

def work (around : Surroundings) (c : CommandLine) (tempDir : Path) :
    Action (World Ledger) String := do
  Action.report .starting
  let s ← settle c
  Action.report (.settingsResolved s)
  if c.switch .dryRun then
    Action.report .dryRun
    return plan s
  else
    let report ← carryOut around (c.switch .monitor) tempDir s
    return uploaded report

/-- The filter for events. A text that is no filter is passed over. -/
def filterOf (verbose : Bool) (text : Option Bytes) : EventFilter :=
  let given := (text.bind Utf8.decode?).bind fun chars => EventFilter.ofText? (String.ofList chars)
  given.getD (EventFilter.standard verbose)

/-- How the program ends when its command line is not carried out. -/
def refuse (e : UsageError) : Finish where
  exitCode := e.exitCode
  stdout := if e.isAnswer then e.message ++ "\n" else ""
  complaint := if e.isAnswer then "" else e.message ++ "\n"
  log := []
  format := .compact

/-- How the program ends after its work. -/
def finish (format : LogFormat) (filter : EventFilter) (o : Outcome (World Ledger) String) :
    Finish :=
  match o.result with
  | .ok text => ⟨0, text, "", o.events.filter filter.shows, format⟩
  | .error e =>
    ⟨1, "", "Error: " ++ e.message ++ "\n",
      (o.events ++ [Event.suggesting e]).filter filter.shows, format⟩

def run (around : Surroundings) (i : Invocation) (w : World Ledger) : Finish × World Ledger :=
  match CommandLine.parse i.secrets i.arguments with
  | .error e => (refuse e, w)
  | .ok c =>
    let o := (work around c (i.tempDir.getD standardTempDir)).run w
    (finish c.format (filterOf (c.switch .verbose) i.logFilter) o, o.state)

end Program

/-- What is printed on standard error, with `time` in front of every event. -/
def Finish.stderr (f : Finish) (time : String) : String :=
  String.join (f.log.map fun e => e.line f.format time ++ "\n") ++ f.complaint

end SparseTransfer
