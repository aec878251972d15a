import SparseTransfer.Event
import SparseTransfer.File.FileSystem
import SparseTransfer.File.OsError
import SparseTransfer.Text.Quoted

/- Invocations of git: what is asked of it, and how it answers. -/
namespace SparseTransfer

inductive GitOperation where
  | init
  | remoteAdd (url : String)
  | config (key value : String)
  | fetch (branch : String)
  | checkout (branch : String)
  deriving Repr, DecidableEq

/-- One invocation, for the repository at `dest`. -/
structure GitCall where
  dest : Path
  operation : GitOperation
  deriving Repr, DecidableEq

namespace GitOperation

def step : GitOperation → String
  | .init => "init"
  | .remoteAdd _ => "remote add"
  | .config .. => "config"
  | .fetch _ => "fetch"
  | .checkout _ => "checkout"

def words : GitOperation → List String
  | .init => ["init", "--quiet"]
  | .remoteAdd url => ["remote", "add", "origin", url]
  | .config key value => ["config", key, value]
  | .fetch branch => ["fetch", "--no-tags", "--depth", "1", "--filter=blob:none", "origin", branch]
  | .checkout branch => ["checkout", "--quiet", branch]

end GitOperation

namespace GitCall

/-- The arguments after the name of the program. The repository is made by the first operation, and
the others run in it. -/
def arguments (c : GitCall) : List Bytes :=
  let words := c.operation.words.map Utf8.bytes
  if c.operation = .init then words ++ [c.dest] else Utf8.bytes "-C" :: c.dest :: words

/-- The setting that keeps git from asking at a terminal. -/
def noPrompt : String × String := ("GIT_TERMINAL_PROMPT", "0")

/-- What is set for the program that is started, whatever it is asked. -/
def environment (_ : GitCall) : List (String × String) := [noPrompt]

def command (c : GitCall) : String :=
  let settings := c.environment.map fun (name, value) => name ++ "=" ++ Text.Quoted.text value
  let words := (Utf8.bytes "git" :: c.arguments).map Text.Quoted.bytes
  String.intercalate " " (settings ++ words)

/-- Whether an argument holds the byte that ends arguments. -/
def hasNul (c : GitCall) : Bool := c.arguments.any (·.contains 0)

end GitCall

inductive ExitStatus where
  | code (n : Nat)
  | signal (n : Nat) (coreDumped : Bool)
  deriving Repr, DecidableEq

namespace ExitStatus

def isSuccess (s : ExitStatus) : Bool := s == .code 0

def signalNames : List String :=
  ["SIGHUP", "SIGINT", "SIGQUIT", "SIGILL", "SIGTRAP", "SIGABRT", "SIGBUS", "SIGFPE", "SIGKILL",
    "SIGUSR1", "SIGSEGV", "SIGUSR2", "SIGPIPE", "SIGALRM", "SIGTERM", "SIGSTKFLT", "SIGCHLD",
    "SIGCONT", "SIGSTOP", "SIGTSTP", "SIGTTIN", "SIGTTOU", "SIGURG", "SIGXCPU", "SIGXFSZ",
    "SIGVTALRM", "SIGPROF", "SIGWINCH", "SIGIO", "SIGPWR", "SIGSYS"]

/-- The name of a signal in parentheses, if it has one. -/
def signalName (n : Nat) : String :=
  match n with
  | 0 => ""
  | n + 1 =>
    match signalNames[n]? with
    | some name => " (" ++ name ++ ")"
    | none => ""

def text : ExitStatus → String
  | .code n => "exit status: " ++ toString n
  | .signal n dumped =>
    "signal: " ++ toString n ++ signalName n ++ if dumped then " (core dumped)" else ""

example : (ExitStatus.code 128).text = "exit status: 128" := by decide
example : (ExitStatus.signal 9 false).text = "signal: 9 (SIGKILL)" := by decide
example : (ExitStatus.signal 64 false).text = "signal: 64" := by decide

end ExitStatus

/-- Why git could not be started. -/
inductive StartFailure where
  | os (error : OsError)
  | nulInArgument
  deriving Repr, DecidableEq

def StartFailure.message : StartFailure → String
  | .os e => e.message
  | .nulInArgument => "nul byte found in provided data"

/-- What came of an invocation. -/
inductive GitReply where
  | notStarted (failure : StartFailure)
  | ended (status : ExitStatus) (stderr : Bytes)
  deriving Repr, DecidableEq

def GitReply.isSuccess : GitReply → Bool
  | .notStarted _ => false
  | .ended status _ => status.isSuccess

/-- A git: what it makes of the files and how it answers, when it has been asked some things before
and is asked one more. -/
def Git : Type := List GitCall → GitCall → FileSystem → FileSystem × GitReply

end SparseTransfer
