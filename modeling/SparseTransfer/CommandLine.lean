import SparseTransfer.Text.Split
import SparseTransfer.Text.Terminal
import SparseTransfer.Text.Utf8

/- The command line: its options, and reading arguments into them. -/
namespace SparseTransfer

inductive LogFormat where
  | compact
  | json
  deriving Repr, DecidableEq

def LogFormat.name : LogFormat → String
  | .compact => "compact"
  | .json => "json"

/-- Options that are given or not. -/
inductive Switch where
  | secure
  | dryRun
  | verbose
  | monitor
  deriving Repr, DecidableEq

/-- Options with a text as value. -/
inductive TextOption where
  | repoUrl
  | branch
  | dirPath
  | endpoint
  | accessKey
  | secretKey
  | target
  | region
  deriving Repr, DecidableEq

/-- Options with a value. -/
inductive ValueOption where
  | text (o : TextOption)
  | config
  | logFormat
  deriving Repr, DecidableEq

inductive CliOption where
  | switch (s : Switch)
  | value (o : ValueOption)
  | help
  | version
  deriving Repr, DecidableEq

namespace Switch

def name : Switch → String
  | .secure => "secure"
  | .dryRun => "dry-run"
  | .verbose => "verbose"
  | .monitor => "monitor"

def all : List Switch := [.secure, .dryRun, .verbose, .monitor]

end Switch

namespace ValueOption

def name : ValueOption → String
  | .text .repoUrl => "repo-url"
  | .text .branch => "branch"
  | .text .dirPath => "dir-path"
  | .text .endpoint => "minio-endpoint"
  | .text .accessKey => "access-key"
  | .text .secretKey => "secret-key"
  | .text .target => "minio-target"
  | .text .region => "region"
  | .config => "config"
  | .logFormat => "log-format"

/-- What stands for the value in messages. -/
def placeholder : ValueOption → String
  | .text .repoUrl => "<REPO_URL>"
  | .text .branch => "<BRANCH>"
  | .text .dirPath => "<DIR_PATH>"
  | .text .endpoint => "<MINIO_ENDPOINT>"
  | .text .accessKey => "<ACCESS_KEY>"
  | .text .secretKey => "<SECRET_KEY>"
  | .text .target => "<MINIO_TARGET>"
  | .text .region => "<REGION>"
  | .config => "<CONFIG>"
  | .logFormat => "<LOG_FORMAT>"

def all : List ValueOption :=
  [.text .repoUrl, .text .branch, .text .dirPath, .text .endpoint, .text .accessKey,
    .text .secretKey, .text .target, .text .region, .config, .logFormat]

end ValueOption

namespace CliOption

def name : CliOption → String
  | .switch s => s.name
  | .value o => o.name
  | .help => "help"
  | .version => "version"

def all : List CliOption :=
  Switch.all.map .switch ++ ValueOption.all.map .value ++ [.help, .version]

def named (name : String) : Option CliOption := all.find? (·.name == name)

def lettered (letter : Char) : Option CliOption :=
  match letter with
  | 'v' => some (.switch .verbose)
  | 'h' => some .help
  | 'V' => some .version
  | _ => none

/-- The option as it is written in messages. -/
def usage : CliOption → String
  | .value o => "--" ++ o.name ++ " " ++ o.placeholder
  | o => "--" ++ o.name

end CliOption

/-- Why the command line stops the program: a mistake, or a question that is answered at once. -/
inductive UsageError where
  | unknownArgument (arg : String)
  | valueMissing (o : ValueOption)
  | valueUnwanted (o : CliOption) (value : String)
  | repeated (o : CliOption)
  | badValue (o : ValueOption) (value : String)
  | notText
  | help
  | version
  deriving Repr, DecidableEq

namespace UsageError

def about : String :=
  "Sparse-clone a repository directory with git, zip it, and upload it to MinIO"

def versionLine : String := "push-transfer 0.1.0"

/-- What is printed, up to advice on later lines. Arguments are shown without what steers a
terminal. -/
def message : UsageError → String
  | .unknownArgument arg => "error: unexpected argument '" ++ Text.Terminal.plain arg ++ "' found"
  | .valueMissing o =>
    "error: a value is required for '" ++ CliOption.usage (.value o) ++ "' but none was supplied"
  | .valueUnwanted o value =>
    "error: unexpected value '" ++ Text.Terminal.plain value ++ "' for '" ++ o.usage ++
      "' found; no more were expected"
  | .repeated o => "error: the argument '" ++ o.usage ++ "' cannot be used multiple times"
  | .badValue o value =>
    "error: invalid value '" ++ Text.Terminal.plain value ++ "' for '" ++
      CliOption.usage (.value o) ++ "'"
  | .notText => "error: invalid UTF-8 was detected in one or more arguments"
  | .help => about
  | .version => versionLine

def isAnswer : UsageError → Bool
  | .help | .version => true
  | _ => false

def exitCode (e : UsageError) : Nat := if e.isAnswer then 0 else 2

end UsageError

/-- What was asked for on the command line. -/
structure CommandLine where
  text : TextOption → Option String := fun _ => none
  config : Option Bytes := none
  logFormat : Option LogFormat := none
  switch : Switch → Bool := fun _ => false

namespace CommandLine

def format (c : CommandLine) : LogFormat := c.logFormat.getD .compact

def has (c : CommandLine) : CliOption → Bool
  | .switch s => c.switch s
  | .value (.text o) => (c.text o).isSome
  | .value .config => c.config.isSome
  | .value .logFormat => c.logFormat.isSome
  | .help | .version => false

def setText (c : CommandLine) (o : TextOption) (value : String) : CommandLine :=
  { c with text := fun p => if p = o then some value else c.text p }

def setSwitch (c : CommandLine) (s : Switch) : CommandLine :=
  { c with switch := fun t => if t = s then true else c.switch t }

/-- Takes a switch, which may be given once. -/
def takeSwitch (c : CommandLine) (s : Switch) : Except UsageError CommandLine :=
  if c.switch s then .error (.repeated (.switch s)) else .ok (c.setSwitch s)

/-- Takes the value of an option, which may be given once. -/
def takeValue (c : CommandLine) (o : ValueOption) (value : Bytes) : Except UsageError CommandLine :=
  if c.has (.value o) then .error (.repeated (.value o))
  else match o with
    | .text t =>
      match Utf8.decode? value with
      | some chars => .ok (c.setText t (String.ofList chars))
      | none => .error .notText
    | .config =>
      if value.isEmpty then .error (.valueMissing o) else .ok { c with config := some value }
    | .logFormat =>
      if value.isEmpty then .error (.valueMissing o)
      else match [LogFormat.compact, .json].find? fun f => Utf8.bytes f.name == value with
        | some f => .ok { c with logFormat := some f }
        | none => .error (.badValue o (Utf8.shown value))

/-- An option that waits for its value, or has it and is not yet taken. -/
structure Pending where
  option : ValueOption
  value : Option Bytes

def settle (c : CommandLine) : Option Pending → Except UsageError CommandLine
  | none => .ok c
  | some ⟨o, none⟩ => .error (.valueMissing o)
  | some ⟨o, some value⟩ => c.takeValue o value

def takeFlag (c : CommandLine) : CliOption → Except UsageError CommandLine
  | .switch s => c.takeSwitch s
  | .help => .error .help
  | .version => .error .version
  | .value o => .error (.valueMissing o)

/-- The option that the first letter stands for. -/
def firstLettered : List Utf8.Piece → Option CliOption
  | .char letter :: _ => CliOption.lettered letter
  | _ => none

/-- What is said of letters of which the first is no option. -/
def unknownLetter : List Utf8.Piece → UsageError
  | .char letter :: _ => .unknownArgument ("-" ++ String.singleton letter)
  | letters => .unknownArgument ("-" ++ String.ofList (letters.map Utf8.Piece.lossy))

/-- Takes options that are written as single letters behind one hyphen. -/
def takeLetters (c : CommandLine) : List Utf8.Piece → Except UsageError CommandLine
  | [] => .ok c
  | letter :: rest =>
    match firstLettered (letter :: rest) with
    | none => .error (unknownLetter (letter :: rest))
    | some o =>
      match c.takeFlag o with
      | .ok c => takeLetters c rest
      | .error e => .error e

def hyphen : UInt8 := 0x2D

def equalsSign : UInt8 := 0x3D

/-- An argument by its form. -/
inductive Argument where
  | endOfOptions
  /-- Two hyphens and a name, perhaps with a value after an equals sign. -/
  | long (name : Bytes) (value : Option Bytes)
  /-- One hyphen and letters. -/
  | short (letters : Bytes)
  | word

def Argument.of : Bytes → Argument
  | 0x2D :: 0x2D :: rest =>
    if rest.isEmpty then .endOfOptions
    else
      match rest.dropWhile (· != equalsSign) with
      | [] => .long rest none
      | _ :: value => .long (rest.takeWhile (· != equalsSign)) (some value)
  | 0x2D :: rest => if rest.isEmpty then .word else .short rest
  | _ => .word

/-- Reads the arguments from the one on at which `pending` was left. -/
def readFrom (c : CommandLine) (pending : Option Pending) :
    List Bytes → Except UsageError CommandLine
  | [] => c.settle pending
  | arg :: rest =>
    match Argument.of arg with
    | .endOfOptions =>
      match rest with
      | [] => c.settle pending
      | word :: _ => .error (.unknownArgument (Utf8.shown word))
    | .long name value =>
      match (Utf8.decode? name).bind fun n => CliOption.named (String.ofList n), value with
      | none, _ => .error (.unknownArgument ("--" ++ Utf8.shown name))
      | some (.value o), none =>
        match c.settle pending with
        | .ok c => readFrom c (some ⟨o, none⟩) rest
        | .error e => .error e
      | some (.value o), some value =>
        match c.settle pending with
        | .ok c =>
          match c.takeValue o value with
          | .ok c => readFrom c none rest
          | .error e => .error e
        | .error e => .error e
      | some o, some value => .error (.valueUnwanted o (Utf8.shown value))
      | some o, none =>
        match c.settle pending with
        | .ok c =>
          match c.takeFlag o with
          | .ok c => readFrom c none rest
          | .error e => .error e
        | .error e => .error e
    | .short letters =>
      match firstLettered (Utf8.pieces letters), c.settle pending with
      | none, _ => .error (unknownLetter (Utf8.pieces letters))
      | some _, .error e => .error e
      | some _, .ok c =>
        match c.takeLetters (Utf8.pieces letters) with
        | .ok c => readFrom c none rest
        | .error e => .error e
    | .word =>
      match pending with
      | some ⟨o, none⟩ => readFrom c (some ⟨o, some arg⟩) rest
      | _ => .error (.unknownArgument (Utf8.shown arg))

/-- The secrets that the environment can give. -/
structure Environment where
  accessKey : Option Bytes := none
  secretKey : Option Bytes := none

/-- Takes a value from the environment for an option that was not given. -/
def takeDefault (c : CommandLine) (o : TextOption) : Option Bytes → Except UsageError CommandLine
  | none => .ok c
  | some value => if (c.text o).isSome then .ok c else c.takeValue (.text o) value

/-- Reads a command line; the environment stands in for secrets that are not given. -/
def parse (env : Environment) (args : List Bytes) : Except UsageError CommandLine := do
  let c ← readFrom {} none args
  let c ← c.takeDefault .accessKey env.accessKey
  c.takeDefault .secretKey env.secretKey

end CommandLine
end SparseTransfer
