import SparseTransfer.Proofs.CommandLine
import SparseTransfer.Proofs.UploadTarget
import SparseTransfer.Settings.Resolution

/- Where settings come from. Every value has sources in a fixed order, and the first of them that
gives one decides; what comes after it makes no difference. -/
namespace SparseTransfer

/-- Where a value can come from. -/
inductive Source where
  | commandLine
  | environment
  | file
  | standard
  deriving Repr, DecidableEq

/-- The sources, the one that counts most first. -/
def Source.order : List Source := [.commandLine, .environment, .file, .standard]

/-- The value that some settings have for an option. -/
def TransferSettings.text (s : TransferSettings) : TextOption → String
  | .repoUrl => s.repoUrl
  | .branch => s.branch
  | .dirPath => s.dirPath
  | .endpoint => s.storage.endpoint
  | .accessKey => s.storage.accessKey
  | .secretKey => s.storage.secretKey
  | .target => s.target.text
  | .region => s.storage.region

/-- The value that a configuration file gives for an option. -/
def FileSettings.text? (s : FileSettings) : TextOption → Option String
  | .repoUrl => s.repository.url
  | .branch => s.repository.branch
  | .dirPath => s.repository.dirPath
  | .endpoint => s.storage.endpoint
  | .accessKey => s.storage.accessKey
  | .secretKey => s.storage.secretKey
  | .target => s.storage.target
  | .region => s.storage.region

/-- All that settings are put together from; the command line is what the arguments alone give. -/
structure Sources where
  commandLine : CommandLine
  environment : CommandLine.Environment
  file : FileSettings

namespace Sources

def given (x : Sources) (o : TextOption) : Source → Option String
  | .commandLine => x.commandLine.text o
  | .environment => x.environment.text? o
  | .file => x.file.text? o
  | .standard => some (({} : TransferSettings).text o)

/-- The value is that of the first source that gives one. -/
def Selects (x : Sources) (o : TextOption) (value : String) : Prop :=
  Source.order.findSome? (x.given o) = some value

/-- Other sources of which all that counts is the same: they differ only where a source before them
gives a value. -/
structure SameSelected (x x' : Sources) : Prop where
  commandLine : x'.commandLine = x.commandLine
  environment : ∀ o, x.commandLine.text o = none →
    x'.environment.secret? o = x.environment.secret? o
  file : ∀ o, x.commandLine.text o = none → x.environment.text? o = none →
    x'.file.text? o = x.file.text? o
  secure : x.commandLine.switch .secure = false →
    (x'.file.storage.secure = some true ↔ x.file.storage.secure = some true)

end Sources

namespace TransferSettings

/-- The value of an option, from a command line, a configuration file, or neither. -/
def picked (c : CommandLine) (file : FileSettings) (o : TextOption) : String :=
  ((c.text o).or (file.text? o)).getD (({} : TransferSettings).text o)

/-- Either source can ask for a secure storage. -/
def pickedSecure (c : CommandLine) (file : FileSettings) : Bool :=
  c.switch .secure || file.storage.secure.getD false

/-- Settings with these values, of which the target has been read. -/
def ofValues (value : TextOption → String) (secure : Bool) (target : UploadTarget) :
    TransferSettings where
  repoUrl := value .repoUrl
  branch := value .branch
  dirPath := String.ofList (Text.trimEnd '/' (value .dirPath).toList)
  target
  storage :=
    { endpoint := value .endpoint
      accessKey := value .accessKey
      secretKey := value .secretKey
      secure
      region := value .region }

theorem resolve_eq (c : CommandLine) (file : FileSettings) :
    resolve c file = (UploadTarget.parse (picked c file .target)).map
      (ofValues (picked c file) (pickedSecure c file)) := by
  unfold resolve
  change _ = (UploadTarget.parse (((c.text .target).or file.storage.target).getD
    ({} : TransferSettings).target.text)).map _
  dsimp only
  cases UploadTarget.parse (((c.text .target).or file.storage.target).getD
    ({} : TransferSettings).target.text) <;> rfl

theorem pickedSecure_eq_true {c : CommandLine} {file : FileSettings} :
    pickedSecure c file = true ↔ c.switch .secure = true ∨ file.storage.secure = some true := by
  rw [pickedSecure, Bool.or_eq_true]
  cases file.storage.secure <;> simp

/-- Apart from the directory, the values are kept as they are picked. -/
theorem text_ofValues {value : TextOption → String} {secure : Bool} {target : UploadTarget}
    (htarget : target.text = value .target) {o : TextOption} (ho : o ≠ .dirPath) :
    (ofValues value secure target).text o = value o := by
  cases o with
  | dirPath => exact absurd rfl ho
  | target => exact htarget
  | _ => rfl

end TransferSettings

namespace Sources

/-- What is picked from a command line that has been filled is what the first source gives. -/
theorem selects_picked (x : Sources) (o : TextOption) :
    x.Selects o (TransferSettings.picked (x.commandLine.filled x.environment) x.file o) := by
  simp only [Selects, Source.order, List.findSome?_cons, given, TransferSettings.picked,
    CommandLine.filled]
  cases x.commandLine.text o with
  | some value => rfl
  | none =>
    cases x.environment.text? o with
    | some value => rfl
    | none => cases x.file.text? o <;> rfl

variable {x x' : Sources}

theorem SameSelected.text? (h : x.SameSelected x') {o : TextOption}
    (ho : x.commandLine.text o = none) : x'.environment.text? o = x.environment.text? o := by
  rw [CommandLine.Environment.text?, CommandLine.Environment.text?, h.environment o ho]

theorem SameSelected.fits (h : x.SameSelected x') (hfits : x.commandLine.Fits x.environment) :
    x'.commandLine.Fits x'.environment := by
  intro o value hvalue
  rw [h.commandLine]
  cases ho : x.commandLine.text o with
  | some _ => exact Or.inl rfl
  | none =>
    rw [h.environment o ho] at hvalue
    have hfit := hfits o value hvalue
    rwa [ho] at hfit

theorem SameSelected.picked (h : x.SameSelected x') :
    TransferSettings.picked (x'.commandLine.filled x'.environment) x'.file =
      TransferSettings.picked (x.commandLine.filled x.environment) x.file := by
  funext o
  simp only [TransferSettings.picked, CommandLine.filled, h.commandLine]
  cases ho : x.commandLine.text o with
  | some value => rfl
  | none =>
    rw [h.text? ho]
    cases he : x.environment.text? o with
    | some value => rfl
    | none => rw [h.file o ho he]

theorem SameSelected.pickedSecure (h : x.SameSelected x') :
    TransferSettings.pickedSecure (x'.commandLine.filled x'.environment) x'.file =
      TransferSettings.pickedSecure (x.commandLine.filled x.environment) x.file := by
  rw [Bool.eq_iff_iff, TransferSettings.pickedSecure_eq_true, TransferSettings.pickedSecure_eq_true]
  simp only [CommandLine.filled, h.commandLine]
  cases hs : x.commandLine.switch .secure with
  | true => simp
  | false => simp [h.secure hs]

end Sources

open TransferSettings CommandLine

/-- Settings hold, for every option, the value of the first source that gives one; the target is
read from its value, and the directory loses the slashes at its end. Settings come about exactly if
the target can be read. Sources that differ only in what a source before them decides give the
same. -/
theorem resolve_selects {env : Environment} {args : List Bytes} {c : CommandLine}
    (hc : parse env args = .ok c) (file : FileSettings) :
    ∃ given, readFrom {} none args = .ok given ∧ ∃ value : TextOption → String,
      (∀ o, Sources.Selects ⟨given, env, file⟩ o (value o)) ∧
      ((∃ e, resolve c file = .error e) ↔ UploadTarget.IsBroken (value .target)) ∧
      (∀ s, resolve c file = .ok s →
        (∀ o, o ≠ .dirPath → s.text o = value o) ∧
        (∃ n, (value .dirPath).toList = s.dirPath.toList ++ List.replicate n '/') ∧
        s.dirPath.toList.getLast? ≠ some '/' ∧
        (s.storage.secure = true ↔
          given.switch .secure = true ∨ file.storage.secure = some true)) ∧
      ∀ env' file', Sources.SameSelected ⟨given, env, file⟩ ⟨given, env', file'⟩ →
        ∃ c', parse env' args = .ok c' ∧ resolve c' file' = resolve c file := by
  obtain ⟨given, hgiven, hfits, rfl⟩ := parse_eq_ok_iff.1 hc
  refine ⟨given, hgiven, picked (given.filled env) file,
    Sources.selects_picked ⟨given, env, file⟩, ?_, ?_, ?_⟩
  · rw [resolve_eq, ← UploadTarget.parse_error_iff]
    cases UploadTarget.parse (picked (given.filled env) file .target) with
    | error e => exact iff_of_true ⟨e, rfl⟩ ⟨e, rfl⟩
    | ok target => simp [Except.map]
  · intro s hs
    rw [resolve_eq] at hs
    obtain ⟨target, htarget, rfl⟩ := ok_of_map hs
    obtain ⟨htext, -⟩ := UploadTarget.parse_eq_ok_iff.1 htarget
    have hdir : ((ofValues (picked (given.filled env) file) (pickedSecure (given.filled env) file)
        target).dirPath).toList =
        Text.trimEnd '/' (picked (given.filled env) file .dirPath).toList := String.toList_ofList
    refine ⟨fun o ho => text_ofValues htext ho, ?_, ?_, pickedSecure_eq_true⟩
    · rw [hdir]
      exact ⟨_, Text.eq_trimEnd_append '/' _⟩
    · rw [hdir]
      exact Text.getLast?_trimEnd_ne '/' _
  · intro env' file' hsame
    refine ⟨given.filled env', parse_eq_ok_iff.2 ⟨given, hgiven, hsame.fits hfits, rfl⟩, ?_⟩
    rw [resolve_eq, resolve_eq, hsame.picked, hsame.pickedSecure]

/-- A secret that is empty in the environment counts; a target of the file that cannot be read does
not count below a given one. -/
theorem resolve_selects_shadowed :
    ∃ c s, parse { accessKey := some [] } [Utf8.bytes "--minio-target=a/b"] = .ok c ∧
      resolve c { storage := { accessKey := some "archivist", target := some "c" } } = .ok s ∧
      s.target.text = "a/b" ∧ s.storage.accessKey = "" ∧ s.storage.secretKey = "minio123" := by
  have hgiven : readFrom {} none [Utf8.bytes "--minio-target=a/b"] =
      .ok (setText {} .target "a/b") := rfl
  have hparse : parse { accessKey := some [] } [Utf8.bytes "--minio-target=a/b"] =
      .ok ((setText {} .target "a/b").setText .accessKey "") := rfl
  obtain ⟨given, hread, value, hselects, -, hok, -⟩ :=
    resolve_selects hparse { storage := { accessKey := some "archivist", target := some "c" } }
  cases hgiven.symm.trans hread
  have htarget : "a/b" = value .target := Option.some.inj (hselects .target)
  have haccess : "" = value .accessKey := Option.some.inj (hselects .accessKey)
  have hsecret : "minio123" = value .secretKey := Option.some.inj (hselects .secretKey)
  obtain ⟨s, hs⟩ : ∃ s, resolve ((setText {} .target "a/b").setText .accessKey "")
      { storage := { accessKey := some "archivist", target := some "c" } } = .ok s := ⟨_, rfl⟩
  obtain ⟨htext, -⟩ := hok s hs
  exact ⟨_, s, hparse, hs, (htext .target (by decide)).trans htarget.symm,
    (htext .accessKey (by decide)).trans haccess.symm,
    (htext .secretKey (by decide)).trans hsecret.symm⟩

end SparseTransfer
