import SparseTransfer.Proofs.CommandLine.Selection
import SparseTransfer.Proofs.Settings.Resolution

/- Settings written out as options. Settings that have been put together once come about again from
options with their own values; of a configuration file nothing counts any more but whether it asks
for a secure storage. -/
namespace SparseTransfer

/-- Every option is given with the value that the settings have for it, and a secure storage is
asked for if they have one. -/
structure CommandLine.WritesOut (c : CommandLine) (s : TransferSettings) : Prop where
  text : ∀ o, c.text o = some (s.text o)
  secure : c.switch .secure = s.storage.secure

namespace TransferSettings
variable {c : CommandLine} {file : FileSettings} {s : TransferSettings}

/-- Settings that putting together would leave as they are. -/
structure IsSettled (s : TransferSettings) : Prop where
  target : s.target.IsProper
  dirPath : Text.trimEnd '/' s.dirPath.toList = s.dirPath.toList

theorem isSettled_of_resolve (h : resolve c file = .ok s) : s.IsSettled := by
  rw [resolve_eq] at h
  obtain ⟨target, htarget, rfl⟩ := ok_of_map h
  refine ⟨(UploadTarget.parse_eq_ok.1 htarget).1, ?_⟩
  rw [ofValues, String.toList_ofList, Text.trimEnd_trimEnd]

theorem ofValues_text (hs : s.IsSettled) (secure : Bool) :
    ofValues s.text secure s.target = { s with storage := { s.storage with secure } } := by
  have hdir : String.ofList (Text.trimEnd '/' (s.text .dirPath).toList) = s.dirPath := by
    rw [text, hs.dirPath, String.ofList_toList]
  rw [ofValues, hdir]
  rfl

theorem picked_of_text {value : TextOption → String} (h : ∀ o, c.text o = some (value o)) :
    picked c file = value := by
  funext o
  rw [picked, h, Option.some_or, Option.getD_some]

/-- What has been settled is kept, but a file can ask for a secure storage. -/
theorem resolve_writesOut (hs : s.IsSettled) (hc : c.WritesOut s) (file : FileSettings) :
    resolve c file = .ok { s with storage :=
      { s.storage with secure := s.storage.secure || file.storage.secure.getD false } } := by
  have htarget : UploadTarget.parse (s.text .target) = .ok s.target :=
    UploadTarget.parse_eq_ok.2 ⟨hs.target, rfl⟩
  rw [resolve_eq, picked_of_text hc.text, htarget, pickedSecure, hc.secure, ← ofValues_text hs]
  rfl

theorem resolve_writesOut_iff (hs : s.IsSettled) (hc : c.WritesOut s) :
    resolve c file = .ok s ↔ (file.storage.secure = some true → s.storage.secure = true) := by
  have hkept : resolve c file = .ok s ↔
      (s.storage.secure || file.storage.secure.getD false) = s.storage.secure := by
    rw [resolve_writesOut hs hc, Except.ok.injEq]
    constructor
    · exact fun h => congrArg (·.storage.secure) h
    · intro h
      rw [h]
  rw [hkept]
  cases s.storage.secure <;> cases file.storage.secure <;> simp

/-- When all texts are given, a file counts by what it says of a secure storage. -/
theorem resolve_of_texts (h : ∀ o, (c.text o).isSome = true) (file : FileSettings) :
    resolve c file = resolve c { storage := { secure := file.storage.secure } } := by
  have hvalue (o : TextOption) : c.text o = some ((c.text o).get (h o)) :=
    (Option.some_get (h o)).symm
  rw [resolve_eq, resolve_eq, picked_of_text hvalue, picked_of_text hvalue]
  rfl

theorem run_ofCommandLine_of_config (h : c.config = none) (w : World π) :
    (ofCommandLine c).run w = ⟨resolve c {}, w, []⟩ := by
  rw [ofCommandLine, h]
  exact Action.run_bind_of_ok rfl _

end TransferSettings

def TextOption.all : List TextOption :=
  [.repoUrl, .branch, .dirPath, .endpoint, .accessKey, .secretKey, .target, .region]

theorem TextOption.mem_all (o : TextOption) : o ∈ all := by
  cases o <;> decide

/-- The option as one argument. -/
def Given.joined : Given → Bytes
  | .switch s => s.flag
  | .value o bytes => o.flag ++ CommandLine.equalsSign :: bytes

theorem Given.writes_joined (gs : List Given) : Writes gs (gs.map joined) := by
  induction gs with
  | nil => exact .nil
  | cons g gs ih =>
    cases g with
    | switch s => exact .cons (.switch s) ih
    | value o bytes => exact .cons (.joined o bytes) ih

namespace TransferSettings

/-- The options that write settings out. -/
def given (s : TransferSettings) : List Given :=
  (TextOption.all.map fun o => .value (.text o) (Utf8.bytes (s.text o))) ++
    if s.storage.secure then [.switch .secure] else []

def arguments (s : TransferSettings) : List Bytes := s.given.map Given.joined

variable (s : TransferSettings)

theorem text_mem_given (o : TextOption) : .value (.text o) (Utf8.bytes (s.text o)) ∈ s.given :=
  List.mem_append_left _ (List.mem_map.2 ⟨o, o.mem_all, rfl⟩)

theorem secure_mem_given : .switch .secure ∈ s.given ↔ s.storage.secure = true := by
  rw [given]
  cases s.storage.secure <;> simp

theorem admissible_given : ∀ g ∈ s.given, g.Admissible := by
  intro g hg
  rcases List.mem_append.1 hg with hg | hg
  · obtain ⟨o, -, rfl⟩ := List.mem_map.1 hg
    exact ⟨s.text o, rfl⟩
  · split at hg
    · cases List.mem_singleton.1 hg
      trivial
    · cases hg

theorem nodup_option_given : (s.given.map Given.option).Nodup := by
  have htexts : (TextOption.all.map fun o =>
      Given.value (.text o) (Utf8.bytes (s.text o))).map Given.option =
        TextOption.all.map fun o => .value (.text o) := rfl
  rw [given, List.map_append, htexts]
  cases s.storage.secure <;> decide

theorem config_notMem_given (path : Bytes) : .value .config path ∉ s.given := by
  rw [given, TextOption.all]
  cases s.storage.secure <;> simp

/-- The arguments are read as a command line on which the settings are written out, whatever the
environment holds. -/
theorem parse_arguments (env : CommandLine.Environment) :
    ∃ c, CommandLine.parse env s.arguments = .ok c ∧ c.WritesOut s ∧ c.config = none := by
  have hnodup : ((s.given ++ []).map Given.option).Nodup := by
    rw [List.append_nil]
    exact s.nodup_option_given
  obtain ⟨c, hfold, hc⟩ := CommandLine.holds_nil.foldlM_ok s.admissible_given hnodup
  rw [List.append_nil] at hc
  have hread : CommandLine.readFrom {} none s.arguments = .ok c :=
    (CommandLine.readFrom_writes (Given.writes_joined s.given) {}).trans hfold
  have htext (o : TextOption) : c.text o = some (s.text o) := (hc.text _ _).2 (s.text_mem_given o)
  refine ⟨c.filled env,
    CommandLine.parse_eq_ok_iff.2 ⟨c, hread, fun o _ _ => ?_, rfl⟩, ⟨?_, ?_⟩, ?_⟩
  · rw [htext]
    exact .inl rfl
  · intro o
    rw [CommandLine.text_filled, htext, Option.some_or]
  · exact Bool.eq_iff_iff.2 ((hc.switch .secure).trans s.secure_mem_given)
  · exact Option.eq_none_iff_forall_ne_some.2 fun path hpath =>
      s.config_notMem_given path ((hc.config path).1 hpath)

end TransferSettings

open TransferSettings CommandLine

/-- Put together again from a command line with their values, settings are the same, unless a file
asks for a secure storage that they do not have. They can be written out as arguments, which alone
give them again. Nothing else in a file counts beside a command line with all texts. -/
theorem resolve_written {c₀ : CommandLine} {file₀ : FileSettings} {s : TransferSettings}
    (h : resolve c₀ file₀ = .ok s) :
    (∀ c : CommandLine, c.WritesOut s → ∀ file,
      resolve c file = .ok s ↔ (file.storage.secure = some true → s.storage.secure = true)) ∧
    (∀ env, ∃ c, parse env s.arguments = .ok c ∧ c.WritesOut s ∧
      ∀ {π : Type} (w : World π), (ofCommandLine c).run w = ⟨.ok s, w, []⟩) ∧
    ∀ c : CommandLine, (∀ o, (c.text o).isSome = true) → ∀ file,
      resolve c file = resolve c { storage := { secure := file.storage.secure } } := by
  have hs := isSettled_of_resolve h
  refine ⟨fun c hc file => resolve_writesOut_iff hs hc, fun env => ?_,
    fun c hc => resolve_of_texts hc⟩
  obtain ⟨c, hparse, hc, hconfig⟩ := s.parse_arguments env
  refine ⟨c, hparse, hc, fun w => ?_⟩
  rw [run_ofCommandLine_of_config hconfig,
    (resolve_writesOut_iff hs hc).2 fun hfile => by cases hfile]

/-- A directory with slashes at its end, a key that begins with a slash, and a file that asks for a
secure storage. -/
theorem resolve_written_slashes :
    ∃ s c, resolve (setText {} .dirPath "a//b//")
        { storage := { target := some "c//d/", secure := some true } } = .ok s ∧
      s.dirPath = "a//b" ∧ s.target = ⟨"c", "/d/"⟩ ∧
        parse { accessKey := some [0xFF] } s.arguments = .ok c ∧
      resolve c { repository := { branch := some "main" } } = .ok s ∧
      resolve c { storage := { target := some "e", secure := some true } } = .ok s := by
  obtain ⟨s, hs, hdir, htarget, hsecure⟩ : ∃ s, resolve (setText {} .dirPath "a//b//")
      { storage := { target := some "c//d/", secure := some true } } = .ok s ∧ s.dirPath = "a//b" ∧
      s.target = ⟨"c", "/d/"⟩ ∧ s.storage.secure = true := ⟨_, rfl, rfl, rfl, rfl⟩
  obtain ⟨hagain, hparse, -⟩ := resolve_written hs
  obtain ⟨c, hc, hwritten, -⟩ := hparse { accessKey := some [0xFF] }
  exact ⟨s, c, hs, hdir, htarget, hc, (hagain c hwritten _).2 fun _ => hsecure,
    (hagain c hwritten _).2 fun _ => hsecure⟩

end SparseTransfer
