import SparseTransfer.Proofs.Action
import SparseTransfer.Proofs.Settings.RelativePath

/- What is known of the directory to transfer once the settings have been accepted: its path is not
empty, begins at no root and never goes up. -/
namespace SparseTransfer
open FileSystem

namespace Path

/-- A relative path that goes nowhere but down. -/
structure IsDownward (p : Path) : Prop where
  ne_nil : p ≠ []
  isRelative : isAbsolute p = false
  names : ∀ c ∈ innerParts p, ∃ n, c = .name n

theorem IsDownward.getLast? {p base : Path} {m : Bytes} (h : IsDownward p) (hbase : base ≠ [])
    (hm : isName m = true) :
    ∃ n, (components (append (append base m) p)).getLast? = some (.name n) := by
  rw [components_append (append_ne_nil hbase m) h.isRelative, components_append_name hbase hm]
  by_cases hinner : innerParts p = []
  · exact ⟨m, by rw [hinner, List.append_nil, List.getLast?_concat]⟩
  · obtain ⟨n, hn⟩ := h.names _ (List.getLast_mem hinner)
    refine ⟨n, ?_⟩
    rw [List.getLast?_append_of_ne_nil _ hinner, List.getLast?_eq_some_getLast hinner, hn]

end Path

def IsBlank (text : String) : Prop := text.toList.all Text.isBlank = true

instance (text : String) : Decidable (IsBlank text) := inferInstanceAs (Decidable (_ = true))

theorem Rules.checkPresent_eq_ok {field value : String} :
    Rules.checkPresent field value = .ok () ↔ ¬ IsBlank value := by
  rw [Rules.checkPresent, IsBlank]
  split
  · next h => simp [h]
  · next h => simp [h]

namespace TransferSettings

/-- Every value obeys its rules. -/
structure Accepted (s : TransferSettings) : Prop where
  repoUrl : Rules.checkPresent "repo_url" s.repoUrl = .ok ()
  branch : Rules.checkBranch "branch" s.branch = .ok ()
  dirPath : Rules.checkRelativePath "dir_path" s.dirPath = .ok ()
  endpoint : Rules.checkUrl "minio_endpoint" s.storage.endpointUrl = .ok ()
  accessKey : Rules.checkPresent "access_key" s.storage.accessKey = .ok ()
  secretKey : Rules.checkPresent "secret_key" s.storage.secretKey = .ok ()
  region : Rules.checkPresent "region" s.storage.region = .ok ()
  bucket : Rules.checkBucket "minio_target" s.target.bucket = .ok ()

theorem accepted_of_check {s : TransferSettings} (h : s.check = .ok ()) : s.Accepted := by
  obtain ⟨_, hrepoUrl, h⟩ := ok_of_bind h
  obtain ⟨_, hbranch, h⟩ := ok_of_bind h
  obtain ⟨_, hdirPath, h⟩ := ok_of_bind h
  obtain ⟨_, hendpoint, h⟩ := ok_of_bind h
  obtain ⟨_, haccessKey, h⟩ := ok_of_bind h
  obtain ⟨_, hsecretKey, h⟩ := ok_of_bind h
  obtain ⟨_, hregion, hbucket⟩ := ok_of_bind h
  exact ⟨hrepoUrl, hbranch, hdirPath, hendpoint, haccessKey, hsecretKey, hregion, hbucket⟩

/-- What is reported of accepted settings. -/
def remarks (s : TransferSettings) : List Event :=
  if s.storage.secure then [.settingsValid] else [.plaintext s.storage.endpoint, .settingsValid]

/-- Settings that are not accepted are not reported of, and nothing else is touched. -/
theorem run_validate (s : TransferSettings) (w : σ) :
    s.validate.run w = ⟨s.check, w, if s.check = .ok () then s.remarks else []⟩ := by
  rw [validate]
  cases hcheck : s.check with
  | error e =>
    rw [Action.run_bind_of_error rfl]
    rfl
  | ok x =>
    rw [Action.run_bind_of_ok rfl, remarks]
    cases s.storage.secure <;> rfl

end TransferSettings

/-- The directory that accepted settings name lies below the directory from which it is seen. -/
theorem TransferSettings.isDownward {s : TransferSettings} (h : s.check = .ok ()) :
    Path.IsDownward (Path.ofText s.dirPath) := by
  have hbelow := Rules.checkRelativePath_eq_ok_iff.1 (s.accepted_of_check h).dirPath
  refine ⟨fun hnil => ?_, hbelow.isAbsolute_eq, fun c hc => ?_⟩
  · exact hbelow.ne_empty (String.toList_eq_nil_iff.1 (Path.encode_eq_nil.1 hnil))
  · rw [hbelow.innerParts_eq] at hc
    obtain ⟨n, -, rfl⟩ := List.mem_map.1 hc
    exact ⟨n, rfl⟩

end SparseTransfer
