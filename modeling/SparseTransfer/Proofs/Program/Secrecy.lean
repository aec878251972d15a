import SparseTransfer.Program
import SparseTransfer.Proofs.Transfer.Contract

/- The secret key. It is needed and must not be blank; beyond that nothing that is shown depends on
it. -/
namespace SparseTransfer

def StorageSettings.withSecret (s : StorageSettings) (key : String) : StorageSettings :=
  { s with secretKey := key }

def TransferSettings.withSecret (s : TransferSettings) (key : String) : TransferSettings :=
  { s with storage := s.storage.withSecret key }

def FileSettings.withSecret (s : FileSettings) (key : String) : FileSettings :=
  { s with storage := { s.storage with secretKey := some key } }

namespace TransferSettings
variable {s : TransferSettings} {key : String}

/-- One secret that is not blank is as good as another. -/
theorem check_withSecret (hs : ¬ IsBlank s.storage.secretKey) (hkey : ¬ IsBlank key) :
    (s.withSecret key).check = s.check := by
  have hpresent : Rules.checkPresent "secret_key" (s.withSecret key).storage.secretKey =
      Rules.checkPresent "secret_key" s.storage.secretKey := by
    rw [Rules.checkPresent_eq_ok.2 hs]
    exact Rules.checkPresent_eq_ok.2 hkey
  rw [check, hpresent]
  rfl

theorem run_validate_withSecret (hs : ¬ IsBlank s.storage.secretKey)
    (hkey : ¬ IsBlank key) (w : σ) : (s.withSecret key).validate.run w = s.validate.run w := by
  rw [run_validate, run_validate, check_withSecret hs hkey]
  rfl

end TransferSettings

namespace Event

/-- The event with something else in place of a secret that it carries. -/
def redacted : Event → Event
  | .settingsResolved s => .settingsResolved (s.withSecret StorageSettings.redacted)
  | .clientReady s => .clientReady (s.withSecret StorageSettings.redacted)
  | e => e

theorem line_redacted (e : Event) (format : LogFormat) (time : String) :
    e.redacted.line format time = e.line format time := by
  cases e <;> rfl

end Event

/-- Nothing that is shown tells two settings apart: their texts, what is said of them when they are
checked, when they are accepted and when a storage is about to be used, the plan of a dry run, and
what comes of a transfer. -/
structure ShownAlike (s s' : TransferSettings) : Prop where
  storage : s'.storage.inspect = s.storage.inspect
  settings : s'.inspect = s.inspect
  validated : ∀ w : World Ledger, s'.validate.run w = s.validate.run w
  resolved : ∀ format time, (Event.settingsResolved s').line format time =
    (Event.settingsResolved s).line format time
  ready : ∀ format time, (Event.clientReady s'.storage).line format time =
    (Event.clientReady s.storage).line format time
  plan : Program.plan s' = Program.plan s
  transferred : ∀ (git : Git) (storage : Storage) (monitor : Monitor) (suffixes : Suffixes)
    (parent : Path) (w : World Ledger),
    ((Engine.transfer git storage s' monitor suffixes).runIn parent).run w =
      ((Engine.transfer git storage s monitor suffixes).runIn parent).run w

/-- Settings of which one has another secret are shown alike if neither secret is blank, and so are
configuration files that both give a secret. -/
theorem secret_unseen {s : TransferSettings} {key : String} (hs : ¬ IsBlank s.storage.secretKey)
    (hkey : ¬ IsBlank key) :
    ShownAlike s (s.withSecret key) ∧ ∀ (file : FileSettings) (given other : String),
      (file.withSecret other).inspect = (file.withSecret given).inspect where
  left :=
    { storage := rfl
      settings := rfl
      validated := s.run_validate_withSecret hs hkey
      resolved format time := by
        rw [← Event.line_redacted (.settingsResolved s),
          ← Event.line_redacted (.settingsResolved _)]
        rfl
      ready format time := by
        rw [← Event.line_redacted (.clientReady s.storage), ← Event.line_redacted (.clientReady _)]
        rfl
      plan := rfl
      transferred _ _ _ _ _ _ := rfl }
  right _ _ _ := rfl

def hiddenSettings (key : String) : TransferSettings where
  storage := { endpoint := "[::1]", secretKey := key }

/-- Two accepted settings that are shown alike; a blank secret is told apart. -/
theorem secret_unseen_accepted :
    (hiddenSettings "minio123").check = .ok () ∧
    ShownAlike (hiddenSettings "minio123") (hiddenSettings "sesame") ∧
    (hiddenSettings " ").check = .error (.missingValue "secret_key") :=
  ⟨by decide +kernel, (secret_unseen (by decide) (by decide)).1, by decide +kernel⟩

end SparseTransfer
