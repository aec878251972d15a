import SparseTransfer.WorkDir

/- How computations end: with a result, in a state. A sequence ends as its parts do, one after the
other, and what its first failing part leaves is what it leaves. -/
namespace SparseTransfer

theorem ok_bind {ε α β : Type} (x : α) (f : α → Except ε β) : (Except.ok x >>= f) = f x := rfl

theorem ok_of_bind {ε α β : Type} {a : Except ε α} {f : α → Except ε β} {y : β}
    (h : (a >>= f) = .ok y) : ∃ x, a = .ok x ∧ f x = .ok y := by
  cases a with
  | error e => cases h
  | ok x => exact ⟨x, rfl, h⟩

theorem ok_of_map {ε α β : Type} {a : Except ε α} {f : α → β} {y : β} (h : a.map f = .ok y) :
    ∃ x, a = .ok x ∧ f x = y := by
  cases a with
  | error e => cases h
  | ok x =>
    cases h
    exact ⟨x, rfl, rfl⟩

namespace Action

/-- Begun in `s`, the computation comes to `r` and leaves `s'`. -/
def Ends (a : Action σ α) (s : σ) (r : Except TransferError α) (s' : σ) : Prop :=
  (a.run s).result = r ∧ (a.run s).state = s'

theorem ends_run (a : Action σ α) (s : σ) : a.Ends s (a.run s).result (a.run s).state := ⟨rfl, rfl⟩

theorem Ends.unique {a : Action σ α} {s s' s'' : σ} {r r' : Except TransferError α}
    (h : a.Ends s r s') (h' : a.Ends s r' s'') : r = r' ∧ s' = s'' :=
  ⟨h.1.symm.trans h'.1, h.2.symm.trans h'.2⟩

theorem Ends.bind {a : Action σ α} {f : α → Action σ β} {s s' s'' : σ} {x : α}
    {r : Except TransferError β} (ha : a.Ends s (.ok x) s') (hf : (f x).Ends s' r s'') :
    (a >>= f).Ends s r s'' := by
  obtain ⟨hx, rfl⟩ := ha
  rw [Ends, run_bind_of_ok hx]
  exact hf

theorem Ends.bind_error {a : Action σ α} {s s' : σ} {e : TransferError}
    (ha : a.Ends s (.error e) s') (f : α → Action σ β) : (a >>= f).Ends s (.error e) s' := by
  obtain ⟨he, rfl⟩ := ha
  rw [Ends, run_bind_of_error he]
  exact ⟨rfl, rfl⟩

theorem ends_bind {a : Action σ α} {f : α → Action σ β} {s s'' : σ}
    {r : Except TransferError β} :
    (a >>= f).Ends s r s'' ↔ (∃ x s', a.Ends s (.ok x) s' ∧ (f x).Ends s' r s'') ∨
      ∃ e, a.Ends s (.error e) s'' ∧ r = .error e := by
  constructor
  · intro h
    cases hr : (a.run s).result with
    | ok x =>
      have ha : a.Ends s (.ok x) (a.run s).state := ⟨hr, rfl⟩
      obtain ⟨hr', hs'⟩ := (ha.bind (ends_run (f x) _)).unique h
      exact Or.inl ⟨x, _, ha, hr', hs'⟩
    | error e =>
      have ha : a.Ends s (.error e) (a.run s).state := ⟨hr, rfl⟩
      obtain ⟨hr', hs'⟩ := (ha.bind_error f).unique h
      rw [hs'] at ha
      exact Or.inr ⟨e, ha, hr'.symm⟩
  · rintro (⟨x, s', ha, hf⟩ | ⟨e, ha, rfl⟩)
    · exact ha.bind hf
    · exact ha.bind_error f

variable {s s' : σ}

@[simp] theorem ends_pure {x : α} {r : Except TransferError α} :
    (pure x : Action σ α).Ends s r s' ↔ r = .ok x ∧ s' = s := by
  rw [Ends, run_pure]
  exact and_congr eq_comm eq_comm

@[simp] theorem ends_fail {e : TransferError} {r : Except TransferError α} :
    (fail e : Action σ α).Ends s r s' ↔ r = .error e ∧ s' = s := by
  rw [Ends, run_fail]
  exact and_congr eq_comm eq_comm

@[simp] theorem ends_ofExcept {x r : Except TransferError α} :
    (ofExcept x).Ends s r s' ↔ r = x ∧ s' = s := by
  rw [Ends, run_ofExcept]
  exact and_congr eq_comm eq_comm

@[simp] theorem ends_report {e : Event} {r : Except TransferError Unit} :
    (report e).Ends s r s' ↔ r = .ok () ∧ s' = s := by
  rw [Ends, run_report]
  exact and_congr eq_comm eq_comm

@[simp] theorem ends_get {r : Except TransferError σ} : get.Ends s r s' ↔ r = .ok s ∧ s' = s := by
  rw [Ends, run_get]
  exact and_congr eq_comm eq_comm

@[simp] theorem ends_attempt {a : Action σ α} {r : Except TransferError (Except TransferError α)} :
    a.attempt.Ends s r s' ↔ ∃ x, r = .ok x ∧ a.Ends s x s' := by
  rw [Ends, run_attempt]
  constructor
  · rintro ⟨rfl, rfl⟩
    exact ⟨_, rfl, rfl, rfl⟩
  · rintro ⟨x, rfl, rfl, rfl⟩
    exact ⟨rfl, rfl⟩

/-- What follows a computation that can only end well. -/
theorem ends_bind_of_ok {a : Action σ α} {f : α → Action σ β} {s₁ : σ} {x : α}
    {r : Except TransferError β} (h : a.Ends s (.ok x) s₁) :
    (a >>= f).Ends s r s' ↔ (f x).Ends s₁ r s' := by
  constructor
  · intro hab
    obtain ⟨hr, hs⟩ := (h.bind (ends_run (f x) s₁)).unique hab
    exact ⟨hr, hs⟩
  · exact fun hf => h.bind hf

@[simp] theorem ends_get_bind {f : σ → Action σ β} {r : Except TransferError β} :
    (get >>= f).Ends s r s' ↔ (f s).Ends s r s' :=
  ends_bind_of_ok ⟨rfl, rfl⟩

@[simp] theorem ends_report_bind {e : Event} {f : Unit → Action σ β} {r : Except TransferError β} :
    (report e >>= f).Ends s r s' ↔ (f ()).Ends s r s' :=
  ends_bind_of_ok ⟨rfl, rfl⟩

@[simp] theorem ends_modify_bind {g : σ → σ} {f : Unit → Action σ β}
    {r : Except TransferError β} : (modify g >>= f).Ends s r s' ↔ (f ()).Ends (g s) r s' :=
  ends_bind_of_ok ⟨rfl, rfl⟩

@[simp] theorem ends_attempt_bind {a : Action σ α} {f : Except TransferError α → Action σ β}
    {r : Except TransferError β} :
    (a.attempt >>= f).Ends s r s' ↔ ∃ x s₁, a.Ends s x s₁ ∧ (f x).Ends s₁ r s' := by
  simp [ends_bind]

end Action

namespace World
variable {w w' : World π}

theorem ends_inspectFiles {f : FileSystem → Except FileError α} {r : Except TransferError α} :
    (inspectFiles f).Ends w r w' ↔ r = (f w.files).mapError .file ∧ w' = w := by
  rw [Action.Ends, Action.run, inspectFiles]
  exact and_congr eq_comm eq_comm

theorem ends_inspectFiles_ok {f : FileSystem → Except FileError α} {x : α} :
    (inspectFiles f).Ends w (.ok x) w' ↔ f w.files = .ok x ∧ w' = w := by
  rw [ends_inspectFiles]
  refine and_congr_left fun _ => ?_
  cases f w.files with
  | error e =>
    constructor <;>
    · intro h
      cases h
  | ok y =>
    constructor <;>
    · intro h
      cases h
      rfl

theorem ends_changeFiles_ok {f : FileSystem → Except FileError FileSystem} :
    (changeFiles f).Ends w (.ok ()) w' ↔
      ∃ files, f w.files = .ok files ∧ w' = { w with files } := by
  rw [Action.Ends, Action.run, changeFiles]
  cases f w.files with
  | error e => simp
  | ok files => simp [eq_comm]

theorem ends_changeFiles_error {f : FileSystem → Except FileError FileSystem} {e : TransferError} :
    (changeFiles f).Ends w (.error e) w' ↔ ∃ cause, f w.files = .error cause ∧ e = .file cause ∧
      w' = w := by
  rw [Action.Ends, Action.run, changeFiles]
  cases f w.files with
  | error cause => simp [eq_comm]
  | ok files => simp

end World
end SparseTransfer
