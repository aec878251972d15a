import SparseTransfer.Event
import SparseTransfer.File.Operations

/- Computations that change a state, report events and may fail. The state is kept and the events
stay reported when one fails; no computation can read the events. -/
namespace SparseTransfer

/-- What a computation came to. -/
structure Outcome (σ α : Type) where
  result : Except TransferError α
  state : σ
  /-- What was reported, the first event first. -/
  events : List Event

def Action (σ α : Type) : Type := σ → Outcome σ α

namespace Action

def run (a : Action σ α) (s : σ) : Outcome σ α := a s

protected def pure (x : α) : Action σ α := fun s => ⟨.ok x, s, []⟩

/-- Goes on with the result, unless there is none. -/
protected def bind (a : Action σ α) (f : α → Action σ β) : Action σ β := fun s =>
  match a s with
  | ⟨.error e, s, events⟩ => ⟨.error e, s, events⟩
  | ⟨.ok x, s, events⟩ =>
    let next := f x s
    ⟨next.result, next.state, events ++ next.events⟩

instance : Monad (Action σ) where
  pure := Action.pure
  bind := Action.bind

def fail (e : TransferError) : Action σ α := fun s => ⟨.error e, s, []⟩

/-- Goes on with a value or fails, without looking at the state. -/
def ofExcept (r : Except TransferError α) : Action σ α := fun s => ⟨r, s, []⟩

/-- Goes on after a failure too, with the failure as the result. -/
def attempt (a : Action σ α) : Action σ (Except TransferError α) := fun s =>
  let o := a s
  ⟨.ok o.result, o.state, o.events⟩

def report (e : Event) : Action σ Unit := fun s => ⟨.ok (), s, [e]⟩

def get : Action σ σ := fun s => ⟨.ok s, s, []⟩

def modify (f : σ → σ) : Action σ Unit := fun s => ⟨.ok (), f s, []⟩

@[simp] theorem run_pure (x : α) (s : σ) : (pure x : Action σ α).run s = ⟨.ok x, s, []⟩ := rfl

@[simp] theorem run_fail (e : TransferError) (s : σ) :
    (fail e : Action σ α).run s = ⟨.error e, s, []⟩ := rfl

@[simp] theorem run_ofExcept (r : Except TransferError α) (s : σ) :
    (ofExcept r).run s = ⟨r, s, []⟩ := rfl

@[simp] theorem run_report (e : Event) (s : σ) : (report e).run s = ⟨.ok (), s, [e]⟩ := rfl

@[simp] theorem run_get (s : σ) : (get : Action σ σ).run s = ⟨.ok s, s, []⟩ := rfl

@[simp] theorem run_attempt (a : Action σ α) (s : σ) :
    a.attempt.run s = ⟨.ok (a.run s).result, (a.run s).state, (a.run s).events⟩ := rfl

/-- What follows a success works on the state that it left. -/
theorem run_bind_of_ok {a : Action σ α} {s : σ} {x : α} (h : (a.run s).result = .ok x)
    (f : α → Action σ β) :
    (a >>= f).run s = ⟨((f x).run (a.run s).state).result, ((f x).run (a.run s).state).state,
      (a.run s).events ++ ((f x).run (a.run s).state).events⟩ := by
  show Action.bind a f s = _
  unfold Action.bind
  revert h
  unfold run
  rcases a s with ⟨r, s', events⟩
  rintro rfl
  rfl

/-- Nothing follows a failure. -/
theorem run_bind_of_error {a : Action σ α} {s : σ} {e : TransferError}
    (h : (a.run s).result = .error e) (f : α → Action σ β) :
    (a >>= f).run s = ⟨.error e, (a.run s).state, (a.run s).events⟩ := by
  show Action.bind a f s = _
  unfold Action.bind
  revert h
  unfold run
  rcases a s with ⟨r, s', events⟩
  rintro rfl
  rfl

end Action

/-- The files, how many random names have been drawn, and what a pipeline keeps for itself. -/
structure World (π : Type) where
  files : FileSystem
  drawn : Nat
  own : π

namespace World

def inspectFiles (f : FileSystem → Except FileError α) : Action (World π) α := fun w =>
  ⟨(f w.files).mapError .file, w, []⟩

def changeFiles (f : FileSystem → Except FileError FileSystem) : Action (World π) Unit := fun w =>
  match f w.files with
  | .ok files => ⟨.ok (), { w with files }, []⟩
  | .error e => ⟨.error (.file e), w, []⟩

end World
end SparseTransfer
