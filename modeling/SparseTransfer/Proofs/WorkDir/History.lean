import SparseTransfer.Proofs.WorkDir.Spots

/- Histories of working directories. Any number of them may be there at a time: each is made under a
name of its own and stays until it is cleaned up, dropped or destroyed by somebody else. What is
done with one of them leaves all others, and everything outside of them, as it is. -/
namespace SparseTransfer.WorkDir
open FileSystem

/-- A way to put files into a directory. The directory stays, and nothing outside it changes. -/
structure Filling where
  fill : Location → FileSystem → FileSystem
  stays : ∀ {loc : Location} {fs : FileSystem}, fs.at? loc = some .directory →
    (fill loc fs).at? loc = some .directory
  agree : ∀ {loc : Location} {fs : FileSystem}, fs.at? loc = some .directory →
    AgreeOutside loc fs (fill loc fs)

/-- What can happen to working directories, which are numbered in the order in which they are
made. -/
inductive Step where
  | create (parent : Path)
  | add (k : Nat) (filling : Filling)
  /-- Somebody else removes the directory. -/
  | destroy (k : Nat)
  | cleanup (k : Nat)
  | drop (k : Nat)

/-- The directory that a step is about, if it is there already. -/
def Step.target? : Step → Option Nat
  | .create _ => none
  | .add k _ | .destroy k | .cleanup k | .drop k => some k

inductive Answer where
  | made (r : Except TransferError Path)
  | cleaned (r : Except TransferError Unit)
  | dropped
  /-- There is no such directory to give up, or no longer. -/
  | gone
  /-- What others do is not answered. -/
  | unnoticed

/-- A working directory that was made, and whether it has neither been cleaned up nor dropped. -/
structure Handle where
  path : Path
  held : Bool

structure Stock (π : Type) where
  world : World π
  handles : List Handle

namespace Stock

def files (s : Stock π) : FileSystem := s.world.files

/-- What others do with a directory. -/
def touched (s : Stock π) (k : Nat) (change : Path → FileSystem → FileSystem) : Answer × Stock π :=
  match s.handles[k]? with
  | some h => (.unnoticed, ⟨{ s.world with files := change h.path s.files }, s.handles⟩)
  | none => (.unnoticed, s)

/-- What gives a directory up takes it: it can be done once. -/
def givenUp (s : Stock π) (k : Nat) (release : Path → Action (World π) Unit)
    (answer : Except TransferError Unit → Answer) : Answer × Stock π :=
  match s.handles[k]? with
  | some ⟨path, true⟩ =>
    let done := (release path).run s.world
    (answer done.result, ⟨done.state, s.handles.set k ⟨path, false⟩⟩)
  | _ => (.gone, s)

def filled (filling : Filling) (path : Path) (fs : FileSystem) : FileSystem :=
  match fs.stat false path with
  | .ok (loc, .directory) => filling.fill loc fs
  | _ => fs

def destroyed (path : Path) (fs : FileSystem) : FileSystem :=
  match fs.removeTree path with
  | .ok files => files
  | .error _ => fs

def step (suffixes : Suffixes) (s : Stock π) : Step → Answer × Stock π
  | .create parent =>
    let done := (create suffixes parent).run s.world
    match done.result with
    | .ok path => (.made (.ok path), ⟨done.state, s.handles ++ [⟨path, true⟩]⟩)
    | .error e => (.made (.error e), ⟨done.state, s.handles⟩)
  | .add k filling => s.touched k (filled filling)
  | .destroy k => s.touched k destroyed
  | .cleanup k => s.givenUp k cleanup .cleaned
  | .drop k => s.givenUp k drop fun _ => .dropped

end Stock

structure Record where
  step : Step
  answer : Answer

namespace Record

def makes (r : Record) : Bool :=
  match r.answer with
  | .made (.ok _) => true
  | _ => false

def destroys (k : Nat) (r : Record) : Bool :=
  match r.step with
  | .destroy j => j == k
  | _ => false

def givesUp (k : Nat) (r : Record) : Bool :=
  match r.step with
  | .cleanup j | .drop j => j == k
  | _ => false

/-- A directory that is given up is removed, unless it was gone. -/
def removes (k : Nat) (r : Record) : Bool :=
  r.givesUp k && match r.answer with
    | .gone => false
    | _ => true

end Record

def numberMade (past : List Record) : Nat := past.countP Record.makes

/-- What has happened since the `k`-th directory was made, if it was. -/
def since : Nat → List Record → Option (List Record)
  | _, [] => none
  | 0, r :: rest => if r.makes then some rest else since 0 rest
  | k + 1, r :: rest => if r.makes then since k rest else since (k + 1) rest

/-- Whether something of a kind has happened since the `k`-th directory was made. -/
def Happened (kind : Record → Bool) (past : List Record) (k : Nat) : Prop :=
  ∃ later, since k past = some later ∧ ∃ r ∈ later, kind r = true

/-- The `k`-th directory was made and has since then neither been destroyed nor cleaned up nor
dropped. -/
def Standing (past : List Record) (k : Nat) : Prop :=
  k < numberMade past ∧ ¬ Happened (Record.destroys k) past k ∧ ¬ Happened (Record.givesUp k) past k

section past
variable {past : List Record} {r : Record} {k : Nat}

theorem numberMade_cons : numberMade (r :: past) = numberMade past + if r.makes then 1 else 0 := by
  simp [numberMade, List.countP_cons]

theorem numberMade_concat :
    numberMade (past ++ [r]) = numberMade past + if r.makes then 1 else 0 := by
  simp [numberMade, List.countP_append, List.countP_cons]

theorem since_concat : since k (past ++ [r]) =
    match since k past with
    | some later => some (later ++ [r])
    | none => if r.makes ∧ numberMade past = k then some [] else none := by
  induction past generalizing k with
  | nil => cases k <;> simp [since, numberMade]
  | cons first rest ih =>
    rw [List.cons_append, numberMade_cons]
    cases k with
    | zero =>
      rw [since, since, ih]
      by_cases hfirst : first.makes = true <;> simp [hfirst]
    | succ k =>
      rw [since, since, ih, ih]
      by_cases hfirst : first.makes = true <;> simp [hfirst]

theorem since_eq_none_iff : since k past = none ↔ numberMade past ≤ k := by
  induction past generalizing k with
  | nil => cases k <;> simp [since, numberMade]
  | cons first rest ih =>
    rw [numberMade_cons]
    cases k with
    | zero =>
      rw [since]
      by_cases hfirst : first.makes = true <;> simp [hfirst, ih]
    | succ k =>
      rw [since]
      by_cases hfirst : first.makes = true <;> simp [hfirst, ih]

theorem Happened.lt {kind : Record → Bool} (h : Happened kind past k) : k < numberMade past := by
  obtain ⟨later, hlater, -⟩ := h
  rw [← Nat.not_le, ← since_eq_none_iff, hlater]
  simp

theorem happened_concat {kind : Record → Bool} : Happened kind (past ++ [r]) k ↔
    Happened kind past k ∨ k < numberMade past ∧ kind r = true := by
  rw [Happened, Happened, since_concat]
  cases hsince : since k past with
  | none =>
    have hlate := since_eq_none_iff.1 hsince
    constructor
    · rintro ⟨later, hlater, r', hr', -⟩
      simp only at hlater
      split at hlater
      · cases hlater
        cases hr'
      · cases hlater
    · rintro (⟨later, hlater, -⟩ | ⟨hk, -⟩)
      · cases hlater
      · omega
  | some later =>
    have hk : k < numberMade past := by
      rw [← Nat.not_le, ← since_eq_none_iff, hsince]
      simp
    simp [hk, or_and_right, exists_or]

theorem standing_concat : Standing (past ++ [r]) k ↔
    (Standing past k ∧ r.destroys k = false ∧ r.givesUp k = false) ∨
      (r.makes = true ∧ numberMade past = k) := by
  rw [Standing, Standing, happened_concat, happened_concat, numberMade_concat]
  by_cases hk : k < numberMade past
  · have hne : numberMade past ≠ k := by omega
    simp only [hk, hne, true_and, and_false, or_false, not_or, Bool.not_eq_true]
    constructor
    · rintro ⟨-, ⟨hd, hrd⟩, hg, hrg⟩
      exact ⟨⟨hd, hg⟩, hrd, hrg⟩
    · rintro ⟨⟨hd, hg⟩, hrd, hrg⟩
      exact ⟨by omega, ⟨hd, hrd⟩, hg, hrg⟩
  · have hd : ¬ Happened (Record.destroys k) past k := fun h => hk h.lt
    have hg : ¬ Happened (Record.givesUp k) past k := fun h => hk h.lt
    simp only [hk, hd, hg, false_and, or_false, not_false_eq_true, and_true, false_or]
    by_cases hmakes : r.makes = true
    · simp only [hmakes, if_true, true_and]
      omega
    · simp only [hmakes]
      simpa using hk

end past

/-- What a step relies on: no parent is in a working directory or reached through one, and no name
is drawn a second time. -/
structure Fits (suffixes : Suffixes) (bare : FileSystem) (s : Stock π) (step : Step) : Prop where
  outside : ∀ {parent dir}, step = .create parent →
    s.files.stat true (s.files.absolute parent) = .ok (dir, .directory) →
    bare.stat true (s.files.absolute parent) = .ok (dir, .directory)
  fresh : ∀ {path}, (s.step suffixes step).1 = .made (.ok path) → ∀ h ∈ s.handles,
    (Path.components h.path).getLast? ≠ (Path.components path).getLast?

/-- Whatever may have been done with working directories, beginning in a world without any. -/
inductive History (suffixes : Suffixes) (w : World π) : List Record → Stock π → Prop
  | start : History suffixes w [] ⟨w, []⟩
  | next {past : List Record} {s : Stock π} (step : Step) : History suffixes w past s →
      Fits suffixes w.files s step →
      History suffixes w (past ++ [⟨step, (s.step suffixes step).1⟩]) (s.step suffixes step).2

end SparseTransfer.WorkDir
