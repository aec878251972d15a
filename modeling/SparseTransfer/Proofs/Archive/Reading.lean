import SparseTransfer.Archive.Folder

/- Packing a folder where the content of a file need not be read to its end. An entry has been begun
by then, and stays in the archive with what was read. -/
namespace SparseTransfer

/-- How the reading of a file goes: to its end, or only so far. Of a file that cannot be opened
nothing is read. -/
inductive Reading where
  | whole
  | broken (length : Nat) (cause : FileError)
  deriving Repr, DecidableEq

/-- The same, with another form of the result. -/
def Outcome.map (f : α → β) (o : Outcome σ α) : Outcome σ β := ⟨o.result.map f, o.state, o.events⟩

theorem Action.run_bind_map {a : Action σ α} {f : α → Action σ β} {g : α → Action σ γ} {m : γ → β}
    (h : ∀ x s, (f x).run s = ((g x).run s).map m) (s : σ) :
    (a >>= f).run s = ((a >>= g).run s).map m := by
  cases hr : (a.run s).result with
  | error e =>
    rw [run_bind_of_error hr, run_bind_of_error hr]
    rfl
  | ok x =>
    rw [run_bind_of_ok hr, run_bind_of_ok hr, h]
    rfl

theorem Action.run_attempt_bind_map {a : Action σ α} {b : Action σ β} {m : β → α}
    {f : Except TransferError α → Action σ γ} {g : Except TransferError β → Action σ γ} {s : σ}
    (h : a.run s = (b.run s).map m) (hfg : ∀ r, f (r.map m) = g r) :
    (a.attempt >>= f).run s = (b.attempt >>= g).run s := by
  have hrun (δ : Type) (c : Action σ δ) (k : Except TransferError δ → Action σ γ) :
      (c.attempt >>= k).run s = ⟨((k (c.run s).result).run (c.run s).state).result,
        ((k (c.run s).result).run (c.run s).state).state,
        (c.run s).events ++ ((k (c.run s).result).run (c.run s).state).events⟩ := rfl
  rw [hrun, hrun, h, ← hfg]
  rfl

namespace Archive

/-- An entry with only the beginning of its content. -/
def Entry.cut (e : Entry) (length : Nat) : Entry := { e with content := e.content.take length }

/-- Adds an entry, or what was read of it and why it was no more. -/
def addReading (entry : Entry) : Reading → Action (World π) (Option (Entry × Option FileError))
  | .whole => do
    Action.report (.fileAdded entry.name)
    pure (some (entry, none))
  | .broken length cause => pure (some (entry.cut length, some cause))

/-- Adds the entry for an item of a walk, if there is one. -/
def entryReading (readings : Path → Reading) (base : Path) (written : List Entry) :
    Except WalkError Visit → Action (World π) (Option (Entry × Option FileError))
  | .error e => Action.fail (.walk e)
  | .ok v => do
    match ← fileOf v with
    | none => pure none
    | some data =>
      let name ← Action.ofExcept (entryName base v.path)
      if written.any (·.name == name) then Action.fail (.archive (.duplicateName name))
      else addReading ⟨name, data.permissions &&& 0o777, data.content.bytes⟩ (readings v.path)

/-- The entries for a walk, up to the first failure. An entry that was begun is the last of them. -/
def entriesReading (readings : Path → Reading) (base : Path) (written : List Entry) :
    List (Except WalkError Visit) → Action (World π) (List Entry × Option TransferError)
  | [] => pure (written, none)
  | v :: rest => do
    match ← (entryReading readings base written v).attempt with
    | .error e => pure (written, some e)
    | .ok none => entriesReading readings base written rest
    | .ok (some (entry, none)) => entriesReading readings base (written ++ [entry]) rest
    | .ok (some (entry, some cause)) => pure (written ++ [entry], some (.file cause))

/-- Packs what is gathered on the walk through a folder. -/
def packWith (gather : List (Except WalkError Visit) →
      Action (World π) (List Entry × Option TransferError)) (folder out : Path) :
    Action (World π) ArchiveSummary := do
  Action.report (.zipping folder out)
  let loc ← createFile out
  let w ← Action.get
  let (entries, failure) ← gather (w.files.walk folder)
  Action.modify fun w => { w with files := w.files.writeAt loc (.archive entries) }
  match failure with
  | some e => Action.fail e
  | none =>
    if entries.isEmpty then Action.fail (.emptyArchive folder)
    else
      let bytes ← World.inspectFiles (sizeOf · out)
      Action.report (.archiveWritten entries.length bytes)
      return ⟨out, entries.length, bytes⟩

/-- Packs a folder whose files are read so. -/
def packReading (readings : Path → Reading) (folder : Path) :
    (out : Path) → Action (World π) ArchiveSummary :=
  packWith (entriesReading readings (baseOf folder) []) folder

section whole
variable {base : Path} {written : List Entry}

theorem run_entryReading_whole (v : Except WalkError Visit) (w : World π) :
    (entryReading (fun _ => .whole) base written v).run w =
      ((entryFor base written v).run w).map (Option.map (·, none)) := by
  cases v with
  | error e => rfl
  | ok v =>
    refine Action.run_bind_map (fun file w => ?_) w
    cases file with
    | none => rfl
    | some data =>
      refine Action.run_bind_map (fun name w => ?_) w
      by_cases htaken : written.any (·.name == name) = true
      · rw [if_pos htaken, if_pos htaken]
        rfl
      · rw [if_neg htaken, if_neg htaken]
        rfl

/-- Where every file is read to its end, the entries are those of the files. -/
theorem entriesReading_whole (visits : List (Except WalkError Visit)) :
    (entriesReading (fun _ => .whole) base written visits : Action (World π) _) =
      entriesFor base written visits := by
  induction visits generalizing written with
  | nil => rfl
  | cons v rest ih =>
    rw [entriesReading, entriesFor]
    funext w
    refine Action.run_attempt_bind_map (run_entryReading_whole v w) fun r => ?_
    rcases r with e | _ | entry
    · rfl
    · exact ih
    · exact ih

theorem packReading_whole (folder : Path) :
    (packReading (fun _ => .whole) folder : Path → Action (World π) _) = packFolder folder := by
  rw [packReading, funext entriesReading_whole]
  rfl

end whole
end Archive
end SparseTransfer
