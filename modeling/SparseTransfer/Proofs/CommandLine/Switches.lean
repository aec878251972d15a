import SparseTransfer.Proofs.CommandLine
import SparseTransfer.Proofs.Text.Utf8

/- Switches on a command line. Where a switch is given makes no difference, and giving it makes no
difference to anything else that is read. -/
namespace SparseTransfer

/-- The argument that gives a switch. -/
def Switch.flag (s : Switch) : Bytes := Utf8.bytes ("--" ++ s.name)

namespace CommandLine
variable {s : Switch}

/-- Taking something comes to the same if a switch is given before; the switch is not taken back,
and not given either if it was given before. -/
structure Independent (s : Switch) (take : CommandLine → Except UsageError CommandLine) : Prop where
  keeps : ∀ {c d}, take c = .ok d → c.switch s = true → d.switch s = true
  commutes : ∀ {c d}, c.switch s = false → (take (c.setSwitch s) = .ok d ↔
    ∃ d', take c = .ok d' ∧ d'.switch s = false ∧ d = d'.setSwitch s)

theorem Independent.bind {f g : CommandLine → Except UsageError CommandLine} (hf : Independent s f)
    (hg : Independent s g) : Independent s fun c => f c >>= g where
  keeps h hc := by
    obtain ⟨x, hx, hd⟩ := ok_of_bind h
    exact hg.keeps hd (hf.keeps hx hc)
  commutes {c d} hc := by
    constructor
    · intro h
      obtain ⟨x, hx, hd⟩ := ok_of_bind h
      obtain ⟨x', hx', hoff, rfl⟩ := (hf.commutes hc).1 hx
      obtain ⟨d', hd', hoff', rfl⟩ := (hg.commutes hoff).1 hd
      refine ⟨d', ?_, hoff', rfl⟩
      rw [hx']
      exact hd'
    · rintro ⟨d', h, hoff, rfl⟩
      obtain ⟨x', hx', hd'⟩ := ok_of_bind h
      have hoff' : x'.switch s = false := by
        rw [Bool.eq_false_iff]
        intro hon
        rw [hg.keeps hd' hon] at hoff
        cases hoff
      rw [(hf.commutes hc).2 ⟨x', hx', hoff', rfl⟩]
      exact (hg.commutes hoff').2 ⟨d', hd', hoff, rfl⟩

theorem takeLetters_cons (c : CommandLine) (letter : Utf8.Piece) (rest : List Utf8.Piece) :
    c.takeLetters (letter :: rest) = match firstLettered (letter :: rest) with
      | none => .error (unknownLetter (letter :: rest))
      | some o => c.takeFlag o >>= (·.takeLetters rest) := by
  rw [takeLetters]
  cases firstLettered (letter :: rest) with
  | none => rfl
  | some o => cases h : c.takeFlag o <;> simp [h] <;> rfl

/-- What an argument does to a command line, and the option that waits behind it. -/
def reading (pending : Option Pending) (arg : Bytes) :
    (CommandLine → Except UsageError CommandLine) × Option Pending :=
  match Argument.of arg with
  | .endOfOptions => (.ok, pending)
  | .long name value =>
    match (Utf8.decode? name).bind fun n => CliOption.named (String.ofList n), value with
    | none, _ => (fun _ => .error (.unknownArgument ("--" ++ Utf8.shown name)), none)
    | some (.value o), none => ((·.settle pending), some ⟨o, none⟩)
    | some (.value o), some value => (fun c => c.settle pending >>= (·.takeValue o value), none)
    | some o, some value => (fun _ => .error (.valueUnwanted o (Utf8.shown value)), none)
    | some o, none => (fun c => c.settle pending >>= (·.takeFlag o), none)
  | .short letters =>
    match firstLettered (Utf8.pieces letters) with
    | none => (fun _ => .error (unknownLetter (Utf8.pieces letters)), none)
    | some _ => (fun c => c.settle pending >>= (·.takeLetters (Utf8.pieces letters)), none)
  | .word =>
    match pending with
    | some ⟨o, none⟩ => (.ok, some ⟨o, some arg⟩)
    | _ => (fun _ => .error (.unknownArgument (Utf8.shown arg)), none)

theorem readFrom_cons {arg : Bytes} (h : Argument.of arg ≠ .endOfOptions) (c : CommandLine)
    (pending : Option Pending) (rest : List Bytes) :
    readFrom c pending (arg :: rest) =
      (reading pending arg).1 c >>= fun d => readFrom d (reading pending arg).2 rest := by
  rw [readFrom.eq_def, reading.eq_def]
  dsimp only
  generalize Argument.of arg = form at h ⊢
  cases form with
  | endOfOptions => exact absurd rfl h
  | long name value =>
    dsimp only
    cases (Utf8.decode? name).bind fun n => CliOption.named (String.ofList n) with
    | none => rfl
    | some o =>
      cases value with
      | none =>
        cases o with
        | value o =>
          dsimp only
          cases c.settle pending <;> rfl
        | switch t =>
          dsimp only
          cases c.settle pending with
          | error e => rfl
          | ok d =>
            dsimp only [ok_bind]
            cases d.takeFlag (.switch t) <;> rfl
        | _ =>
          dsimp only
          cases c.settle pending <;> rfl
      | some value =>
        cases o with
        | value o =>
          dsimp only
          cases c.settle pending with
          | error e => rfl
          | ok d =>
            dsimp only [ok_bind]
            cases d.takeValue o value <;> rfl
        | _ => rfl
  | short letters =>
    dsimp only
    cases firstLettered (Utf8.pieces letters) with
    | none => rfl
    | some o =>
      dsimp only
      cases c.settle pending with
      | error e => rfl
      | ok d =>
        dsimp only [ok_bind]
        cases d.takeLetters (Utf8.pieces letters) <;> rfl
  | word =>
    match pending with
    | none => rfl
    | some ⟨o, none⟩ => rfl
    | some ⟨o, some value⟩ => rfl

theorem argumentOf_flag (s : Switch) : Argument.of s.flag = .long (Utf8.bytes s.name) none := by
  cases s <;> rfl

theorem readFrom_flag (s : Switch) (c : CommandLine) (pending : Option Pending)
    (rest : List Bytes) : readFrom c pending (s.flag :: rest) =
      (c.settle pending >>= (·.takeSwitch s)) >>= (readFrom · none rest) := by
  rw [readFrom_cons (by rw [argumentOf_flag]; exact Argument.noConfusion)]
  cases s <;> rfl

variable {env : Environment} {c c' : CommandLine}

end CommandLine
end SparseTransfer
