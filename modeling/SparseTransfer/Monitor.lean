import SparseTransfer.Action

/- Looking at the running process after each stage: how much memory it takes, and the most it has
taken. What the figures are is up to the machine. -/
namespace SparseTransfer

structure ProcessFigures where
  memory : Nat
  /-- The most memory that any look at the process has shown. -/
  peak : Nat
  deriving Repr, DecidableEq

/-- A monitor that looks, or one that does not. -/
structure Monitor where
  enabled : Bool
  peak : Nat := 0
  deriving Repr, DecidableEq

namespace Monitor

/-- A process that takes `memory` is looked at. -/
def observe (m : Monitor) (memory : Nat) : Monitor × Option ProcessFigures :=
  if m.enabled then
    let peak := max m.peak memory
    ({ m with peak }, some ⟨memory, peak⟩)
  else (m, none)

/-- Reports that the process was looked at. -/
def report (m : Monitor) (phase : Phase) : Action σ Unit :=
  if m.enabled then Action.report (.processStats phase) else pure ()

end Monitor
end SparseTransfer
