import SparseTransfer.Program
import SparseTransfer.Proofs.CommandLine.Switches
import SparseTransfer.Proofs.Settings

/- The program up to its transfer. Its configuration comes first and touches nothing, and a dry run
ends behind it. -/
namespace SparseTransfer
open CommandLine

namespace TransferSettings
variable {w w' : World π}

end TransferSettings

namespace Program
variable {c : CommandLine} {w w' : World Ledger} {around : Surroundings} {tempDir : Path}

end Program

namespace Invocation

end Invocation

variable {i j : Invocation} {c : CommandLine} {w : World Ledger}

end SparseTransfer
