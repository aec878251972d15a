import SparseTransfer.Action
import SparseTransfer.Archive.Checksum
import SparseTransfer.Archive.Entry
import SparseTransfer.Archive.Folder
import SparseTransfer.Archive.Image
import SparseTransfer.CommandLine
import SparseTransfer.Decimal.Binary
import SparseTransfer.Engine
import SparseTransfer.Event
import SparseTransfer.Event.Filter
import SparseTransfer.Event.Line
import SparseTransfer.File.FileSystem
import SparseTransfer.File.Lookup
import SparseTransfer.File.Operations
import SparseTransfer.File.OsError
import SparseTransfer.File.Path
import SparseTransfer.File.Walk
import SparseTransfer.Git.Call
import SparseTransfer.Git.Checkout
import SparseTransfer.Ledger
import SparseTransfer.Main
import SparseTransfer.Monitor
import SparseTransfer.Pipeline
import SparseTransfer.Program
import SparseTransfer.Proofs.Action
import SparseTransfer.Proofs.Archive.Breakage
import SparseTransfer.Proofs.Archive.Completeness
import SparseTransfer.Proofs.Archive.Failure
import SparseTransfer.Proofs.Archive.Gathering
import SparseTransfer.Proofs.Archive.Listing
import SparseTransfer.Proofs.Archive.Names
import SparseTransfer.Proofs.Archive.Reading
import SparseTransfer.Proofs.Archive.Reproducibility
import SparseTransfer.Proofs.Archive.Unpacking
import SparseTransfer.Proofs.CommandLine
import SparseTransfer.Proofs.CommandLine.Selection
import SparseTransfer.Proofs.CommandLine.Switches
import SparseTransfer.Proofs.Engine.Announcements
import SparseTransfer.Proofs.Engine.Calls
import SparseTransfer.Proofs.Engine.Conclusion
import SparseTransfer.Proofs.Engine.Monitoring
import SparseTransfer.Proofs.Engine.Restoration
import SparseTransfer.Proofs.Engine.Trace
import SparseTransfer.Proofs.File.Congruence
import SparseTransfer.Proofs.File.DepthFirst
import SparseTransfer.Proofs.File.Folder
import SparseTransfer.Proofs.File.Lookup
import SparseTransfer.Proofs.File.Making
import SparseTransfer.Proofs.File.Paths
import SparseTransfer.Proofs.File.Places
import SparseTransfer.Proofs.File.Placing
import SparseTransfer.Proofs.File.Resolution
import SparseTransfer.Proofs.File.Unlinked
import SparseTransfer.Proofs.File.Writing
import SparseTransfer.Proofs.Git.Checkout
import SparseTransfer.Proofs.Git.Invocations
import SparseTransfer.Proofs.Git.Operands
import SparseTransfer.Proofs.Git.Pattern
import SparseTransfer.Proofs.Git.Repository
import SparseTransfer.Proofs.Pipeline
import SparseTransfer.Proofs.Pipeline.History
import SparseTransfer.Proofs.Program.Configuration
import SparseTransfer.Proofs.Program.Secrecy
import SparseTransfer.Proofs.Settings
import SparseTransfer.Proofs.Settings.Endpoint
import SparseTransfer.Proofs.Settings.FileSecrecy
import SparseTransfer.Proofs.Settings.FileSettings
import SparseTransfer.Proofs.Settings.RelativePath
import SparseTransfer.Proofs.Settings.Resolution
import SparseTransfer.Proofs.Settings.Transport
import SparseTransfer.Proofs.Settings.Validation
import SparseTransfer.Proofs.Settings.Written
import SparseTransfer.Proofs.Storage
import SparseTransfer.Proofs.Storage.Remote
import SparseTransfer.Proofs.Storage.Request
import SparseTransfer.Proofs.Text.Ascii
import SparseTransfer.Proofs.Text.Utf8
import SparseTransfer.Proofs.Toml.Cursor
import SparseTransfer.Proofs.Toml.Exchange
import SparseTransfer.Proofs.Toml.Keys
import SparseTransfer.Proofs.Toml.Lexing
import SparseTransfer.Proofs.Toml.Literals
import SparseTransfer.Proofs.Toml.Report
import SparseTransfer.Proofs.Toml.Starts
import SparseTransfer.Proofs.Toml.Steps
import SparseTransfer.Proofs.Toml.Trees
import SparseTransfer.Proofs.Transfer.Contract
import SparseTransfer.Proofs.Transfer.Failures
import SparseTransfer.Proofs.Transfer.Files
import SparseTransfer.Proofs.UploadTarget
import SparseTransfer.Proofs.Url.Scheme
import SparseTransfer.Proofs.WorkDir
import SparseTransfer.Proofs.WorkDir.Account
import SparseTransfer.Proofs.WorkDir.History
import SparseTransfer.Proofs.WorkDir.Moves
import SparseTransfer.Proofs.WorkDir.Spots
import SparseTransfer.Settings
import SparseTransfer.Settings.FileSettings
import SparseTransfer.Settings.Resolution
import SparseTransfer.Settings.Rules
import SparseTransfer.Settings.Validation
import SparseTransfer.Stage
import SparseTransfer.Storage
import SparseTransfer.Storage.Client
import SparseTransfer.Storage.Remote
import SparseTransfer.Storage.Request
import SparseTransfer.Text.Blank
import SparseTransfer.Text.CodeRanges
import SparseTransfer.Text.Instant
import SparseTransfer.Text.Quoted
import SparseTransfer.Text.Split
import SparseTransfer.Text.Terminal
import SparseTransfer.Text.Unprintable
import SparseTransfer.Text.Utf8
import SparseTransfer.Toml.Document
import SparseTransfer.Toml.Misfit
import SparseTransfer.Toml.Node
import SparseTransfer.Toml.Scalar
import SparseTransfer.Toml.Strings
import SparseTransfer.TransferError
import SparseTransfer.UploadReceipt
import SparseTransfer.UploadTarget
import SparseTransfer.Url
import SparseTransfer.Url.Fault
import SparseTransfer.Url.Host
import SparseTransfer.Url.HostName
import SparseTransfer.Url.HostName.Composition
import SparseTransfer.Url.HostName.CompositionTable
import SparseTransfer.Url.HostName.Direction
import SparseTransfer.Url.HostName.DirectionTable
import SparseTransfer.Url.HostName.Joining
import SparseTransfer.Url.HostName.JoiningTable
import SparseTransfer.Url.HostName.Mapping
import SparseTransfer.Url.HostName.MappingTable
import SparseTransfer.Url.Ipv4
import SparseTransfer.Url.Ipv6
import SparseTransfer.Url.Punycode
import SparseTransfer.WorkDir
