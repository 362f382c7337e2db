import Provision.Archive.Extract
import Provision.Archive.Tar
import Provision.Archive.Unpack
import Provision.Archive.Zip.Directory
import Provision.Archive.Zip.Writing
import Provision.Codec.Basic
import Provision.Codec.Bzip2
import Provision.Codec.CodeTree
import Provision.Codec.Deflate
import Provision.Codec.Lzma.Symbols
import Provision.Codec.StateTable
import Provision.Codec.Xz
import Provision.Codec.Zstd.Frame
import Provision.Codec.Zstd.Literals
import Provision.Codec.Zstd.Sequences
import Provision.Command.Basic
import Provision.Digest.Blake2
import Provision.Digest.Crc
import Provision.Digest.Md5
import Provision.Digest.Sha
import Provision.Digest.XxHash
import Provision.Disk.Basic
import Provision.Disk.Calls
import Provision.Disk.Canonical
import Provision.Disk.Fault
import Provision.Disk.Listing
import Provision.Disk.Walk
import Provision.Host.Basic
import Provision.Host.Web
import Provision.Json.Value
import Provision.Json.Writing
import Provision.Keyed
import Provision.Node.Basic
import Provision.Node.Context
import Provision.Node.Electron
import Provision.Node.Fault
import Provision.Node.Resolution
import Provision.Node.Stored
import Provision.Path.Basic
import Provision.Plan.Basic
import Provision.Platform
import Provision.Proofs.Archive.Confining
import Provision.Proofs.Archive.Naming
import Provision.Proofs.Archive.Rooting
import Provision.Proofs.Command.Decoding
import Provision.Proofs.Command.Inheriting
import Provision.Proofs.Disk.Confining
import Provision.Proofs.Disk.Trees
import Provision.Proofs.Node.Checks
import Provision.Proofs.Node.Consent
import Provision.Proofs.Node.Discarding
import Provision.Proofs.Node.Logging
import Provision.Proofs.Node.Looking
import Provision.Proofs.Node.Quietness
import Provision.Proofs.Node.Recording
import Provision.Proofs.Node.Resolution
import Provision.Proofs.Node.Session
import Provision.Proofs.Node.Trying
import Provision.Proofs.Node.Unfinished
import Provision.Proofs.Node.Visiting
import Provision.Proofs.Outcome
import Provision.Proofs.Path.Parents
import Provision.Proofs.Plan.Asking
import Provision.Proofs.Plan.Ending
import Provision.Proofs.Requirement.Joining
import Provision.Proofs.Requirement.Operators
import Provision.Proofs.Requirement.Prerelease
import Provision.Proofs.Requirement.Reading
import Provision.Proofs.Requirement.Spelling
import Provision.Proofs.Requirement.Written
import Provision.Proofs.Server.Containing
import Provision.Proofs.Server.Resolving
import Provision.Proofs.Server.RoundTrip
import Provision.Proofs.Server.Status
import Provision.Proofs.Storage.Atomicity
import Provision.Proofs.Storage.Copying
import Provision.Proofs.Storage.Overwriting
import Provision.Proofs.Storage.Reproducing
import Provision.Proofs.Storage.Sheltering
import Provision.Proofs.Text.Decimal
import Provision.Proofs.Text.Fields
import Provision.Proofs.Text.Runs
import Provision.Proofs.Text.Words
import Provision.Proofs.Venv.Copies
import Provision.Proofs.Venv.Lasting
import Provision.Proofs.Venv.Managing
import Provision.Proofs.Venv.Staleness
import Provision.Proofs.Venv.Traces
import Provision.Proofs.Version.Grammar
import Provision.Proofs.Version.Identifiers
import Provision.Proofs.Version.Reading
import Provision.Proofs.Version.Spelling
import Provision.Requirement.Basic
import Provision.Server.Any
import Provision.Server.Basic
import Provision.Server.Extension
import Provision.Server.Npm
import Provision.Server.Python
import Provision.Server.Resources
import Provision.Settings.Basic
import Provision.Shell.Arithmetic
import Provision.Shell.Builtin.Directories
import Provision.Shell.Builtin.Names
import Provision.Shell.Builtin.Signals
import Provision.Shell.Builtin.Variables
import Provision.Shell.ByteText
import Provision.Shell.Descriptor
import Provision.Shell.Mode
import Provision.Shell.Parameter
import Provision.Shell.Pattern
import Provision.Shell.Process
import Provision.Shell.Regular
import Provision.Shell.Running
import Provision.Shell.Script
import Provision.Shell.Search
import Provision.Shell.Signal
import Provision.Shell.Source
import Provision.Shell.State
import Provision.Shell.Syntax
import Provision.Shell.Tool.Amounts
import Provision.Shell.Tool.Arranging
import Provision.Shell.Tool.Basic
import Provision.Shell.Tool.Blocks
import Provision.Shell.Tool.Characters
import Provision.Shell.Tool.Contents
import Provision.Shell.Tool.Copying
import Provision.Shell.Tool.Counting
import Provision.Shell.Tool.Dates
import Provision.Shell.Tool.Describing
import Provision.Shell.Tool.Digests
import Provision.Shell.Tool.Directories
import Provision.Shell.Tool.Dumping
import Provision.Shell.Tool.Environments
import Provision.Shell.Tool.Escapes
import Provision.Shell.Tool.Expression
import Provision.Shell.Tool.FileFacts
import Provision.Shell.Tool.Filling
import Provision.Shell.Tool.Format
import Provision.Shell.Tool.Installing
import Provision.Shell.Tool.Joining
import Provision.Shell.Tool.Linking
import Provision.Shell.Tool.Listing
import Provision.Shell.Tool.Names
import Provision.Shell.Tool.Numbering
import Provision.Shell.Tool.Options
import Provision.Shell.Tool.Ordering
import Provision.Shell.Tool.Permissions
import Provision.Shell.Tool.Places
import Provision.Shell.Tool.Ranges
import Provision.Shell.Tool.Scaling
import Provision.Shell.Tool.Sorting
import Provision.Shell.Tool.Splitting
import Provision.Shell.Tool.Targets
import Provision.Shell.Tool.Test
import Provision.Shell.Tool.TimeFormat
import Provision.StandIn.Archives
import Provision.StandIn.Items
import Provision.StandIn.Packages
import Provision.Storage.Download
import Provision.Storage.Files
import Provision.Storage.Layout
import Provision.Text.Base64
import Provision.Text.Decimal
import Provision.Text.Fields
import Provision.Text.Lowercase
import Provision.Text.Occurrence
import Provision.Text.Quoted
import Provision.Text.Utf8
import Provision.Venv.Pip
import Provision.Venv.Uv
import Provision.Version.Basic
import Provision.Version.Pattern
