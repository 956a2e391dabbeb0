import Coprocess.Allocator
import Coprocess.Bytes
import Coprocess.Bytes.Lemmas
import Coprocess.Command
import Coprocess.CommandLine
import Coprocess.Environment
import Coprocess.Errno
import Coprocess.Error
import Coprocess.Event
import Coprocess.FileAccess
import Coprocess.FrontEnd
import Coprocess.FrontEnd.Output
import Coprocess.FrontEnd.Relay
import Coprocess.Handle
import Coprocess.Host.Call
import Coprocess.Host.Files
import Coprocess.Host.Kernel
import Coprocess.Host.Kernel.Descriptors
import Coprocess.Host.Kernel.Names
import Coprocess.Host.Kernel.Outcome
import Coprocess.Host.Kernel.Processes
import Coprocess.Host.Machine
import Coprocess.Host.Process
import Coprocess.Host.Program
import Coprocess.Host.Setup
import Coprocess.Host.Table
import Coprocess.Host.Terminal
import Coprocess.Host.World
import Coprocess.Installation
import Coprocess.Json
import Coprocess.Launch
import Coprocess.Logging
import Coprocess.Logging.Filter
import Coprocess.Logging.Line
import Coprocess.Logging.Timestamp
import Coprocess.Main
import Coprocess.Plan
import Coprocess.Probe
import Coprocess.Proofs.Runs
import Coprocess.Scratch
import Coprocess.Search
import Coprocess.Session
import Coprocess.Settings
import Coprocess.Settings.Document
import Coprocess.Settings.Exchange
import Coprocess.Settings.Loading
import Coprocess.Shell.Arithmetic
import Coprocess.Shell.Builtin
import Coprocess.Shell.Builtin.Options
import Coprocess.Shell.Builtin.Places
import Coprocess.Shell.Builtin.Processes
import Coprocess.Shell.Builtin.Reading
import Coprocess.Shell.Builtin.Variables
import Coprocess.Shell.Builtins
import Coprocess.Shell.Expansion
import Coprocess.Shell.Grammar
import Coprocess.Shell.Lookup
import Coprocess.Shell.Pattern
import Coprocess.Shell.Reader
import Coprocess.Shell.Reader.Tokens
import Coprocess.Shell.Reader.Words
import Coprocess.Shell.Redirection
import Coprocess.Shell.Run
import Coprocess.Shell.Start
import Coprocess.Shell.State
import Coprocess.Shell.Syntax
import Coprocess.Shell.Traps
import Coprocess.Status
import Coprocess.Text.Plain
import Coprocess.Text.Printable
import Coprocess.Text.Quoted
import Coprocess.Toml.Document
import Coprocess.Toml.Scalar
import Coprocess.Toml.Table
import Coprocess.Toml.Value
import Coprocess.Tools.Characters
import Coprocess.Tools.Condition
import Coprocess.Tools.Editing
import Coprocess.Tools.Evaluation
import Coprocess.Tools.Images
import Coprocess.Tools.Lines
import Coprocess.Tools.Names
import Coprocess.Tools.Printing
import Coprocess.Tools.Regex
import Coprocess.Tools.Searching
import Coprocess.Tools.Signals
import Coprocess.Tools.Streams
import Coprocess.Tools.System
import Coprocess.Tools.Tool
import Coprocess.Transfer
import Coprocess.Transport
import Coprocess.Trial
import Coprocess.Waiting
import Coprocess.Proofs.Plans
import Coprocess.Proofs.Resolution
import Coprocess.Proofs.Operations
import Coprocess.Proofs.Lifetime
import Coprocess.Proofs.Allocation
import Coprocess.Proofs.Release
import Coprocess.Proofs.Descriptors
import Coprocess.Proofs.Wiring
import Coprocess.Proofs.Abandonment
import Coprocess.Proofs.Reaping
import Coprocess.Proofs.HeldOutput
import Coprocess.Proofs.Accounting
import Coprocess.Proofs.Buffering
import Coprocess.Proofs.Logged
import Coprocess.Proofs.Relaying
import Coprocess.Proofs.Passage
import Coprocess.Proofs.Bindings
import Coprocess.Proofs.JoinedSearch
import Coprocess.Proofs.Forwarding
import Coprocess.Proofs.TypedInput
import Coprocess.Proofs.Stages
import Coprocess.Proofs.Discipline
import Coprocess.Proofs.Ownership
import Coprocess.Proofs.Holdings
import Coprocess.Proofs.Concurrency
import Coprocess.Proofs.Attribution
import Coprocess.Proofs.Contract
import Coprocess.Proofs.Expansion
import Coprocess.Proofs.Admission
import Coprocess.Proofs.Scripts
import Coprocess.Proofs.Invocations
import Coprocess.Proofs.Layering
import Coprocess.Proofs.FileReading
import Coprocess.Proofs.GlobalFile
import Coprocess.Proofs.Exchange
import Coprocess.Proofs.Inheritance
import Coprocess.Proofs.CommandLines
import Coprocess.Proofs.Preparation
import Coprocess.Proofs.Events
import Coprocess.Proofs.Chronicle
import Coprocess.Proofs.LogWorkers
import Coprocess.Proofs.Attainment
import Coprocess.Proofs.LimitedReads
