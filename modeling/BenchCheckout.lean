import BenchCheckout.Action
import BenchCheckout.Archive.Basic
import BenchCheckout.Archive.Unpack
import BenchCheckout.Build
import BenchCheckout.Checkout
import BenchCheckout.Command
import BenchCheckout.CommandLine.Basic
import BenchCheckout.CommandLine.Reader
import BenchCheckout.CommandLine.Texts
import BenchCheckout.CommandLine.Usage
import BenchCheckout.Config.Basic
import BenchCheckout.Config.Files
import BenchCheckout.Config.Reader
import BenchCheckout.Config.Writer
import BenchCheckout.Console
import BenchCheckout.Decimal.Binary64
import BenchCheckout.Decimal.Places
import BenchCheckout.Decimal.Shortest
import BenchCheckout.Failure
import BenchCheckout.Files.Calls
import BenchCheckout.Files.Fault
import BenchCheckout.Files.Resolve
import BenchCheckout.Files.Tree
import BenchCheckout.Instrument
import BenchCheckout.Json.Fault
import BenchCheckout.Json.Numeral
import BenchCheckout.Json.Reader
import BenchCheckout.Json.Token
import BenchCheckout.Json.Value
import BenchCheckout.Log
import BenchCheckout.Log.Filter
import BenchCheckout.Machine.Basic
import BenchCheckout.Machine.Program
import BenchCheckout.Machine.Scene
import BenchCheckout.Main
import BenchCheckout.Manifest
import BenchCheckout.Path
import BenchCheckout.Preflight
import BenchCheckout.Process
import BenchCheckout.Project
import BenchCheckout.Proofs.Archive.Fetching
import BenchCheckout.Proofs.Archive.Interruption
import BenchCheckout.Proofs.Archive.Places
import BenchCheckout.Proofs.Checkout.Before
import BenchCheckout.Proofs.Checkout.Failing
import BenchCheckout.Proofs.Checkout.Setting
import BenchCheckout.Proofs.Checkout.Stages
import BenchCheckout.Proofs.Checkout.Success
import BenchCheckout.Proofs.Checkout.Unpacking
import BenchCheckout.Proofs.Files.Changes
import BenchCheckout.Proofs.Files.Directories
import BenchCheckout.Proofs.Files.Links
import BenchCheckout.Proofs.Files.Plain
import BenchCheckout.Proofs.Files.Walks
import BenchCheckout.Proofs.Names
import BenchCheckout.Proofs.Outcome
import BenchCheckout.Proofs.Path
import BenchCheckout.Regex.Basic
import BenchCheckout.Regex.Reader
import BenchCheckout.Shell.Arithmetic
import BenchCheckout.Shell.Builtin.Basic
import BenchCheckout.Shell.Builtin.Directory
import BenchCheckout.Shell.Builtin.Line
import BenchCheckout.Shell.Builtin.Names
import BenchCheckout.Shell.Builtin.Signals
import BenchCheckout.Shell.Builtin.Table
import BenchCheckout.Shell.Builtin.Variables
import BenchCheckout.Shell.Command
import BenchCheckout.Shell.Condition
import BenchCheckout.Shell.Expand
import BenchCheckout.Shell.Field
import BenchCheckout.Shell.Launch
import BenchCheckout.Shell.Number
import BenchCheckout.Shell.Pattern
import BenchCheckout.Shell.Printing
import BenchCheckout.Shell.Redirect
import BenchCheckout.Shell.Run
import BenchCheckout.Shell.Script
import BenchCheckout.Shell.State
import BenchCheckout.Shell.Task
import BenchCheckout.Shell.Token
import BenchCheckout.Template
import BenchCheckout.Text.Alphanumeric
import BenchCheckout.Text.Blank
import BenchCheckout.Text.Lines
import BenchCheckout.Text.Octets
import BenchCheckout.Text.Printable
import BenchCheckout.Text.Quoted
import BenchCheckout.Text.Replace
import BenchCheckout.Text.Utf8
import BenchCheckout.Tool
import BenchCheckout.Utility.Backup
import BenchCheckout.Utility.Cat
import BenchCheckout.Utility.ChangeMode
import BenchCheckout.Utility.Copy
import BenchCheckout.Utility.Count
import BenchCheckout.Utility.Desk
import BenchCheckout.Utility.Directories
import BenchCheckout.Utility.Link
import BenchCheckout.Utility.List
import BenchCheckout.Utility.Mode
import BenchCheckout.Utility.Move
import BenchCheckout.Utility.Names
import BenchCheckout.Utility.Options
import BenchCheckout.Utility.Plain
import BenchCheckout.Utility.Quoting
import BenchCheckout.Utility.Remove
import BenchCheckout.Utility.Search
import BenchCheckout.Utility.Table
import BenchCheckout.Utility.Test
import BenchCheckout.Utility.Touch
import BenchCheckout.Proofs.Files.Alike
import BenchCheckout.Proofs.Build
import BenchCheckout.Proofs.Checkout.Elsewhere
import BenchCheckout.Proofs.Checkout.Footprint
import BenchCheckout.Proofs.Checkout.History
import BenchCheckout.Proofs.CommandLine.Grammar
import BenchCheckout.Proofs.Absolute
import BenchCheckout.Proofs.Arguments
import BenchCheckout.Proofs.Children
import BenchCheckout.Proofs.Instrument
import BenchCheckout.Proofs.Resolution
import BenchCheckout.Proofs.Template
import BenchCheckout.Proofs.Json.Grammar
import BenchCheckout.Proofs.Json.Written
import BenchCheckout.Proofs.Json.Cutting
import BenchCheckout.Proofs.Json.Reading
import BenchCheckout.Proofs.Json.Object
import BenchCheckout.Proofs.Config.Parts
import BenchCheckout.Proofs.Config.Files
import BenchCheckout.Proofs.Manifest.Layout
import BenchCheckout.Proofs.Files.Landing
import BenchCheckout.Proofs.Files.Inside
import BenchCheckout.Proofs.Instrument.Ending
import BenchCheckout.Proofs.Instrument.Copying
import BenchCheckout.Proofs.Archive.Exclusion
import BenchCheckout.Proofs.Manifest.Rewriting
import BenchCheckout.Proofs.Manifest.AtOnce
import BenchCheckout.Proofs.Manifest.Recutting
import BenchCheckout.Proofs.Manifest.Passes
import BenchCheckout.Proofs.Manifest.LineEnds
import BenchCheckout.Proofs.Template.Filled
import BenchCheckout.Proofs.Project
import BenchCheckout.Proofs.Sharing
import BenchCheckout.Proofs.Files.Ways
import BenchCheckout.Proofs.Files.Creation
import BenchCheckout.Proofs.Archive.Extraction
import BenchCheckout.Proofs.Files.Entries
import BenchCheckout.Proofs.Archive.Leftovers
import BenchCheckout.Proofs.Config.Loading
import BenchCheckout.Proofs.CommandLine.Exit
import BenchCheckout.Proofs.Files.Regular
import BenchCheckout.Proofs.Search
import BenchCheckout.Proofs.Instrument.Sources
import BenchCheckout.Proofs.Preflight
import BenchCheckout.Proofs.Search.Shell
