import Scaffold.Artifact
import Scaffold.Calendar.Date
import Scaffold.Clock
import Scaffold.Command.Arguments
import Scaffold.Command.Run
import Scaffold.Decimal.Notation
import Scaffold.Decimal.Shortest
import Scaffold.Disk.Access
import Scaffold.Disk.Basic
import Scaffold.Disk.Output
import Scaffold.Disk.Path
import Scaffold.Error
import Scaffold.Generation.Classes
import Scaffold.Generation.Migration
import Scaffold.Generation.Run
import Scaffold.Generation.Workspace
import Scaffold.Json.Fault
import Scaffold.Json.Number
import Scaffold.Json.Reader
import Scaffold.Json.Skip
import Scaffold.Json.Text
import Scaffold.Json.Value
import Scaffold.Layout.Basic
import Scaffold.Layout.Reader
import Scaffold.Ledger.Basic
import Scaffold.Probe
import Scaffold.Ledger.Store
import Scaffold.Main
import Scaffold.Migration.Statement
import Scaffold.Naming.Plural
import Scaffold.Naming.Table
import Scaffold.Schema.Basic
import Scaffold.Schema.Kind
import Scaffold.Schema.NameMap
import Scaffold.Schema.Reader
import Scaffold.Template
import Scaffold.Text.Quoted
import Scaffold.Text.Search
import Scaffold.Text.Split
import Scaffold.Unicode.Alphabetic
import Scaffold.Unicode.Basic
import Scaffold.Unicode.Lowercase
import Scaffold.Unicode.Unprintable
import Scaffold.Unicode.Word
import Scaffold.Yaml.Cursor
import Scaffold.Yaml.Document
import Scaffold.Yaml.Error
import Scaffold.Yaml.Event
import Scaffold.Yaml.Fault
import Scaffold.Yaml.Token
import Scaffold.Yaml.Scalar
import Scaffold.Yaml.Token.Block
import Scaffold.Yaml.Token.Directive
import Scaffold.Yaml.Token.Gap
import Scaffold.Yaml.Token.Plain
import Scaffold.Yaml.Token.Property
import Scaffold.Yaml.Token.Quoted
import Scaffold.Yaml.Token.Scanner
import Scaffold.Yaml.Value
import Scaffold.Yaml.Value.Decoder
import Scaffold.Yaml.Value.Reader
import Scaffold.Proofs.Disk.Location
import Scaffold.Proofs.Disk.Growth
import Scaffold.Proofs.Disk.Writing
import Scaffold.Proofs.Disk.Names
import Scaffold.Proofs.Generation.Step
import Scaffold.Proofs.Generation.Run
import Scaffold.Proofs.Generation.Frame
import Scaffold.Proofs.Json.Text
import Scaffold.Proofs.Json.Value
import Scaffold.Proofs.Json.Members
import Scaffold.Proofs.Ledger.RoundTrip
import Scaffold.Proofs.Ledger.Records
import Scaffold.Proofs.Template.Migration
import Scaffold.Proofs.Migration.Text
import Scaffold.Proofs.Migration.Name
import Scaffold.Proofs.Ledger.Probe
import Scaffold.Proofs.Generation.Tidy
import Scaffold.Proofs.Generation.Log
import Scaffold.Proofs.Generation.Rerun
import Scaffold.Proofs.Generation.Sound
import Scaffold.Proofs.Generation.Kept
import Scaffold.Proofs.Disk.Alike
import Scaffold.Proofs.Generation.Cache
import Scaffold.Proofs.Migration.Word
import Scaffold.Proofs.Layout.Standard
import Scaffold.Proofs.Generation.Delta
import Scaffold.Proofs.Generation.Split
import Scaffold.Proofs.Generation.Creation
import Scaffold.Proofs.Generation.Fresh
import Scaffold.Proofs.Generation.Stale
import Scaffold.Proofs.Command.Run
import Scaffold.Proofs.Schema.Problems
import Scaffold.Proofs.Generation.Problem
import Scaffold.Proofs.Text.Order
import Scaffold.Proofs.Calendar.Stamp
import Scaffold.Proofs.Clock
import Scaffold.Proofs.Generation.Stamps
import Scaffold.Proofs.Generation.Account
import Scaffold.Proofs.Generation.Ordered
import Scaffold.Proofs.Generation.Reported
import Scaffold.Proofs.Generation.Remembered
import Scaffold.Proofs.Disk.Directories
import Scaffold.Proofs.Generation.Housed
import Scaffold.Proofs.Generation.Planned
import Scaffold.Proofs.Generation.Classes
import Scaffold.Proofs.Generation.Permuted
import Scaffold.Proofs.Template.Pieces
import Scaffold.Proofs.Schema.Agreement
import Scaffold.Proofs.Disk.Opening
import Scaffold.Proofs.Disk.Siblings
import Scaffold.Proofs.Generation.Placement
import Scaffold.Proofs.Generation.Atomic
import Scaffold.Proofs.Migration.Call
import Scaffold.Proofs.Ledger.Calls
import Scaffold.Proofs.Migration.Unambiguous
import Scaffold.Proofs.Migration.Undo
import Scaffold.Proofs.Yaml.Keys
import Scaffold.Proofs.Schema.Shape
import Scaffold.Proofs.Calendar.Civil
import Scaffold.Proofs.Clock.Succession
