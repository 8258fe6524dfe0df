import UrclDebugger.Numeral
import UrclDebugger.Text.Blank
import UrclDebugger.Text.Grapheme
import UrclDebugger.Text.Letter
import UrclDebugger.Text.Lines
import UrclDebugger.Text.Width
import UrclDebugger.FiniteMap
import UrclDebugger.Value
import UrclDebugger.Assembly.Instruction
import UrclDebugger.Assembly.Line
import UrclDebugger.Assembly.Program
import UrclDebugger.Scope
import UrclDebugger.Script.Expr
import UrclDebugger.Script.Parser
import UrclDebugger.Script.Evaluation
import UrclDebugger.Script.Run
import UrclDebugger.Machine.Action
import UrclDebugger.Machine.Error
import UrclDebugger.Machine.Exec
import UrclDebugger.Machine.Execute
import UrclDebugger.Engine
import UrclDebugger.Urcl
import UrclDebugger.Session.Basic
import UrclDebugger.Files
import UrclDebugger.Log.File
import UrclDebugger.Options
import UrclDebugger.Screen.Area
import UrclDebugger.Screen.Basic
import UrclDebugger.Screen.Box
import UrclDebugger.Screen.Paragraph
import UrclDebugger.View.Dialog
import UrclDebugger.View.Memory
import UrclDebugger.View.Program
import UrclDebugger.View.Registers
import UrclDebugger.View.Stack
import UrclDebugger.View.Status
import UrclDebugger.App.Basic
import UrclDebugger.App.Draw
import UrclDebugger.App.Playback
import UrclDebugger.Main
import UrclDebugger.FiniteMap.Lemmas
import UrclDebugger.Proofs.Assembly.Names
import UrclDebugger.Proofs.Assembly.Acceptance
import UrclDebugger.Proofs.Assembly.Loading
import UrclDebugger.Proofs.Machine.Outcome
import UrclDebugger.Proofs.Machine.Decoding
import UrclDebugger.Proofs.Machine.Effects
import UrclDebugger.Proofs.Machine.Loop
import UrclDebugger.Proofs.Machine.Address
import UrclDebugger.Proofs.Machine.Reference
import UrclDebugger.Proofs.Machine.Representation
import UrclDebugger.Proofs.Machine.Simulation
import UrclDebugger.Proofs.Machine.Refinement
import UrclDebugger.Proofs.Machine.Typing
import UrclDebugger.Proofs.Machine.SingleStep
import UrclDebugger.Proofs.Provenance.Value
import UrclDebugger.Proofs.Provenance.Parser
import UrclDebugger.Proofs.Provenance.Script
import UrclDebugger.Proofs.Provenance.Machine
import UrclDebugger.Proofs.Provenance.Session
import UrclDebugger.Proofs.Machine.Access
import UrclDebugger.Proofs.Machine.Frame
import UrclDebugger.Proofs.Machine.Upcoming
import UrclDebugger.Proofs.Machine.PushPop
import UrclDebugger.Proofs.Machine.Discipline
import UrclDebugger.Proofs.Machine.Nesting
import UrclDebugger.Proofs.Session.Surroundings
import UrclDebugger.Proofs.Session.Operation
import UrclDebugger.Proofs.Session.Latch
import UrclDebugger.Proofs.Snapshot.Registers
import UrclDebugger.Proofs.Snapshot.Extract
import UrclDebugger.Proofs.Script.Decimal
import UrclDebugger.Proofs.Snapshot.History
import UrclDebugger.Proofs.Session.Frame
import UrclDebugger.Proofs.Session.History
import UrclDebugger.Proofs.Session.Rebuild
import UrclDebugger.Proofs.Script.Reading
import UrclDebugger.Proofs.Script.Evaluation
import UrclDebugger.Proofs.Snapshot.Sequence
import UrclDebugger.Proofs.Snapshot.Presence
import UrclDebugger.Proofs.Snapshot.Independence
import UrclDebugger.Proofs.Machine.Hosting
import UrclDebugger.Proofs.Snapshot.Forecast
import UrclDebugger.Proofs.Session.Forecast
import UrclDebugger.Proofs.Script.Grammar
import UrclDebugger.Proofs.Script.Descent
import UrclDebugger.Proofs.Script.Acceptance
import UrclDebugger.Proofs.Script.Height
import UrclDebugger.Proofs.Machine.Locality
import UrclDebugger.Proofs.Machine.Reset
import UrclDebugger.Proofs.Session.Running
import UrclDebugger.Proofs.Session.Pacing
import UrclDebugger.Proofs.Session.Waiting
import UrclDebugger.Proofs.Session.Halting
import UrclDebugger.Proofs.Assembly.Layout
import UrclDebugger.Proofs.Assembly.Words
import UrclDebugger.Proofs.Assembly.Listing
import UrclDebugger.Proofs.Machine.Labels
import UrclDebugger.Proofs.Machine.Division
import UrclDebugger.Proofs.Machine.Shift
import UrclDebugger.Proofs.Machine.AddressSpace
import UrclDebugger.Proofs.Machine.Failure
import UrclDebugger.Proofs.Machine.FailedStep
import UrclDebugger.Proofs.Script.Literal
import UrclDebugger.Proofs.Script.Printing
import UrclDebugger.Proofs.Script.Statement
import UrclDebugger.Proofs.Text.Lines
import UrclDebugger.Proofs.Script.Running
import UrclDebugger.Proofs.Script.Items
import UrclDebugger.Proofs.Assembly.Composition
import UrclDebugger.Proofs.Assembly.Binding
import UrclDebugger.Proofs.Text.Bytes
import UrclDebugger.Proofs.Snapshot.Display
import UrclDebugger.Proofs.Snapshot.MemoryRows
import UrclDebugger.Proofs.View.Scrolling
import UrclDebugger.Proofs.View.Following
import UrclDebugger.Proofs.App.Visit
import UrclDebugger.Proofs.App.Modes
import UrclDebugger.Proofs.App.Following
import UrclDebugger.Proofs.App.Typing
import UrclDebugger.Proofs.App.Picking
import UrclDebugger.Proofs.Script.Strict
import UrclDebugger.Proofs.Script.Balance
import UrclDebugger.Proofs.Machine.Exact
import UrclDebugger.Proofs.Machine.Unchecked
import UrclDebugger.Proofs.Machine.Overflow
