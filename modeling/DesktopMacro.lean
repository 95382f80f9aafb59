import DesktopMacro.Action.Basic
import DesktopMacro.Action.Condition
import DesktopMacro.Action.Devices
import DesktopMacro.Action.Editor
import DesktopMacro.Action.Field
import DesktopMacro.Action.FieldName
import DesktopMacro.Action.Flow
import DesktopMacro.Action.Reading
import DesktopMacro.Action.Scripts
import DesktopMacro.Action.Values
import DesktopMacro.Action.Vocabulary
import DesktopMacro.Cause
import DesktopMacro.Desktop.Device
import DesktopMacro.Desktop.Injector
import DesktopMacro.Desktop.KeySymbol
import DesktopMacro.Files.Codec
import DesktopMacro.Files.Path
import DesktopMacro.Files.Tree
import DesktopMacro.Hook.KeyCode
import DesktopMacro.Hook.Listener
import DesktopMacro.Hotkey.Basic
import DesktopMacro.Hotkey.Board
import DesktopMacro.Json.Conversion
import DesktopMacro.Json.Display
import DesktopMacro.Json.Reader
import DesktopMacro.Json.Value
import DesktopMacro.Json.Writer
import DesktopMacro.Key.Layout
import DesktopMacro.Key.Name
import DesktopMacro.Log.Loggers
import DesktopMacro.Log.Moment
import DesktopMacro.Log.StatusLog
import DesktopMacro.Log.Template
import DesktopMacro.Main
import DesktopMacro.Note
import DesktopMacro.Number.Arithmetic
import DesktopMacro.Number.Binary64
import DesktopMacro.Number.DecimalText
import DesktopMacro.Number.Integer
import DesktopMacro.Number.PlacesText
import DesktopMacro.Number.Shortest
import DesktopMacro.Payload.Brackets
import DesktopMacro.Payload.Controls
import DesktopMacro.Payload.Extraction
import DesktopMacro.Payload.Relaxed
import DesktopMacro.Payload.Repair
import DesktopMacro.Proofs.Action.Conditions
import DesktopMacro.Proofs.Action.Documents
import DesktopMacro.Proofs.Action.Editing
import DesktopMacro.Proofs.Action.Fields
import DesktopMacro.Proofs.Action.KeyLists
import DesktopMacro.Proofs.Action.Overwriting
import DesktopMacro.Proofs.Action.Refusing
import DesktopMacro.Proofs.Action.Rereading
import DesktopMacro.Proofs.Action.Settled
import DesktopMacro.Proofs.Action.Spellings
import DesktopMacro.Proofs.Computation
import DesktopMacro.Proofs.Desktop.Combinations
import DesktopMacro.Proofs.Files.Decoding
import DesktopMacro.Proofs.Files.Documents
import DesktopMacro.Proofs.Files.Keeping
import DesktopMacro.Proofs.Files.Paths
import DesktopMacro.Proofs.Files.Saving
import DesktopMacro.Proofs.Hook.Sendable
import DesktopMacro.Proofs.Hotkey.Alone
import DesktopMacro.Proofs.Hotkey.Sharing
import DesktopMacro.Proofs.Hotkey.Tokens
import DesktopMacro.Proofs.Json.Exceeding
import DesktopMacro.Proofs.Json.Reading
import DesktopMacro.Proofs.Json.Scalars
import DesktopMacro.Proofs.Json.Showing
import DesktopMacro.Proofs.Json.Spelling
import DesktopMacro.Proofs.Json.Writing
import DesktopMacro.Proofs.Key.Names
import DesktopMacro.Proofs.Log.History
import DesktopMacro.Proofs.Number.Rereading
import DesktopMacro.Proofs.Number.Rounding
import DesktopMacro.Proofs.Number.Writable
import DesktopMacro.Proofs.Payload.Acceptance
import DesktopMacro.Proofs.Payload.Annotation
import DesktopMacro.Proofs.Payload.Cutting
import DesktopMacro.Proofs.Payload.Escaping
import DesktopMacro.Proofs.Payload.Extraction
import DesktopMacro.Proofs.Payload.Failing
import DesktopMacro.Proofs.Payload.Forms
import DesktopMacro.Proofs.Payload.Inserting
import DesktopMacro.Proofs.Payload.Lexing
import DesktopMacro.Proofs.Payload.Literals
import DesktopMacro.Proofs.Payload.Loosening
import DesktopMacro.Proofs.Payload.Matching
import DesktopMacro.Proofs.Payload.Provenance
import DesktopMacro.Proofs.Payload.Rendering
import DesktopMacro.Proofs.Payload.Repairing
import DesktopMacro.Proofs.Payload.Restoring
import DesktopMacro.Proofs.Payload.Widening
import DesktopMacro.Proofs.Record.Conservation
import DesktopMacro.Proofs.Record.Contributions
import DesktopMacro.Proofs.Record.Delays
import DesktopMacro.Proofs.Record.Delivery
import DesktopMacro.Proofs.Record.Emissions
import DesktopMacro.Proofs.Record.Holdings
import DesktopMacro.Proofs.Record.Identities
import DesktopMacro.Proofs.Record.Idle
import DesktopMacro.Proofs.Record.Modifiers
import DesktopMacro.Proofs.Record.Moments
import DesktopMacro.Proofs.Record.Queueing
import DesktopMacro.Proofs.Record.Recordings
import DesktopMacro.Proofs.Record.Replay
import DesktopMacro.Proofs.Record.Schedule
import DesktopMacro.Proofs.Record.Sessions
import DesktopMacro.Proofs.Run.Actions
import DesktopMacro.Proofs.Run.Agreement
import DesktopMacro.Proofs.Run.Appending
import DesktopMacro.Proofs.Run.Blame
import DesktopMacro.Proofs.Run.Blindness
import DesktopMacro.Proofs.Run.CallStack
import DesktopMacro.Proofs.Run.Calls
import DesktopMacro.Proofs.Run.Cancellation
import DesktopMacro.Proofs.Run.Course
import DesktopMacro.Proofs.Run.Deeds
import DesktopMacro.Proofs.Run.Directives
import DesktopMacro.Proofs.Run.Disabled
import DesktopMacro.Proofs.Run.Evaluation
import DesktopMacro.Proofs.Run.Faults
import DesktopMacro.Proofs.Run.FileTasks
import DesktopMacro.Proofs.Run.Following
import DesktopMacro.Proofs.Run.FrameRules
import DesktopMacro.Proofs.Run.Habits
import DesktopMacro.Proofs.Run.Handing
import DesktopMacro.Proofs.Run.Inputs
import DesktopMacro.Proofs.Run.Journal
import DesktopMacro.Proofs.Run.LifeCycle
import DesktopMacro.Proofs.Run.ListLoops
import DesktopMacro.Proofs.Run.Lookups
import DesktopMacro.Proofs.Run.MirroredActions
import DesktopMacro.Proofs.Run.Mirroring
import DesktopMacro.Proofs.Run.Ownership
import DesktopMacro.Proofs.Run.Passing
import DesktopMacro.Proofs.Run.Pauses
import DesktopMacro.Proofs.Run.Pruning
import DesktopMacro.Proofs.Run.Recounting
import DesktopMacro.Proofs.Run.Reporting
import DesktopMacro.Proofs.Run.Retrying
import DesktopMacro.Proofs.Run.Script
import DesktopMacro.Proofs.Run.Tasks
import DesktopMacro.Proofs.Run.Termination
import DesktopMacro.Proofs.Run.Unrolling
import DesktopMacro.Proofs.Sequence.Copies
import DesktopMacro.Proofs.Sequence.Documents
import DesktopMacro.Proofs.Sequence.Loading
import DesktopMacro.Proofs.Sequence.Names
import DesktopMacro.Proofs.Sequence.Persistence
import DesktopMacro.Proofs.Sequence.Refusing
import DesktopMacro.Proofs.Settings.Loading
import DesktopMacro.Proofs.Text.Folding
import DesktopMacro.Proofs.Text.Pieces
import DesktopMacro.Proofs.Turns
import DesktopMacro.Proofs.Variable.Composition
import DesktopMacro.Proofs.Variable.Conversion
import DesktopMacro.Proofs.Variable.Inference
import DesktopMacro.Proofs.Variable.Lists
import DesktopMacro.Proofs.Variable.Operations
import DesktopMacro.Proofs.Variable.Setting
import DesktopMacro.Quantity
import DesktopMacro.Record.Capture
import DesktopMacro.Record.Event
import DesktopMacro.Record.Recorder
import DesktopMacro.Record.Session
import DesktopMacro.Run.Directive
import DesktopMacro.Run.Effect
import DesktopMacro.Run.Engine
import DesktopMacro.Run.Event
import DesktopMacro.Run.Failure
import DesktopMacro.Run.Interpreter
import DesktopMacro.Run.Journal
import DesktopMacro.Run.Machine
import DesktopMacro.Run.Pause
import DesktopMacro.Run.Rehearsal
import DesktopMacro.Run.Retry
import DesktopMacro.Run.Sequences
import DesktopMacro.Run.Task
import DesktopMacro.Run.Trace
import DesktopMacro.Run.Worker
import DesktopMacro.Sequence.Basic
import DesktopMacro.Sequence.Library
import DesktopMacro.Session.Console
import DesktopMacro.Session.Recording
import DesktopMacro.Session.Replay
import DesktopMacro.Settings.Basic
import DesktopMacro.Settings.File
import DesktopMacro.Text.Blank
import DesktopMacro.Text.Case
import DesktopMacro.Text.CaseTable
import DesktopMacro.Text.ClassTable
import DesktopMacro.Text.Classes
import DesktopMacro.Text.Pieces
import DesktopMacro.Text.Quoted
import DesktopMacro.Variable.Basic
import DesktopMacro.Variable.Store
