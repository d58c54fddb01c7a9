import PulseTimeline.Category
import PulseTimeline.Codec.Configuration
import PulseTimeline.Codec.Decoder
import PulseTimeline.Codec.Expression
import PulseTimeline.Codec.Outcome
import PulseTimeline.Codec.Program
import PulseTimeline.Codec.Statement
import PulseTimeline.Codec.Timeline
import PulseTimeline.Codec.Value
import PulseTimeline.Compile
import PulseTimeline.Configuration.Hardware
import PulseTimeline.Configuration.QubitMap
import PulseTimeline.Configuration.Setup
import PulseTimeline.Decimal.Binary64
import PulseTimeline.Decimal.Integer
import PulseTimeline.Decimal.Layout
import PulseTimeline.Decimal.Reader
import PulseTimeline.Decimal.Shortest
import PulseTimeline.Environment
import PulseTimeline.Expression.Basic
import PulseTimeline.Expression.Calculate
import PulseTimeline.Expression.Operator
import PulseTimeline.Json.Basic
import PulseTimeline.Json.Printer
import PulseTimeline.Json.Reader
import PulseTimeline.Json.Token
import PulseTimeline.Phase
import PulseTimeline.Program
import PulseTimeline.Proofs.Codec.Expression
import PulseTimeline.Proofs.Codec.Filing
import PulseTimeline.Proofs.Codec.Program
import PulseTimeline.Proofs.Codec.Records
import PulseTimeline.Proofs.Codec.Statement
import PulseTimeline.Proofs.Codec.Storage
import PulseTimeline.Proofs.Codec.Timeline
import PulseTimeline.Proofs.Computation
import PulseTimeline.Proofs.Configuration.Sharing
import PulseTimeline.Proofs.Decimal.Bits
import PulseTimeline.Proofs.Decimal.ReadBack
import PulseTimeline.Proofs.Decimal.Reading
import PulseTimeline.Proofs.Decimal.Rounding
import PulseTimeline.Proofs.Decimal.Shortest
import PulseTimeline.Proofs.Environment.Access
import PulseTimeline.Proofs.Environment.Declarations
import PulseTimeline.Proofs.Environment.Writes
import PulseTimeline.Proofs.Expression.Errors
import PulseTimeline.Proofs.Expression.Integers
import PulseTimeline.Proofs.Expression.Types
import PulseTimeline.Proofs.Json.Lexing
import PulseTimeline.Proofs.Json.Parsing
import PulseTimeline.Proofs.Json.Parts
import PulseTimeline.Proofs.Json.Presentation
import PulseTimeline.Proofs.Random.Streams
import PulseTimeline.Proofs.RawTree.Declarations
import PulseTimeline.Proofs.RawTree.Grammar
import PulseTimeline.Proofs.RawTree.Literals
import PulseTimeline.Proofs.RawTree.Location
import PulseTimeline.Proofs.RawTree.Nodes
import PulseTimeline.Proofs.RawTree.Records
import PulseTimeline.Proofs.RawTree.RoundTrip
import PulseTimeline.Proofs.RawTree.Spelling
import PulseTimeline.Proofs.RawTree.Strictness
import PulseTimeline.Proofs.Run.Commutation
import PulseTimeline.Proofs.Run.Conformance
import PulseTimeline.Proofs.Run.Durations
import PulseTimeline.Proofs.Run.Effects
import PulseTimeline.Proofs.Run.Errors
import PulseTimeline.Proofs.Run.Expansion
import PulseTimeline.Proofs.Run.Frame
import PulseTimeline.Proofs.Run.HandOff
import PulseTimeline.Proofs.Run.History
import PulseTimeline.Proofs.Run.Independence
import PulseTimeline.Proofs.Run.Limits
import PulseTimeline.Proofs.Run.Literals
import PulseTimeline.Proofs.Run.Loops
import PulseTimeline.Proofs.Run.Origins
import PulseTimeline.Proofs.Run.Phases
import PulseTimeline.Proofs.Run.Playing
import PulseTimeline.Proofs.Run.Reading
import PulseTimeline.Proofs.Run.Seeds
import PulseTimeline.Proofs.Run.Simulation
import PulseTimeline.Proofs.Run.StaticTypes
import PulseTimeline.Proofs.Run.Steps
import PulseTimeline.Proofs.Run.Streams
import PulseTimeline.Proofs.Run.Synchrony
import PulseTimeline.Proofs.Run.Variables
import PulseTimeline.Proofs.Simulation
import PulseTimeline.Proofs.Statement.Effects
import PulseTimeline.Proofs.Statement.Headers
import PulseTimeline.Proofs.Statement.Layout
import PulseTimeline.Proofs.Statement.Projection
import PulseTimeline.Proofs.Statement.Thinning
import PulseTimeline.Proofs.Statement.Words
import PulseTimeline.Proofs.Store.Access
import PulseTimeline.Proofs.Store.Agreement
import PulseTimeline.Proofs.Store.Alignment
import PulseTimeline.Proofs.Store.Errors
import PulseTimeline.Proofs.Store.Exactness
import PulseTimeline.Proofs.Store.Footprint
import PulseTimeline.Proofs.Store.Soundness
import PulseTimeline.Proofs.Store.Steps
import PulseTimeline.Proofs.Syntax
import PulseTimeline.Proofs.Text.Lines
import PulseTimeline.Proofs.Timeline.Calls
import PulseTimeline.Proofs.Timeline.Duration
import PulseTimeline.Proofs.Timeline.Instructions
import PulseTimeline.Proofs.Timeline.Phase
import PulseTimeline.Proofs.Timeline.Records
import PulseTimeline.Proofs.Timeline.Representation
import PulseTimeline.Proofs.Timeline.Totals
import PulseTimeline.Proofs.Value.Integers
import PulseTimeline.Proofs.Value.Text
import PulseTimeline.Proofs.Waveform.Constants
import PulseTimeline.Proofs.Waveform.Meaning
import PulseTimeline.Proofs.Waveform.Points
import PulseTimeline.Proofs.Waveform.Resolution
import PulseTimeline.Random.KeyStream
import PulseTimeline.Random.Pool
import PulseTimeline.RawTree.Error
import PulseTimeline.RawTree.Expression
import PulseTimeline.RawTree.Node
import PulseTimeline.RawTree.Program
import PulseTimeline.RawTree.Statement
import PulseTimeline.Run.Builtin
import PulseTimeline.Run.Error
import PulseTimeline.Run.Evaluate
import PulseTimeline.Run.Execute
import PulseTimeline.Run.State
import PulseTimeline.Sorted
import PulseTimeline.Statement.Basic
import PulseTimeline.Statement.Render
import PulseTimeline.Table
import PulseTimeline.Text.Blank
import PulseTimeline.Text.Hidden
import PulseTimeline.Text.Quoted
import PulseTimeline.Timeline.Basic
import PulseTimeline.Timeline.Instruction
import PulseTimeline.Timeline.Store
import PulseTimeline.Value.Basic
import PulseTimeline.Value.Literal
import PulseTimeline.Waveform.Resolve
import PulseTimeline.Waveform.Samples
