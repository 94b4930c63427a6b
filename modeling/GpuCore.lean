import GpuCore.Answer
import GpuCore.Calendar.Instant
import GpuCore.Calendar.Timestamp
import GpuCore.Display
import GpuCore.Display.Geometry
import GpuCore.Environment
import GpuCore.Event
import GpuCore.Fault
import GpuCore.Freeze.Record
import GpuCore.Gpu
import GpuCore.Gpu.Chain
import GpuCore.Gpu.Control
import GpuCore.Gpu.DataChannel
import GpuCore.Gpu.Drawing
import GpuCore.Gpu.Feeding
import GpuCore.Gpu.Freezing
import GpuCore.Gpu.Vsync
import GpuCore.Host
import GpuCore.Main
import GpuCore.Number.Decimal
import GpuCore.Number.Shortest
import GpuCore.Operation
import GpuCore.Pacing.Pacer
import GpuCore.Pacing.Rate
import GpuCore.Pacing.Run
import GpuCore.Pacing.Skip
import GpuCore.Packet.Assembler
import GpuCore.Packet.Length
import GpuCore.Packet.Slots
import GpuCore.Primitive.Attribute
import GpuCore.Primitive.Line
import GpuCore.Primitive.Polygon
import GpuCore.Primitive.Sprite
import GpuCore.Proofs.Alike.Control
import GpuCore.Proofs.Alike.DataChannel
import GpuCore.Proofs.Alike.Relation
import GpuCore.Proofs.Alike.Setup
import GpuCore.Proofs.Calendar.Timestamp
import GpuCore.Proofs.Chain.Circling
import GpuCore.Proofs.Chain.Path
import GpuCore.Proofs.Chain.Walk
import GpuCore.Proofs.Control.Frame
import GpuCore.Proofs.Control.Slots
import GpuCore.Proofs.DataChannel.Alignment
import GpuCore.Proofs.DataChannel.Chunking
import GpuCore.Proofs.DataChannel.Copy
import GpuCore.Proofs.DataChannel.Cursors
import GpuCore.Proofs.DataChannel.Download
import GpuCore.Proofs.DataChannel.Feeding
import GpuCore.Proofs.DataChannel.Fill
import GpuCore.Proofs.DataChannel.Frame
import GpuCore.Proofs.DataChannel.Invariant
import GpuCore.Proofs.DataChannel.Move
import GpuCore.Proofs.DataChannel.Packet
import GpuCore.Proofs.DataChannel.Placement
import GpuCore.Proofs.DataChannel.Reading
import GpuCore.Proofs.DataChannel.RoundTrip
import GpuCore.Proofs.DataChannel.Selection
import GpuCore.Proofs.DataChannel.Suspension
import GpuCore.Proofs.DataChannel.Upload
import GpuCore.Proofs.Display.Corner
import GpuCore.Proofs.Display.Exchange
import GpuCore.Proofs.Display.Holding
import GpuCore.Proofs.Display.Notice
import GpuCore.Proofs.Display.Output
import GpuCore.Proofs.Display.Staging
import GpuCore.Proofs.Freeze.Codec
import GpuCore.Proofs.Freeze.Forgetting
import GpuCore.Proofs.Freeze.Format
import GpuCore.Proofs.Freeze.Output
import GpuCore.Proofs.Freeze.Refusal
import GpuCore.Proofs.Freeze.Replay
import GpuCore.Proofs.Freeze.RoundTrip
import GpuCore.Proofs.Operation.Frame
import GpuCore.Proofs.Operation.Reachable
import GpuCore.Proofs.Operation.Stages
import GpuCore.Proofs.Pacing.Control
import GpuCore.Proofs.Pacing.DataChannel
import GpuCore.Proofs.Pacing.Equality
import GpuCore.Proofs.Pacing.Invisible
import GpuCore.Proofs.Pacing.Rate
import GpuCore.Proofs.Pacing.Schedule
import GpuCore.Proofs.Pacing.Skipping
import GpuCore.Proofs.Pacing.Wait
import GpuCore.Proofs.Packet.Grammar
import GpuCore.Proofs.Packet.Segmentation
import GpuCore.Proofs.Packet.Slots
import GpuCore.Proofs.Ports.ControlSide
import GpuCore.Proofs.Ports.DataSide
import GpuCore.Proofs.Ports.Interleaving
import GpuCore.Proofs.Ports.Join
import GpuCore.Proofs.Primitive.Decoding
import GpuCore.Proofs.Primitive.Line
import GpuCore.Proofs.Primitive.Polygon
import GpuCore.Proofs.Primitive.Slot
import GpuCore.Proofs.Primitive.Sprite
import GpuCore.Proofs.Session.Polling
import GpuCore.Proofs.Snapshot.Delimited
import GpuCore.Proofs.Snapshot.Heights
import GpuCore.Proofs.Snapshot.RoundTrip
import GpuCore.Proofs.Status.Bits
import GpuCore.Proofs.Status.Mirror
import GpuCore.Proofs.Status.Polling
import GpuCore.Proofs.Text.Decimal
import GpuCore.Proofs.Text.Fields
import GpuCore.Proofs.Text.Radix
import GpuCore.Proofs.Trace.Lines
import GpuCore.Proofs.Trace.Spelling
import GpuCore.Proofs.Vram.Access
import GpuCore.Proofs.Vram.Folding
import GpuCore.Proofs.Vram.Grid
import GpuCore.Proofs.Vram.History
import GpuCore.Proofs.Vram.Image
import GpuCore.Proofs.Vram.Imprint
import GpuCore.Proofs.Vram.Lasso
import GpuCore.Proofs.Vram.LoopDetector
import GpuCore.Proofs.Vram.Placed
import GpuCore.Proofs.Vram.Progress
import GpuCore.Proofs.Vram.Recurrence
import GpuCore.Proofs.Vram.SameImage
import GpuCore.Proofs.Vram.Stream
import GpuCore.Session
import GpuCore.Settings
import GpuCore.Settings.File
import GpuCore.Settings.FixList
import GpuCore.Snapshot.File
import GpuCore.Snapshot.Varint
import GpuCore.Status
import GpuCore.Text.Blank
import GpuCore.Text.Radix
import GpuCore.Text.Terminal
import GpuCore.Toml.DateTime
import GpuCore.Toml.Document
import GpuCore.Toml.Entry
import GpuCore.Toml.Layout
import GpuCore.Toml.Numeral
import GpuCore.Toml.Quoted
import GpuCore.Toml.Scalar
import GpuCore.Toml.Table
import GpuCore.Toml.Value
import GpuCore.Trace.Command
import GpuCore.Trace.Replay
import GpuCore.Trace.Report
import GpuCore.Vram.AddressHistory
import GpuCore.Vram.Area
import GpuCore.Vram.Cursor
import GpuCore.Vram.Memory
import GpuCore.Vram.Transfer
import GpuCore.Word
