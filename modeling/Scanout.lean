import Scanout.Backend.Fault
import Scanout.Backend.Frame
import Scanout.Backend.Interface
import Scanout.Backend.Rehearsal
import Scanout.Backend.Scripted
import Scanout.Buffer
import Scanout.Clock.Duration
import Scanout.Clock.HostTime
import Scanout.Decimal.Binary
import Scanout.Decimal.Fixed
import Scanout.Decimal.Plain
import Scanout.Decimal.Shortest
import Scanout.Device.Basic
import Scanout.Device.Callbacks
import Scanout.Device.Calls
import Scanout.Device.Layers
import Scanout.Device.Report
import Scanout.Display.Basic
import Scanout.Display.Call
import Scanout.Display.Config
import Scanout.Display.Edit
import Scanout.Display.Proposal
import Scanout.Display.Protocol
import Scanout.Display.Report
import Scanout.Display.Settings
import Scanout.Error
import Scanout.Fence.Basic
import Scanout.Fence.Deferred
import Scanout.Fence.Named
import Scanout.Fence.Trial
import Scanout.FrameLoop.Options
import Scanout.FrameLoop.Run
import Scanout.Geometry
import Scanout.Identity
import Scanout.Latched
import Scanout.Layer.Attributes
import Scanout.Layer.Basic
import Scanout.Layer.Stack
import Scanout.Main
import Scanout.Notice
import Scanout.Proofs.Device.Failure
import Scanout.Proofs.Device.Opened
import Scanout.Proofs.Device.Run
import Scanout.Proofs.Display.Acceptance
import Scanout.Proofs.Display.Changes
import Scanout.Proofs.Display.Commit
import Scanout.Proofs.Display.Creation
import Scanout.Proofs.Display.Dirty
import Scanout.Proofs.Display.Effects
import Scanout.Proofs.Display.Failure
import Scanout.Proofs.Display.History
import Scanout.Proofs.Display.Layers
import Scanout.Proofs.Display.Overrides
import Scanout.Proofs.Display.Proposals
import Scanout.Proofs.Display.Releases
import Scanout.Proofs.Display.Resend
import Scanout.Proofs.Display.Stacking
import Scanout.Proofs.Display.Targets
import Scanout.Proofs.Display.Turn
import Scanout.Proofs.Display.Unsupported
import Scanout.Proofs.Display.Validated
import Scanout.Proofs.Geometry.Equality
import Scanout.Proofs.Latched
import Scanout.Proofs.Session.Nesting
import Scanout.Proofs.Vsync.Nesting
import Scanout.Proofs.Vsync.Order
import Scanout.Proofs.Vsync.Stranded
import Scanout.Saturating
import Scanout.Session.Answer
import Scanout.Session.Command
import Scanout.Session.Machine
import Scanout.Session.State
import Scanout.Settings.Basic
import Scanout.Settings.Reader
import Scanout.Text.Hexadecimal
import Scanout.Text.Invisible
import Scanout.Text.Quoted
import Scanout.Toml.Document
import Scanout.Toml.Moment
import Scanout.Toml.Number
import Scanout.Toml.Scan
import Scanout.Toml.Text
import Scanout.Toml.Value
import Scanout.Trace.Event
import Scanout.Trace.Playback
import Scanout.Trace.Pretty
import Scanout.Trace.Recording
import Scanout.Trace.Sink
import Scanout.Vsync.Schedule
import Scanout.Vsync.Ticks
import Scanout.Vsync.Timer
import Scanout.Vsync.Trial
import Scanout.Proofs.Trace.Playback
import Scanout.Proofs.Vsync.Cadence
import Scanout.Proofs.Device.Pacing
import Scanout.Proofs.Device.Register
import Scanout.Proofs.Session.Register
import Scanout.Proofs.Vsync.Conservation
import Scanout.Proofs.Vsync.Retirement
import Scanout.Proofs.Vsync.Generations
import Scanout.Proofs.Display.Flagged
import Scanout.Proofs.Vsync.Standing
import Scanout.Proofs.Backend.Scripted
import Scanout.Proofs.Device.Attainable
import Scanout.Proofs.Device.Reported
import Scanout.Proofs.Display.Repeated
import Scanout.Proofs.Display.Settling
import Scanout.Proofs.Trace.Replica
import Scanout.Proofs.Session.Replica
import Scanout.Proofs.Backend.Outstanding
import Scanout.Proofs.Device.Selection
import Scanout.Proofs.Fence.Waiting
import Scanout.Proofs.Vsync.Stopping
import Scanout.Proofs.Latched.Family
import Scanout.Proofs.Device.Answered
import Scanout.Proofs.Display.Presenting
import Scanout.Proofs.Display.Decisions
import Scanout.Proofs.Display.Commuting
import Scanout.Proofs.Device.Commuting
import Scanout.Proofs.Vsync.CatchUp
import Scanout.Proofs.Display.Coalescing
import Scanout.Proofs.Trace.Respelling
import Scanout.Proofs.Display.Withheld
import Scanout.Proofs.Trace.Progress
import Scanout.Proofs.Vsync.Room
import Scanout.Proofs.Device.Opening
import Scanout.Proofs.Backend.Plain
import Scanout.Proofs.Display.Cast
import Scanout.Proofs.FrameLoop.Ready
import Scanout.Proofs.FrameLoop.Smooth
import Scanout.Proofs.Display.Shifts
