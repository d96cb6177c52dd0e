import IpmiFeature.Interaction.Blocks
import IpmiFeature.Interaction.Logic
import IpmiFeature.Interaction.Run
import IpmiFeature.Interaction.Layers
import IpmiFeature.Interaction.Interleave
import IpmiFeature.Generic.Link
import IpmiFeature.Kcs.Send
import IpmiFeature.Kcs.Receive
import IpmiFeature.Kcs.Bounds
import IpmiFeature.Kcs.Delivery
import IpmiFeature.Kcs.Writes
import IpmiFeature.Kcs.Commands
import IpmiFeature.Kcs.Recovery
import IpmiFeature.Kcs.ErrorExit
import IpmiFeature.Ssif.Send
import IpmiFeature.Ssif.Receive
import IpmiFeature.Ssif.Serving
import IpmiFeature.Ssif.TestBus
import IpmiFeature.Ssif.Commands
import IpmiFeature.Ssif.Bounds
import IpmiFeature.Generic.Framing
import IpmiFeature.Generic.Capacity
import IpmiFeature.Generic.Matching
import IpmiFeature.Generic.UpdateMode
import IpmiFeature.Initialize.Basic
import IpmiFeature.Generic.Status
import IpmiFeature.Generic.Answer
import IpmiFeature.Initialize.Trace
import IpmiFeature.Initialize.Bounds
import IpmiFeature.Initialize.SelfTest
import IpmiFeature.Generic.Frame
import IpmiFeature.Generic.Response
import IpmiFeature.Initialize.DeviceId
import IpmiFeature.BaseLib.Basic
import IpmiFeature.BootOption.Basic
import IpmiFeature.Mock.Handlers
import IpmiFeature.Mock.Basic
import IpmiFeature.BaseLib.Dxe
import IpmiFeature.BaseLib.Stack
import IpmiFeature.BaseLib.Phases
import IpmiFeature.Generic.Exchange
import IpmiFeature.Mock.Agreement
import IpmiFeature.Mock.Stack
import IpmiFeature.Mock.Clients
import IpmiFeature.Mock.Isolation
import IpmiFeature.Interaction.Sequence
import IpmiFeature.Mock.Answers
import IpmiFeature.CommandLib.Delivery
import IpmiFeature.CommandLib.SystemUuid
import IpmiFeature.SolStatus.Scan
import IpmiFeature.Watchdog.Basic
import IpmiFeature.Watchdog.Policy
import IpmiFeature.Watchdog.Failures
import IpmiFeature.Watchdog.ReadyToBoot
import IpmiFeature.Sel.History
import IpmiFeature.Sel.Clear
import IpmiFeature.Sel.Protocol
import IpmiFeature.Sel.Queries
import IpmiFeature.Sel.Interleaved
import IpmiFeature.Drivers.Publish
import IpmiFeature.Interaction.Layout
import IpmiFeature.Tables.Agreement
import IpmiFeature.Tables.Ssdt
import IpmiFeature.BootOption.Commands
import IpmiFeature.BootOption.Order
import IpmiFeature.BootOption.Remote
import IpmiFeature.BootOption.History
import IpmiFeature.BootOption.Repeat
import IpmiFeature.Initialize.Outcome
import IpmiFeature.Initialize.Commands
import IpmiFeature.Interaction.Traces
import IpmiFeature.Watchdog.Commands
import IpmiFeature.Drivers.Search
import IpmiFeature.Drivers.Instances
import IpmiFeature.Drivers.ColdStart
import IpmiFeature.Power.RestorePolicy
import IpmiFeature.Power.AcpiState
