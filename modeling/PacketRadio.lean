import PacketRadio.Adapter.Attribute
import PacketRadio.Adapter.AttributeId
import PacketRadio.Adapter.Basic
import PacketRadio.Adapter.Config
import PacketRadio.Adapter.Descriptor
import PacketRadio.Adapter.InFlight
import PacketRadio.Adapter.Lifecycle
import PacketRadio.Adapter.Multicast
import PacketRadio.Address
import PacketRadio.Driver.Activity
import PacketRadio.Driver.Context
import PacketRadio.Driver.Load
import PacketRadio.Driver.Request
import PacketRadio.Driver.SlotTable
import PacketRadio.Driver.Teardown
import PacketRadio.Driver.Traffic
import PacketRadio.Error
import PacketRadio.Event
import PacketRadio.FlagSet
import PacketRadio.Handle
import PacketRadio.HostCall
import PacketRadio.Level
import PacketRadio.Outcome
import PacketRadio.Pool.Arena
import PacketRadio.Pool.Box
import PacketRadio.Pool.FreeList
import PacketRadio.Pool.Layout
import PacketRadio.Pool.Notice
import PacketRadio.Pool.Refusal
import PacketRadio.Pool.Tag
import PacketRadio.Rack
import PacketRadio.Scenario.Bench
import PacketRadio.Scenario.Objects
import PacketRadio.Scenario.Play
import PacketRadio.Scenario.Recipe
import PacketRadio.Scenario.Sample
import PacketRadio.Scenario.Snapshot
import PacketRadio.Scenario.Step
import PacketRadio.Severity
import PacketRadio.Status
import PacketRadio.Text.Glyph
import PacketRadio.Text.Numeral
import PacketRadio.Text.Shape
import PacketRadio.Proofs.Pool.Coverage
import PacketRadio.Proofs.Pool.FreeList
import PacketRadio.Proofs.Pool.Calls
import PacketRadio.Proofs.Pool.Tiling
import PacketRadio.Proofs.Adapter.Changes
import PacketRadio.Proofs.Driver.SlotTable
import PacketRadio.Proofs.Adapter.Operations
import PacketRadio.Proofs.Driver.Errands
import PacketRadio.Proofs.Driver.Lifespan
import PacketRadio.Proofs.Driver.Runs
import PacketRadio.Proofs.Driver.Steps
import PacketRadio.Proofs.Driver.Identity
import PacketRadio.Proofs.Driver.Sends
import PacketRadio.Proofs.Driver.Tenancy
import PacketRadio.Proofs.Driver.Teardown
import PacketRadio.Proofs.Driver.Conservation
import PacketRadio.Proofs.Adapter.Pauses
import PacketRadio.Proofs.Driver.Pauses
import PacketRadio.Proofs.Pool.Restoration
import PacketRadio.Proofs.Driver.Activity
import PacketRadio.Proofs.Driver.Reachable
import PacketRadio.Proofs.Driver.Decision
import PacketRadio.Proofs.Driver.Blocks
import PacketRadio.Proofs.Driver.Farewell
import PacketRadio.Proofs.Pool.Estate
import PacketRadio.Proofs.Pool.Custody
import PacketRadio.Proofs.Pool.Upkeep
import PacketRadio.Proofs.Pool.Ledger
import PacketRadio.Proofs.Pool.Ownership
import PacketRadio.Proofs.Driver.Confined
import PacketRadio.Proofs.Driver.Handles
import PacketRadio.Proofs.Driver.Registration
import PacketRadio.Proofs.Driver.Role
import PacketRadio.Proofs.Driver.Succession
import PacketRadio.Proofs.Adapter.Lifecycle
import PacketRadio.Proofs.Driver.Refusals
import PacketRadio.Proofs.Driver.Voices
import PacketRadio.Proofs.Driver.Receives
import PacketRadio.Proofs.Pool.Returns
import PacketRadio.Proofs.Driver.Isolation
import PacketRadio.Proofs.Driver.Interleaving
import PacketRadio.Proofs.Driver.Loading
import PacketRadio.Proofs.Adapter.Encoding
import PacketRadio.Proofs.Adapter.Settings
import PacketRadio.Proofs.Adapter.ReadBack
import PacketRadio.Proofs.Pool.Inventory
import PacketRadio.Proofs.Pool.Renewal
import PacketRadio.Proofs.Adapter.Answers
import PacketRadio.Proofs.Adapter.Verdicts
import PacketRadio.Proofs.Driver.Halting
import PacketRadio.Proofs.Pool.Waiting
import PacketRadio.Proofs.Pool.Construction
import PacketRadio.Proofs.Adapter.Counts
import PacketRadio.Proofs.Driver.Batches
import PacketRadio.Proofs.Driver.Descriptors
import PacketRadio.Proofs.Callsigns
import PacketRadio.Proofs.Walk
import PacketRadio.Proofs.Adapter.Course
import PacketRadio.Proofs.Adapter.Holdings
import PacketRadio.Proofs.Adapter.Groups
