import Secp.Python.Text
import Secp.Python.Sha256
import Secp.Python.Base64
import Secp.Python.Ipaddress
import Secp.Python.IpaddressText
import Secp.Python.Collections
import Secp.Python.Json
import Secp.Python.Payload
import Secp.Python.Reordered
import Secp.Python.Datetime
import Secp.Python.Isoformat
import Secp.Python.JsonText
import Secp.Python.JsonSize
import Secp.Python.JsonLoads
import Secp.Python.Re
import Secp.Python.Separated
import Secp.Logic.Walk
import Secp.Logic.FirstMatch
import Secp.Logic.StateExcept
import Secp.Logic.Related
import Secp.Logic.Run
import Secp.Logic.Pages
import Secp.Logic.Log
import Secp.Logic.Fence
import Secp.Proxmox.Model
import Secp.Proxmox.Ipam
import Secp.Proxmox.IpamLemmas
import Secp.Proxmox.Exclusivity
import Secp.Proxmox.Network
import Secp.Proxmox.NetworkLemmas
import Secp.Proxmox.NetworkSpec
import Secp.Proxmox.FirewallSpec
import Secp.Proxmox.Evaluation
import Secp.Proxmox.Isolation
import Secp.Proxmox.OutboundPolicy
import Secp.Proxmox.Workload
import Secp.Proxmox.IsolationVerdict
import Secp.Proxmox.Stability
import Secp.Proxmox.Recompile
import Secp.Proxmox.Manifest
import Secp.Proxmox.Tamper
import Secp.Proxmox.ManifestReader
import Secp.Proxmox.ManifestRoundTrip
import Secp.Proxmox.Lifecycle
import Secp.Proxmox.Records
import Secp.Proxmox.ObjectNames
import Secp.Proxmox.Rediscovery
import Secp.Proxmox.Separation
import Secp.Proxmox.Placement
import Secp.Proxmox.Guests
import Secp.Proxmox.WellPlaced
import Secp.Proxmox.Readiness
import Secp.Proxmox.ManagementPlane
import Secp.Proxmox.StateKeys
import Secp.Worker.Reset
import Secp.Worker.Observation
import Secp.Worker.Residue
import Secp.Worker.Teardown
import Secp.Worker.Release
import Secp.Worker.Retry
import Secp.Worker.Verification
import Secp.Worker.Reachability
import Secp.Worker.Probed
import Secp.Worker.Reconcile
import Secp.Worker.Hcl
import Secp.Worker.Bundle
import Secp.Worker.BundleBindings
import Secp.Worker.RenderOrder
import Secp.Reconciliation.State
import Secp.Reconciliation.Planner
import Secp.Reconciliation.Execution
import Secp.Reconciliation.Drift
import Secp.Reconciliation.EdgeRefs
import Secp.Reconciliation.Simulation
import Secp.Reconciliation.Actions
import Secp.Reconciliation.Convergence
import Secp.Reconciliation.Authorization
import Secp.Reconciliation.Identity
import Secp.Reconciliation.Classification
import Secp.Reconciliation.Coverage
import Secp.Range.Model
import Secp.Range.Service
import Secp.Range.Execution
import Secp.Range.Destroy
import Secp.Range.Lifecycle
import Secp.Range.Play
import Secp.Range.Interleaving
import Secp.Range.Objects
import Secp.Range.Attempts
import Secp.Commands.Keys
import Secp.Commands.OneShot
import Secp.Commands.Paths
import Secp.Commands.Versions
import Secp.Enrollment.Scan
import Secp.Enrollment.Contract
import Secp.Enrollment.Transitions
import Secp.Enrollment.Safety
import Secp.Enrollment.Repository
import Secp.Enrollment.Records
import Secp.Enrollment.Tables
import Secp.Enrollment.Writes
import Secp.Enrollment.Snapshots
import Secp.Enrollment.Service
import Secp.Enrollment.Requests
import Secp.Enrollment.Redelivery
import Secp.Enrollment.Moves
import Secp.Enrollment.Attestation
import Secp.Enrollment.Exchange
import Secp.Enrollment.Offers
import Secp.Enrollment.Evidence
import Secp.Enrollment.Projection
import Secp.Enrollment.Fitting
import Secp.Enrollment.Handshake
import Secp.Enrollment.Replay
import Secp.Enrollment.Readback
import Secp.Enrollment.Inventory
import Secp.Enrollment.Cursors
import Secp.Enrollment.Reach
import Secp.Scenario.Simulator
import Secp.Scenario.Reconcilable
import Secp.Scenario.Addressing
import Secp.Leases.Resolution
import Secp.Leases.Exclusion
import Secp.Leases.PlanExecution
import Secp.Leases.Recovery
import Secp.Leases.Executions
import Secp.Leases.Budget
import Secp.Worker.BundleStructure
import Secp.Worker.Addresses
import Secp.Worker.Labels
import Secp.Worker.OwnershipTags
import Secp.Worker.VerifiedRange
import Secp.Leases.Refusals
import Secp.Worker.DeletionBounds
import Secp.Worker.Gates
import Secp.Worker.Bootstrap
import Secp.Worker.ResetPlan
import Secp.Worker.RenderScan
import Secp.Worker.PlanJson
import Secp.Worker.SecretFree
import Secp.Worker.Fingerprint
import Secp.Range.Standings
import Secp.Range.Histories
import Secp.Proxmox.Bands
import Secp.Proxmox.Room
import Secp.Proxmox.Naming
import Secp.Proxmox.Compiling
import Secp.Proxmox.FirewallObjects
import Secp.Proxmox.Answering
