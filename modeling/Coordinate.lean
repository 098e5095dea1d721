import Coordinate.Model.Transitions
import Coordinate.Soundness.AgentReport
import Coordinate.Soundness.Bindings
import Coordinate.Soundness.CapacityCatalog
import Coordinate.Soundness.ChannelCursor
import Coordinate.Soundness.ChannelLedger
import Coordinate.Soundness.ChecklistBoundaries
import Coordinate.Soundness.ChecklistLoader
import Coordinate.Soundness.ChecklistLock
import Coordinate.Soundness.ChecklistWriters
import Coordinate.Soundness.CapacityBound
import Coordinate.Soundness.ClaimRequests
import Coordinate.Soundness.JobLifecycle
import Coordinate.Soundness.ClaimSelection
import Coordinate.Soundness.Coherence
import Coordinate.Soundness.CursorCodec
import Coordinate.Soundness.DeactivationChain
import Coordinate.Soundness.Dependencies
import Coordinate.Soundness.DependencyLaw
import Coordinate.Soundness.DiscordRendering
import Coordinate.Soundness.EventPresentation
import Coordinate.Soundness.EventPump
import Coordinate.Soundness.Fencing
import Coordinate.Soundness.HarnessCommands
import Coordinate.Soundness.IssueTriage
import Coordinate.Soundness.JobRetry
import Coordinate.Soundness.MergeGate
import Coordinate.Soundness.MirrorReconcile
import Coordinate.Soundness.MutationAudit
import Coordinate.Soundness.PlanGate
import Coordinate.Soundness.Provisioning
import Coordinate.Soundness.ReceiptChain
import Coordinate.Soundness.ReceiptExpiry
import Coordinate.Soundness.ReceiptReaders
import Coordinate.Soundness.Reconcile
import Coordinate.Soundness.RegistryRoster
import Coordinate.Soundness.RegistrySync
import Coordinate.Soundness.RequestBody
import Coordinate.Soundness.RoutingCodec
import Coordinate.Soundness.RoutingSelection
import Coordinate.Soundness.Sending
import Coordinate.Soundness.TaskFingerprint
import Coordinate.Soundness.TerminalAuthority
import Coordinate.Soundness.TraceAttempts
import Coordinate.Soundness.TransitionHistory
import Coordinate.Soundness.UsageEvidence
import Coordinate.Soundness.WorkflowApproval
import Coordinate.Soundness.WorkflowOwnership
import Coordinate.Soundness.WorkflowTerminal
import Coordinate.Soundness.WorktreePaths
import Coordinate.Soundness.WorktreeRoots
