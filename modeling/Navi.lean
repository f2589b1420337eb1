import Navi.EffectJournal
import Navi.Delivery.Attempts
import Navi.Approvals.Resolve
import Navi.Loop.Leases
import Navi.Lifecycle.Saga
import Navi.Lifecycle.Control
import Navi.Lifecycle.ExternalWaits
import Navi.Lifecycle.LateResume
import Navi.Lifecycle.ResultRecovery
import Navi.StateGraph.Requests
import Navi.StateGraph.PlannedStep
import Navi.StateGraph.RecordedStep
import Navi.StateGraph.RetryPauses
import Navi.StateGraph.CrashedEvaluation
import Navi.StateGraph.ApprovalWaits
import Navi.Workspaces.Merge
import Navi.Workspaces.Rollback
import Navi.StateGraph.Published
import Navi.Approvals.EndedRuns
import Navi.Approvals.RejectedLoops
import Navi.Delivery.OwnLoops
import Navi.Delivery.Projections
import Navi.Delivery.Notifications
import Navi.StateGraph.RetrySweep
import Navi.StateGraph.Attempts
import Navi.Capabilities.HandlerFailures
import Navi.Capabilities.Fingerprint
import Navi.Capabilities.SingleUse
import Navi.Approvals.Codes
import Navi.Goals.Evidence
import Navi.Goals.Admission
import Navi.Goals.Occurrences
import Navi.Goals.Templates
import Navi.Goals.Ended
import Navi.Goals.ChildPolicy
import Navi.Resources.Gateway
import Navi.Workspaces.Locks
import Navi.Goals.Updating
import Navi.Goals.Envelope
import Navi.Workspaces.Disposal
import Navi.Loop.Specification
import Navi.Goals.Inheritance
import Navi.Trace.LastDecision
import Navi.Memory.MessageIndex
import Navi.Memory.MessageSearch
import Navi.Trace.Lossless
import Navi.Trace.CreditOnce
import Navi.Evolution.RollbackLaws
import Navi.Memory.Constraints
import Navi.Memory.ParameterRollback
import Navi.Memory.ConflictLinks
import Navi.Memory.LifecycleTable
import Navi.Memory.CaseOnce
import Navi.Evolution.Endorsement
import Navi.Evolution.StatusTells
import Navi.Evolution.RollbackOrder
import Navi.Evolution.RestoredTargets
import Navi.Weixin.Sessions
import Navi.Connectors.IngressDedup
import Navi.SelfPlay.Growth
import Navi.Identity.Chains
import Navi.Personal.Linear
import Navi.Sandbox.View
import Navi.Base.Overlays
import Navi.Graph.Store
import Navi.Graph.Upserts
import Navi.Memory.SemanticGraph
import Navi.Memory.GraphSync
import Navi.Memory.GraphMirror
import Navi.Goals.OccurrenceView
import Navi.Goals.CronTimes
import Navi.Weixin.SplitText
import Navi.Trace.ReplayBuffer
import Navi.Memory.Decay
import Navi.Memory.Collection
import Navi.Memory.Recall
import Navi.Memory.Tuning
import Navi.Base.Precedence
import Navi.Evolution.SkillStore
import Navi.Evolution.SkillNames
import Navi.Schema.Validator
import Navi.Syscalls.Normalize
import Navi.Syscalls.Conservative
import Navi.Base.Texts
import Navi.Provider.ServerEvents
import Navi.Provider.EventDecoding
import Navi.Goals.Compaction
import Navi.StateGraph.Checker
import Navi.StateGraph.Earned
