import SceneEngine.Engine.Basic
import SceneEngine.LiveLink.Rehearsal
import SceneEngine.Script.Errors
import SceneEngine.Script.Hook
import SceneEngine.Script.Mail
import SceneEngine.Script.Shading
import SceneEngine.Proofs.Ordered.Collections
import SceneEngine.Proofs.TopologicalOrder
import SceneEngine.Proofs.TopologicalOrder.Completion
import SceneEngine.Proofs.TopologicalOrder.CycleReport
import SceneEngine.Proofs.TopologicalOrder.Ties
import SceneEngine.Proofs.Store.Run
import SceneEngine.Proofs.Store.Delivery
import SceneEngine.Proofs.Store.Replay
import SceneEngine.Proofs.Store.Announcing
import SceneEngine.Proofs.Store.Matching
import SceneEngine.Proofs.Store.History
import SceneEngine.Proofs.Store.Stamps
import SceneEngine.Proofs.Store.Diffs
import SceneEngine.Proofs.Store.Sameness
import SceneEngine.Proofs.Store.Remembering
import SceneEngine.Proofs.Store.Groups
import SceneEngine.Proofs.Store.Singletons
import SceneEngine.Proofs.Store.Isolation
import SceneEngine.Proofs.Store.Systems
import SceneEngine.Proofs.Store.PackedSets
import SceneEngine.Proofs.Store.QueryIdentity
import SceneEngine.Proofs.Store.Slots
import SceneEngine.Proofs.LiveLink.InboxDelivery
import SceneEngine.Proofs.LiveLink.Ledger
import SceneEngine.Proofs.LiveLink.Polling
import SceneEngine.Proofs.LiveLink.GateWarnings
import SceneEngine.Proofs.Shading.Validation
import SceneEngine.Proofs.Shading.LinkOrder
import SceneEngine.Proofs.Shading.SingleAssignment
import SceneEngine.Proofs.Shading.DeclaredNames
import SceneEngine.Proofs.Shading.Failures
import SceneEngine.Proofs.Shading.FrameHooks
import SceneEngine.Proofs.Shading.Hygiene
import SceneEngine.Proofs.Shading.NormalNames
import SceneEngine.Proofs.Shading.Filling
import SceneEngine.Proofs.Engine.Reaching
