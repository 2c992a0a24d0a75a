import Civm.ActionsMetrics.Report
import Civm.ActiveRuns.Collect
import Civm.Boundary.Prepare
import Civm.JitDispatcher.PathOverlap
import Civm.JitDispatcher.Publication
import Civm.JitDispatcher.Guarantees
import Civm.JitDispatcher.OwnRemoval
import Civm.JitDispatcher.Pagination
import Civm.JitDispatcher.LogLines
import Civm.JitDispatcher.StdinPipe
import Civm.JitDispatcher.StrictJson
import Civm.Cleanup.Freshness
import Civm.SafeDelete.Remove
import Civm.Hook.Wrapper
import Civm.Maintenance.UnitNames
import Civm.DockerLock.LockExec
import Civm.Runner.Commands
import Civm.Runner.Fencing
import Civm.Runner.Redundancy
import Civm.Runner.Admission
import Civm.Runner.RerunOnce
import Civm.Runner.Stalls
import Civm.Runner.Cursors
import Civm.RunReaper.Supersession
import Civm.RunReaper.Progress
import Civm.DetectChanges.Coverage
import Civm.SelfUpgrade.Replacement
import Civm.Bootstrap.Fingerprint
import Civm.HookInstall.Script
import Civm.HookInstall.Upsert
import Civm.JobHook.Signal
import Civm.JobHook.Scopes
import Civm.Admit.Recovery
import Civm.CiGuard.Waivers
import Civm.PrQueue.Fifo
import Civm.Procstat.StartTicks
