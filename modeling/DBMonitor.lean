import DBMonitor.Library.Cursor
import DBMonitor.Library.ObjectArray
import DBMonitor.Library.Transition
import DBMonitor.Library.Fairness
import DBMonitor.Library.Locks
import DBMonitor.Library.Memory
import DBMonitor.Model.Configuration
import DBMonitor.Model.LogEntry
import DBMonitor.Model.Document
import DBMonitor.Model.Section
import DBMonitor.Log.Effects
import DBMonitor.Log.Steps
import DBMonitor.Log.Keys
import DBMonitor.Log.Selection
import DBMonitor.Log.PollCycle
import DBMonitor.Log.FailedFetch
import DBMonitor.Log.Tracking
import DBMonitor.Log.Isolation
import DBMonitor.World.Moves
import DBMonitor.World.Arrival
import DBMonitor.World.Window
import DBMonitor.World.Drift
import DBMonitor.World.KillRow
import DBMonitor.World.OpenDialogs
import DBMonitor.World.PollChains
import DBMonitor.World.RefreshChains
import DBMonitor.World.Monitoring
import DBMonitor.World.Liveness
import DBMonitor.World.Sheet
import DBMonitor.World.Ended
import DBMonitor.World.Collected
import DBMonitor.World.Overlap
import DBMonitor.World.Reported
import DBMonitor.World.Reconcile
import DBMonitor.World.Kill
import DBMonitor.World.Presses
import DBMonitor.World.Unmonitored
import DBMonitor.Log.DeadFlag
import DBMonitor.World.DeadFlag
import DBMonitor.Log.Ownership
import DBMonitor.Log.Lifetime
import DBMonitor.Log.Marking
import DBMonitor.Log.Retention
import DBMonitor.Log.Replication
import DBMonitor.Log.Threshold
import DBMonitor.Client.StatusParsing
import DBMonitor.Detail.Rows
import DBMonitor.Detail.Statistics
import DBMonitor.Detail.Countdown
import DBMonitor.Detail.Rates
import DBMonitor.Library.WeakestPre
import DBMonitor.Library.Heap
import DBMonitor.Model.Client
import DBMonitor.Model.SlavePanel
import DBMonitor.Client.Failures
import DBMonitor.Client.SlavePanel
import DBMonitor.Client.Simulation
import DBMonitor.Model.Fetch
import DBMonitor.Client.Fetch
import DBMonitor.Client.ProcessList
import DBMonitor.Model.FetchHeap
import DBMonitor.Client.FetchHeap
import DBMonitor.Model.Locking
import DBMonitor.World.Races
import DBMonitor.Model.StatusTable
import DBMonitor.World.Desk
