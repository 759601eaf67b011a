import BusyBeaver.Lib.Transition
import BusyBeaver.Lib.Pool
import BusyBeaver.Execution.State
import BusyBeaver.Execution.Core
import BusyBeaver.Execution.Calls
import BusyBeaver.Execution.Contract
import BusyBeaver.Lane.State
import BusyBeaver.Lane.Invariant
import BusyBeaver.Lane.Run
import BusyBeaver.Executor.State
import BusyBeaver.Executor.Moves
import BusyBeaver.Executor.View
import BusyBeaver.Executor.Registry
import BusyBeaver.Executor.Events
import BusyBeaver.Executor.Rollback
import BusyBeaver.Capacity.Sleepers
import BusyBeaver.Slot.Strict
import BusyBeaver.Supervision.Children
import BusyBeaver.Supervision.Forced
import BusyBeaver.Supervision.Structured
import BusyBeaver.Lib.Select
import BusyBeaver.Join.State
import BusyBeaver.Join.Cycles
import BusyBeaver.Lane.Dispatches
import BusyBeaver.Lane.Order
import BusyBeaver.Executor.Lanes
import BusyBeaver.Executor.Sections
import BusyBeaver.Executor.Outstanding
import BusyBeaver.Executor.Cancel
import BusyBeaver.Executor.Closing
import BusyBeaver.Executor.Barrier
import BusyBeaver.Slot.Newest
import BusyBeaver.Slot.Rest
import BusyBeaver.Traffic.Fifo
import BusyBeaver.Traffic.Baton
import BusyBeaver.Traffic.Dispatcher
import BusyBeaver.Traffic.Returns
import BusyBeaver.Scope.State
import BusyBeaver.Scope.Moves
import BusyBeaver.Scope.View
import BusyBeaver.Scope.Generations
import BusyBeaver.Scope.Reserved
import BusyBeaver.Scope.Joins
import BusyBeaver.Scope.Tree
import BusyBeaver.Scope.Teardown
import BusyBeaver.Service.State
import BusyBeaver.Service.Moves
import BusyBeaver.Service.Stopped
import BusyBeaver.Service.Hook
import BusyBeaver.Service.Status
import BusyBeaver.Legacy.Dam
import BusyBeaver.Legacy.State
import BusyBeaver.Shutdown.Process
import BusyBeaver.Shutdown.State
import BusyBeaver.Shutdown.Moves
import BusyBeaver.Shutdown.Barrier
import BusyBeaver.Legacy.Worker
import BusyBeaver.Shutdown.Dams
import BusyBeaver.Lib.History
import BusyBeaver.Executor.Exits
import BusyBeaver.Shutdown.Audit
import BusyBeaver.Shutdown.Report
import BusyBeaver.Legacy.Calls
import BusyBeaver.Legacy.Ledger
import BusyBeaver.Legacy.Watermark
import BusyBeaver.Lib.Iter
import BusyBeaver.Retry.Delay
import BusyBeaver.Lib.Segments
import BusyBeaver.Range.State
import BusyBeaver.Range.Sweep
import BusyBeaver.Range.Compile
import BusyBeaver.Retry.Run
import BusyBeaver.Retry.Loop
import BusyBeaver.Supervision.Attempts
import BusyBeaver.Recurring.Run
import BusyBeaver.Recurring.Policies
import BusyBeaver.Lib.Grid
import BusyBeaver.Lib.Window
import BusyBeaver.Recurring.Passes
import BusyBeaver.Supervision.Ticks
import BusyBeaver.Supervision.Contexts
import BusyBeaver.Recurring.Counting
import BusyBeaver.Recurring.Rate
import BusyBeaver.Recurring.FixedRate
import BusyBeaver.Recurring.Missed
import BusyBeaver.Service.Restarts
import BusyBeaver.Recurring.Restarts
import BusyBeaver.Retry.Backoff
import BusyBeaver.Recurring.Sleeps
import BusyBeaver.Supervision.Limit
import BusyBeaver.Shutdown.Poison
import BusyBeaver.Legacy.Life
import BusyBeaver.Legacy.Verdicts
import BusyBeaver.Lib.Recency
import BusyBeaver.Registry.History
import BusyBeaver.Shutdown.Seal
import BusyBeaver.Shutdown.Complete
import BusyBeaver.Lib.Guards
import BusyBeaver.Admission.Calls
import BusyBeaver.Admission.Drops
import BusyBeaver.Lib.KeyedQueue
import BusyBeaver.Lane.Refines
import BusyBeaver.Lane.Accounts
import BusyBeaver.Lane.Stats
import BusyBeaver.Registry.Sweeps
import BusyBeaver.Registry.Lifetime
import BusyBeaver.Lib.Broadcast
import BusyBeaver.Registry.Streams
import BusyBeaver.Lib.WeakTable
import BusyBeaver.Registry.Directory
import BusyBeaver.Lib.Watch
import BusyBeaver.Registry.Resume
import BusyBeaver.Supervision.Cleanup
import BusyBeaver.Lib.Progress
import BusyBeaver.Executor.Drains
