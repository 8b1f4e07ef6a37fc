-- SUMMARY: The world the processes share (store, log, offsets, clock) and the modes of the environment.
import NotificationPipeline.Adapter.Postgres
import NotificationPipeline.Adapter.Queue

/-!
# The shared world

What the intake and worker processes share: the store, the log with the consumer group's
committed offsets, and the clock. Two further fields record what the external collaborators
were asked to do — the provider calls and the status broadcasts — so that statements about
"no provider call" can be made; no code reads them.

A `Mode` says what the environment may do besides running the code: whether a repository
or idempotency-store call may fail, whether a log write may fail, and whether operations may
interleave. The deployed system allows all three. `Pipeline.pending_row_covered` holds when log
writes do not fail; `Pipeline.Reachable.counters_not_behind` and `Http.cancel_endpoint` when
repository calls do not fail; and `Pipeline.status_change_edge` when, besides, operations run
one at a time.
-/

namespace App

open Domain Uuid Postgres Queue

/-- The shared state of a run. -/
structure World where
  store : Store
  /-- Every message ever written, in write order; a message's offset is its index. -/
  log : List Message
  /-- The offsets the consumer group has committed. -/
  committed : List Nat
  now : Instant
  /-- The notifications handed to `DeliveryProvider.Send`, by id, in call order. -/
  sends : List UUID
  /-- The status broadcasts, in order. -/
  broadcasts : List (UUID × Status)
deriving Repr

/-- Empty tables, an empty log, time zero. -/
def World.init : World := ⟨Store.empty, [], [], 0, [], []⟩

/-- The environment's freedom in a run. -/
structure Mode where
  /-- A repository or idempotency-store call may return an error (and then changes nothing). -/
  storeFaults : Bool
  /-- A log write may return an error (and then writes nothing). -/
  publishFaults : Bool
  /-- Each operation runs to its end before the next one starts. -/
  atomic : Bool
deriving DecidableEq, Repr

/-- The deployed system: every call may fail and operations interleave. -/
def Mode.deployed : Mode := ⟨true, true, false⟩

/-- One operation at a time, and every repository and log call succeeds. -/
def Mode.serial : Mode := ⟨false, false, true⟩

/-- `DeliveryProvider.Send`'s response (`port.ProviderResponse`). -/
structure ProviderResponse where
  messageId : String
  status : String
  timestamp : String
deriving DecidableEq, Repr

end App
