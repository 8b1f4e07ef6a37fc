-- SUMMARY: The scheduler's two sweeps as one thread: list, set pending, persist, publish.
import NotificationPipeline.App.World

/-!
# The scheduler's sweeps

`processScheduled` and `recoverStuck` of `internal/app/scheduler.go` differ only in the query
that lists their rows, so they are one thread with the query as a parameter. For each listed
row the sweep sets `pending`, persists it with `UpdateStatus`, and only when that succeeded
publishes it; a failed publish is logged and the row is not listed again by either query.
-/

namespace App

open Domain Uuid Postgres Queue

/-- The two sweeps of a scheduler tick. -/
inductive Sweep
  /-- `processScheduled`. -/
  | dueScheduled
  /-- `recoverStuck`. -/
  | stuckProcessing
deriving DecidableEq, Repr

/-- The stuck threshold, five minutes. -/
def stuckThreshold : Nat := 5 * 60 * 1000000

/-- The query of each sweep. -/
def Sweep.list : Sweep → Store → Instant → List Notification
  | .dueScheduled, s, now => NotificationRepo.listDueScheduled s 100 now
  | .stuckProcessing, s, now => NotificationRepo.listStuckProcessing s stuckThreshold 50 now

/-- The status each sweep's query selects. -/
def Sweep.status : Sweep → Status
  | .dueScheduled => .scheduled
  | .stuckProcessing => .processing

/-- A sweep lists stored rows in the status its query selects. -/
theorem Sweep.mem_list {k : Sweep} {s : Store} {now : Instant} {n : Notification}
    (h : n ∈ k.list s now) : n ∈ s.notifications ∧ n.status = k.status := by
  cases k
  · exact ⟨(NotificationRepo.mem_listDueScheduled h).1, (NotificationRepo.mem_listDueScheduled h).2.1⟩
  · exact ⟨(NotificationRepo.mem_listStuckProcessing h).1,
      (NotificationRepo.mem_listStuckProcessing h).2.1⟩

/-- A sweep lists each row at most once. -/
theorem Sweep.nodup_list (k : Sweep) {s : Store} (now : Instant)
    (hs : (s.notifications.map (·.id)).Nodup) : ((k.list s now).map (·.id)).Nodup := by
  cases k <;> simp only [Sweep.list, NotificationRepo.listDueScheduled,
    NotificationRepo.listStuckProcessing, List.map_take] <;>
    exact (((List.perm_insertionSort _ _).map _).nodup_iff.2
      (hs.sublist ((List.filter_sublist _).map _))).sublist (List.take_sublist _ _)

/-- The program points of a sweep. -/
inductive SweepPc
  | start
  /-- Working through the listed rows. -/
  | looping (rest : List Notification)
  /-- `n` is persisted as pending; `Enqueue` comes next. -/
  | enqueuing (n : Notification) (rest : List Notification)
  | done
deriving DecidableEq, Repr

/-- A listed row reset to pending, as the loop body sets it. -/
def resetPending (n : Notification) (now : Instant) : Notification :=
  { n with status := .pending, updatedAt := now }

@[simp] theorem status_resetPending (n : Notification) (now : Instant) :
    (resetPending n now).status = .pending := rfl

@[simp] theorem fixed_resetPending (n : Notification) (now : Instant) :
    (resetPending n now).fixed = n.fixed := rfl

/-- One step of a sweep. -/
inductive SweepStep (m : Mode) (k : Sweep) : SweepPc → World → SweepPc → World → Prop
  | list {w : World} : SweepStep m k .start w (.looping (k.list w.store w.now)) w
  | listFault {w : World} (hf : m.storeFaults) : SweepStep m k .start w .done w
  | update {w : World} {n : Notification} {rest : List Notification} :
      SweepStep m k (.looping (n :: rest)) w (.enqueuing (resetPending n w.now) rest)
        { w with store := NotificationRepo.updateStatus w.store (resetPending n w.now) }
  /-- A failed `UpdateStatus` skips the row (`continue`). -/
  | updateFault {w : World} {n : Notification} {rest : List Notification} (hf : m.storeFaults) :
      SweepStep m k (.looping (n :: rest)) w (.looping rest) w
  | finish {w : World} : SweepStep m k (.looping []) w .done w
  | enqueue {w : World} {n : Notification} {rest : List Notification} {msg : Message}
      (h : Producer.message n w.now = .ok msg) :
      SweepStep m k (.enqueuing n rest) w (.looping rest) { w with log := w.log ++ [msg] }
  /-- `Enqueue` failed; the error is only logged. -/
  | enqueueError {w : World} {n : Notification} {rest : List Notification} {e : GoError}
      (h : Producer.message n w.now = .error e) :
      SweepStep m k (.enqueuing n rest) w (.looping rest) w
  | enqueueFault {w : World} {n : Notification} {rest : List Notification}
      (hf : m.publishFaults) : SweepStep m k (.enqueuing n rest) w (.looping rest) w

end App
