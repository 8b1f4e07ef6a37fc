-- SUMMARY: handleDomainError and PATCH cancel: the Cancel thread's big-step meaning and what the endpoint answers and does.
import NotificationPipeline.App.NotificationService
import Mathlib.Logic.Relation

/-!
# The HTTP handlers: `handleDomainError` and `NotificationHandler.Cancel`

A handler that reads a path parameter parses it with `uuid.Parse` (400 when it does not
parse), calls the service, and maps an error with `handleDomainError`: 404 for the not-found
sentinels, 400 for the validation sentinels, 409 for a refused transition or a duplicate, and
500 for anything else. A 500 carries `"internal server error"`, never the error's own text
(`handleDomainError_body`).

`Cancel` is a thread of `App.NotificationService`. With nothing run between its steps and a
store that does not fail, each step leaves what the rest of the call returns unchanged
(`CancelStep.Run.outcome_eq`), and the call returns (`cancelRun_outcome`): so a run of it is
read off `CancelPc.outcome`, its big-step meaning. `cancel_endpoint` says what
`PATCH /api/v1/notifications/:id/cancel` answers and does, for every parameter and every
stored row.
-/

namespace App

open Domain Uuid Postgres

/-- A step of `Cancel`, on its program point and the world. -/
def CancelStep.Run (m : Mode) (id : UUID) (p q : CancelPc × World) : Prop :=
  CancelStep m id p.1 p.2 q.1 q.2

namespace CancelPc

/-- From `.cancelled n`: the batch counter, whose error is discarded. -/
def finish (n : Notification) (w : World) : Except GoError Unit × World :=
  match n.batchId with
  | some b => (.ok (), { w with store := NotificationRepo.incrementBatchCounter w.store b .cancelled })
  | none => (.ok (), w)

/-- From `.loaded n`: the conditional update, then the counter. -/
def update (id : UUID) (n : Notification) (w : World) : Except GoError Unit × World :=
  match NotificationRepo.cancel w.store id w.now with
  | .error e => (.error e, w)
  | .ok s' => finish n { w with store := s' }

/-- What `Cancel` returns, and the world it leaves, from a program point on, when nothing runs
between its steps and no repository call fails. -/
def outcome (id : UUID) : CancelPc → World → Except GoError Unit × World
  | .start, w =>
    match NotificationRepo.getByID w.store id with
    | .error e => (.error e, w)
    | .ok n =>
      match n.cancel w.now with
      | .error e => (.error e, w)
      | .ok n' => update id n' w
  | .loaded n, w => update id n w
  | .cancelled n, w => finish n w
  | .done r, w => (r, w)

end CancelPc

variable {m : Mode} {id : UUID}

/-- A step of `Cancel` with a store that does not fail keeps what the call returns. -/
theorem CancelStep.Run.outcome_eq (hf : m.storeFaults = false) {p q : CancelPc × World}
    (h : CancelStep.Run m id p q) : q.1.outcome id q.2 = p.1.outcome id p.2 := by
  obtain ⟨pc, w⟩ := p
  obtain ⟨pc', w'⟩ := q
  unfold CancelStep.Run at h
  cases h with
  | @load _ n h =>
    simp only [CancelPc.outcome, h]
    cases n.cancel w.now <;> rfl
  | loadError h => simp [CancelPc.outcome, h]
  | cancel h => simp [CancelPc.outcome, CancelPc.update, h]
  | cancelError h => simp [CancelPc.outcome, CancelPc.update, h]
  | bump hb => simp [CancelPc.outcome, CancelPc.finish, hb]
  | noBatch hb => simp [CancelPc.outcome, CancelPc.finish, hb]
  | loadFault hf' | cancelFault hf' | bumpFault _ hf' => simp [hf] at hf'

/-- So every run of it does. -/
theorem cancelRun_outcome (hf : m.storeFaults = false) {p q : CancelPc × World}
    (h : Relation.ReflTransGen (CancelStep.Run m id) p q) : q.1.outcome id q.2 = p.1.outcome id p.2 := by
  induction h with
  | refl => rfl
  | tail _ hs ih => exact (hs.outcome_eq hf).trans ih

theorem finish_run (n : Notification) (w : World) :
    Relation.ReflTransGen (CancelStep.Run m id) (.cancelled n, w)
      (.done (CancelPc.finish n w).1, (CancelPc.finish n w).2) := by
  cases hb : n.batchId with
  | some b => exact .single (by simpa [CancelStep.Run, CancelPc.finish, hb] using CancelStep.bump hb)
  | none => exact .single (by simpa [CancelStep.Run, CancelPc.finish, hb] using CancelStep.noBatch hb)

theorem update_run (n : Notification) (w : World) :
    Relation.ReflTransGen (CancelStep.Run m id) (.loaded n, w)
      (.done (CancelPc.update id n w).1, (CancelPc.update id n w).2) := by
  cases hc : NotificationRepo.cancel w.store id w.now with
  | error e => exact .single (by simpa [CancelStep.Run, CancelPc.update, hc] using CancelStep.cancelError hc)
  | ok s' =>
    simpa [CancelPc.update, hc] using
      (Relation.ReflTransGen.single (CancelStep.cancel (m := m) (n := n) hc)).trans (finish_run n _)

/-- `Cancel` returns, whatever the store holds. -/
theorem cancelRun_exists (id : UUID) (w : World) :
    Relation.ReflTransGen (CancelStep.Run m id) (.start, w)
      (.done (CancelPc.start.outcome id w).1, (CancelPc.start.outcome id w).2) := by
  cases hg : NotificationRepo.getByID w.store id with
  | error e => exact .single (by simpa [CancelStep.Run, CancelPc.outcome, hg] using CancelStep.loadError hg)
  | ok n =>
    have h₁ : CancelStep.Run m id (.start, w) (.ofCancel (n.cancel w.now), w) := CancelStep.load hg
    cases hc : n.cancel w.now with
    | error e => exact .single (by simpa [CancelPc.outcome, hg, hc, CancelPc.ofCancel] using h₁)
    | ok n' =>
      rw [hc] at h₁
      simpa [CancelPc.outcome, hg, hc] using (Relation.ReflTransGen.single h₁).trans (update_run n' w)

end App

namespace Http

open Domain Uuid Postgres App

/-- What a handler writes. -/
inductive Body
  /-- `ErrorResponse{Error: ...}`. -/
  | error (message : String)
  /-- `gin.H{"status": s}`. -/
  | status (s : String)
deriving DecidableEq, Repr

/-- The sentinels of `handleDomainError`'s 404 case. -/
def notFoundSentinels : List Sentinel := [.notificationNotFound, .batchNotFound, .templateNotFound]

/-- The sentinels of its 400 case. -/
def badRequestSentinels : List Sentinel :=
  [.invalidChannel, .invalidRecipient, .emptyRecipient, .emptyContent, .contentTooLong,
    .invalidPriority, .batchTooLarge, .batchEmpty, .emptyTemplateName, .emptyTemplateBody,
    .invalidTemplateBody]

/-- The sentinels of its second 409 case. -/
def duplicateSentinels : List Sentinel := [.duplicateIdempotencyKey, .duplicateTemplateName]

/-- `handleDomainError`: the status and the body, case by case in the order of its `switch`. -/
def handleDomainError (err : GoError) : Nat × Body :=
  if notFoundSentinels.any err.is then (404, .error err.error)
  else if badRequestSentinels.any err.is then (400, .error err.error)
  else if err.is .invalidStatusTransition then (409, .error err.error)
  else if duplicateSentinels.any err.is then (409, .error err.error)
  else (500, .error "internal server error")

/-- A 500 carries `"internal server error"`; every other answer carries the error's text. -/
theorem handleDomainError_body (err : GoError) :
    (handleDomainError err).2 =
      .error (if (handleDomainError err).1 = 500 then "internal server error" else err.error) := by
  unfold handleDomainError
  split_ifs <;> simp_all

/-- An error with no sentinel in its chain, a driver, network or I/O error, is a 500. -/
theorem handleDomainError_other (text : String) :
    handleDomainError (.other text) = (500, .error "internal server error") := rfl

/-- `NotificationHandler.Cancel`, once the service has returned `r`. -/
def cancelResponse : Except GoError Unit → Nat × Body
  | .ok () => (200, .status "cancelled")
  | .error e => handleDomainError e

/-- `PATCH /api/v1/notifications/:id/cancel` answered `resp` and left the world `w'`: the
parameter did not parse and nothing ran, or `Cancel` ran from `w` to its return with nothing
between its steps. -/
inductive CancelServed (m : Mode) (param : String) (w : World) : Nat × Body → World → Prop
  | badId (h : Uuid.parse param = none) :
      CancelServed m param w (400, .error "invalid notification id") w
  | served {id : UUID} {r : Except GoError Unit} {w' : World} (h : Uuid.parse param = some id)
      (hr : Relation.ReflTransGen (CancelStep.Run m id) (.start, w) (.done r, w')) :
      CancelServed m param w (cancelResponse r) w'

/-- The store once the row `n` is cancelled at `now`: its status and `updated_at`, and its
batch's counters, one moved from pending to cancelled. -/
def cancelledStore (s : Store) (n : Notification) (now : Instant) : Store :=
  { s with
    notifications := s.notifications.map fun r =>
      if r.id = n.id then { r with status := .cancelled, updatedAt := now } else r
    batches := s.batches.map fun b =>
      if some b.id = n.batchId then
        { b with pendingCount := b.pendingCount - 1, cancelledCount := b.cancelledCount + 1 }
      else b }

/-- The service's outcome on a stored row, in a table that keeps the primary key. -/
theorem outcome_of_mem {w : World} (hw : w.store.Wf) {n : Notification}
    (hn : n ∈ w.store.notifications) :
    CancelPc.start.outcome n.id w =
      if n.canCancel then (.ok (), { w with store := cancelledStore w.store n w.now })
      else (.error (.wrap .invalidStatusTransition ("current status is " ++ n.status.toString)), w) := by
  by_cases hc : n.canCancel
  · simp only [CancelPc.outcome, hw.getByID_of_mem hn, Notification.cancel, hc, if_true,
      CancelPc.update, NotificationRepo.cancel_of_mem hn hc, CancelPc.finish,
      hw.map_cancelledRow hn hc]
    cases hb : n.batchId <;>
      simp [cancelledStore, hb, NotificationRepo.incrementBatchCounter, NotificationRepo.bumpCounter]
  · simp [CancelPc.outcome, hw.getByID_of_mem hn, Notification.cancel, hc]

/-- `PATCH /api/v1/notifications/:id/cancel`, with nothing run between the service's steps and
a store that does not fail, in a table that keeps the primary key. It answers, and:
400 `"invalid notification id"` when the parameter is not a UUID; 404 `"notification not found"`
when no row has the id; 409 `"invalid status transition: current status is <status>"` when the
row is neither pending nor scheduled, cancelled included; and 200 `{"status": "cancelled"}`
otherwise, when that row alone becomes cancelled and its batch moves one from pending to
cancelled. Only the 200 changes the world. -/
theorem cancel_endpoint {m : Mode} (hf : m.storeFaults = false) {w : World} (hw : w.store.Wf)
    (param : String) :
    (∃ resp w', CancelServed m param w resp w') ∧
    ∀ resp w', CancelServed m param w resp w' →
      (Uuid.parse param = none → resp = (400, .error "invalid notification id") ∧ w' = w) ∧
      ∀ id, Uuid.parse param = some id →
        ((∀ r ∈ w.store.notifications, r.id ≠ id) →
          resp = (404, .error "notification not found") ∧ w' = w) ∧
        ∀ n ∈ w.store.notifications, n.id = id →
          (n.canCancel = false → resp = (409, .error ("invalid status transition: current status is " ++
            n.status.toString)) ∧ w' = w) ∧
          (n.canCancel = true →
            resp = (200, .status "cancelled") ∧ w' = { w with store := cancelledStore w.store n w.now }) := by
  refine ⟨?_, fun resp w' hs => ?_⟩
  · cases hp : Uuid.parse param with
    | none => exact ⟨_, _, .badId hp⟩
    | some id => exact ⟨_, _, .served hp (cancelRun_exists id w)⟩
  cases hs with
  | badId hp => exact ⟨fun _ => ⟨rfl, rfl⟩, fun id h => by simp [hp] at h⟩
  | @served id r w' hp hr =>
    have hout : (r, w') = CancelPc.start.outcome id w := cancelRun_outcome hf hr
    refine ⟨fun h => by simp [hp] at h, fun id' hid => ?_⟩
    obtain rfl : id = id' := Option.some.inj (hp.symm.trans hid)
    refine ⟨fun hnone => ?_, fun n hn hnid => ?_⟩
    · simp only [CancelPc.outcome, NotificationRepo.getByID_eq_notFound hnone] at hout
      cases hout
      exact ⟨rfl, rfl⟩
    · subst hnid
      rw [outcome_of_mem hw hn] at hout
      refine ⟨fun hc => ?_, fun hc => ?_⟩ <;> simp only [hc] at hout <;> cases hout
      · exact ⟨rfl, rfl⟩
      · exact ⟨rfl, rfl⟩

/-- A table with one pending SMS, cancelled through its id. -/
theorem cancel_endpoint_pending :
    let n : Notification := ⟨⟨List.replicate 16 1, rfl⟩, none, none, .sms, "+905530050594", "Hello",
      .normal, .pending, none, none, none, none, 0, 3, none, none, none, 0, 0⟩
    let w : World := { World.init with store := ⟨[n], [], [], []⟩ }
    let param := n.id.toString
    Mode.serial.storeFaults = false ∧ w.store.Wf ∧
      (∃ resp w', CancelServed Mode.serial param w resp w') ∧
      ∀ resp w', CancelServed Mode.serial param w resp w' →
        (Uuid.parse param = none → resp = (400, .error "invalid notification id") ∧ w' = w) ∧
        ∀ id, Uuid.parse param = some id →
          ((∀ r ∈ w.store.notifications, r.id ≠ id) →
            resp = (404, .error "notification not found") ∧ w' = w) ∧
          ∀ n ∈ w.store.notifications, n.id = id →
            (n.canCancel = false → resp = (409, .error ("invalid status transition: current status is " ++
              n.status.toString)) ∧ w' = w) ∧
            (n.canCancel = true →
              resp = (200, .status "cancelled") ∧ w' = { w with store := cancelledStore w.store n w.now }) := by
  intro n w param
  have hw : w.store.Wf :=
    ⟨by simp [w, Store.fixedRows], by simp [w, Store.fixedRows], by simp [w, Store.fixedRows, n, Notification.fixed],
      by simp [w], by simp [w], by simp [w]⟩
  exact ⟨rfl, hw, cancel_endpoint rfl hw param⟩

end Http
