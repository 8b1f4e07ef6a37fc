-- SUMMARY: Inversion lemmas for one step: what it does to the log, the rows, the batches, and the rows operations hold.
import NotificationPipeline.System.Step

/-!
# What one step can do

The inversion lemmas every invariant is built from. A step of an operation makes one call,
so it changes at most one of the log and the notifications table: it appends a message the
operation was about to publish (or the worker's retry copy), inserts the rows the operation
built, writes the row of its next `UpdateStatus`, or runs its `Cancel`. `Effect` says so once;
the invariants never unfold a step relation again.

An operation's program point names the rows it holds: `Op.copies` are its copies of stored
rows that it will still write or publish, `Op.ready` those it publishes next, `Op.update`
the row of its next `UpdateStatus`. `OpStep.copies_source` and `OpStep.ready_source` say
where a step's new copies come from.
-/

namespace App

open Domain Uuid Postgres Queue

variable {m : Mode} {w w' : World}

-- ---------------------------------------------------------------------------
-- The log
-- ---------------------------------------------------------------------------

theorem CreateStep.log {input : CreateNotificationInput} {pc pc' : CreatePc}
    (h : CreateStep m input pc w pc' w') :
    w'.log = w.log ∨ ∃ n msg, pc = .publishing n ∧ n.scheduledAt = none ∧
      Producer.message n w.now = .ok msg ∧ w'.log = w.log ++ [msg] := by
  cases h <;> first | exact .inl rfl | exact .inr ⟨_, _, rfl, ‹_›, ‹_›, rfl⟩

theorem BatchStep.log {inputs : List CreateNotificationInput} {pc pc' : BatchPc}
    (h : BatchStep m inputs pc w pc' w') :
    w'.log = w.log ∨ ∃ b ns n rest msg, pc = .publishing b ns (n :: rest) ∧ n.scheduledAt = none ∧
      Producer.message n w.now = .ok msg ∧ w'.log = w.log ++ [msg] := by
  cases h <;> first | exact .inl rfl | exact .inr ⟨_, _, _, _, _, rfl, ‹_›, ‹_›, rfl⟩

theorem CancelStep.log {id : UUID} {pc pc' : CancelPc} (h : CancelStep m id pc w pc' w') :
    w'.log = w.log := by
  cases h <;> rfl

theorem ConsumeStep.log {msg : Message} {off : Nat} {pc pc' : ConsumePc}
    (h : ConsumeStep m msg off pc w pc' w') :
    w'.log = w.log ∨ w'.log = w.log ++ [Consumer.retryMessage msg w.now] := by
  cases h <;> first | exact .inl rfl | exact .inr rfl

theorem SweepStep.log {k : Sweep} {pc pc' : SweepPc} (h : SweepStep m k pc w pc' w') :
    w'.log = w.log ∨ ∃ n rest msg, pc = .enqueuing n rest ∧
      Producer.message n w.now = .ok msg ∧ w'.log = w.log ++ [msg] := by
  cases h <;> first | exact .inl rfl | exact .inr ⟨_, _, _, rfl, ‹_›, rfl⟩

theorem storeAfterSetNX_wf {s : Store} (h : s.Wf) (k : String) (id : UUID) (now : Instant) :
    (storeAfterSetNX s k id now).Wf := by
  unfold storeAfterSetNX
  split
  · exact h.setNX ‹_›
  · exact h

@[simp] theorem storeAfterSetNX_notifications {s : Store} {k : String} {id : UUID} {now : Instant} :
    (storeAfterSetNX s k id now).notifications = s.notifications := by
  unfold storeAfterSetNX
  split
  · exact (IdempotencyRepo.setNX_ok ‹_›).1
  · rfl

end App

namespace Pipeline

open Domain Uuid Postgres Queue App

/-- The copies of stored rows an operation holds and will still write or publish. -/
def Op.copies : Op → List Notification
  | .create _ (.inserted n) | .create _ (.publishing n) => if n.scheduledAt.isNone then [n] else []
  | .createBatch _ (.publishing _ _ rest) => rest.filter (·.scheduledAt.isNone)
  | .consume _ (.read n) | .consume _ (.marked n) | .consume _ (.retrying n _)
  | .consume _ (.failing n) | .consume _ (.delivering n) => [n]
  | .sweep _ (.looping rest) => rest
  | .sweep _ (.enqueuing n rest) => n :: rest
  | _ => []

/-- The notifications an operation publishes next: its copies whose row is already in the
state they are published in. -/
def Op.ready : Op → List Notification
  | .create _ (.inserted n) | .create _ (.publishing n) => if n.scheduledAt.isNone then [n] else []
  | .createBatch _ (.publishing _ _ rest) => rest.filter (·.scheduledAt.isNone)
  | .sweep _ (.enqueuing n _) => [n]
  | _ => []

/-- The row an operation's next `UpdateStatus` writes when the clock reads `now`. -/
def Op.update (now : Instant) : Op → Option Notification
  | .consume _ (.read n) => some (n.markProcessing now)
  | .consume _ (.retrying n _) | .consume _ (.failing n) | .consume _ (.delivering n) => some n
  | .sweep _ (.looping (n :: _)) => some (resetPending n now)
  | _ => none

/-- The notifications an operation's next insert adds. -/
def Op.inserts : Op → List Notification
  | .create _ (.built n) => [n]
  | .createBatch _ (.persisting _ ns) => ns
  | _ => []

/-- The row an operation's next `Cancel` targets. -/
def Op.cancels : Op → Option UUID
  | .cancel id (.loaded _) => some id
  | _ => none

/-- The messages a step of `op` may append in the world `w`. -/
def Op.Writes (op : Op) (w : World) (msg : Message) : Prop :=
  (∃ n ∈ op.ready, Producer.message n w.now = .ok msg) ∨
    ∃ off pc orig, op = .consume off pc ∧ w.log[off]? = some orig ∧
      msg = Consumer.retryMessage orig w.now

/-- What an operation's program point says whatever the world. -/
def Op.Wf : Op → Prop
  | .create input pc => pc.Wf input
  | .createBatch _ pc => pc.Wf
  | .consume _ pc => pc.Wf
  | .cancel _ _ | .sweep _ _ => True

theorem Op.Start.wf {w : World} {op : Op} (h : op.Start w) : op.Wf := by
  cases h <;> trivial

theorem Op.mem_copies_of_mem_ready {op : Op} {n : Notification} (h : n ∈ op.ready) :
    n ∈ op.copies := by
  rcases op with ⟨_, _ | _ | _ | _ | _ | _ | _ | _⟩ | ⟨_, _ | _ | _ | _ | _⟩ | _ | _ |
    ⟨_, _ | _ | _ | _⟩ <;> simp only [Op.ready, List.not_mem_nil] at h <;> simp only [Op.copies]
  all_goals first | exact h | exact List.mem_cons.2 (.inl (List.mem_singleton.1 h))

/-- A row an operation inserts is as `NewNotification` builds it: the initial status its
schedule gives, and a priority it accepts. -/
theorem Op.inserts_built {op : Op} (hwf : op.Wf) {x : Notification} (hx : x ∈ op.inserts) :
    x.status = (if x.scheduledAt.isSome then .scheduled else .pending) ∧
      validatePriority x.priority = .ok () := by
  rcases op with ⟨_, _ | _ | _ | _ | _ | _ | _ | _⟩ | ⟨_, _ | _ | _ | _ | _⟩ | _ | _ | _ <;>
    simp only [Op.inserts, List.mem_singleton, List.not_mem_nil] at hx
  · subst hx; exact ⟨hwf.1, hwf.2.2.2⟩
  · exact ⟨(hwf.2 x hx).1, (hwf.2 x hx).2.2⟩

theorem Op.inserts_status {op : Op} (hwf : op.Wf) {x : Notification} (hx : x ∈ op.inserts) :
    x.status = if x.scheduledAt.isSome then .scheduled else .pending :=
  (Op.inserts_built hwf hx).1

/-- The row of an operation's next `UpdateStatus` is one of its copies, set to processing,
failed, delivered or pending. -/
theorem Op.update_spec {op : Op} {now : Instant} {n : Notification} (hwf : op.Wf)
    (h : op.update now = some n) :
    (∃ c ∈ op.copies, c.fixed = n.fixed) ∧
      (n.status = .processing ∨ n.status = .failed ∨ n.status = .delivered ∨
        n.status = .pending) := by
  rcases op with _ | _ | _ | ⟨_, _ | n₀ | _ | n₀ | n₀ | n₀ | _ | _ | _ | _ | _⟩ |
    ⟨_, _ | _ | _ | _⟩ <;> simp only [Op.update, reduceCtorEq, Option.some.injEq] at h
  all_goals first
    | (rename_i rest; cases rest <;> simp only [Op.update, reduceCtorEq, Option.some.injEq] at h)
    | skip
  all_goals subst h
  all_goals simp_all [Op.copies, Op.Wf, ConsumePc.Wf]

/-- Which program point an `UpdateStatus` comes from, and the row it writes. -/
theorem Op.update_eq_some {op : Op} {now : Instant} {n : Notification}
    (h : op.update now = some n) :
    (∃ off n₀, op = .consume off (.read n₀) ∧ n = n₀.markProcessing now) ∨
      (∃ off e, op = .consume off (.retrying n e)) ∨ (∃ off, op = .consume off (.failing n)) ∨
      (∃ off, op = .consume off (.delivering n)) ∨
      (∃ k n₀ rest, op = .sweep k (.looping (n₀ :: rest)) ∧ n = resetPending n₀ now) := by
  rcases op with _ | _ | _ | ⟨off, _ | n₀ | _ | ⟨n₀, e⟩ | n₀ | n₀ | _ | _ | _ | _ | _⟩ |
    ⟨k, _ | ⟨_ | ⟨n₀, rest⟩⟩ | _ | _⟩ <;>
    simp only [Op.update, reduceCtorEq, Option.some.injEq] at h <;> subst h
  all_goals first
    | exact .inl ⟨_, _, rfl, rfl⟩
    | exact .inr (.inr (.inr (.inr ⟨_, _, _, rfl, rfl⟩)))
    | simp

@[simp] theorem Op.copies_ofBuilt (input : CreateNotificationInput) (r : Except GoError Notification) :
    (Op.create input (.ofBuilt r)).copies = [] := by
  cases r <;> rfl

@[simp] theorem Op.ready_ofBuilt (input : CreateNotificationInput) (r : Except GoError Notification) :
    (Op.create input (.ofBuilt r)).ready = [] := by
  cases r <;> rfl

@[simp] theorem Op.copies_ofChild (inputs : List CreateNotificationInput) (b : NotificationBatch)
    (acc : List Notification) (rest : List CreateNotificationInput) (r : Except GoError Notification) :
    (Op.createBatch inputs (.ofChild b acc rest r)).copies = [] := by
  cases r <;> rfl

@[simp] theorem Op.ready_ofChild (inputs : List CreateNotificationInput) (b : NotificationBatch)
    (acc : List Notification) (rest : List CreateNotificationInput) (r : Except GoError Notification) :
    (Op.createBatch inputs (.ofChild b acc rest r)).ready = [] := by
  cases r <;> rfl

/-- After `Send`, the worker holds a copy of the same row. -/
theorem Op.fixed_of_mem_copies_afterSend {off : Nat} {n₀ n : Notification} {now : Instant}
    {r : Except GoError ProviderResponse} (h : n ∈ (Op.consume off (afterSend n₀ now r)).copies) :
    n.fixed = n₀.fixed := by
  cases r with
  | error e =>
    simp only [afterSend] at h
    split at h <;> simp_all [Op.copies]
  | ok => simp_all [afterSend, Op.copies]

variable {m : Mode} {w w' : World} {op op' : Op}

/-- What one step does to the log and the notifications table: at most one of them changes. -/
inductive Effect (op : Op) (w w' : World) : Prop
  | none (hl : w'.log = w.log) (hr : w'.store.notifications = w.store.notifications)
  | publish {msg : Message} (hw : op.Writes w msg) (hl : w'.log = w.log ++ [msg])
      (hs : w'.store = w.store)
  | insert (hl : w'.log = w.log)
      (hr : w'.store.notifications = w.store.notifications ++ op.inserts.map NotificationRepo.insertedRow)
  | update {n : Notification} (hn : op.update w.now = some n) (hl : w'.log = w.log)
      (hr : w'.store.notifications = w.store.notifications.map (NotificationRepo.updatedRow n))
  | cancel {id : UUID} (hc : op.cancels = some id) (hl : w'.log = w.log)
      (hr : w'.store.notifications = w.store.notifications.map (NotificationRepo.cancelledRow id w.now))

theorem OpStep.effect (h : OpStep m op w op' w') : Effect op w w' := by
  rcases h with ⟨h⟩ | ⟨h⟩ | ⟨h⟩ | ⟨hmsg, h⟩ | ⟨h⟩
  · cases h with
    | insert h => obtain ⟨rfl, -⟩ := NotificationRepo.create_ok h; exact .insert rfl rfl
    | enqueue hs h => exact .publish (.inl ⟨_, by simp [Op.ready, hs], h⟩) rfl rfl
    | setNX => exact .none rfl storeAfterSetNX_notifications
    | _ => exact .none rfl rfl
  · cases h with
    | persist h => exact .insert rfl (NotificationRepo.createBatch_ok h).1
    | enqueue hs h => exact .publish (.inl ⟨_, by simp [Op.ready, hs], h⟩) rfl rfl
    | _ => exact .none rfl rfl
  · cases h with
    | cancel h => exact .cancel rfl rfl (NotificationRepo.cancel_ok h).1
    | bump => exact .none rfl NotificationRepo.incrementBatchCounter_notifications
    | _ => exact .none rfl rfl
  · cases h with
    | mark | persistRetry | persistFailed | persistDelivered => exact .update rfl rfl rfl
    | bump => exact .none rfl NotificationRepo.incrementBatchCounter_notifications
    | retry => exact .publish (.inr ⟨_, _, _, rfl, hmsg, rfl⟩) rfl rfl
    | _ => exact .none rfl rfl
  · cases h with
    | update => exact .update rfl rfl rfl
    | enqueue h => exact .publish (.inl ⟨_, by simp [Op.ready], h⟩) rfl rfl
    | _ => exact .none rfl rfl

/-- Where the copies an operation holds after a step come from: its copies before the step,
the rows the step inserted, the row the worker loaded for its message, or the rows a sweep
listed. -/
theorem OpStep.copies_source (h : OpStep m op w op' w') {n : Notification} (hn : n ∈ op'.copies) :
    (∃ c ∈ op.copies, c.fixed = n.fixed) ∨
      (n ∈ op.inserts ∧ n.scheduledAt = none ∧
        w'.store.notifications = w.store.notifications ++ op.inserts.map NotificationRepo.insertedRow) ∨
      (∃ off msg, op = .consume off .fetched ∧ w.log[off]? = some msg ∧ msg.Names n.id ∧
        n ∈ w.store.notifications ∧ n.status ≠ .cancelled ∧ n.status ≠ .delivered) ∨
      ∃ k, op = .sweep k .start ∧ n ∈ k.list w.store w.now := by
  rcases h with ⟨h⟩ | ⟨h⟩ | ⟨h⟩ | ⟨hmsg, h⟩ | ⟨h⟩
  · cases h with
    | insert h =>
      obtain ⟨rfl, -⟩ := NotificationRepo.create_ok h
      simp only [Op.copies, Op.inserts] at hn ⊢
      split at hn <;> simp_all
    | setNX | setNXFault | noSetNX => exact .inl ⟨n, hn, rfl⟩
    | build => simp at hn
    | _ => simp [Op.copies] at hn
  · cases h with
    | persist h => simp_all [Op.copies, Op.inserts, (NotificationRepo.createBatch_ok h).1]
    | enqueueScheduled | enqueue | enqueueError | enqueueFault =>
      exact .inl ⟨n, by simp_all [Op.copies], rfl⟩
    | buildChild => simp at hn
    | _ => simp [Op.copies] at hn
  · simp [Op.copies] at hn
  · cases h with
    | @load _ id n₀ hid h =>
      obtain ⟨hmem, rfl⟩ := NotificationRepo.getByID_ok h
      simp only [afterLoad] at hn
      split at hn
      · simp [Op.copies] at hn
      · rename_i hst
        simp only [Op.copies, List.mem_singleton] at hn
        subst hn
        simp only [not_or] at hst
        exact .inr (.inr (.inl ⟨_, _, rfl, hmsg, hid, hmem, hst⟩))
    | @mark _ n₀ => exact .inl ⟨n₀, by simp [Op.copies], by simp_all [Op.copies]⟩
    | @send _ n₀ r => exact .inl ⟨n₀, by simp [Op.copies], (Op.fixed_of_mem_copies_afterSend hn).symm⟩
    | _ => simp [Op.copies] at hn
  · cases h with
    | list => exact .inr (.inr (.inr ⟨_, rfl, hn⟩))
    | @update _ n₀ rest =>
      simp only [Op.copies, List.mem_cons] at hn
      rcases hn with rfl | hn
      · exact .inl ⟨n₀, by simp [Op.copies], rfl⟩
      · exact .inl ⟨n, by simp [Op.copies, hn], rfl⟩
    | updateFault | enqueue | enqueueError | enqueueFault =>
      exact .inl ⟨n, by simp_all [Op.copies], rfl⟩
    | _ => simp [Op.copies] at hn

/-- Where the rows an operation publishes next come from: its ready rows before the step, the
rows the step inserted, or the row its `UpdateStatus` just reset to pending. -/
theorem OpStep.ready_source (h : OpStep m op w op' w') {n : Notification} (hn : n ∈ op'.ready) :
    n ∈ op.ready ∨
      (n ∈ op.inserts ∧ n.scheduledAt = none ∧
        w'.store.notifications = w.store.notifications ++ op.inserts.map NotificationRepo.insertedRow) ∨
      (op.update w.now = some n ∧ n.status = .pending ∧
        w'.store.notifications = w.store.notifications.map (NotificationRepo.updatedRow n)) := by
  rcases h with ⟨h⟩ | ⟨h⟩ | ⟨h⟩ | ⟨hmsg, h⟩ | ⟨h⟩
  · cases h with
    | insert h =>
      obtain ⟨rfl, -⟩ := NotificationRepo.create_ok h
      simp only [Op.ready, Op.inserts] at hn ⊢
      split at hn <;> simp_all
    | setNX | setNXFault | noSetNX => exact .inl hn
    | build => simp at hn
    | _ => simp [Op.ready] at hn
  · cases h with
    | persist h => simp_all [Op.ready, Op.inserts, (NotificationRepo.createBatch_ok h).1]
    | enqueueScheduled | enqueue | enqueueError | enqueueFault => exact .inl (by simp_all [Op.ready])
    | buildChild => simp at hn
    | _ => simp [Op.ready] at hn
  · simp [Op.ready] at hn
  · simp [Op.ready] at hn
  · cases h with
    | update => simp_all [Op.ready, Op.update, NotificationRepo.updateStatus]
    | _ => simp [Op.ready] at hn

/-- A step keeps the clock. -/
theorem OpStep.now_eq (h : OpStep m op w op' w') : w'.now = w.now := by
  rcases h with ⟨h⟩ | ⟨h⟩ | ⟨h⟩ | ⟨-, h⟩ | ⟨h⟩ <;> cases h <;> rfl

/-- A step keeps the schema's constraints. -/
theorem OpStep.store_wf (h : OpStep m op w op' w') (hw : w.store.Wf) : w'.store.Wf := by
  rcases h with ⟨h⟩ | ⟨h⟩ | ⟨h⟩ | ⟨-, h⟩ | ⟨h⟩ <;> cases h <;> try dsimp only
  all_goals first
    | exact hw
    | exact hw.updateStatus _
    | exact hw.incrementBatchCounter _ _
    | exact storeAfterSetNX_wf hw _ _ _
    | exact hw.create ‹_›
    | exact hw.createBatch ‹_›
    | exact hw.cancel ‹_›

/-- A step keeps the world-independent facts of the operation's program point. -/
theorem OpStep.wf (h : OpStep m op w op' w') (hop : op.Wf) : op'.Wf := by
  rcases h with ⟨h⟩ | ⟨h⟩ | ⟨h⟩ | ⟨-, h⟩ | ⟨h⟩
  · exact h.wf hop
  · exact h.wf hop
  · trivial
  · exact h.wf hop
  · trivial

/-- The fixed columns of the table only grow, at the end. -/
theorem Effect.fixedRows_prefix (e : Effect op w w') : w.store.fixedRows <+: w'.store.fixedRows := by
  cases e with
  | insert _ hr => simp [Store.fixedRows, hr]
  | publish _ _ hs => simp only [hs, List.prefix_refl]
  | none _ hr => simp only [Store.fixedRows, hr, List.prefix_refl]
  | update _ _ hr =>
    simp only [Store.fixedRows, hr, NotificationRepo.map_fixed_updatedRow, List.prefix_refl]
  | cancel _ _ hr =>
    simp only [Store.fixedRows, hr, NotificationRepo.map_fixed_cancelledRow, List.prefix_refl]

/-- How a step may change the status of a row it keeps: not at all, to the status of the
operation's `UpdateStatus` row, or from pending or scheduled to cancelled. -/
def StatusChange (op : Op) (now : Instant) (r r' : Notification) : Prop :=
  r'.status = r.status ∨ (∃ n, op.update now = some n ∧ r.id = n.id ∧ r'.status = n.status) ∨
    ((r.status = .pending ∨ r.status = .scheduled) ∧ r'.status = .cancelled)

/-- No step sets a row to `scheduled`. -/
theorem StatusChange.scheduled {now : Instant} {r r' : Notification} (hwf : op.Wf)
    (h : StatusChange op now r r') (hs : r'.status = .scheduled) : r.status = .scheduled := by
  rcases h with h | ⟨n, hn, -, h⟩ | h
  · rwa [← h]
  · rcases (Op.update_spec hwf hn).2 with h' | h' | h' | h' <;> rw [h, h'] at hs <;> cases hs
  · rw [hs] at h; cases h.2

/-- Where a row after a step comes from: a row before it with the same fixed columns and a
status the step may give it, or a row the step inserted. -/
theorem Effect.row_source (e : Effect op w w') {r' : Notification}
    (hr : r' ∈ w'.store.notifications) :
    (∃ r ∈ w.store.notifications, r'.fixed = r.fixed ∧ StatusChange op w.now r r') ∨
    (∃ x ∈ op.inserts, r' = NotificationRepo.insertedRow x ∧
      w'.store.notifications = w.store.notifications ++ op.inserts.map NotificationRepo.insertedRow) := by
  cases e with
  | none _ hrows => exact .inl ⟨r', hrows ▸ hr, rfl, .inl rfl⟩
  | publish _ _ hs => exact .inl ⟨r', hs ▸ hr, rfl, .inl rfl⟩
  | insert _ hrows =>
    rw [hrows, List.mem_append, List.mem_map] at hr
    rcases hr with hr | ⟨x, hx, rfl⟩
    · exact .inl ⟨_, hr, rfl, .inl rfl⟩
    · exact .inr ⟨x, hx, rfl, hrows⟩
  | update hn _ hrows =>
    rw [hrows, List.mem_map] at hr
    obtain ⟨r, hr, rfl⟩ := hr
    refine .inl ⟨r, hr, NotificationRepo.updatedRow_fixed _ _, ?_⟩
    unfold StatusChange
    rw [NotificationRepo.status_updatedRow]
    split
    · exact .inr (.inl ⟨_, hn, ‹_›, rfl⟩)
    · exact .inl rfl
  | cancel _ _ hrows =>
    rw [hrows, List.mem_map] at hr
    obtain ⟨r, hr, rfl⟩ := hr
    exact .inl ⟨r, hr, NotificationRepo.cancelledRow_fixed _ _ _,
      (NotificationRepo.status_cancelledRow _ _ _).elim .inl (.inr ∘ .inr)⟩

theorem Effect.log_prefix (e : Effect op w w') : w.log <+: w'.log := by
  cases e with
  | publish _ hl => simp only [hl, List.prefix_append]
  | none hl | insert hl | update _ hl | cancel _ hl => simp only [hl, List.prefix_refl]

/-- A message keeps its offset. -/
theorem Effect.log_getElem? (e : Effect op w w') {off : Nat} {msg : Message}
    (h : w.log[off]? = some msg) : w'.log[off]? = some msg := by
  obtain ⟨t, ht⟩ := e.log_prefix
  rw [← ht, List.getElem?_append_left (List.getElem?_eq_some_iff.1 h).1, h]

-- ---------------------------------------------------------------------------
-- Runs
-- ---------------------------------------------------------------------------

theorem Op.Start.copies_eq {op : Op} (h : op.Start w) : op.copies = [] := by
  cases h <;> rfl

theorem Op.Start.ready_eq {op : Op} (h : op.Start w) : op.ready = [] := by
  cases h <;> rfl

/-- A fact of every operation survives replacing one of them by an operation that has it. -/
theorem forall_mem_set {P : Op → Prop} {ops : List Op} (h : ∀ o ∈ ops, P o) (i : Nat) {op' : Op}
    (h' : P op') : ∀ o ∈ ops.set i op', P o := fun o ho =>
  (List.mem_or_eq_of_mem_set ho).elim (h o) fun e => e ▸ h'

/-- A fact of every operation but the replaced one survives replacing it by one that has it. -/
theorem forall_mem_set_of_ne {P : Op → Prop} {ops : List Op} {i : Nat}
    (h : ∀ j (hj : j < ops.length), j ≠ i → P ops[j]) {op' : Op} (h' : P op') :
    ∀ o ∈ ops.set i op', P o := by
  intro o ho
  obtain ⟨j, hj, rfl⟩ := List.mem_iff_getElem.1 ho
  rw [List.getElem_set]
  split
  · exact h'
  · exact h j (by simpa using hj) (Ne.symm ‹_›)

variable {c : Config}

/-- The schema's constraints hold in every reachable configuration. -/
theorem Reachable.store_wf (h : Reachable m c) : c.world.store.Wf := by
  induction h with
  | init => exact Store.wf_empty
  | step _ hs ih =>
    cases hs with
    | start => exact ih
    | run _ h => exact h.store_wf ih
    | template h => exact h.store ▸ ih.congr rfl rfl rfl
    | tick => exact ih

/-- Every program point of a reachable configuration is well formed. -/
theorem Reachable.ops_wf (h : Reachable m c) : ∀ op ∈ c.ops, op.Wf := by
  induction h with
  | init => simp [Config.init]
  | step _ hs ih =>
    cases hs with
    | start h =>
      intro o ho
      rcases List.mem_append.1 ho with ho | ho
      · exact ih o ho
      · exact List.mem_singleton.1 ho ▸ h.wf
    | run hi h => exact forall_mem_set ih _ (h.wf (ih _ (List.getElem_mem hi)))
    | template | tick => exact ih

end Pipeline
