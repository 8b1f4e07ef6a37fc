-- SUMMARY: The four Postgres tables, each repository method as the SQL statement it runs, and the schema's constraints.
import NotificationPipeline.Domain.Template
import Mathlib.Data.List.Sort

/-!
# The Postgres store

`internal/adapter/postgres`: the four tables the pipeline uses, and each repository method
as the SQL statement it runs, when the statement succeeds. A failing call (a lost connection,
a timeout) is not modelled here: the system step decides that a call fails, and then the
tables are left as they were.

The schema is `notification_batches` and `notifications` (`unnamed/part_016`),
`idempotency_keys` (`migrations/000003_create_idempotency_keys.up.sql`), and `templates` with
the foreign key `fk_notifications_template` (the SQL at the end of `Dockerfile`). An insert
checks, in this order, that each value fits its `VARCHAR(n)` column (`varcharError`), then the
primary and unique keys, then the foreign keys.

Two facts about the statements carry most of the later proofs. `UpdateStatus` writes seven
columns and `Cancel` two, so the columns of `FixedColumns` never change once a row is
inserted (`updateStatus_fixed`, `cancel_fixed`). And the unique constraints make row ids and
idempotency keys unique across the table (`create_ok`, `createBatch_ok`).
-/

namespace Postgres

open Domain Uuid

/-- A row of `idempotency_keys`. -/
structure IdempotencyKey where
  key : String
  notificationId : UUID
  expiresAt : Instant
deriving DecidableEq, Repr

/-- The `notifications`, `notification_batches`, `idempotency_keys` and `templates` tables. -/
structure Store where
  notifications : List Notification
  batches : List NotificationBatch
  idempotencyKeys : List IdempotencyKey
  templates : List Template
deriving Repr

/-- The empty store. -/
def Store.empty : Store := ⟨[], [], [], []⟩

/-- The error of an insert whose value is longer than its `VARCHAR(limit)` column, for the first
such column in the statement's order; Postgres counts characters. -/
def varcharError : List (Nat × String) → Option GoError
  | [] => none
  | (limit, v) :: cols =>
    if limit < v.length then
      some (.other ("value too long for type character varying(" ++ toString limit ++ ")"))
    else varcharError cols

/-- `idempotencyTTL`, 24 hours. -/
def idempotencyTTL : Nat := 24 * 60 * 60 * 1000000

/-- The columns of a notification that no statement updates after the insert. -/
structure FixedColumns where
  id : UUID
  batchId : Option UUID
  idempotencyKey : Option String
  channel : Channel
  priority : Priority
  scheduledAt : Option Instant
  maxRetries : Int
deriving DecidableEq, Repr

end Postgres

namespace Domain.Notification

/-- The fixed columns of a notification. -/
def fixed (n : Notification) : Postgres.FixedColumns :=
  ⟨n.id, n.batchId, n.idempotencyKey, n.channel, n.priority, n.scheduledAt, n.maxRetries⟩

variable (n : Notification) (now : Instant)

@[simp] theorem fixed_markProcessing : (n.markProcessing now).fixed = n.fixed := rfl
@[simp] theorem fixed_markDelivered (id : String) : (n.markDelivered id now).fixed = n.fixed := rfl
@[simp] theorem fixed_markFailed (e : String) : (n.markFailed e now).fixed = n.fixed := rfl
@[simp] theorem fixed_incrementRetry : (n.incrementRetry now).fixed = n.fixed := rfl

end Domain.Notification

namespace Postgres

open Domain Uuid

-- ---------------------------------------------------------------------------
-- NotificationRepo
-- ---------------------------------------------------------------------------

namespace NotificationRepo

/-- The row `INSERT INTO notifications` stores: the columns outside its list take their
defaults. -/
def insertedRow (n : Notification) : Notification :=
  { n with sentAt := none, failedAt := none, errorMessage := none, retryCount := 0
           providerMessageId := none }

/-- The `VARCHAR` columns the insert of `n` writes, with their limits, in the statement's order:
`idempotency_key`, `channel`, `recipient`, `priority`, `status`. A nil key is `NULL`. -/
def varcharColumns (n : Notification) : List (Nat × String) :=
  [(255, n.idempotencyKey.getD ""), (10, n.channel.toString), (320, n.recipient),
    (10, n.priority.toString), (20, n.status.toString)]

/-- The error the insert of `n` raises, after `wrapIDempotencyError`: a value too long for its
column, the primary key, the unique `idempotency_key`, then the foreign keys to the batch and
to the template. -/
def insertError (s : Store) (n : Notification) : Option GoError :=
  match varcharError (varcharColumns n) with
  | some e => some e
  | none =>
    if s.notifications.any (·.id == n.id) then
      some (.other "duplicate key value violates unique constraint \"notifications_pkey\"")
    else if n.idempotencyKey.isSome && s.notifications.any (·.idempotencyKey == n.idempotencyKey) then
      some (.sentinel .duplicateIdempotencyKey)
    else if n.batchId.isSome && !s.batches.any (some ·.id == n.batchId) then
      some (.other
        "insert or update on table \"notifications\" violates foreign key constraint \"notifications_batch_id_fkey\"")
    else if n.templateId.isSome && !s.templates.any (some ·.id == n.templateId) then
      some (.other
        "insert or update on table \"notifications\" violates foreign key constraint \"fk_notifications_template\"")
    else none

/-- `Create`. -/
def create (s : Store) (n : Notification) : Except GoError Store :=
  match insertError s n with
  | some e => .error e
  | none => .ok { s with notifications := s.notifications ++ [insertedRow n] }

/-- The children's inserts of `CreateBatch`, in order, stopping at the first error. -/
def insertAll (s : Store) : List Notification → Except GoError Store
  | [] => .ok s
  | n :: ns => do
    let s' ← create s n
    insertAll s' ns

/-- The row `INSERT INTO notification_batches (id, total_count, pending_count, created_at)`
stores. -/
def batchRow (b : NotificationBatch) : NotificationBatch :=
  { b with deliveredCount := 0, failedCount := 0, cancelledCount := 0 }

/-- `CreateBatch`: one transaction; the deferred rollback discards every insert on the first
error, so an error leaves the store as it was. -/
def createBatch (s : Store) (b : NotificationBatch) (ns : List Notification) :
    Except GoError Store :=
  if s.batches.any (·.id == b.id) then
    .error (.other "duplicate key value violates unique constraint \"notification_batches_pkey\"")
  else insertAll { s with batches := s.batches ++ [batchRow b] } ns

/-- `GetByID`. -/
def getByID (s : Store) (id : UUID) : Except GoError Notification :=
  match s.notifications.find? (·.id == id) with
  | some n => .ok n
  | none => .error (.sentinel .notificationNotFound)

/-- The row after `UPDATE notifications SET status, sent_at, failed_at, error_message,
retry_count, provider_message_id, updated_at WHERE id = n.id`. -/
def updatedRow (n r : Notification) : Notification :=
  if r.id = n.id then
    { r with status := n.status, sentAt := n.sentAt, failedAt := n.failedAt
             errorMessage := n.errorMessage, retryCount := n.retryCount
             providerMessageId := n.providerMessageId, updatedAt := n.updatedAt }
  else r

/-- `UpdateStatus`: unconditional on the status; no matching row is no error. -/
def updateStatus (s : Store) (n : Notification) : Store :=
  { s with notifications := s.notifications.map (updatedRow n) }

/-- The row after `UPDATE notifications SET status='cancelled', updated_at=NOW()
WHERE id=$1 AND status IN ('pending','scheduled')`. -/
def cancelledRow (id : UUID) (now : Instant) (r : Notification) : Notification :=
  if r.id = id ∧ r.canCancel then { r with status := .cancelled, updatedAt := now } else r

/-- `Cancel`: the conditional update; no row affected is `ErrInvalidStatusTransition`. -/
def cancel (s : Store) (id : UUID) (now : Instant) : Except GoError Store :=
  if s.notifications.any (fun r => r.id == id && r.canCancel) then
    .ok { s with notifications := s.notifications.map (cancelledRow id now) }
  else .error (.sentinel .invalidStatusTransition)

/-- The column `IncrementBatchCounter` bumps for a status, with `pending_count - 1`. -/
def bumpCounter : Status → Option (NotificationBatch → NotificationBatch)
  | .delivered => some fun b =>
      { b with deliveredCount := b.deliveredCount + 1, pendingCount := b.pendingCount - 1 }
  | .failed => some fun b =>
      { b with failedCount := b.failedCount + 1, pendingCount := b.pendingCount - 1 }
  | .cancelled => some fun b =>
      { b with cancelledCount := b.cancelledCount + 1, pendingCount := b.pendingCount - 1 }
  | _ => none

/-- `IncrementBatchCounter`; another status returns nil without a statement. -/
def incrementBatchCounter (s : Store) (batchId : UUID) (status : Status) : Store :=
  match bumpCounter status with
  | none => s
  | some f => { s with batches := s.batches.map fun b => if b.id = batchId then f b else b }

/-- The filter of `ListDueScheduled`: `status = 'scheduled' AND scheduled_at <= NOW()`. -/
def isDue (now : Instant) (r : Notification) : Bool :=
  r.status == .scheduled && r.scheduledAt.any (· ≤ now)

/-- `ListDueScheduled`: `ORDER BY scheduled_at LIMIT $1`. -/
def listDueScheduled (s : Store) (limit : Nat) (now : Instant) : List Notification :=
  ((s.notifications.filter (isDue now)).insertionSort
    (fun a b => a.scheduledAt.getD 0 ≤ b.scheduledAt.getD 0)).take limit

/-- The filter of `ListStuckProcessing`: `status = 'processing' AND updated_at < NOW() - $1`. -/
def isStuck (olderThan : Nat) (now : Instant) (r : Notification) : Bool :=
  r.status == .processing && decide (r.updatedAt + olderThan < now)

/-- `ListStuckProcessing`: `ORDER BY updated_at LIMIT $2`. -/
def listStuckProcessing (s : Store) (olderThan limit : Nat) (now : Instant) : List Notification :=
  ((s.notifications.filter (isStuck olderThan now)).insertionSort
    (fun a b => a.updatedAt ≤ b.updatedAt)).take limit

end NotificationRepo

-- ---------------------------------------------------------------------------
-- IdempotencyRepo
-- ---------------------------------------------------------------------------

namespace IdempotencyRepo

/-- `Check`: whether the key is bound and unexpired, and the bound id as the text Postgres
returns for a `UUID` column. -/
def check (s : Store) (key : String) (now : Instant) : Bool × String :=
  match s.idempotencyKeys.find? (fun e => e.key == key && decide (now < e.expiresAt)) with
  | some e => (true, e.notificationId.toString)
  | none => (false, "")

/-- `SetNX`: `INSERT ... ON CONFLICT (key) DO NOTHING`, reporting whether a row went in.
Intake passes `n.ID.String()`, which Postgres reads back as `n.ID`; the column references
`notifications(id)`. -/
def setNX (s : Store) (key : String) (id : UUID) (now : Instant) : Except GoError (Store × Bool) :=
  if s.idempotencyKeys.any (·.key == key) then .ok (s, false)
  else if s.notifications.any (·.id == id) then
    .ok ({ s with idempotencyKeys := s.idempotencyKeys ++ [⟨key, id, now + idempotencyTTL⟩] }, true)
  else .error (.other "insert or update on table \"idempotency_keys\" violates foreign key constraint")

end IdempotencyRepo

-- ---------------------------------------------------------------------------
-- TemplateRepo
-- ---------------------------------------------------------------------------

namespace TemplateRepo

/-- The error the insert of `t` raises: a value too long for `name VARCHAR(255)` or
`channel VARCHAR(10)`, the primary key, then the unique `name`, whose violation `Create` maps
to `ErrDuplicateTemplateName` (its constraint's name contains `name`). -/
def createError (s : Store) (t : Template) : Option GoError :=
  match varcharError [(255, t.name), (10, t.channel.toString)] with
  | some e => some e
  | none =>
    if s.templates.any (·.id == t.id) then
      some (.other "duplicate key value violates unique constraint \"templates_pkey\"")
    else if s.templates.any (·.name == t.name) then some (.sentinel .duplicateTemplateName)
    else none

/-- `TemplateRepo.Create`. -/
def create (s : Store) (t : Template) : Except GoError Store :=
  match createError s t with
  | some e => .error e
  | none => .ok { s with templates := s.templates ++ [t] }

/-- `TemplateRepo.GetByID`: no row is `ErrTemplateNotFound`. -/
def getByID (s : Store) (id : UUID) : Except GoError Template :=
  match s.templates.find? (·.id == id) with
  | some t => .ok t
  | none => .error (.sentinel .templateNotFound)

end TemplateRepo

-- ---------------------------------------------------------------------------
-- What each statement does
-- ---------------------------------------------------------------------------

namespace NotificationRepo

variable {s s' : Store} {n : Notification}

theorem updatedRow_fixed (n r : Notification) : (updatedRow n r).fixed = r.fixed := by
  unfold updatedRow; split <;> rfl

@[simp] theorem id_updatedRow (n r : Notification) : (updatedRow n r).id = r.id := by
  unfold updatedRow; split <;> rfl

@[simp] theorem scheduledAt_updatedRow (n r : Notification) :
    (updatedRow n r).scheduledAt = r.scheduledAt := by
  unfold updatedRow; split <;> rfl

theorem status_updatedRow (n r : Notification) :
    (updatedRow n r).status = if r.id = n.id then n.status else r.status := by
  unfold updatedRow; split <;> rfl

/-- `Cancel` changes only a pending or scheduled row, to cancelled. -/
theorem status_cancelledRow (id : UUID) (now : Instant) (r : Notification) :
    (cancelledRow id now r).status = r.status ∨
      ((r.status = .pending ∨ r.status = .scheduled) ∧ (cancelledRow id now r).status = .cancelled) := by
  unfold cancelledRow
  split
  · rename_i h
    simp only [Notification.canCancel, Bool.or_eq_true, beq_iff_eq] at h
    exact .inr ⟨h.2, rfl⟩
  · exact .inl rfl

theorem updatedRow_of_ne {n r : Notification} (h : r.id ≠ n.id) : updatedRow n r = r := by
  simp [updatedRow, h]

/-- After `UpdateStatus` of `n`, the row with `n`'s id has `n`'s status. -/
theorem status_of_mem_map_updatedRow {l : List Notification} {n r : Notification}
    (hr : r ∈ l.map (updatedRow n)) (hid : r.id = n.id) : r.status = n.status := by
  obtain ⟨r₀, -, rfl⟩ := List.mem_map.1 hr
  rw [id_updatedRow] at hid
  simp [status_updatedRow, hid]

theorem map_fixed_updatedRow (l : List Notification) (n : Notification) :
    (l.map (updatedRow n)).map Notification.fixed = l.map Notification.fixed := by
  simp [Function.comp_def, updatedRow_fixed]

/-- `UpdateStatus` touches none of the fixed columns. -/
@[simp] theorem updateStatus_fixed :
    (updateStatus s n).notifications.map Notification.fixed = s.notifications.map Notification.fixed :=
  map_fixed_updatedRow _ _

@[simp] theorem updateStatus_batches : (updateStatus s n).batches = s.batches := rfl

@[simp] theorem updateStatus_idempotencyKeys : (updateStatus s n).idempotencyKeys = s.idempotencyKeys :=
  rfl

theorem cancelledRow_fixed (id : UUID) (now : Instant) (r : Notification) :
    (cancelledRow id now r).fixed = r.fixed := by
  unfold cancelledRow; split <;> rfl

/-- `Cancel` touches none of the fixed columns, nor the other tables. -/
theorem cancel_ok {id : UUID} {now : Instant} (h : cancel s id now = .ok s') :
    s'.notifications = s.notifications.map (cancelledRow id now) ∧ s'.batches = s.batches ∧
      s'.idempotencyKeys = s.idempotencyKeys := by
  unfold cancel at h
  split at h
  · cases h; exact ⟨rfl, rfl, rfl⟩
  · cases h

theorem map_fixed_cancelledRow (l : List Notification) (id : UUID) (now : Instant) :
    (l.map (cancelledRow id now)).map Notification.fixed = l.map Notification.fixed := by
  simp [Function.comp_def, cancelledRow_fixed]

@[simp] theorem insertedRow_fixed (n : Notification) : (insertedRow n).fixed = n.fixed := rfl

/-- What a clean insert knows: the id is new, the key (if any) is unused, the batch exists. -/
theorem insertError_eq_none (h : insertError s n = none) :
    (∀ r ∈ s.notifications, r.id ≠ n.id) ∧
      (∀ k, n.idempotencyKey = some k → ∀ r ∈ s.notifications, r.idempotencyKey ≠ some k) ∧
      (∀ b, n.batchId = some b → ∃ x ∈ s.batches, x.id = b) := by
  unfold insertError at h
  split at h
  · cases h
  split at h
  · cases h
  rename_i h1
  split at h
  · cases h
  rename_i h2
  split at h
  · cases h
  rename_i h3
  simp only [List.any_eq_true, beq_iff_eq, not_exists, not_and] at h1
  refine ⟨h1, fun k hk r hr hrk => ?_, fun b hb => ?_⟩
  · simp only [hk, Option.isSome_some, List.any_eq_true, beq_iff_eq, Bool.true_and] at h2
    exact h2 ⟨r, hr, by rw [hrk]⟩
  · simp only [hb, Option.isSome_some, List.any_eq_true, beq_iff_eq, Bool.true_and,
      Bool.not_eq_true', Bool.not_eq_false] at h3
    simpa [Option.some.injEq] using h3

/-- `Create` appends the inserted row and nothing else. -/
theorem create_ok (h : create s n = .ok s') :
    s' = { s with notifications := s.notifications ++ [insertedRow n] } ∧ insertError s n = none := by
  unfold create at h
  split at h
  · cases h
  · cases h; exact ⟨rfl, ‹_›⟩

theorem insertAll_ok {ns : List Notification} (h : insertAll s ns = .ok s') :
    s'.notifications = s.notifications ++ ns.map insertedRow ∧ s'.batches = s.batches ∧
      s'.idempotencyKeys = s.idempotencyKeys := by
  induction ns generalizing s with
  | nil => cases h; simp
  | cons n ns ih =>
    simp only [insertAll, bind, Except.bind] at h
    split at h
    · cases h
    · rename_i s₁ h₁
      obtain ⟨rfl, -⟩ := create_ok h₁
      obtain ⟨h1, h2, h3⟩ := ih h
      simp [h1, h2, h3]

/-- `CreateBatch` appends the batch row and the children's rows, or changes nothing. -/
theorem createBatch_ok {b : NotificationBatch} {ns : List Notification}
    (h : createBatch s b ns = .ok s') :
    s'.notifications = s.notifications ++ ns.map insertedRow ∧
      s'.batches = s.batches ++ [batchRow b] ∧ s'.idempotencyKeys = s.idempotencyKeys := by
  unfold createBatch at h
  split at h
  · cases h
  · exact insertAll_ok h

/-- `CreateBatch` commits only a batch id the table does not hold yet. -/
theorem createBatch_fresh {b : NotificationBatch} {ns : List Notification}
    (h : createBatch s b ns = .ok s') : ∀ x ∈ s.batches, x.id ≠ b.id := by
  unfold createBatch at h
  split at h
  · cases h
  · rename_i hb
    simpa using hb

theorem getByID_ok {id : UUID} (h : getByID s id = .ok n) : n ∈ s.notifications ∧ n.id = id := by
  unfold getByID at h
  split at h
  · rename_i r hr
    cases h
    exact ⟨List.mem_of_find?_eq_some hr, by simpa using List.find?_some hr⟩
  · cases h

/-- No row has the id: `ErrNotificationNotFound`. -/
theorem getByID_eq_notFound {id : UUID} (h : ∀ r ∈ s.notifications, r.id ≠ id) :
    getByID s id = .error (.sentinel .notificationNotFound) := by
  rw [getByID, List.find?_eq_none.2 fun r hr => by simpa using h r hr]

/-- A row that may be cancelled is: the conditional update affects it. -/
theorem cancel_of_mem {n : Notification} (hn : n ∈ s.notifications) (hc : n.canCancel)
    (now : Instant) :
    cancel s n.id now = .ok { s with notifications := s.notifications.map (cancelledRow n.id now) } :=
  if_pos (List.any_eq_true.2 ⟨n, hn, by simp [hc]⟩)

/-- The insert stores a notification as given when the columns it leaves out already hold
their defaults. -/
theorem insertedRow_eq_self
    (h : n.sentAt = none ∧ n.failedAt = none ∧ n.errorMessage = none ∧ n.retryCount = 0 ∧
      n.providerMessageId = none) : insertedRow n = n := by
  cases n
  obtain ⟨rfl, rfl, rfl, rfl, rfl⟩ := h
  rfl

/-- After a successful `Create`, `GetByID` reads the inserted row back: the id was new. -/
theorem getByID_create (h : create s n = .ok s') : getByID s' n.id = .ok (insertedRow n) := by
  obtain ⟨rfl, hnone⟩ := create_ok h
  have hnew : s.notifications.find? (·.id == n.id) = none :=
    List.find?_eq_none.2 fun r hr hid => (insertError_eq_none hnone).1 r hr (beq_iff_eq.1 hid)
  simp [getByID, List.find?_append, hnew, insertedRow]

/-- `GetByID` after `UpdateStatus` of `n` reads the row it read before, updated by `n`. -/
theorem getByID_updateStatus (s : Store) (n : Notification) (id : UUID) :
    getByID (updateStatus s n) id = (getByID s id).map (updatedRow n) := by
  have hp : ((fun r => r.id == id) ∘ updatedRow n) = fun r => r.id == id := funext fun r => by simp
  simp only [getByID, updateStatus, List.find?_map, hp]
  cases s.notifications.find? (fun r => r.id == id) <;> rfl

theorem mem_listDueScheduled {limit : Nat} {now : Instant} (h : n ∈ listDueScheduled s limit now) :
    n ∈ s.notifications ∧ n.status = .scheduled ∧ ∃ t, n.scheduledAt = some t ∧ t ≤ now := by
  have h' := List.mem_of_mem_take h
  rw [List.mem_insertionSort, List.mem_filter] at h'
  obtain ⟨hm, hd⟩ := h'
  simp only [isDue, Bool.and_eq_true, beq_iff_eq] at hd
  obtain ⟨hs, ht⟩ := hd
  cases hn : n.scheduledAt with
  | none => simp [hn] at ht
  | some t => exact ⟨hm, hs, t, rfl, by simpa [hn] using ht⟩

theorem mem_listStuckProcessing {olderThan limit : Nat} {now : Instant}
    (h : n ∈ listStuckProcessing s olderThan limit now) :
    n ∈ s.notifications ∧ n.status = .processing ∧ n.updatedAt + olderThan < now := by
  have h' := List.mem_of_mem_take h
  rw [List.mem_insertionSort, List.mem_filter] at h'
  simpa [isStuck] using h'

@[simp] theorem incrementBatchCounter_notifications {b : UUID} {st : Status} :
    (incrementBatchCounter s b st).notifications = s.notifications := by
  unfold incrementBatchCounter; split <;> rfl

@[simp] theorem incrementBatchCounter_idempotencyKeys {b : UUID} {st : Status} :
    (incrementBatchCounter s b st).idempotencyKeys = s.idempotencyKeys := by
  unfold incrementBatchCounter; split <;> rfl

end NotificationRepo

namespace IdempotencyRepo

variable {s s' : Store}

/-- A hit names the id of an unexpired entry for the key. -/
theorem check_hit {key str : String} {now : Instant} (h : check s key now = (true, str)) :
    ∃ e ∈ s.idempotencyKeys, e.key = key ∧ now < e.expiresAt ∧ str = e.notificationId.toString := by
  unfold check at h
  split at h
  · rename_i e he
    cases h
    have hp := List.find?_some he
    simp only [Bool.and_eq_true, beq_iff_eq, decide_eq_true_eq] at hp
    exact ⟨e, List.mem_of_find?_eq_some he, hp.1, hp.2, rfl⟩
  · cases h

/-- With no unexpired entry for the key, `Check` misses. -/
theorem check_miss {key : String} {now : Instant}
    (h : ∀ e ∈ s.idempotencyKeys, e.key = key → e.expiresAt ≤ now) : check s key now = (false, "") := by
  unfold check
  rw [List.find?_eq_none.2 fun e he => by
    simp only [Bool.and_eq_true, beq_iff_eq, decide_eq_true_eq, not_and, not_lt]
    exact h e he]

/-- `SetNX` leaves the notifications alone, and adds an entry only for an unbound key and an
existing notification. -/
theorem setNX_ok {key : String} {id : UUID} {now : Instant} {inserted : Bool}
    (h : setNX s key id now = .ok (s', inserted)) :
    s'.notifications = s.notifications ∧ s'.batches = s.batches ∧
      (s'.idempotencyKeys = s.idempotencyKeys ∨
        (s'.idempotencyKeys = s.idempotencyKeys ++ [⟨key, id, now + idempotencyTTL⟩] ∧
          (∀ e ∈ s.idempotencyKeys, e.key ≠ key) ∧ ∃ r ∈ s.notifications, r.id = id)) := by
  unfold setNX at h
  split at h
  · cases h; exact ⟨rfl, rfl, .inl rfl⟩
  · rename_i h1
    split at h
    · rename_i h2
      cases h
      simp only [List.any_eq_true, beq_iff_eq, not_exists, not_and] at h1 h2
      exact ⟨rfl, rfl, .inr ⟨rfl, h1, h2⟩⟩
    · cases h

end IdempotencyRepo

namespace TemplateRepo

variable {s s' : Store} {t : Template}

/-- `Create` appends the template and nothing else. -/
theorem create_ok (h : create s t = .ok s') :
    s' = { s with templates := s.templates ++ [t] } ∧ createError s t = none := by
  unfold create at h
  split at h
  · cases h
  · cases h; exact ⟨rfl, ‹_›⟩

/-- `Create` of a template whose channel fits its column: the name's length, then the id, then
the name decide. -/
theorem create_eq (hch : t.channel.toString.length ≤ 10) :
    create s t =
      if 255 < t.name.length then .error (.other "value too long for type character varying(255)")
      else if t.id ∈ s.templates.map (·.id) then
        .error (.other "duplicate key value violates unique constraint \"templates_pkey\"")
      else if t.name ∈ s.templates.map (·.name) then .error (.sentinel .duplicateTemplateName)
      else .ok { s with templates := s.templates ++ [t] } := by
  have hid : s.templates.any (·.id == t.id) = true ↔ t.id ∈ s.templates.map (·.id) := by simp
  have hname : s.templates.any (·.name == t.name) = true ↔ t.name ∈ s.templates.map (·.name) := by
    simp
  simp only [create, createError, varcharError, if_neg (Nat.not_lt.2 hch), hid, hname]
  split_ifs <;> rfl

end TemplateRepo

-- ---------------------------------------------------------------------------
-- The schema's constraints
-- ---------------------------------------------------------------------------

/-- The columns of the notifications table that no statement updates. -/
def Store.fixedRows (s : Store) : List FixedColumns := s.notifications.map Notification.fixed

/-- The constraints of the schema that bind the pipeline: the three primary keys, the unique
`idempotency_key`, and the foreign keys `batch_id` and `notification_id`. Each reads only
columns that no `UPDATE` writes. -/
structure Store.Wf (s : Store) : Prop where
  ids : (s.fixedRows.map (·.id)).Nodup
  keys : ∀ f ∈ s.fixedRows, ∀ f' ∈ s.fixedRows, ∀ k,
    f.idempotencyKey = some k → f'.idempotencyKey = some k → f = f'
  batchRefs : ∀ f ∈ s.fixedRows, ∀ b, f.batchId = some b → b ∈ s.batches.map (·.id)
  batchIds : (s.batches.map (·.id)).Nodup
  keyIds : (s.idempotencyKeys.map (·.key)).Nodup
  keyRefs : ∀ e ∈ s.idempotencyKeys, e.notificationId ∈ s.fixedRows.map (·.id)

namespace Store

variable {s s' : Store}

theorem wf_empty : Store.empty.Wf := by
  refine ⟨?_, ?_, ?_, ?_, ?_, ?_⟩ <;> simp [Store.empty, fixedRows]

@[simp] theorem fixedRows_updateStatus {n : Notification} :
    (NotificationRepo.updateStatus s n).fixedRows = s.fixedRows :=
  NotificationRepo.updateStatus_fixed

@[simp] theorem fixedRows_incrementBatchCounter {b : UUID} {st : Status} :
    (NotificationRepo.incrementBatchCounter s b st).fixedRows = s.fixedRows := by
  simp [fixedRows]

/-- Two rows with one id are one row: the primary key. -/
theorem Wf.fixed_eq (h : s.Wf) {f f' : FixedColumns} (hf : f ∈ s.fixedRows) (hf' : f' ∈ s.fixedRows)
    (hid : f.id = f'.id) : f = f' :=
  List.inj_on_of_nodup_map h.ids hf hf' hid

theorem Wf.ids_nodup (h : s.Wf) : (s.notifications.map (·.id)).Nodup := by
  simpa [fixedRows, Function.comp_def, Notification.fixed] using h.ids

theorem Wf.row_eq (h : s.Wf) {r r' : Notification} (hr : r ∈ s.notifications)
    (hr' : r' ∈ s.notifications) (hid : r.id = r'.id) : r = r' :=
  List.inj_on_of_nodup_map h.ids_nodup hr hr' hid

/-- In a table that keeps the primary key, `GetByID` finds a stored row by its id. -/
theorem Wf.getByID_of_mem (h : s.Wf) {n : Notification} (hn : n ∈ s.notifications) :
    NotificationRepo.getByID s n.id = .ok n := by
  unfold NotificationRepo.getByID
  cases hf : s.notifications.find? (·.id == n.id) with
  | none => exact absurd (by simp) (List.find?_eq_none.1 hf n hn)
  | some r => rw [h.row_eq (List.mem_of_find?_eq_some hf) hn (by simpa using List.find?_some hf)]

/-- In a key table without duplicate keys, `Check` of a live key reports the id it is bound to. -/
theorem Wf.check_of_live (h : s.Wf) {e : IdempotencyKey} (he : e ∈ s.idempotencyKeys) {now : Instant}
    (hlive : now < e.expiresAt) : IdempotencyRepo.check s e.key now = (true, e.notificationId.toString) := by
  unfold IdempotencyRepo.check
  cases hf : s.idempotencyKeys.find? (fun x => x.key == e.key && decide (now < x.expiresAt)) with
  | none => exact absurd (by simp [hlive]) (List.find?_eq_none.1 hf e he)
  | some x =>
    have hx := List.find?_some hf
    simp only [Bool.and_eq_true, beq_iff_eq, decide_eq_true_eq] at hx
    rw [List.inj_on_of_nodup_map h.keyIds (List.mem_of_find?_eq_some hf) he hx.1]

/-- ... and the conditional update of `Cancel` changes that row alone. -/
theorem Wf.map_cancelledRow (h : s.Wf) {n : Notification} (hn : n ∈ s.notifications)
    (hc : n.canCancel) (now : Instant) :
    s.notifications.map (NotificationRepo.cancelledRow n.id now) = s.notifications.map fun r =>
      if r.id = n.id then { r with status := .cancelled, updatedAt := now } else r := by
  refine List.map_congr_left fun r hr => ?_
  by_cases hid : r.id = n.id
  · obtain rfl := h.row_eq hr hn hid
    simp [NotificationRepo.cancelledRow, hc]
  · simp [NotificationRepo.cancelledRow, hid]

/-- A row appended to a table that keeps the primary key has a new id. -/
theorem Wf.fresh_of_append (h : s'.Wf) {l : List Notification}
    (hs : s'.notifications = s.notifications ++ l) {x : Notification} (hx : x ∈ l) :
    ∀ f ∈ s.fixedRows, f.id ≠ x.id := by
  have hids := h.ids
  simp only [fixedRows, hs, List.map_append, List.nodup_append] at hids
  intro f hf hfx
  exact hids.2.2 (List.mem_map_of_mem _ hf) (List.mem_map.2 ⟨x.fixed, List.mem_map_of_mem _ hx, hfx.symm⟩)

/-- The constraints read only the fixed columns, the batch ids and the key table. -/
theorem Wf.congr (h : s.Wf) (hr : s'.fixedRows = s.fixedRows)
    (hb : s'.batches.map (·.id) = s.batches.map (·.id))
    (hk : s'.idempotencyKeys = s.idempotencyKeys) : s'.Wf := by
  obtain ⟨h1, h2, h3, h4, h5, h6⟩ := h
  constructor <;> simp only [hr, hb, hk] <;> assumption

theorem Wf.updateStatus (h : s.Wf) (n : Notification) : (NotificationRepo.updateStatus s n).Wf :=
  h.congr NotificationRepo.updateStatus_fixed rfl rfl

theorem bumpCounter_id {st : Status} {f : NotificationBatch → NotificationBatch}
    (h : NotificationRepo.bumpCounter st = some f) (b : NotificationBatch) : (f b).id = b.id := by
  cases st <;> simp only [NotificationRepo.bumpCounter, Option.some.injEq, reduceCtorEq] at h <;>
    subst h <;> rfl

@[simp] theorem batchIds_incrementBatchCounter {b : UUID} {st : Status} :
    (NotificationRepo.incrementBatchCounter s b st).batches.map (·.id) = s.batches.map (·.id) := by
  unfold NotificationRepo.incrementBatchCounter
  split
  · rfl
  · rename_i f hf
    simp only [List.map_map]
    congr 1
    funext x
    simp only [Function.comp_apply]
    split <;> simp [bumpCounter_id hf]

theorem Wf.incrementBatchCounter (h : s.Wf) (b : UUID) (st : Status) :
    (NotificationRepo.incrementBatchCounter s b st).Wf :=
  h.congr fixedRows_incrementBatchCounter batchIds_incrementBatchCounter
    NotificationRepo.incrementBatchCounter_idempotencyKeys

theorem Wf.cancel (h : s.Wf) {id : UUID} {now : Instant}
    (hc : NotificationRepo.cancel s id now = .ok s') : s'.Wf := by
  obtain ⟨h1, h2, h3⟩ := NotificationRepo.cancel_ok hc
  exact h.congr (by rw [fixedRows, h1, NotificationRepo.map_fixed_cancelledRow]; rfl)
    (by rw [h2]) h3

/-- A clean insert keeps the constraints: that is what `insertError` checks. -/
theorem Wf.create (h : s.Wf) {n : Notification} (hc : NotificationRepo.create s n = .ok s') :
    s'.Wf := by
  obtain ⟨rfl, he⟩ := NotificationRepo.create_ok hc
  obtain ⟨hid, hkey, hbatch⟩ := NotificationRepo.insertError_eq_none he
  have hrows : ({ s with notifications := s.notifications ++ [NotificationRepo.insertedRow n] } :
      Store).fixedRows = s.fixedRows ++ [n.fixed] := by simp [fixedRows]
  have hnew : ∀ f ∈ s.fixedRows, f.id ≠ n.id := by
    simpa [fixedRows, Notification.fixed] using hid
  have hunused : ∀ k, n.idempotencyKey = some k → ∀ f ∈ s.fixedRows, f.idempotencyKey ≠ some k := by
    simpa [fixedRows, Notification.fixed] using hkey
  obtain ⟨h1, h2, h3, h4, h5, h6⟩ := h
  refine ⟨?_, ?_, ?_, h4, h5, ?_⟩ <;> simp only [hrows]
  · simpa [List.nodup_append, Notification.fixed] using ⟨h1, fun f hf => hnew f hf⟩
  · simp only [List.mem_append, List.mem_singleton]
    rintro f (hf | rfl) f' (hf' | rfl) k hk hk'
    · exact h2 f hf f' hf' k hk hk'
    · exact absurd hk (hunused k hk' f hf)
    · exact absurd hk' (hunused k hk f' hf')
    · rfl
  · simp only [List.mem_append, List.mem_singleton]
    rintro f (hf | rfl) b hb
    · exact h3 f hf b hb
    · simpa using hbatch b hb
  · intro e he'
    simpa using Or.inl (h6 e he')

theorem Wf.insertAll (h : s.Wf) {ns : List Notification}
    (hc : NotificationRepo.insertAll s ns = .ok s') : s'.Wf := by
  induction ns generalizing s with
  | nil => cases hc; exact h
  | cons n ns ih =>
    simp only [NotificationRepo.insertAll, bind, Except.bind] at hc
    split at hc
    · cases hc
    · exact ih (h.create ‹_›) hc

/-- `CreateBatch`'s transaction keeps the constraints: the batch id is new, then each child's
insert is clean. -/
theorem Wf.createBatch (h : s.Wf) {b : NotificationBatch} {ns : List Notification}
    (hc : NotificationRepo.createBatch s b ns = .ok s') : s'.Wf := by
  unfold NotificationRepo.createBatch at hc
  split at hc
  · cases hc
  · rename_i hb
    refine Wf.insertAll ?_ hc
    simp only [List.any_eq_true, beq_iff_eq, not_exists, not_and] at hb
    obtain ⟨h1, h2, h3, h4, h5, h6⟩ := h
    refine ⟨h1, h2, fun f hf b' hb' => by simpa using Or.inl (h3 f hf b' hb'), ?_, h5, h6⟩
    simpa [List.nodup_append, NotificationRepo.batchRow] using ⟨h4, fun x hx => hb x hx⟩

theorem Wf.setNX (h : s.Wf) {key : String} {id : UUID} {now : Instant} {inserted : Bool}
    (hc : IdempotencyRepo.setNX s key id now = .ok (s', inserted)) : s'.Wf := by
  obtain ⟨h1, h2, h3 | ⟨h3, hfree, r, hr, rfl⟩⟩ := IdempotencyRepo.setNX_ok hc
  · exact h.congr (by rw [fixedRows, h1]; rfl) (by rw [h2]) h3
  · have hrows : s'.fixedRows = s.fixedRows := by rw [fixedRows, h1]; rfl
    obtain ⟨k1, k2, k3, k4, k5, k6⟩ := h
    refine ⟨?_, ?_, ?_, ?_, ?_, ?_⟩ <;> simp only [hrows, h2, h3]
    · exact k1
    · exact k2
    · exact k3
    · exact k4
    · simpa [List.nodup_append] using ⟨k5, fun e he => hfree e he⟩
    · simp only [List.mem_append, List.mem_singleton]
      rintro e (he | rfl)
      · exact k6 e he
      · exact List.mem_map.2 ⟨r.fixed, List.mem_map_of_mem _ hr, rfl⟩

end Store

end Postgres
