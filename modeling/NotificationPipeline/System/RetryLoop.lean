-- SUMMARY: The consumer's in-log retry loop: how it settles on a transient failure and requeues a malformed message for ever.
import NotificationPipeline.System.Step
import NotificationPipeline.App.Persistence
import Mathlib.Logic.Relation

/-!
# The consumer's retry loop

`Consumer.consume` runs `ProcessDelivery` on each message it fetches and, whatever error the
handler returns, writes the message's value back to its topic before committing it
(`Consumer.retry`). The coordinator returns an error for a transient provider failure with
retries left, which is what the loop is for; but it also returns the `uuid.Parse` error and
`ErrNotificationNotFound`, which no later attempt can cure. Such a message is written back
after every attempt, for as long as the log accepts writes (`requeued_forever`).

For a transient failure the loop does what it is for. Its abstract account is a function of
the provider's outcomes `os`: the first outcome the coordinator does not retry
(`firstSettled`), the calls made (`providerCalls`) and the row it leaves (`settledRow`). A
round of the loop is one consumed copy: it loads and marks the row, calls the provider, and
either writes the row with the retry counted and the copy back (`AtAttempt.requeue`), or
writes the final status, bumps the batch counter and broadcasts (`AtAttempt.settle`,
`AtAttempt.spend`). By induction on the attempts left, the loop that takes each copy it
writes back ends as the abstract account says (`retry_loop_settles`).
-/

namespace Queue

open Domain Uuid Postgres

/-- A message the handler cannot act on: its id does not parse, or it names no stored row. -/
def Message.Unknown (msg : Message) (s : Store) : Prop :=
  ∀ id, msg.Names id → ∀ r ∈ s.notifications, r.id ≠ id

theorem Message.Unknown.retryMessage {msg : Message} {s : Store} (h : msg.Unknown s) (now : Instant) :
    (Consumer.retryMessage msg now).Unknown s := h

theorem getByID_of_unknown {s : Store} {id : UUID} (h : ∀ r ∈ s.notifications, r.id ≠ id) :
    NotificationRepo.getByID s id = .error (.sentinel .notificationNotFound) := by
  rw [NotificationRepo.getByID, List.find?_eq_none.2 fun r hr hid => h r hr (beq_iff_eq.1 hid)]

end Queue

namespace Pipeline

open Domain Uuid Postgres Queue App

variable {m : Mode} {c : Config}

/-- Running the operation started last. -/
theorem Step.run_last {ops : List Op} {w w' : World} {op op' : Op} (h : OpStep m op w op' w') :
    Step m ⟨w, ops ++ [op]⟩ ⟨w', ops ++ [op']⟩ := by
  simpa using Step.run (c := ⟨w, ops ++ [op]⟩) (i := ops.length) (by simp) (by simpa using h)

/-- Once the consumer started last has returned, every operation has. -/
theorem finished_append_done {ops : List Op} (hfin : ∀ o ∈ ops, o.finished) (off : Nat) :
    ∀ o ∈ ops ++ [.consume off .done], o.finished := by
  simp only [List.mem_append, List.mem_singleton]
  rintro o (ho | rfl)
  exacts [hfin o ho, rfl]

/-- After a handler error, the consumer writes the copy back and commits the offset. -/
theorem round_writeBack {off : Nat} {msg : Message} (w : World) (ops : List Op)
    (hmsg : w.log[off]? = some msg) (e : GoError) :
    Relation.ReflTransGen (Step m) ⟨w, ops ++ [.consume off (.handled (some e))]⟩
      ⟨{ w with log := w.log ++ [Consumer.retryMessage msg w.now], committed := off :: w.committed },
        ops ++ [.consume off .done]⟩ := by
  have hmsg' : (w.log ++ [Consumer.retryMessage msg w.now])[off]? = some msg := by
    rw [List.getElem?_append_left (List.getElem?_eq_some_iff.1 hmsg).1, hmsg]
  exact (Relation.ReflTransGen.single (Step.run_last (.consume hmsg .retry))).tail
    (Step.run_last (.consume hmsg' .commitRetried))

/-- The consumer on a message it cannot act on: the handler returns an error, the consumer
writes the retry copy and commits. -/
theorem requeue_round (hfin : ∀ o ∈ c.ops, o.finished)
    {off : Nat} {msg : Message} (hmsg : c.world.log[off]? = some msg)
    (hun : msg.Unknown c.world.store) :
    ∃ c', Relation.ReflTransGen (Step m) c c' ∧ (∀ o ∈ c'.ops, o.finished) ∧
      c'.world.store = c.world.store ∧ c'.world.now = c.world.now ∧
      c'.world.log = c.world.log ++ [Consumer.retryMessage msg c.world.now] := by
  have hoff : off < c.world.log.length := (List.getElem?_eq_some_iff.1 hmsg).1
  have h1 := Step.start (m := m) (Op.Start.consume hoff) fun _ => hfin
  obtain ⟨e, h2⟩ : ∃ e, OpStep m (.consume off .fetched) c.world (.consume off (.handled (some e))) c.world := by
    cases hid : Uuid.parse msg.value.notificationId with
    | none => exact ⟨_, .consume hmsg (.parseError hid (.other "invalid UUID length"))⟩
    | some id => exact ⟨_, .consume hmsg (.loadError hid (getByID_of_unknown (hun id hid)))⟩
  exact ⟨_, ((Relation.ReflTransGen.single h1).tail (Step.run_last h2)).trans
    (round_writeBack c.world c.ops hmsg e), finished_append_done hfin off, rfl, rfl, rfl⟩

/-- A message the handler cannot act on is written back to the log round after round: after
`k` rounds the log holds `k` copies of it. -/
theorem requeued_forever (hfin : ∀ o ∈ c.ops, o.finished) {off : Nat} {msg : Message}
    (hmsg : c.world.log[off]? = some msg) (hun : msg.Unknown c.world.store) (k : Nat) :
    ∃ c', Relation.ReflTransGen (Step m) c c' ∧ (∀ o ∈ c'.ops, o.finished) ∧
      c'.world.log = c.world.log ++ List.replicate k (Consumer.retryMessage msg c.world.now) := by
  induction k generalizing c off msg with
  | zero => exact ⟨c, .refl, hfin, by simp⟩
  | succ k ih =>
    obtain ⟨c₁, h₁, hfin₁, hs, hnow, hlog⟩ := requeue_round hfin hmsg hun
    have hcopy : c₁.world.log[c.world.log.length]? = some (Consumer.retryMessage msg c.world.now) := by
      simp [hlog]
    obtain ⟨c', h', hfin', hlog'⟩ := ih hfin₁ hcopy (hs ▸ hun.retryMessage _)
    refine ⟨c', h₁.trans h', hfin', ?_⟩
    rw [hlog', hlog, hnow, List.replicate_succ, List.append_assoc]
    rfl

/-- A message whose id is not a UUID is never done with: in a serial run, where every write
succeeds, the consumer writes it back to the log again after every attempt. -/
theorem malformed_message_requeued :
    let msg : Message := ⟨"notifications.normal", "x", ⟨"not-a-uuid", "sms"⟩, 0⟩
    ∀ k, ∃ c, Relation.ReflTransGen (Step Mode.serial) ⟨{ World.init with log := [msg] }, []⟩ c ∧
      (∀ o ∈ c.ops, o.finished) ∧ c.world.log = msg :: List.replicate k msg := by
  intro msg k
  exact @requeued_forever Mode.serial ⟨{ World.init with log := [msg] }, []⟩ (by simp) 0 msg rfl
    (fun id hid => by cases hid) k

-- ---------------------------------------------------------------------------
-- The loop over transient provider failures
-- ---------------------------------------------------------------------------

open NotificationRepo (getByID updateStatus)

/-- An outcome of `Send` the coordinator retries on, while retries are left: a transient
error. -/
def transientOutcome : Except GoError ProviderResponse → Bool
  | .error e => isTransient e
  | .ok _ => false

theorem transientOutcome_eq_true {o : Except GoError ProviderResponse} :
    transientOutcome o = true ↔ ∃ e, o = .error e ∧ isTransient e = true := by
  cases o <;> simp [transientOutcome]

/-- Among the first `mx` outcomes, the first the coordinator does not retry, counting from 0. -/
def firstSettled (os : ℕ → Except GoError ProviderResponse) : ℕ → Option ℕ
  | 0 => none
  | k + 1 => (firstSettled os k).or (if transientOutcome (os k) then none else some k)

/-- The provider calls of the loop: up to and including the first outcome it does not retry,
and at most `mx`. -/
def providerCalls (os : ℕ → Except GoError ProviderResponse) (mx : ℕ) : ℕ :=
  ((firstSettled os mx).map (· + 1)).getD mx

/-- The row's status and retry count when the loop ends: delivered without counting the
successful attempt, failed counting the permanent error, or failed with the retries spent. -/
def settledRow (os : ℕ → Except GoError ProviderResponse) (mx : ℕ) : Status × Int :=
  match firstSettled os mx with
  | some k =>
    match os k with
    | .ok _ => (.delivered, k)
    | .error _ => (.failed, k + 1)
  | none => (.failed, mx)

/-- The batch table after `IncrementBatchCounter` for a row of the batch `batchId` that reached
`st`; a row with no batch bumps nothing. -/
def batchesBumped (s : Store) (batchId : Option UUID) (st : Status) : List NotificationBatch :=
  match batchId with
  | some b => (NotificationRepo.incrementBatchCounter s b st).batches
  | none => s.batches

section Loop

variable {os : ℕ → Except GoError ProviderResponse}

theorem firstSettled_eq_none {mx : ℕ} :
    firstSettled os mx = none ↔ ∀ i < mx, transientOutcome (os i) = true := by
  induction mx with
  | zero => simp [firstSettled]
  | succ k ih =>
    rw [firstSettled, Option.or_eq_none, ih, Nat.forall_lt_succ]
    split <;> simp_all

theorem firstSettled_eq_some {mx k : ℕ} :
    firstSettled os mx = some k ↔
      k < mx ∧ transientOutcome (os k) = false ∧ ∀ i < k, transientOutcome (os i) = true := by
  induction mx with
  | zero => simp [firstSettled]
  | succ j ih =>
    rw [firstSettled, Option.or_eq_some, ih, firstSettled_eq_none]
    constructor
    · rintro (⟨hk, hs, hb⟩ | ⟨hall, hj⟩)
      · exact ⟨by omega, hs, hb⟩
      · split at hj
        · cases hj
        · rename_i hs
          cases hj
          exact ⟨by omega, Bool.eq_false_iff.2 hs, hall⟩
    · rintro ⟨hk, hs, hb⟩
      by_cases hkj : k < j
      · exact .inl ⟨hkj, hs, hb⟩
      · obtain rfl : k = j := by omega
        exact .inr ⟨hb, by simp [hs]⟩

/-- The loop settles at the first outcome it does not retry. -/
theorem settled_at {mx k : ℕ} (hk : k < mx) (hs : transientOutcome (os k) = false)
    (hb : ∀ i < k, transientOutcome (os i) = true) :
    providerCalls os mx = k + 1 ∧
      settledRow os mx = match os k with
        | .ok _ => (.delivered, k)
        | .error _ => (.failed, k + 1) := by
  have h := firstSettled_eq_some.2 ⟨hk, hs, hb⟩
  simp [providerCalls, settledRow, h]

/-- With every outcome transient, the loop spends its retries. -/
theorem settled_spent {mx : ℕ} (hb : ∀ i < mx, transientOutcome (os i) = true) :
    providerCalls os mx = mx ∧ settledRow os mx = (.failed, (mx : Int)) := by
  have h := firstSettled_eq_none.2 hb
  simp [providerCalls, settledRow, h]

/-- While the first `k + 1` outcomes are transient, the loop calls at least once more. -/
theorem lt_providerCalls {mx k : ℕ} (hk : k + 1 < mx)
    (hb : ∀ i < k + 1, transientOutcome (os i) = true) : k + 1 < providerCalls os mx := by
  cases h : firstSettled os mx with
  | none => simpa [providerCalls, h] using hk
  | some j =>
    obtain ⟨-, hs, -⟩ := firstSettled_eq_some.1 h
    have : k + 1 ≤ j := by
      by_contra hj
      rw [hb j (by omega)] at hs
      cases hs
    simp [providerCalls, h]
    omega

end Loop

theorem batchesBumped_congr {s s' : Store} (h : s.batches = s'.batches) (b : Option UUID)
    (st : Status) : batchesBumped s b st = batchesBumped s' b st := by
  cases b with
  | none => exact h
  | some b =>
    simp only [batchesBumped, NotificationRepo.incrementBatchCounter]
    cases NotificationRepo.bumpCounter st <;> simp [h]

theorem getByID_congr {s s' : Store} (h : s.notifications = s'.notifications) (id : UUID) :
    getByID s id = getByID s' id := by
  unfold getByID
  rw [h]

/-- The row written at the end of a round, over the row the round loaded. -/
theorem getByID_round {s : Store} {n : Notification} (hn : getByID s n.id = .ok n)
    (now : Instant) (μs : List Mutation) :
    getByID (updateStatus (updateStatus s (n.markProcessing now))
      (Mutation.applyAll (n.markProcessing now) μs)) n.id =
        .ok (Mutation.applyAll (n.markProcessing now) μs) := by
  have h₁ : getByID (updateStatus s (n.markProcessing now)) (n.markProcessing now).id =
      .ok (n.markProcessing now) :=
    getByID_updateStatus_applyAll hn [.markProcessing now]
  exact getByID_updateStatus_applyAll h₁ μs

section Round

variable {off : ℕ} {msg : Message} {n : Notification}

/-- The first half of a round: the consumer takes the copy at `off`, loads the row, marks it
processing and calls the provider, which answers `o`. -/
theorem round_send (hfin : ∀ o ∈ c.ops, o.finished) (hmsg : c.world.log[off]? = some msg)
    (hid : msg.Names n.id) (hn : getByID c.world.store n.id = .ok n)
    (hst : n.status = .pending ∨ n.status = .processing) (o : Except GoError ProviderResponse) :
    Relation.ReflTransGen (Step m) c
      ⟨{ c.world with store := updateStatus c.world.store (n.markProcessing c.world.now)
                      sends := c.world.sends ++ [n.id] },
        c.ops ++ [.consume off (afterSend (n.markProcessing c.world.now) c.world.now o)]⟩ := by
  have hoff : off < c.world.log.length := (List.getElem?_eq_some_iff.1 hmsg).1
  have hload : afterLoad n = .read n := by
    unfold afterLoad
    rw [if_neg]
    rcases hst with h | h <;> simp [h]
  have h1 := Step.start (m := m) (Op.Start.consume hoff) fun _ => hfin
  have h2 : OpStep m (.consume off .fetched) c.world (.consume off (.read n)) c.world :=
    hload ▸ .consume hmsg (.load hid hn)
  exact ((((Relation.ReflTransGen.single h1).tail (Step.run_last h2)).tail
    (Step.run_last (.consume hmsg .mark))).tail (Step.run_last (.consume hmsg (.send o))))

/-- A transient error with retries left: the row with the retry counted is written, the copy
goes back to the log, and the offset is committed. -/
theorem round_requeue {w : World} {ops : List Op} (hmsg : w.log[off]? = some msg)
    (p : Notification) (e : GoError) :
    Relation.ReflTransGen (Step m) ⟨w, ops ++ [.consume off (.retrying p e)]⟩
      ⟨{ w with store := updateStatus w.store p
                log := w.log ++ [Consumer.retryMessage msg w.now]
                committed := off :: w.committed }, ops ++ [.consume off .done]⟩ :=
  (Relation.ReflTransGen.single (Step.run_last (.consume hmsg .persistRetry))).trans
    (round_writeBack { w with store := updateStatus w.store p } ops hmsg e)

/-- A final status written: the batch counter is bumped, the status broadcast, and the offset
committed. -/
theorem round_count (w : World) (ops : List Op) (hmsg : w.log[off]? = some msg)
    (q : Notification) :
    ∃ s', Relation.ReflTransGen (Step m) ⟨w, ops ++ [.consume off (.counting q)]⟩
        ⟨{ w with store := s', broadcasts := w.broadcasts ++ [(q.id, q.status)]
                  committed := off :: w.committed }, ops ++ [.consume off .done]⟩ ∧
      s'.notifications = w.store.notifications ∧
      s'.batches = batchesBumped w.store q.batchId q.status := by
  cases hb : q.batchId with
  | none =>
    refine ⟨w.store, ?_, rfl, rfl⟩
    exact ((Relation.ReflTransGen.single (Step.run_last (.consume hmsg (.noBatch hb)))).tail
      (Step.run_last (.consume hmsg .broadcast))).tail (Step.run_last (.consume hmsg .commit))
  | some b =>
    refine ⟨NotificationRepo.incrementBatchCounter w.store b q.status, ?_, by simp, rfl⟩
    exact ((Relation.ReflTransGen.single (Step.run_last (.consume hmsg (.bump hb)))).tail
      (Step.run_last (.consume hmsg .broadcast))).tail (Step.run_last (.consume hmsg .commit))

/-- A round that settles: the provider's answer leads to a final status `q`, which is
written; the batch counter is bumped, the status broadcast. -/
theorem round_settles (hfin : ∀ o ∈ c.ops, o.finished) (hmsg : c.world.log[off]? = some msg)
    (hid : msg.Names n.id) (hn : getByID c.world.store n.id = .ok n)
    (hst : n.status = .pending ∨ n.status = .processing) {o : Except GoError ProviderResponse}
    (μs : List Mutation)
    (hq : let q := Mutation.applyAll (n.markProcessing c.world.now) μs
      afterSend (n.markProcessing c.world.now) c.world.now o = .failing q ∨
        afterSend (n.markProcessing c.world.now) c.world.now o = .delivering q) :
    let q := Mutation.applyAll (n.markProcessing c.world.now) μs
    ∃ c', Relation.ReflTransGen (Step m) c c' ∧ (∀ o ∈ c'.ops, o.finished) ∧
      c'.world.sends = c.world.sends ++ [n.id] ∧ getByID c'.world.store n.id = .ok q ∧
      c'.world.broadcasts = c.world.broadcasts ++ [(n.id, q.status)] ∧
      c'.world.store.batches = batchesBumped c.world.store n.batchId q.status := by
  intro q
  let w₁ : World := { c.world with store := updateStatus c.world.store (n.markProcessing c.world.now)
                                   sends := c.world.sends ++ [n.id] }
  have h2 : Relation.ReflTransGen (Step m)
      ⟨w₁, c.ops ++ [.consume off (afterSend (n.markProcessing c.world.now) c.world.now o)]⟩
      ⟨{ w₁ with store := updateStatus w₁.store q }, c.ops ++ [.consume off (.counting q)]⟩ := by
    rcases hq with hq | hq <;> rw [hq]
    · exact .single (Step.run_last (.consume hmsg .persistFailed))
    · exact .single (Step.run_last (.consume hmsg .persistDelivered))
  obtain ⟨s', h3, hrows, hbatches⟩ :=
    round_count (m := m) { w₁ with store := updateStatus w₁.store q } c.ops hmsg q
  have hfixed : q.fixed = n.fixed := Mutation.fixed_applyAll _ μs
  refine ⟨_, ((round_send hfin hmsg hid hn hst o).trans h2).trans h3, ?_, rfl, ?_, ?_, ?_⟩
  · exact finished_append_done hfin off
  · rw [getByID_congr hrows]
    exact getByID_round hn _ μs
  · show w₁.broadcasts ++ [(q.id, q.status)] = _
    rw [show q.id = n.id from congrArg Postgres.FixedColumns.id hfixed]
  · rw [hbatches, show q.batchId = n.batchId from congrArg Postgres.FixedColumns.batchId hfixed]
    exact batchesBumped_congr (show (updateStatus w₁.store q).batches = c.world.store.batches from rfl)
      _ _

end Round

section Drive

variable {os : ℕ → Except GoError ProviderResponse} {mx k : ℕ}

/-- The loop at attempt `k`, counting from 0: every operation has returned, the copy at `off`
names the row, which is stored as `n`, not final, with `k` retries counted out of `mx`, and
every earlier outcome was transient. -/
structure AtAttempt (os : ℕ → Except GoError ProviderResponse) (mx k : ℕ) (c : Config)
    (off : ℕ) (msg : Message) (n : Notification) : Prop where
  finished : ∀ o ∈ c.ops, o.finished
  copy : c.world.log[off]? = some msg
  names : msg.Names n.id
  stored : getByID c.world.store n.id = .ok n
  status : n.status = .pending ∨ n.status = .processing
  retryCount : n.retryCount = k
  maxRetries : n.maxRetries = mx
  transient : ∀ i < k, transientOutcome (os i) = true

/-- What the loop has done from `c`, entered at attempt `k` with the row `n`, once every
operation has returned at `c'`: the provider calls still to make, the settled row, one status
broadcast and one batch counter bump. -/
structure LoopEnd (os : ℕ → Except GoError ProviderResponse) (mx k : ℕ) (n : Notification)
    (c c' : Config) : Prop where
  finished : ∀ o ∈ c'.ops, o.finished
  sends : c'.world.sends = c.world.sends ++ List.replicate (providerCalls os mx - k) n.id
  row : ∃ r, getByID c'.world.store n.id = .ok r ∧ (r.status, r.retryCount) = settledRow os mx
  broadcasts : c'.world.broadcasts = c.world.broadcasts ++ [(n.id, (settledRow os mx).1)]
  batches : c'.world.store.batches = batchesBumped c.world.store n.batchId (settledRow os mx).1

variable {off : ℕ} {msg : Message} {n : Notification}

/-- A round that writes the row `q` the abstract account predicts ends the loop. -/
theorem LoopEnd.of_round {c c' : Config} {q : Notification} (hfin : ∀ o ∈ c'.ops, o.finished)
    (hone : providerCalls os mx - k = 1) (hrow : (q.status, q.retryCount) = settledRow os mx)
    (hsends : c'.world.sends = c.world.sends ++ [n.id]) (hget : getByID c'.world.store n.id = .ok q)
    (hbr : c'.world.broadcasts = c.world.broadcasts ++ [(n.id, q.status)])
    (hbat : c'.world.store.batches = batchesBumped c.world.store n.batchId q.status) :
    LoopEnd os mx k n c c' := by
  have hst : q.status = (settledRow os mx).1 := congrArg Prod.fst hrow
  exact ⟨hfin, by rw [hsends, hone]; rfl, ⟨q, hget, hrow⟩, hst ▸ hbr, hst ▸ hbat⟩

/-- An attempt whose outcome the coordinator does not retry ends the loop: delivered on
success, failed on a permanent error. -/
theorem AtAttempt.settle (h : AtAttempt os mx k c off msg n) (hk : k < mx)
    (hs : transientOutcome (os k) = false) :
    ∃ c', Relation.ReflTransGen (Step m) c c' ∧ LoopEnd os mx k n c c' := by
  obtain ⟨hcalls, hrow⟩ := settled_at hk hs h.transient
  have hone : providerCalls os mx - k = 1 := by omega
  cases ho : os k with
  | ok resp =>
    obtain ⟨c', hrun, hfin, hsends, hget, hbr, hbat⟩ := round_settles (m := m) (o := os k) h.finished
      h.copy h.names h.stored h.status [.markDelivered resp.messageId c.world.now]
      (.inr (by rw [ho]; rfl))
    refine ⟨c', hrun, .of_round hfin hone ?_ hsends hget hbr hbat⟩
    rw [hrow, ho, ← h.retryCount]
    rfl
  | error e =>
    have he : isTransient e = false := by simpa [transientOutcome, ho] using hs
    obtain ⟨c', hrun, hfin, hsends, hget, hbr, hbat⟩ := round_settles (m := m) (o := os k) h.finished
      h.copy h.names h.stored h.status [.incrementRetry c.world.now, .markFailed e.error c.world.now]
      (.inl (by rw [ho]; simp [afterSend, he]; rfl))
    refine ⟨c', hrun, .of_round hfin hone ?_ hsends hget hbr hbat⟩
    rw [hrow, ho, ← h.retryCount]
    rfl

/-- A transient error at the last attempt ends the loop: failed, with the retries spent. -/
theorem AtAttempt.spend (h : AtAttempt os mx k c off msg n) (hk : k + 1 = mx)
    (hs : transientOutcome (os k) = true) :
    ∃ c', Relation.ReflTransGen (Step m) c c' ∧ LoopEnd os mx k n c c' := by
  obtain ⟨hcalls, hrow⟩ := settled_spent (hk ▸ Nat.forall_lt_succ.2 ⟨h.transient, hs⟩)
  obtain ⟨e, ho, he⟩ := transientOutcome_eq_true.1 hs
  have hleft : ((n.markProcessing c.world.now).incrementRetry c.world.now).hasRetriesLeft = false := by
    simp [Notification.hasRetriesLeft, Notification.incrementRetry, Notification.markProcessing,
      h.retryCount, h.maxRetries, ← hk]
  obtain ⟨c', hrun, hfin, hsends, hget, hbr, hbat⟩ := round_settles (m := m) (o := os k) h.finished
    h.copy h.names h.stored h.status [.incrementRetry c.world.now, .markFailed e.error c.world.now]
    (.inl (by rw [ho]; simp only [afterSend, he, hleft]; rfl))
  refine ⟨c', hrun, .of_round hfin (by omega) ?_ hsends hget hbr hbat⟩
  rw [hrow, ← hk]
  show (Status.failed, n.retryCount + 1) = _
  rw [h.retryCount]
  push_cast
  rfl

/-- A transient error with retries left: the row is written with the retry counted, and the
loop is at the next attempt on the copy written back. -/
theorem AtAttempt.requeue (h : AtAttempt os mx k c off msg n) (hk : k + 1 < mx)
    (hs : transientOutcome (os k) = true) :
    ∃ c₁ off₁ msg₁, Relation.ReflTransGen (Step m) c c₁ ∧
      AtAttempt os mx (k + 1) c₁ off₁ msg₁ ((n.markProcessing c.world.now).incrementRetry c.world.now) ∧
      c₁.world.sends = c.world.sends ++ [n.id] ∧ c₁.world.broadcasts = c.world.broadcasts ∧
      c₁.world.store.batches = c.world.store.batches := by
  obtain ⟨e, ho, he⟩ := transientOutcome_eq_true.1 hs
  let p := (n.markProcessing c.world.now).incrementRetry c.world.now
  have hleft : p.hasRetriesLeft = true := by
    simp [p, Notification.hasRetriesLeft, Notification.incrementRetry,
      Notification.markProcessing, h.retryCount, h.maxRetries]
    omega
  have h1 := round_send (m := m) h.finished h.copy h.names h.stored h.status (os k)
  rw [ho] at h1
  simp only [afterSend, he, hleft, Bool.and_self, if_true] at h1
  have h2 := h1.trans (round_requeue (m := m) (w := { c.world with
    store := updateStatus c.world.store (n.markProcessing c.world.now)
    sends := c.world.sends ++ [n.id] }) h.copy p e)
  refine ⟨_, c.world.log.length, Consumer.retryMessage msg c.world.now, h2, ⟨?_, ?_, h.names, ?_,
    .inr rfl, ?_, h.maxRetries, Nat.forall_lt_succ.2 ⟨h.transient, hs⟩⟩, rfl, rfl, rfl⟩
  · exact finished_append_done h.finished off
  · simp
  · exact getByID_round h.stored c.world.now [.incrementRetry c.world.now]
  · show n.retryCount + 1 = _
    rw [h.retryCount]
    push_cast
    rfl

/-- From attempt `k`, with `d + 1` attempts left, the loop runs to its end. -/
theorem AtAttempt.drive (d : ℕ) {c : Config} {off : ℕ} {msg : Message} {n : Notification}
    (h : AtAttempt os mx k c off msg n) (hk : k + d + 1 = mx) :
    ∃ c', Relation.ReflTransGen (Step m) c c' ∧ LoopEnd os mx k n c c' := by
  induction d generalizing k c off msg n with
  | zero =>
    cases hs : transientOutcome (os k)
    · exact h.settle (by omega) hs
    · exact h.spend (by omega) hs
  | succ d ih =>
    cases hs : transientOutcome (os k)
    · exact h.settle (by omega) hs
    obtain ⟨c₁, off₁, msg₁, h₁, hA, hsends, hbr, hbat⟩ := h.requeue (m := m) (by omega) hs
    obtain ⟨c', h', hend⟩ := ih hA (by omega)
    have hmore : k + 1 < providerCalls os mx :=
      lt_providerCalls (by omega) (Nat.forall_lt_succ.2 ⟨h.transient, hs⟩)
    refine ⟨c', h₁.trans h', hend.finished, ?_, hend.row, ?_, ?_⟩
    · rw [hend.sends, hsends, List.append_assoc,
        show providerCalls os mx - k = providerCalls os mx - (k + 1) + 1 by omega,
        List.replicate_succ]
      rfl
    · rw [hend.broadcasts, hbr]; rfl
    · rw [hend.batches, batchesBumped_congr hbat]; rfl

end Drive

/-- The retry loop over a notification created pending, with no retries counted and a cap of
`mx` (5, 3 or 2 by priority), and one copy of its message in the log. The consumer takes each
copy the loop writes back, nothing else runs, and the provider answers the `k`-th call with
`os k`. Let `j` be the first outcome the coordinator does not retry (`firstSettled`). The
loop calls the provider `min j mx` times (`providerCalls`), and leaves the row as `settledRow`
says: delivered with `j - 1` retries, failed with `j` after a permanent error, or failed with
`mx` retries spent. It broadcasts that status once, and bumps the row's batch counter once. -/
theorem retry_loop_settles {c : Config} (hfin : ∀ o ∈ c.ops, o.finished) {off : ℕ}
    {msg : Message} (hmsg : c.world.log[off]? = some msg) {n : Notification} (hid : msg.Names n.id)
    (hn : getByID c.world.store n.id = .ok n) (hst : n.status = .pending) (hrc : n.retryCount = 0)
    {mx : ℕ} (hmx : n.maxRetries = mx) (hpos : 0 < mx) (os : ℕ → Except GoError ProviderResponse) :
    ∃ c', Relation.ReflTransGen (Step m) c c' ∧ (∀ o ∈ c'.ops, o.finished) ∧
      c'.world.sends = c.world.sends ++ List.replicate (providerCalls os mx) n.id ∧
      (∃ r, getByID c'.world.store n.id = .ok r ∧ (r.status, r.retryCount) = settledRow os mx) ∧
      c'.world.broadcasts = c.world.broadcasts ++ [(n.id, (settledRow os mx).1)] ∧
      c'.world.store.batches = batchesBumped c.world.store n.batchId (settledRow os mx).1 := by
  have h : AtAttempt os mx 0 c off msg n :=
    ⟨hfin, hmsg, hid, hn, .inl hst, hrc, hmx, fun _ h => absurd h (Nat.not_lt_zero _)⟩
  obtain ⟨c', hrun, hend⟩ := h.drive (m := m) (mx - 1) (by omega)
  exact ⟨c', hrun, hend.finished, hend.sends, hend.row, hend.broadcasts, hend.batches⟩

/-- A normal-priority SMS whose provider stays unavailable: three calls, then failed with its
three retries spent. -/
theorem retry_loop_settles_unavailable :
    let n : Notification := ⟨⟨List.replicate 16 1, rfl⟩, none, none, .sms, "+905530050594", "Hello",
      .normal, .pending, none, none, none, none, 0, 3, none, none, none, 0, 0⟩
    let msg : Message := ⟨"notifications.normal", n.id.toString, ⟨n.id.toString, "sms"⟩, 0⟩
    let c : Config := ⟨{ World.init with store := ⟨[n], [], [], []⟩, log := [msg] }, []⟩
    let os : ℕ → Except GoError ProviderResponse := fun _ => .error (.sentinel .providerUnavailable)
    (msg.Names n.id ∧ getByID c.world.store n.id = .ok n) ∧
      ∃ c', Relation.ReflTransGen (Step Mode.serial) c c' ∧ (∀ o ∈ c'.ops, o.finished) ∧
        c'.world.sends = c.world.sends ++ List.replicate (providerCalls os 3) n.id ∧
        (∃ r, getByID c'.world.store n.id = .ok r ∧ (r.status, r.retryCount) = settledRow os 3) ∧
        c'.world.broadcasts = c.world.broadcasts ++ [(n.id, (settledRow os 3).1)] ∧
        c'.world.store.batches = batchesBumped c.world.store n.batchId (settledRow os 3).1 := by
  intro n msg c os
  have hid : msg.Names n.id := parse_toString _
  have hn : getByID c.world.store n.id = .ok n := by simp [c, getByID]
  have hmsg : c.world.log[0]? = some msg := rfl
  exact ⟨⟨hid, hn⟩, retry_loop_settles (m := Mode.serial) (by simp [c]) hmsg hid hn rfl rfl rfl
    (by decide) os⟩

example : providerCalls (fun _ => .error (.sentinel .providerUnavailable)) 3 = 3 ∧
    settledRow (fun _ => .error (.sentinel .providerUnavailable)) 3 = (.failed, 3) := by
  decide

end Pipeline
