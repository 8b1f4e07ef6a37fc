-- SUMMARY: Batch counters: balanced and monotone in every run, not behind without store faults, and stale after a failed bump.
import NotificationPipeline.System.Transitions

/-!
# Batch counters

A batch row counts its children: `total_count`, and `pending_count`, `delivered_count`,
`failed_count`, `cancelled_count`. `IncrementBatchCounter` adds one to the counter of a
terminal status and takes one from `pending_count` in a single statement, so in every run
the four sum to the total (`Reachable.batches_balanced`) and no step lowers a terminal
counter (`Step.batch_counters_mono`). But the bump is a call of its own after the child's
status is written, and its error is discarded (`ProcessDelivery`, `Cancel`): a failed bump
leaves the counters behind the children for good (`batch_counter_stale`). Only a failed bump
does: without repository faults, whenever no operation is midway, no terminal counter is
behind its children (`Reachable.counters_not_behind`).
-/

namespace Domain

/-- The four counters of a batch row sum to its total. -/
def NotificationBatch.Balanced (B : NotificationBatch) : Prop :=
  B.pendingCount + B.deliveredCount + B.failedCount + B.cancelledCount = B.totalCount

/-- `B'` is the row `B` with no terminal counter lower. -/
def NotificationBatch.Le (B B' : NotificationBatch) : Prop :=
  B'.id = B.id ∧ B.deliveredCount ≤ B'.deliveredCount ∧ B.failedCount ≤ B'.failedCount ∧
    B.cancelledCount ≤ B'.cancelledCount

theorem NotificationBatch.le_refl (B : NotificationBatch) : B.Le B :=
  ⟨rfl, le_rfl, le_rfl, le_rfl⟩

/-- The counter of a batch row for a terminal status; the others count nothing. -/
def NotificationBatch.counter (B : NotificationBatch) : Status → Int
  | .delivered => B.deliveredCount
  | .failed => B.failedCount
  | .cancelled => B.cancelledCount
  | _ => 0

end Domain

namespace Postgres

open Domain Uuid

/-- Every batch row of `s` is balanced. -/
def Store.Balanced (s : Store) : Prop := ∀ B ∈ s.batches, B.Balanced

namespace NotificationRepo

variable {st : Status} {f : NotificationBatch → NotificationBatch}

/-- A bump moves one unit from `pending_count` to a terminal counter. -/
theorem bumpCounter_spec (h : bumpCounter st = some f) (B : NotificationBatch) :
    (B.Balanced → (f B).Balanced) ∧ B.Le (f B) := by
  refine ⟨fun hb => ?_, ?_⟩ <;> cases st <;>
    simp only [bumpCounter, Option.some.injEq, reduceCtorEq] at h <;> subst h <;>
    simp only [NotificationBatch.Balanced, NotificationBatch.Le, le_refl, true_and, and_true] at * <;>
    omega

/-- Every row `IncrementBatchCounter` leaves is an old row, bumped or not. -/
theorem mem_incrementBatchCounter {s : Store} {b : UUID} {B' : NotificationBatch}
    (h : B' ∈ (incrementBatchCounter s b st).batches) :
    ∃ B ∈ s.batches, B' = B ∨ ∃ f, bumpCounter st = some f ∧ B' = f B := by
  unfold incrementBatchCounter at h
  split at h
  · exact ⟨B', h, .inl rfl⟩
  · obtain ⟨B, hB, rfl⟩ := List.mem_map.1 h
    exact ⟨B, hB, by split <;> simp_all⟩

/-- Every old row is still there after `IncrementBatchCounter`, bumped or not. -/
theorem exists_incrementBatchCounter {s : Store} {B : NotificationBatch} (h : B ∈ s.batches)
    (b : UUID) (st : Status) :
    ∃ B' ∈ (incrementBatchCounter s b st).batches, B' = B ∨ ∃ f, bumpCounter st = some f ∧ B' = f B := by
  unfold incrementBatchCounter
  split
  · exact ⟨B, h, .inl rfl⟩
  · exact ⟨_, List.mem_map_of_mem _ h, by split <;> simp_all⟩

end NotificationRepo

theorem Store.Balanced.incrementBatchCounter {s : Store} (hs : s.Balanced) (b : UUID) (st : Status) :
    (NotificationRepo.incrementBatchCounter s b st).Balanced := by
  intro B' hB'
  obtain ⟨B, hB, rfl | ⟨f, hf, rfl⟩⟩ := NotificationRepo.mem_incrementBatchCounter hB'
  · exact hs _ hB
  · exact (NotificationRepo.bumpCounter_spec hf B).1 (hs B hB)

/-- The children of batch `b` stored with status `st`. -/
def Store.children (s : Store) (b : UUID) (st : Status) : Nat :=
  s.notifications.countP fun r => r.batchId = some b ∧ r.status = st

/-- The counter of batch `b` for `st` as its row holds it; nothing for a batch with no row. -/
def Store.counted (s : Store) (b : UUID) (st : Status) : Int :=
  ((s.batches.find? (·.id == b)).map (·.counter st)).getD 0

/-- A stored batch row is the one its id finds. -/
theorem Store.counted_of_mem {s : Store} (hw : s.Wf) {B : NotificationBatch} (hB : B ∈ s.batches)
    (st : Status) : s.counted B.id st = B.counter st := by
  obtain ⟨B', hB'⟩ : ∃ B', s.batches.find? (·.id == B.id) = some B' :=
    Option.isSome_iff_exists.1 (List.find?_isSome.2 ⟨B, hB, by simp⟩)
  have hid : B'.id = B.id := by simpa using List.find?_some hB'
  rw [counted, hB', List.inj_on_of_nodup_map hw.batchIds (List.mem_of_find?_eq_some hB') hB hid]
  rfl

/-- A map that changes at most the row with id `x`, to status `st'` and keeping its batch, adds
at most that row to a count of children. -/
theorem countP_map_le {rows : List Notification} {g : Notification → Notification} {x : UUID}
    {st' : Status} {bid : Option UUID} (b : UUID) (st : Status)
    (hg : ∀ r, g r = r ∨ r.id = x ∧ (g r).batchId = r.batchId ∧ (g r).status = st')
    (hnd : (rows.map (·.id)).Nodup) (hb : ∀ r ∈ rows, r.id = x → r.batchId = bid) :
    (rows.map g).countP (fun r => r.batchId = some b ∧ r.status = st) ≤
      rows.countP (fun r => r.batchId = some b ∧ r.status = st) +
        if bid = some b ∧ st' = st then 1 else 0 := by
  induction rows with
  | nil => simp
  | cons r rs ih =>
    simp only [List.map_cons, List.nodup_cons, List.mem_map] at hnd
    simp only [List.map_cons, List.countP_cons]
    rcases hg r with hr | ⟨hx, hgb, hgs⟩
    · have := ih hnd.2 fun r' h => hb r' (List.mem_cons_of_mem _ h)
      rw [hr]; omega
    · have hrest : rs.map g = rs := (List.map_congr_left fun r' hr' =>
        (hg r').resolve_right fun h => hnd.1 ⟨r', hr', h.1.trans hx.symm⟩).trans (List.map_id _)
      rw [hrest, hgb, hgs, hb r (List.mem_cons_self _ _) hx]
      simp only [Bool.and_eq_true, decide_eq_true_eq]
      split_ifs <;> omega

namespace Store

variable {s s' : Store} {b : UUID} {st : Status}

/-- An `UpdateStatus` of a copy of a stored row adds at most that row to the children of a
status: the row keeps its batch. -/
theorem children_updateStatus_le (hw : s.Wf) {n : Notification} (hn : n.fixed ∈ s.fixedRows) :
    (NotificationRepo.updateStatus s n).children b st ≤
      s.children b st + if n.batchId = some b ∧ n.status = st then 1 else 0 := by
  refine countP_map_le b st (x := n.id) (fun r => ?_) hw.ids_nodup fun r hr hid =>
    (congrArg FixedColumns.batchId (hw.fixed_eq_row hn hr hid.symm)).symm
  unfold NotificationRepo.updatedRow
  split
  · exact .inr ⟨‹_›, rfl, rfl⟩
  · exact .inl rfl

/-- A `Cancel` of the row a copy is of adds at most that row to the cancelled children. -/
theorem children_cancel_le (hw : s.Wf) {id : UUID} {now : Instant}
    (hc : NotificationRepo.cancel s id now = .ok s') {n : Notification} (hn : n.fixed ∈ s.fixedRows)
    (hid : n.id = id) (b : UUID) (st : Status) :
    s'.children b st ≤
      s.children b st + if n.batchId = some b ∧ Status.cancelled = st then 1 else 0 := by
  unfold children
  rw [(NotificationRepo.cancel_ok hc).1]
  refine countP_map_le b st (x := id) (fun r => ?_) hw.ids_nodup fun r hr hrid =>
    (congrArg FixedColumns.batchId (hw.fixed_eq_row hn hr (hid.trans hrid.symm))).symm
  unfold NotificationRepo.cancelledRow
  split
  · exact .inr ⟨(‹_ ∧ _›).1, rfl, rfl⟩
  · exact .inl rfl

/-- Rows appended in a status that is not terminal add no children of a terminal status. -/
theorem children_of_append {l : List Notification} (h : s'.notifications = s.notifications ++ l)
    (hl : ∀ r ∈ l, r.status.isTerminal = false) (hst : st.isTerminal) :
    s'.children b st = s.children b st := by
  unfold children
  rw [h, List.countP_append, Nat.add_right_eq_self, List.countP_eq_zero]
  intro r hr hp
  simp only [decide_eq_true_eq] at hp
  simpa [hp.2, hst] using hl r hr

/-- A batch with no row has no children. -/
theorem children_eq_zero (hw : s.Wf) (hb : b ∉ s.batches.map (·.id)) : s.children b st = 0 :=
  List.countP_eq_zero.2 fun _ hr hp => hb <|
    hw.batchRefs _ (List.mem_map_of_mem _ hr) b (of_decide_eq_true hp).1

/-- A batch with no row counts nothing. -/
theorem counted_eq_zero (hb : b ∉ s.batches.map (·.id)) : s.counted b st = 0 := by
  rw [counted, List.find?_eq_none.2 fun B hB h => hb (List.mem_map.2 ⟨B, hB, beq_iff_eq.1 h⟩)]
  rfl

/-- The row `CreateBatch` adds counts nothing yet. -/
theorem counted_of_append_batchRow {B : NotificationBatch}
    (h : s'.batches = s.batches ++ [NotificationRepo.batchRow B]) :
    s'.counted b st = s.counted b st := by
  unfold counted
  rw [h, List.find?_append]
  cases s.batches.find? (·.id == b) with
  | some B' => rfl
  | none =>
    simp only [Option.none_or, List.find?_singleton]
    split <;> cases st <;> rfl

/-- A bump adds one to the counter of its status. -/
theorem counter_bump {st₀ : Status} {f : NotificationBatch → NotificationBatch}
    (hf : NotificationRepo.bumpCounter st₀ = some f) (B : NotificationBatch) (st : Status) :
    (f B).counter st = B.counter st + if st₀ = st then 1 else 0 := by
  cases st₀ <;> simp only [NotificationRepo.bumpCounter, Option.some.injEq, reduceCtorEq] at hf <;>
    subst hf <;> cases st <;> simp [NotificationBatch.counter]

/-- `IncrementBatchCounter` of a terminal status counts one more child of an existing batch. -/
theorem counted_incrementBatchCounter (hw : s.Wf) {b₀ : UUID} {st₀ : Status} (hst₀ : st₀.isTerminal)
    {B : NotificationBatch} (hB : B ∈ s.batches) :
    (NotificationRepo.incrementBatchCounter s b₀ st₀).counted B.id st =
      s.counted B.id st + if b₀ = B.id ∧ st₀ = st then 1 else 0 := by
  obtain ⟨f, hf⟩ : ∃ f, NotificationRepo.bumpCounter st₀ = some f := by
    cases st₀ <;> first | exact ⟨_, rfl⟩ | simp [Status.isTerminal] at hst₀
  have hB' : (if B.id = b₀ then f B else B) ∈
      (NotificationRepo.incrementBatchCounter s b₀ st₀).batches := by
    unfold NotificationRepo.incrementBatchCounter
    rw [hf]
    exact List.mem_map_of_mem _ hB
  have hnew := counted_of_mem (hw.incrementBatchCounter b₀ st₀) hB' st
  rw [counted_of_mem hw hB]
  split at hnew
  · rename_i h
    rw [bumpCounter_id hf, counter_bump hf] at hnew
    rw [hnew]
    simp [h]
  · rename_i h
    rw [hnew, if_neg fun h' => h h'.1.symm, Int.add_zero]

end Store

end Postgres

namespace App

open Postgres

@[simp] theorem storeAfterSetNX_batches {s : Store} {k : String} {id : Uuid.UUID} {now : Domain.Instant} :
    (storeAfterSetNX s k id now).batches = s.batches := by
  unfold storeAfterSetNX
  split
  · exact (IdempotencyRepo.setNX_ok ‹_›).2.1
  · rfl

end App

namespace Pipeline

open Domain Uuid Postgres Queue App

variable {m : Mode} {w w' : World} {op op' : Op}

/-- What one step does to the batch rows: nothing, the row of `CreateBatch`, or one
`IncrementBatchCounter`. -/
theorem OpStep.batches (h : OpStep m op w op' w') :
    w'.store.batches = w.store.batches ∨
      (∃ inputs b ns, op = .createBatch inputs (.persisting b ns) ∧
        w'.store.batches = w.store.batches ++ [NotificationRepo.batchRow b]) ∨
      ∃ b st, w'.store = NotificationRepo.incrementBatchCounter w.store b st := by
  rcases h with ⟨h⟩ | ⟨h⟩ | ⟨h⟩ | ⟨-, h⟩ | ⟨h⟩
  · cases h with
    | insert h => exact .inl (by rw [(NotificationRepo.create_ok h).1])
    | setNX => exact .inl storeAfterSetNX_batches
    | _ => exact .inl rfl
  · cases h with
    | persist h => exact .inr (.inl ⟨_, _, _, rfl, (NotificationRepo.createBatch_ok h).2.1⟩)
    | _ => exact .inl rfl
  · cases h with
    | cancel h => exact .inl (NotificationRepo.cancel_ok h).2.1
    | bump => exact .inr (.inr ⟨_, .cancelled, rfl⟩)
    | _ => exact .inl rfl
  · cases h with
    | bump => exact .inr (.inr ⟨_, _, rfl⟩)
    | _ => exact .inl rfl
  · cases h <;> exact .inl rfl

/-- A step keeps every batch row balanced: `CreateBatch` counts every child pending. -/
theorem OpStep.balanced (h : OpStep m op w op' w') (hop : op.Wf) (hw : w.store.Balanced) :
    w'.store.Balanced := by
  rcases h.batches with he | ⟨inputs, b, ns, rfl, he⟩ | ⟨b, st, he⟩
  · exact fun B hB => hw B (he ▸ hB)
  · obtain ⟨hb, -⟩ := hop
    intro B hB
    rw [he, List.mem_append, List.mem_singleton] at hB
    rcases hB with hB | rfl
    · exact hw B hB
    · rw [hb]; simp [NotificationRepo.batchRow, newBatch, NotificationBatch.Balanced]
  · rw [he]; exact hw.incrementBatchCounter b st

variable {c c' : Config}

/-- In every run, in every mode, each batch row's counters sum to its total. -/
theorem Reachable.batches_balanced (h : Reachable m c) : c.world.store.Balanced := by
  induction h with
  | init => intro B hB; cases hB
  | step hr hs ih =>
    cases hs with
    | start => exact ih
    | run hi h => exact h.balanced (hr.ops_wf _ (List.getElem_mem hi)) ih
    | template h => obtain rfl := h.store; exact ih
    | tick => exact ih

/-- A `CreateBatch` of one SMS child, then the delivery of the child, one after the other: the
step that bumps the child's counter, and the run to the end after it. -/
theorem batch_child_bumped : ∃ (c c' : Config) (B : NotificationBatch), Reachable Mode.serial c ∧
    Step Mode.serial c c' ∧ B ∈ c.world.store.batches ∧ B.deliveredCount = 0 ∧
    (∀ B' ∈ c'.world.store.batches, B'.deliveredCount = 1) ∧
    ∃ c'', Relation.ReflTransGen (Step Mode.serial) c' c'' ∧ (∀ op ∈ c''.ops, op.finished) ∧
      c''.world.store.batches.length = 1 := by
  have h0 := (Reachable.init (m := Mode.serial)).start
    (.createBatch [⟨.sms, "+905530050594", "Hello", .normal, none, none, none, none⟩])
    (by simp [Config.init])
  have h1 := h0.run (i := 0) (by decide)
    (.createBatch (.begin ⟨List.replicate 16 3, rfl⟩ ⟨by decide, by decide⟩))
  have h2 := h1.run (i := 0) (by decide)
    (.createBatch (.buildChild ⟨List.replicate 16 1, rfl⟩ (.ok "Hello") (.plain rfl)))
  have h3 := h2.run (i := 0) (by decide) (.createBatch .built)
  have h4 := h3.run (i := 0) (by decide) (.createBatch (.persist rfl))
  have h5 := h4.run (i := 0) (by decide) (.createBatch (.enqueue rfl rfl))
  have h6 := h5.run (i := 0) (by decide) (.createBatch .published)
  have h7 := h6.start (@Op.Start.consume _ 0 (by decide)) (by decide)
  have h8 := h7.run (i := 1) (by decide) (.consume rfl (.load (parse_toString _) rfl))
  have h9 := h8.run (i := 1) (by decide) (.consume rfl .mark)
  have h10 := h9.run (i := 1) (by decide) (.consume rfl (.send (.ok ⟨"m", "sent", "t"⟩)))
  have h11 := h10.run (i := 1) (by decide) (.consume rfl .persistDelivered)
  exact ⟨_, _, _, h11, .run (i := 1) (by decide) (.consume rfl (.bump rfl)), List.mem_singleton_self _,
    rfl, by decide, _,
    .tail (.single (.run (i := 1) (by decide) (.consume rfl .broadcast)))
      (.run (i := 1) (by decide) (.consume rfl .commit)), by decide, rfl⟩

/-- A batch is balanced after its counter was bumped. -/
theorem batches_balanced_delivered : ∃ c : Config, Reachable Mode.serial c ∧
    (∀ B ∈ c.world.store.batches, B.deliveredCount = 1) ∧ c.world.store.Balanced := by
  obtain ⟨c, c', -, hc, hs, -, -, hd, -⟩ := batch_child_bumped
  exact ⟨c', hc.step hs, hd, (hc.step hs).batches_balanced⟩

/-- No step removes a batch row or lowers one of its terminal counters. -/
theorem Step.batch_counters_mono (hs : Step m c c') {B : NotificationBatch}
    (hB : B ∈ c.world.store.batches) : ∃ B' ∈ c'.world.store.batches, B.Le B' := by
  cases hs with
  | start | tick => exact ⟨B, hB, B.le_refl⟩
  | template h => obtain rfl := h.store; exact ⟨B, hB, B.le_refl⟩
  | run _ h =>
    rcases h.batches with he | ⟨_, _, _, _, he⟩ | ⟨b, st, he⟩
    · exact ⟨B, he ▸ hB, B.le_refl⟩
    · exact ⟨B, by simp [he, hB], B.le_refl⟩
    · obtain ⟨B', hB', hB'B⟩ := NotificationRepo.exists_incrementBatchCounter hB b st
      refine ⟨B', he ▸ hB', ?_⟩
      rcases hB'B with rfl | ⟨f, hf, rfl⟩
      · exact B'.le_refl
      · exact (NotificationRepo.bumpCounter_spec hf B).2

/-- The `IncrementBatchCounter` of a delivered child keeps its batch row and raises its
delivered count. -/
theorem batch_counters_mono_bump : ∃ (c c' : Config) (B : NotificationBatch), Reachable Mode.serial c ∧
    Step Mode.serial c c' ∧ B ∈ c.world.store.batches ∧
    (∀ B' ∈ c'.world.store.batches, B'.deliveredCount = B.deliveredCount + 1) ∧
    ∃ B' ∈ c'.world.store.batches, B.Le B' := by
  obtain ⟨c, c', B, hc, hs, hB, h0, h1, -⟩ := batch_child_bumped
  exact ⟨c, c', B, hc, hs, hB, fun B' hB' => by rw [h1 B' hB', h0]; rfl, Step.batch_counters_mono hs hB⟩

/-- A failed `IncrementBatchCounter` is never made up: a batch of one child is delivered, every
operation has returned, and the batch row still counts the child pending. -/
theorem batch_counter_stale : ∃ c : Config, Reachable Mode.deployed c ∧
    (∀ op ∈ c.ops, op.finished) ∧ ∃ B ∈ c.world.store.batches, B.totalCount = 1 ∧
      B.deliveredCount = 0 ∧ B.pendingCount = 1 ∧
      ∃ r ∈ c.world.store.notifications, r.batchId = some B.id ∧ r.status = .delivered := by
  have h0 := (Reachable.init (m := Mode.deployed)).start
    (.createBatch [⟨.sms, "+905530050594", "Hello", .normal, none, none, none, none⟩])
    (by simp [Config.init])
  have h1 := h0.run (i := 0) (by decide)
    (.createBatch (.begin ⟨List.replicate 16 3, rfl⟩ ⟨by decide, by decide⟩))
  have h2 := h1.run (i := 0) (by decide)
    (.createBatch (.buildChild ⟨List.replicate 16 1, rfl⟩ (.ok "Hello") (.plain rfl)))
  have h3 := h2.run (i := 0) (by decide) (.createBatch .built)
  have h4 := h3.run (i := 0) (by decide) (.createBatch (.persist rfl))
  have h5 := h4.run (i := 0) (by decide) (.createBatch (.enqueue rfl rfl))
  have h6 := h5.run (i := 0) (by decide) (.createBatch .published)
  -- the child is delivered and its counter bump fails
  have h7 := h6.start (@Op.Start.consume _ 0 (by decide)) (by decide)
  have h8 := h7.run (i := 1) (by decide) (.consume rfl (.load (parse_toString _) rfl))
  have h9 := h8.run (i := 1) (by decide) (.consume rfl .mark)
  have h10 := h9.run (i := 1) (by decide) (.consume rfl (.send (.ok ⟨"m", "sent", "t"⟩)))
  have h11 := h10.run (i := 1) (by decide) (.consume rfl .persistDelivered)
  have h12 := h11.run (i := 1) (by decide) (.consume rfl (.bumpFault rfl rfl))
  have h13 := h12.run (i := 1) (by decide) (.consume rfl .broadcast)
  have h14 := h13.run (i := 1) (by decide) (.consume rfl .commit)
  exact ⟨_, h14, by decide, _, List.mem_singleton_self _, rfl, rfl, rfl, _,
    List.mem_singleton_self _, rfl, rfl⟩

/-! ### The counters are never behind without repository faults

An operation that writes a terminal status owes the bump of its batch until its
`IncrementBatchCounter` (`Op.owes`). No step raises a batch's deficit, the children of a
terminal status neither counted nor owed (`OpStep.deficit_le`), so in every run without
repository faults each such child is counted or owed (`Reachable.counted`). -/

/-- The `IncrementBatchCounter` an operation owes: from its write of a terminal status to the
bump of the batch. -/
def Op.owes : Op → Option (UUID × Status)
  | .consume _ (.counting n) => n.batchId.map (·, n.status)
  | .cancel _ (.cancelled n) => n.batchId.map (·, .cancelled)
  | _ => none

/-- The bumps of batch `b` for `st` the operations of `c` owe. -/
def Config.owed (c : Config) (b : UUID) (st : Status) : Nat :=
  c.ops.countP fun op => op.owes = some (b, st)

/-- The children of batch `b` in status `st` its row does not count, less the bump `op` owes. -/
def deficit (s : Store) (op : Op) (b : UUID) (st : Status) : Int :=
  s.children b st - s.counted b st - if op.owes = some (b, st) then 1 else 0

/-- What a cancel holding the cancelled copy of a row knows of the row. -/
def Op.CancelHeld (s : Store) : Op → Prop
  | .cancel id (.loaded n) => n.id = id ∧ n.fixed ∈ s.fixedRows
  | _ => True

/-- The ledger of the batch counters: every child of a terminal status is counted by its batch
row or owed by an operation. -/
def Counted (c : Config) : Prop :=
  ∀ b st, st.isTerminal →
    (c.world.store.children b st : Int) ≤ c.world.store.counted b st + c.owed b st

variable {b : UUID} {st : Status}

/-- The rows an insert adds are pending or scheduled. -/
theorem Op.inserts_not_terminal (hop : op.Wf) :
    ∀ r ∈ op.inserts.map NotificationRepo.insertedRow, r.status.isTerminal = false := by
  simp only [List.mem_map]
  rintro _ ⟨x, hx, rfl⟩
  show x.status.isTerminal = false
  rw [Op.inserts_status hop hx]
  split <;> rfl

/-- A step that adds no child of the status and lowers no counter, from a point that owes
nothing. -/
theorem deficit_le_of_owes_none (hch : w'.store.children b st ≤ w.store.children b st)
    (hcn : w.store.counted b st ≤ w'.store.counted b st) (hd : op.owes = none) :
    deficit w'.store op' b st ≤ deficit w.store op b st := by
  simp only [deficit, hd, reduceCtorEq, if_false]
  split <;> omega

/-- A write that adds at most the child it then owes, from a point that owes nothing. -/
theorem deficit_le_of_write {P : Prop} [Decidable P]
    (hch : w'.store.children b st ≤ w.store.children b st + if P then 1 else 0)
    (hcn : w.store.counted b st ≤ w'.store.counted b st) (hd : op.owes = none)
    (hd' : P → op'.owes = some (b, st)) :
    deficit w'.store op' b st ≤ deficit w.store op b st := by
  simp only [deficit, hd, reduceCtorEq, if_false]
  split_ifs at hch with hP
  · rw [if_pos (hd' hP)]; omega
  · split <;> omega

/-- A bump pays the bump owed. -/
theorem deficit_incrementBatchCounter {s : Store} (hw : s.Wf) {b₀ : UUID} {st₀ : Status}
    (hst₀ : st₀.isTerminal)
    (hb : b ∈ (NotificationRepo.incrementBatchCounter s b₀ st₀).batches.map (·.id))
    (hd : op.owes = some (b₀, st₀)) (hd' : op'.owes = none) :
    deficit (NotificationRepo.incrementBatchCounter s b₀ st₀) op' b st = deficit s op b st := by
  rw [Store.batchIds_incrementBatchCounter] at hb
  obtain ⟨B, hB, rfl⟩ := List.mem_map.1 hb
  simp only [deficit, Store.children, NotificationRepo.incrementBatchCounter_notifications,
    Store.counted_incrementBatchCounter hw hst₀ hB, hd, hd', reduceCtorEq, if_false,
    Option.some.injEq, Prod.mk.injEq]
  split <;> omega

/-- An `UpdateStatus` of an operation's copy adds at most that row to the children. -/
theorem children_update_le (hw : w.store.Wf) (hop : op.Wf)
    (hcopy : ∀ n ∈ op.copies, n.fixed ∈ w.store.fixedRows) {n : Notification}
    (hn : op.update w.now = some n) (b : UUID) (st : Status) :
    (NotificationRepo.updateStatus w.store n).children b st ≤
      w.store.children b st + if n.batchId = some b ∧ n.status = st then 1 else 0 := by
  obtain ⟨⟨c, hc, hcn⟩, -⟩ := Op.update_spec hop hn
  exact Store.children_updateStatus_le hw (hcn ▸ hcopy c hc)

/-- An `UpdateStatus` of an operation's copy to a status that is not terminal adds no child of a
terminal status. -/
theorem children_update_le_of_ne (hw : w.store.Wf) (hop : op.Wf)
    (hcopy : ∀ n ∈ op.copies, n.fixed ∈ w.store.fixedRows) {n : Notification}
    (hn : op.update w.now = some n) (hne : n.status.isTerminal = false) (hst : st.isTerminal) :
    (NotificationRepo.updateStatus w.store n).children b st ≤ w.store.children b st := by
  have := children_update_le hw hop hcopy hn b st
  rwa [if_neg fun h => by simp [h.2, hst] at hne, Nat.add_zero] at this

/-- No step raises the deficit of a batch when the repository does not fail: a terminal status
written is owed, and a bump pays what is owed. -/
theorem OpStep.deficit_le (hf : m.storeFaults = false) (h : OpStep m op w op' w')
    (hw : w.store.Wf) (hop : op.Wf) (hcopy : ∀ n ∈ op.copies, n.fixed ∈ w.store.fixedRows)
    (hcan : op.CancelHeld w.store) (hb : b ∈ w'.store.batches.map (·.id)) (hst : st.isTerminal) :
    deficit w'.store op' b st ≤ deficit w.store op b st := by
  rcases h with ⟨h⟩ | ⟨h⟩ | ⟨h⟩ | ⟨-, h⟩ | ⟨h⟩
  · cases h with
    | insert h =>
      obtain ⟨rfl, -⟩ := NotificationRepo.create_ok h
      exact deficit_le_of_owes_none
        (Store.children_of_append rfl (Op.inserts_not_terminal hop) hst).le le_rfl rfl
    | setNX =>
      exact deficit_le_of_owes_none (by simp [Store.children]) (by simp [Store.counted]) rfl
    | _ => exact deficit_le_of_owes_none le_rfl le_rfl rfl
  · cases h with
    | persist h =>
      obtain ⟨hr, hbs, -⟩ := NotificationRepo.createBatch_ok h
      exact deficit_le_of_owes_none
        (Store.children_of_append hr (Op.inserts_not_terminal hop) hst).le
        (Store.counted_of_append_batchRow hbs).ge rfl
    | _ => exact deficit_le_of_owes_none le_rfl le_rfl rfl
  · cases h with
    | cancel h =>
      obtain ⟨hid, hn⟩ := hcan
      exact deficit_le_of_write (Store.children_cancel_le hw h hn hid b st)
        (by simp only [Store.counted, (NotificationRepo.cancel_ok h).2.1, le_refl]) rfl
        fun hP => by simp [Op.owes, hP.1, hP.2]
    | bump hb' =>
      exact (deficit_incrementBatchCounter hw (by rfl) hb (by simp [Op.owes, hb']) (by rfl)).le
    | bumpFault _ hf' => simp [hf] at hf'
    | noBatch hb' => exact deficit_le_of_owes_none le_rfl le_rfl (by simp [Op.owes, hb'])
    | _ => exact deficit_le_of_owes_none le_rfl le_rfl rfl
  · cases h with
    | mark =>
      exact deficit_le_of_owes_none (children_update_le_of_ne hw hop hcopy rfl rfl hst) le_rfl rfl
    | persistRetry =>
      have hne : Status.isTerminal _ = false :=
        congrArg Status.isTerminal (hop : _ = Status.processing)
      exact deficit_le_of_owes_none (children_update_le_of_ne hw hop hcopy rfl hne hst) le_rfl rfl
    | persistFailed | persistDelivered =>
      exact deficit_le_of_write (children_update_le hw hop hcopy rfl b st) le_rfl rfl
        fun hP => by simp [Op.owes, hP.1, hP.2]
    | bump hb' =>
      exact (deficit_incrementBatchCounter hw (by rcases hop with h | h <;> rw [h] <;> rfl) hb
        (by simp [Op.owes, hb']) (by rfl)).le
    | bumpFault _ hf' => simp [hf] at hf'
    | noBatch hb' => exact deficit_le_of_owes_none le_rfl le_rfl (by simp [Op.owes, hb'])
    | _ => exact deficit_le_of_owes_none le_rfl le_rfl rfl
  · cases h with
    | update =>
      exact deficit_le_of_owes_none (children_update_le_of_ne hw hop hcopy rfl rfl hst) le_rfl rfl
    | _ => exact deficit_le_of_owes_none le_rfl le_rfl rfl

theorem Op.CancelHeld.mono {s s' : Store} (h : op.CancelHeld s)
    (hs : s.fixedRows <+: s'.fixedRows) : op.CancelHeld s' := by
  rcases op with _ | _ | ⟨_, _ | _ | _ | _⟩ | _ | _
  all_goals first | trivial | exact ⟨h.1, hs.subset h.2⟩

/-- A cancel that accepted a row holds a copy of it. -/
theorem OpStep.cancel_held (h : OpStep m op w op' w') : op'.CancelHeld w'.store := by
  rcases h with ⟨h⟩ | ⟨h⟩ | ⟨h⟩ | ⟨-, h⟩ | ⟨h⟩ <;> cases h
  case cancel.load n h =>
    obtain ⟨hmem, rfl⟩ := NotificationRepo.getByID_ok h
    unfold Notification.cancel
    split
    · exact ⟨rfl, show n.fixed ∈ _ from List.mem_map_of_mem _ hmem⟩
    · trivial
  all_goals trivial

/-- In every run, a cancel past its load holds a copy of a stored row. -/
theorem Reachable.cancel_held (h : Reachable m c) : ∀ op ∈ c.ops, op.CancelHeld c.world.store := by
  induction h with
  | init => intro op hop; cases hop
  | step _ hs ih =>
    cases hs with
    | start h _ =>
      intro o ho
      rcases List.mem_append.1 ho with ho | ho
      · exact ih o ho
      · cases List.mem_singleton.1 ho; cases h <;> trivial
    | run _ h =>
      exact forall_mem_set (fun o ho => (ih o ho).mono h.effect.fixedRows_prefix) _ h.cancel_held
    | template h => obtain rfl := h.store; exact ih
    | tick => exact ih

theorem Counted.step (hf : m.storeFaults = false) (hr : Reachable m c) (hs : Step m c c')
    (hi : Counted c) : Counted c' := by
  intro b st hst
  cases hs with
  | start h _ => cases h <;> simpa [Config.owed, List.countP_append, Op.owes] using hi b st hst
  | @run i op' w' hi' h =>
    have hw' := (hr.step (.run hi' h)).store_wf
    by_cases hb : b ∈ w'.store.batches.map (·.id)
    · have hmem := List.getElem_mem hi'
      have hd := h.deficit_le hf hr.store_wf (hr.ops_wf _ hmem)
        ((RoutingInv.reachable hr).held _ hmem) (hr.cancel_held _ hmem) hb hst
      have hle := List.boole_getElem_le_countP (fun op : Op => op.owes = some (b, st)) c.ops i hi'
      have := hi b st hst
      simp only [Config.owed, List.countP_set _ _ _ _ hi', deficit, decide_eq_true_eq] at this hd hle ⊢
      split_ifs at hd hle ⊢ <;> omega
    · simp only [Store.children_eq_zero hw' hb, Store.counted_eq_zero hb]
      omega
  | template h => obtain rfl := h.store; exact hi b st hst
  | tick => exact hi b st hst

/-- In every run without repository faults, the ledger of the batch counters holds. -/
theorem Reachable.counted (hf : m.storeFaults = false) (h : Reachable m c) : Counted c := by
  induction h with
  | init =>
    intro b st _
    simp [Store.children, Store.counted, Config.owed, Config.init, World.init, Store.empty]
  | step hr hs ih => exact ih.step hf hr hs

/-- A returned operation owes no bump. -/
theorem Op.owes_of_finished (h : op.finished) : op.owes = none := by
  rcases op with _ | _ | ⟨_, _ | _ | _ | _⟩ | ⟨_, _ | _ | _ | _ | _ | _ | _ | _ | _ | _ | _⟩ | _ <;>
    first | rfl | cases h

/-- Without repository faults, whenever no operation is midway, no terminal counter of a batch
is behind its children: an `IncrementBatchCounter` follows every terminal write. -/
theorem Reachable.counters_not_behind (hf : m.storeFaults = false) (h : Reachable m c)
    (hq : ∀ op ∈ c.ops, op.finished) {B : NotificationBatch} (hB : B ∈ c.world.store.batches) :
    (c.world.store.children B.id .delivered : Int) ≤ B.deliveredCount ∧
      (c.world.store.children B.id .failed : Int) ≤ B.failedCount ∧
      (c.world.store.children B.id .cancelled : Int) ≤ B.cancelledCount := by
  have hnone : ∀ st, c.owed B.id st = 0 := fun st =>
    List.countP_eq_zero.2 fun op hop hp => by simp [Op.owes_of_finished (hq op hop)] at hp
  have key : ∀ st, st.isTerminal → (c.world.store.children B.id st : Int) ≤ B.counter st := by
    intro st hst
    simpa [Store.counted_of_mem h.store_wf hB, hnone] using h.counted hf B.id st hst
  exact ⟨key .delivered rfl, key .failed rfl, key .cancelled rfl⟩

/-- A `CreateBatch` of one SMS child, then the delivery of the child, one after the other. -/
theorem batch_delivered_serial : ∃ c : Config, Reachable Mode.serial c ∧
    (∀ op ∈ c.ops, op.finished) ∧ c.world.store.batches.length = 1 := by
  obtain ⟨c, c', -, hc, hs, -, -, -, c'', hr, hq, hl⟩ := batch_child_bumped
  exact ⟨c'', (hc.step hs).trans hr, hq, hl⟩

/-- A serial run that creates a batch and delivers its child ends with no counter behind. -/
theorem counters_not_behind_delivered : ∃ c : Config, Reachable Mode.serial c ∧
    (∀ op ∈ c.ops, op.finished) ∧ ∃ B ∈ c.world.store.batches,
      (c.world.store.children B.id .delivered : Int) ≤ B.deliveredCount ∧
      (c.world.store.children B.id .failed : Int) ≤ B.failedCount ∧
      (c.world.store.children B.id .cancelled : Int) ≤ B.cancelledCount := by
  obtain ⟨c, hc, hq, hl⟩ := batch_delivered_serial
  obtain ⟨B, hB⟩ := List.length_eq_one.1 hl
  have hmem : B ∈ c.world.store.batches := by simp [hB]
  exact ⟨c, hc, hq, B, hmem, hc.counters_not_behind rfl hq hmem⟩

end Pipeline
