-- SUMMARY: A pending row is always named by a message a worker will handle, or about to be published.
import NotificationPipeline.System.Routing

/-!
# Pending rows are not stranded

A pending row waits for a worker, and only a message of the log brings a worker to it: the
sweeps list scheduled and processing rows, never pending ones. So a pending row has to be
named by a message a worker will still handle, or be about to be published by an operation
in progress. A message *stands* for its row while its offset is not committed and every
worker already handling it is at a point from which it commits only after the row has left
pending or a retry copy of the message is in the log.

A failed log write breaks this: `Create` persists the row, its `Enqueue` fails, and the row
stays pending with no message (`pending_row_stranded`). When log writes succeed it holds in
every reachable configuration, with repository faults and interleaving allowed
(`pending_row_covered`). Two facts of the code carry it: the producer has a topic for every
priority `NewNotification` accepts, and a handler error always ends in a retry copy.
-/

namespace App

/-- The points of a worker from which it commits its offset only after the row its message
names has left pending or a retry copy is written: before the load, after a load that did not
skip, and after a handler error. -/
def ConsumePc.Harmless : ConsumePc → Prop
  | .fetched | .read _ | .handled (some _) => True
  | _ => False

open Domain Postgres Queue

variable {m : Mode} {w w' : World}

/-- A worker that reads a row reads the one its message names. -/
theorem ConsumeStep.names_read {msg : Message} {off : Nat} {pc pc' : ConsumePc}
    (h : ConsumeStep m msg off pc w pc' w') {n : Notification} (hn : pc' = .read n) :
    msg.Names n.id := by
  cases h with
  | load hid h =>
    obtain ⟨-, rfl⟩ := NotificationRepo.getByID_ok h
    rw [eq_of_afterLoad_eq_read hn]
    exact hid
  | send r => exact absurd hn (afterSend_ne_read _ _ r n)
  | _ => cases hn

/-- A worker at a harmless point stays at one, unless its load skipped a cancelled or delivered
row its message names, its `UpdateStatus` marked the row it read processing, or it wrote the
retry copy of its message. -/
theorem ConsumeStep.harmless (hf : m.publishFaults = false) {msg : Message} {off : Nat}
    {pc pc' : ConsumePc} (h : ConsumeStep m msg off pc w pc' w') (hpc : pc.Harmless) :
    pc'.Harmless ∨
      (∃ n ∈ w.store.notifications, msg.Names n.id ∧
        (n.status = .cancelled ∨ n.status = .delivered) ∧ w' = w) ∨
      (∃ n, pc = .read n ∧ w'.store.notifications =
        w.store.notifications.map (NotificationRepo.updatedRow (n.markProcessing w.now))) ∨
      (w'.log = w.log ++ [Consumer.retryMessage msg w.now] ∧ w'.committed = w.committed) := by
  cases h with
  | parseError | loadError | loadFault | markFault => exact .inl trivial
  | load hid h =>
    obtain ⟨hmem, rfl⟩ := NotificationRepo.getByID_ok h
    unfold afterLoad
    split
    · exact .inr (.inl ⟨_, hmem, hid, ‹_›, rfl⟩)
    · exact .inl trivial
  | mark => exact .inr (.inr (.inl ⟨_, rfl, rfl⟩))
  | retry => exact .inr (.inr (.inr ⟨rfl, rfl⟩))
  | retryFault hf' => exact absurd hf' (by simp [hf])
  | _ => exact (hpc : False).elim

end App

namespace Pipeline

open Domain Uuid Postgres Queue App

/-- The message at `off` stands for the row it names: its offset is not committed and every
worker handling it is at a harmless point. -/
def Config.Standing (c : Config) (off : Nat) : Prop :=
  off ∉ c.world.committed ∧ ∀ pc, Op.consume off pc ∈ c.ops → pc.Harmless

/-- The row `id` is covered: an operation in progress publishes it next, or a standing message
names it. -/
def Config.Covers (c : Config) (id : UUID) : Prop :=
  (∃ op ∈ c.ops, ∃ n ∈ op.ready, n.id = id) ∨
    ∃ off msg, c.world.log[off]? = some msg ∧ msg.Names id ∧ c.Standing off

/-- The coverage invariant. -/
structure CoverInv (c : Config) : Prop where
  /-- Committed offsets are offsets of the log. -/
  committed : ∀ o ∈ c.world.committed, o < c.world.log.length
  /-- Every worker handles a message of the log. -/
  offsets : ∀ off pc, Op.consume off pc ∈ c.ops → off < c.world.log.length
  /-- A worker that read a row read the one its message names. -/
  reads : ∀ off n, Op.consume off (.read n) ∈ c.ops →
    ∃ msg, c.world.log[off]? = some msg ∧ msg.Names n.id
  /-- Every stored priority is one `NewNotification` accepts. -/
  priorities : ∀ f ∈ c.world.store.fixedRows, validatePriority f.priority = .ok ()
  /-- Every pending row is covered. -/
  covered : ∀ r ∈ c.world.store.notifications, r.status = .pending → c.Covers r.id

/-- A message just appended stands for the row it names. -/
theorem Config.covers_of_fresh {c : Config} {l : List Message} {msg : Message} {id : UUID}
    (hl : c.world.log = l ++ [msg]) (hn : msg.Names id)
    (hcom : ∀ o ∈ c.world.committed, o < l.length)
    (hops : ∀ off pc, Op.consume off pc ∈ c.ops → off < l.length) : c.Covers id :=
  .inr ⟨l.length, msg, by simp [hl], hn, fun hm => lt_irrefl _ (hcom _ hm),
    fun pc hm => (lt_irrefl _ (hops _ _ hm)).elim⟩

/-- An operation that has returned publishes nothing. -/
theorem Op.ready_of_finished {op : Op} (h : op.finished) : op.ready = [] := by
  rcases op with ⟨_, _ | _ | _ | _ | _ | _ | _ | _⟩ | ⟨_, _ | _ | _ | _ | _⟩ | _ | _ |
    ⟨_, _ | _ | _ | _⟩ <;> first | rfl | cases h

/-- With an empty log and every operation returned, no row is covered. -/
theorem Config.not_covers {c : Config} (hl : c.world.log = []) (hops : ∀ op ∈ c.ops, op.finished)
    (id : UUID) : ¬ c.Covers id := by
  rintro (⟨op, hop, n, hn, -⟩ | ⟨off, msg, hmsg, -⟩)
  · rw [Op.ready_of_finished (hops op hop)] at hn
    cases hn
  · rw [hl] at hmsg
    cases hmsg

-- ---------------------------------------------------------------------------
-- One step of one operation
-- ---------------------------------------------------------------------------

variable {m : Mode} {w w' : World} {op op' : Op}

theorem OpStep.consume_of_consume {off : Nat} {pc' : ConsumePc}
    (h : OpStep m op w (.consume off pc') w') : ∃ pc, op = .consume off pc := by
  cases h; exact ⟨_, rfl⟩

theorem OpStep.consume_inv {off : Nat} {pc : ConsumePc} (h : OpStep m (.consume off pc) w op' w') :
    ∃ msg pc', w.log[off]? = some msg ∧ op' = .consume off pc' ∧ ConsumeStep m msg off pc w pc' w' := by
  cases h with
  | consume hmsg h => exact ⟨_, _, hmsg, rfl, h⟩

/-- Only a worker commits, and only from a point that is not harmless. -/
theorem OpStep.committed (h : OpStep m op w op' w') :
    w'.committed = w.committed ∨
      ∃ off pc, op = .consume off pc ∧ ¬ pc.Harmless ∧ w'.committed = off :: w.committed := by
  rcases h with ⟨h⟩ | ⟨h⟩ | ⟨h⟩ | ⟨-, h⟩ | ⟨h⟩ <;> cases h <;>
    first | exact .inl rfl | exact .inr ⟨_, _, rfl, id, rfl⟩

/-- A row an operation publishes next stays ready or is published by its step, when log writes
do not fail and its priority is one `NewNotification` accepts. -/
theorem OpStep.ready_progress (hf : m.publishFaults = false) (h : OpStep m op w op' w')
    {n : Notification} (hn : n ∈ op.ready) (hp : validatePriority n.priority = .ok ()) :
    n ∈ op'.ready ∨
      ∃ msg, msg.Names n.id ∧ w'.log = w.log ++ [msg] ∧ w'.committed = w.committed := by
  obtain ⟨msg₀, hmsg₀⟩ := Producer.message_of_validatePriority w.now hp
  have hnf : ¬ m.publishFaults := by simp [hf]
  rcases h with ⟨h⟩ | ⟨h⟩ | ⟨h⟩ | ⟨-, h⟩ | ⟨h⟩
  · cases h with
    | setNX | setNXFault | noSetNX => exact .inl hn
    | enqueue hs hm =>
      simp only [Op.ready, hs, Option.isNone_none, if_true, List.mem_singleton] at hn
      subst hn
      exact .inr ⟨_, (Producer.message_ok hm).1, rfl, rfl⟩
    | enqueueError hs hm =>
      simp only [Op.ready, hs, Option.isNone_none, if_true, List.mem_singleton] at hn
      subst hn
      rw [hm] at hmsg₀; cases hmsg₀
    | enqueueFault _ hf' => exact absurd hf' hnf
    | enqueueScheduled hs => simp [Op.ready, Option.isSome_iff_ne_none.1 hs] at hn
    | _ => simp [Op.ready] at hn
  · cases h with
    | enqueueScheduled hs =>
      simp [Op.ready, List.filter_cons, Option.isSome_iff_ne_none.1 hs] at hn
      exact .inl (by simpa [Op.ready] using hn)
    | enqueue hs hm =>
      simp only [Op.ready, List.filter_cons, hs, Option.isNone_none, if_true, List.mem_cons] at hn
      rcases hn with rfl | hn
      · exact .inr ⟨_, (Producer.message_ok hm).1, rfl, rfl⟩
      · exact .inl hn
    | enqueueError hs hm =>
      simp only [Op.ready, List.filter_cons, hs, Option.isNone_none, if_true, List.mem_cons] at hn
      rcases hn with rfl | hn
      · rw [hm] at hmsg₀; cases hmsg₀
      · exact .inl hn
    | enqueueFault _ hf' => exact absurd hf' hnf
    | _ => simp [Op.ready] at hn
  · simp [Op.ready] at hn
  · simp [Op.ready] at hn
  · cases h with
    | enqueue hm =>
      rw [Op.ready, List.mem_singleton] at hn
      subst hn
      exact .inr ⟨_, (Producer.message_ok hm).1, rfl, rfl⟩
    | enqueueError hm =>
      rw [Op.ready, List.mem_singleton] at hn
      subst hn
      rw [hm] at hmsg₀; cases hmsg₀
    | enqueueFault hf' => exact absurd hf' hnf
    | _ => simp [Op.ready] at hn

/-- A row a step inserts pending is published next, unless the step failed and changed
nothing. -/
theorem OpStep.ready_of_insert (h : OpStep m op w op' w') {x : Notification}
    (hx : x ∈ op.inserts) (hnone : x.scheduledAt = none) : x ∈ op'.ready ∨ w' = w := by
  rcases h with ⟨h⟩ | ⟨h⟩ | ⟨h⟩ | ⟨-, h⟩ | ⟨h⟩ <;> cases h <;>
    simp_all [Op.inserts, Op.ready, List.mem_filter]

/-- A row an `UpdateStatus` sets pending is published next, unless the step failed and changed
nothing: only a sweep writes pending, and it publishes the row right after. -/
theorem OpStep.ready_of_update (h : OpStep m op w op' w') (hwf : op.Wf) {n : Notification}
    (hn : op.update w.now = some n) (hp : n.status = .pending) : n ∈ op'.ready ∨ w' = w := by
  rcases Op.update_eq_some hn with ⟨off, n₀, rfl, rfl⟩ | ⟨off, e, rfl⟩ | ⟨off, rfl⟩ | ⟨off, rfl⟩ |
    ⟨k, n₀, rest, rfl, rfl⟩
  · simp at hp
  · rw [show n.status = .processing from hwf] at hp; cases hp
  · rw [show n.status = .failed from hwf] at hp; cases hp
  · rw [show n.status = .delivered from hwf] at hp; cases hp
  · cases h with
    | sweep h =>
      cases h with
      | update => exact .inl (List.mem_singleton_self _)
      | updateFault => exact .inr rfl

/-- Where a pending row after a step comes from: a pending row with its id before the step, or
a row the operation publishes next. -/
theorem OpStep.pending_source (h : OpStep m op w op' w') (hwf : op.Wf)
    {r' : Notification} (hr' : r' ∈ w'.store.notifications) (hp : r'.status = .pending) :
    (∃ r ∈ w.store.notifications, r.id = r'.id ∧ r.status = .pending) ∨
      ∃ n ∈ op'.ready, n.id = r'.id := by
  rcases h.effect.row_source hr' with ⟨r, hr, hfix, hst⟩ | ⟨x, hx, rfl, -⟩
  · have hid : r.id = r'.id := (congrArg FixedColumns.id hfix).symm
    rcases hst with hst | ⟨n, hn, hrn, hst⟩ | ⟨-, hst⟩
    · exact .inl ⟨r, hr, hid, hst ▸ hp⟩
    · rcases h.ready_of_update hwf hn (hst ▸ hp) with hn' | rfl
      · exact .inr ⟨n, hn', hrn ▸ hid⟩
      · exact .inl ⟨r', hr', rfl, hp⟩
    · rw [hp] at hst; cases hst
  · have hnone : x.scheduledAt = none := by
      have hst := (Op.inserts_built hwf hx).1
      rw [← Option.not_isSome_iff_eq_none]
      intro hs
      simp [NotificationRepo.insertedRow, hst, hs] at hp
    rcases h.ready_of_insert hx hnone with hx' | rfl
    · exact .inr ⟨x, hx', rfl⟩
    · exact .inl ⟨_, hr', rfl, hp⟩

-- ---------------------------------------------------------------------------
-- The invariant
-- ---------------------------------------------------------------------------

section Step

variable {c : Config} {i : Nat}

/-- A covered row that is still pending after a step stays covered. -/
theorem CoverInv.covers_step (hf : m.publishFaults = false) (hi : CoverInv c) (hr : RoutingInv c)
    (hw : c.world.store.Wf) (hlt : i < c.ops.length) (h : OpStep m c.ops[i] c.world op' w')
    {id : UUID} (hc : c.Covers id) {r' : Notification} (hr' : r' ∈ w'.store.notifications)
    (hid : r'.id = id) (hp : r'.status = .pending) : Config.Covers ⟨w', c.ops.set i op'⟩ id := by
  have hop := List.getElem_mem hlt
  have hoffs : ∀ off pc, Op.consume off pc ∈ c.ops.set i op' → off < c.world.log.length := by
    intro off pc hm
    rcases List.mem_or_eq_of_mem_set hm with hm | rfl
    · exact hi.offsets off pc hm
    · obtain ⟨pc₀, hpc₀⟩ := h.consume_of_consume
      exact hi.offsets off pc₀ (hpc₀ ▸ hop)
  rcases hc with ⟨o, ho, n, hn, hnid⟩ | ⟨off, msg, hmsg, hnames, hcom, hcons⟩
  · obtain ⟨j, hj, rfl⟩ := List.mem_iff_getElem.1 ho
    by_cases hji : j = i
    · subst hji
      have hprio := hi.priorities _ (hr.held _ ho n (Op.mem_copies_of_mem_ready hn))
      rcases h.ready_progress hf hn hprio with hn' | ⟨msg, hnames, hl, hcom⟩
      · exact .inl ⟨op', List.mem_set _ _ hlt _, n, hn', hnid⟩
      · exact Config.covers_of_fresh (c := ⟨w', _⟩) hl (hnid ▸ hnames)
          (fun o ho => hi.committed o (hcom ▸ ho)) hoffs
    · have hj' : j < (c.ops.set i op').length := by simpa using hj
      exact .inl ⟨_, (List.getElem_set_ne (Ne.symm hji) hj') ▸ List.getElem_mem hj', n, hn, hnid⟩
  · -- what the running operation does to a worker on the message at `off`
    have hrun : (∀ pc', op' = .consume off pc' → pc'.Harmless) ∨
        Config.Covers ⟨w', c.ops.set i op'⟩ id := by
      by_cases hcon : ∃ pc, c.ops[i] = .consume off pc
      · obtain ⟨pc, hpc⟩ := hcon
        have hpc₀ := hcons pc (hpc ▸ hop)
        have hread := hi.reads off
        rw [hpc] at h hop
        obtain ⟨msg₀, pc', hmsg₀, rfl, hstep⟩ := h.consume_inv
        rw [hmsg] at hmsg₀
        cases hmsg₀
        rcases hstep.harmless hf hpc₀ with hh | ⟨n, hn, hnn, hst, rfl⟩ | ⟨n, rfl, hrows⟩ | ⟨hl, hcom'⟩
        · exact .inl fun pc'' he => by cases he; exact hh
        · obtain rfl : n = r' := hw.row_eq hn hr' ((hnn.unique hnames).trans hid.symm)
          rcases hst with hst | hst <;> rw [hp] at hst <;> cases hst
        · obtain ⟨msg₁, hmsg₁, hnn⟩ := hread n hop
          rw [hmsg] at hmsg₁
          cases hmsg₁
          rw [hrows, List.mem_map] at hr'
          obtain ⟨r₀, -, rfl⟩ := hr'
          rw [NotificationRepo.id_updatedRow] at hid
          rw [NotificationRepo.status_updatedRow,
            if_pos (show r₀.id = (n.markProcessing c.world.now).id from
              hid.trans (hnn.unique hnames).symm)] at hp
          simp at hp
        · exact .inr (Config.covers_of_fresh (c := ⟨w', _⟩) hl hnames
            (fun o ho => hi.committed o (hcom' ▸ ho)) hoffs)
      · exact .inl fun pc' he => absurd (OpStep.consume_of_consume (he ▸ h)) hcon
    rcases hrun with hrun | hcov
    · refine .inr ⟨off, msg, h.effect.log_getElem? hmsg, hnames, fun hm => ?_, fun pc hm => ?_⟩
      · rcases h.committed with hcom' | ⟨off₀, pc₀, hpc₀, hnot, hcom'⟩
        · exact hcom (hcom' ▸ hm)
        · rw [hcom', List.mem_cons] at hm
          rcases hm with rfl | hm
          · exact hnot (hcons pc₀ (hpc₀ ▸ hop))
          · exact hcom hm
      · rcases List.mem_or_eq_of_mem_set hm with hm | he
        · exact hcons pc hm
        · exact hrun pc he.symm
    · exact hcov

theorem CoverInv.step (hf : m.publishFaults = false) (hi : CoverInv c) (hrout : RoutingInv c)
    (hw : c.world.store.Wf) (hops : ∀ op ∈ c.ops, op.Wf) {c' : Config} (hs : Step m c c') :
    CoverInv c' := by
  cases hs with
  | @start op h _ =>
    have hnew : ∀ off pc, Op.consume off pc = op → off < c.world.log.length ∧ pc = .fetched := by
      rintro off pc rfl
      cases h with
      | consume h => exact ⟨h, rfl⟩
    refine ⟨hi.committed, fun off pc ho => ?_, fun off n ho => ?_, hi.priorities,
      fun r hr hp => ?_⟩
    · rcases List.mem_append.1 ho with ho | ho
      · exact hi.offsets off pc ho
      · exact (hnew off pc (List.mem_singleton.1 ho)).1
    · rcases List.mem_append.1 ho with ho | ho
      · exact hi.reads off n ho
      · cases (hnew off _ (List.mem_singleton.1 ho)).2
    · rcases hi.covered r hr hp with ⟨o, ho, hready⟩ | ⟨off, msg, hmsg, hnames, hcom, hcons⟩
      · exact .inl ⟨o, List.mem_append_left _ ho, hready⟩
      · refine .inr ⟨off, msg, hmsg, hnames, hcom, fun pc ho => ?_⟩
        rcases List.mem_append.1 ho with ho | ho
        · exact hcons pc ho
        · rw [(hnew off pc (List.mem_singleton.1 ho)).2]; trivial
  | @run i op' w' hlt h =>
    have hop := List.getElem_mem hlt
    have hwf := hops _ hop
    have e := h.effect
    have hlen : c.world.log.length ≤ w'.log.length := e.log_prefix.length_le
    refine ⟨fun o ho => ?_, fun off pc ho => ?_, fun off n ho => ?_, fun f hf' => ?_,
      fun r' hr' hp => ?_⟩
    · rcases h.committed with hcom | ⟨off₀, pc₀, hpc₀, -, hcom⟩
      · exact lt_of_lt_of_le (hi.committed o (hcom ▸ ho)) hlen
      · rw [hcom, List.mem_cons] at ho
        rcases ho with rfl | ho
        · exact lt_of_lt_of_le (hi.offsets o pc₀ (hpc₀ ▸ hop)) hlen
        · exact lt_of_lt_of_le (hi.committed o ho) hlen
    · rcases List.mem_or_eq_of_mem_set ho with ho | rfl
      · exact lt_of_lt_of_le (hi.offsets off pc ho) hlen
      · obtain ⟨pc₀, hpc₀⟩ := h.consume_of_consume
        exact lt_of_lt_of_le (hi.offsets off pc₀ (hpc₀ ▸ hop)) hlen
    · rcases List.mem_or_eq_of_mem_set ho with ho | rfl
      · obtain ⟨msg, hmsg, hnames⟩ := hi.reads off n ho
        exact ⟨msg, e.log_getElem? hmsg, hnames⟩
      · obtain ⟨pc₀, hpc₀⟩ := h.consume_of_consume
        rw [hpc₀] at h
        obtain ⟨msg, pc', hmsg, he, hstep⟩ := h.consume_inv
        cases he
        exact ⟨msg, e.log_getElem? hmsg, hstep.names_read rfl⟩
    · obtain ⟨r', hr', rfl⟩ := List.mem_map.1 hf'
      rcases e.row_source hr' with ⟨r, hr, hfix, -⟩ | ⟨x, hx, rfl, -⟩
      · rw [hfix]; exact hi.priorities _ (List.mem_map_of_mem _ hr)
      · exact (Op.inserts_built hwf hx).2
    · rcases h.pending_source hwf hr' hp with ⟨r, hr, hid, hp₀⟩ | ⟨n, hn, hid⟩
      · exact hi.covers_step hf hrout hw hlt h (hid ▸ hi.covered r hr hp₀) hr' rfl hp
      · exact .inl ⟨op', List.mem_set _ _ hlt _, n, hn, hid⟩
  | template h =>
    obtain rfl := h.store
    exact ⟨hi.committed, hi.offsets, hi.reads, hi.priorities, hi.covered⟩
  | tick => exact ⟨hi.committed, hi.offsets, hi.reads, hi.priorities, hi.covered⟩

theorem CoverInv.reachable (hf : m.publishFaults = false) (h : Reachable m c) : CoverInv c := by
  induction h with
  | init =>
    exact ⟨by simp [Config.init, World.init], by simp [Config.init], by simp [Config.init],
      by simp [Config.init, World.init, Store.empty, Store.fixedRows],
      by simp [Config.init, World.init, Store.empty]⟩
  | step hc hs ih => exact ih.step hf (RoutingInv.reachable hc) hc.store_wf hc.ops_wf hs

end Step

variable {c : Config}

/-- When log writes do not fail, every pending row of a reachable configuration is published
next by an operation in progress, or is named by a message whose offset is not committed and
whose workers in progress commit it only after the row has left pending or a retry copy is
written. Repository calls may fail and operations interleave. -/
theorem pending_row_covered (hf : m.publishFaults = false) (h : Reachable m c) {r : Notification}
    (hr : r ∈ c.world.store.notifications) (hp : r.status = .pending) : c.Covers r.id :=
  (CoverInv.reachable hf h).covered r hr hp

theorem pending_row_covered_create : ∃ (c : Config) (r : Notification),
    Reachable ⟨true, false, false⟩ c ∧ r ∈ c.world.store.notifications ∧ r.status = .pending ∧
      c.Covers r.id := by
  obtain ⟨c, h, msg, n, -, hr, -, hp⟩ := Reachable.exists_published ⟨true, false, false⟩
  have hn : n ∈ c.world.store.notifications := by simp [hr]
  exact ⟨c, n, h, hn, hp, pending_row_covered rfl h hn hp⟩

/-- A failed `Enqueue` strands the row `Create` persisted: every operation has returned, the
log is empty, no sweep lists a pending row, and the row is not covered. -/
theorem pending_row_stranded : ∃ c : Config, Reachable Mode.deployed c ∧
    ∃ r ∈ c.world.store.notifications, r.status = .pending ∧ c.world.log = [] ∧
      (∀ op ∈ c.ops, op.finished) ∧ (∀ (k : Sweep) now, ∀ n ∈ k.list c.world.store now, n.status ≠ .pending) ∧
      ¬ c.Covers r.id := by
  have h0 := (Reachable.init (m := Mode.deployed)).start
    (.create ⟨.sms, "+905530050594", "Hello", .normal, none, none, none, none⟩) (by simp [Config.init])
  have h1 := h0.run (i := 0) (by decide) (.create (.noKey rfl))
  have h2 := h1.run (i := 0) (by decide)
    (.create (.build ⟨List.replicate 16 1, rfl⟩ (.ok "Hello") (.plain rfl)))
  have h3 := h2.run (i := 0) (by decide) (.create (.insert rfl))
  have h4 := h3.run (i := 0) (by decide) (.create (.noSetNX rfl))
  have h5 := h4.run (i := 0) (by decide) (.create (.enqueueFault (e := .other "write failed") rfl rfl))
  refine ⟨_, h5, _, List.mem_singleton_self _, rfl, rfl, ?fin, fun k now n hn => ?_,
    Config.not_covers rfl ?fin _⟩
  case fin => decide
  rw [(Sweep.mem_list hn).2]
  cases k <;> nofun

end Pipeline
