-- SUMMARY: Scheduled notifications are published only once due.
import NotificationPipeline.System.Routing

/-!
# Scheduled notifications are published only when due

`Create` and `CreateBatch` hand a notification with a `scheduled_at` to the no-op
`EnqueueScheduled`; the due sweep lists scheduled rows whose time has come, sets them pending
and publishes them; nothing else moves a row out of `scheduled` but a cancel. So no message
for a row is written while the row is scheduled, nor before its `scheduled_at`.

The invariant says this of the log, and says what keeps it true of the next message: no
statement sets a row to `scheduled`, every row that left `scheduled` other than by a cancel
had its time come, every copy an operation holds is of such a row, and what an operation
publishes next is a row that is not scheduled.
-/

namespace Postgres.Store

open Domain

/-- A copy of a stored row has the row's fixed columns. -/
theorem Wf.fixed_eq_row {s : Store} (h : s.Wf) {c r : Notification} (hc : c.fixed ∈ s.fixedRows)
    (hr : r ∈ s.notifications) (hid : c.id = r.id) : c.fixed = r.fixed :=
  h.fixed_eq hc (List.mem_map_of_mem _ hr) hid

end Postgres.Store

namespace Pipeline

open Domain Uuid Postgres Queue App

/-- The scheduling invariant. -/
structure ScheduleInv (c : Config) : Prop where
  /-- Every message was stamped at a time already passed. -/
  stamped : ∀ msg ∈ c.world.log, msg.time ≤ c.world.now
  /-- A message names no scheduled row, and a row whose time had come when it was written. -/
  gated : ∀ msg ∈ c.world.log, ∀ r ∈ c.world.store.notifications, msg.Names r.id →
    r.status ≠ .scheduled ∧ ∀ t, r.scheduledAt = some t → t ≤ msg.time
  /-- A row that left `scheduled` other than by a cancel had its time come. -/
  due : ∀ r ∈ c.world.store.notifications, r.status ≠ .scheduled → r.status ≠ .cancelled →
    ∀ t, r.scheduledAt = some t → t ≤ c.world.now
  /-- Every copy an operation holds is of a row whose time has come. -/
  heldDue : ∀ op ∈ c.ops, ∀ n ∈ op.copies, ∀ t, n.scheduledAt = some t → t ≤ c.world.now
  /-- What an operation publishes next is not a scheduled row. -/
  ready : ∀ op ∈ c.ops, ∀ n ∈ op.ready, ∀ r ∈ c.world.store.notifications, r.id = n.id →
    r.status ≠ .scheduled

section Step

variable {m : Mode} {w w' : World} {op op' : Op}

/-- A row that is not scheduled stays so; a row with a stored copy is not one a step inserts. -/
theorem Effect.not_scheduled (e : Effect op w w') (hwf : op.Wf) (hw' : w'.store.Wf)
    {n : Notification} (hn : n.fixed ∈ w.store.fixedRows)
    (hready : ∀ r ∈ w.store.notifications, r.id = n.id → r.status ≠ .scheduled) :
    ∀ r' ∈ w'.store.notifications, r'.id = n.id → r'.status ≠ .scheduled := by
  intro r' hr' hid
  rcases e.row_source hr' with ⟨r, hr, hfix, hst⟩ | ⟨x, hx, rfl, hrows⟩
  · have hrid : r.id = n.id := (congrArg FixedColumns.id hfix).symm.trans hid
    exact fun hs => hready r hr hrid (hst.scheduled hwf hs)
  · exact absurd hid.symm (hw'.fresh_of_append hrows (List.mem_map_of_mem _ hx) _ hn)

/-- The rows after a step that were not scheduled had their time come, if the copies of the
stepping operation had. -/
theorem Effect.due (e : Effect op w w') (hwf : op.Wf) (hw : w.store.Wf)
    (hheld : ∀ n ∈ op.copies, n.fixed ∈ w.store.fixedRows)
    (hheldDue : ∀ n ∈ op.copies, ∀ t, n.scheduledAt = some t → t ≤ w.now)
    (hdue : ∀ r ∈ w.store.notifications, r.status ≠ .scheduled → r.status ≠ .cancelled →
      ∀ t, r.scheduledAt = some t → t ≤ w.now) :
    ∀ r' ∈ w'.store.notifications, r'.status ≠ .scheduled → r'.status ≠ .cancelled →
      ∀ t, r'.scheduledAt = some t → t ≤ w.now := by
  intro r' hr' hs hc t ht
  rcases e.row_source hr' with ⟨r, hr, hfix, hst⟩ | ⟨x, hx, rfl, -⟩
  · have hrt : r.scheduledAt = some t := (congrArg FixedColumns.scheduledAt hfix).symm.trans ht
    rcases hst with hst | ⟨n, hn, hid, -⟩ | hst
    · exact hdue r hr (hst ▸ hs) (hst ▸ hc) t hrt
    · obtain ⟨⟨c, hc', hcn⟩, -⟩ := Op.update_spec hwf hn
      have hcr : c.fixed = r.fixed :=
        hw.fixed_eq_row (hheld c hc') hr ((congrArg FixedColumns.id hcn).trans hid.symm)
      exact hheldDue c hc' t ((congrArg FixedColumns.scheduledAt hcr).trans hrt)
    · exact absurd hst.2 hc
  · have hx' := Op.inserts_status hwf hx
    cases hsx : x.scheduledAt with
    | none => simp [NotificationRepo.insertedRow, hsx] at ht
    | some t' => simp [NotificationRepo.insertedRow, hx', hsx] at hs

variable {c : Config} {i : Nat} {op' : Op} {w' : World}

/-- Messages are stamped with the clock of the step that appends them. -/
theorem ScheduleInv.stamped_step (hi : ScheduleInv c) (hlt : i < c.ops.length)
    (h : OpStep m c.ops[i] c.world op' w') : ∀ msg ∈ w'.log, msg.time ≤ w'.now := by
  rw [h.now_eq]
  intro msg hmsg
  cases h.effect with
  | publish hwr hl _ =>
    rw [hl, List.mem_append, List.mem_singleton] at hmsg
    rcases hmsg with hmsg | rfl
    · exact hi.stamped msg hmsg
    · rcases hwr with ⟨n, -, hm⟩ | ⟨_, _, _, -, -, rfl⟩
      · exact (Producer.message_ok hm).2.2.2.2.le
      · exact le_refl _
  | none hl | insert hl | update _ hl | cancel _ hl => exact hi.stamped msg (hl ▸ hmsg)

/-- The message a step appends names a row that is not scheduled and whose time has come. -/
theorem ScheduleInv.gated_step (hi : ScheduleInv c) (hr : RoutingInv c) (hw : c.world.store.Wf)
    (hlt : i < c.ops.length) (hwf : c.ops[i].Wf) (h : OpStep m c.ops[i] c.world op' w') :
    ∀ msg ∈ w'.log, ∀ r' ∈ w'.store.notifications, msg.Names r'.id →
      r'.status ≠ .scheduled ∧ ∀ t, r'.scheduledAt = some t → t ≤ msg.time := by
  have hop := List.getElem_mem hlt
  intro msg hmsg r' hr' hnames
  cases h.effect with
  | publish hwr hl hs =>
    rw [hs] at hr'
    rw [hl, List.mem_append, List.mem_singleton] at hmsg
    rcases hmsg with hmsg | rfl
    · exact hi.gated msg hmsg r' hr' hnames
    · rcases hwr with ⟨n, hn, hm⟩ | ⟨off, pc, orig, -, horig, rfl⟩
      · obtain ⟨hnm, -, -, -, htime⟩ := Producer.message_ok hm
        have hcopy := Op.mem_copies_of_mem_ready hn
        have hid : r'.id = n.id := hnames.unique hnm
        have hfix := hw.fixed_eq_row (hr.held _ hop n hcopy) hr' hid.symm
        refine ⟨hi.ready _ hop n hn r' hr' hid, fun t ht => htime ▸ hi.heldDue _ hop n hcopy t ?_⟩
        exact (congrArg FixedColumns.scheduledAt hfix).trans ht
      · have horig' := List.getElem?_mem horig
        obtain ⟨hs, hdue⟩ := hi.gated orig horig' r' hr' hnames
        exact ⟨hs, fun t ht => (hdue t ht).trans (hi.stamped orig horig')⟩
  | none hl | insert hl | update _ hl | cancel _ hl =>
    rw [hl] at hmsg
    rcases h.effect.row_source hr' with ⟨r, hr₀, hfix, hst⟩ | ⟨x, hx, rfl, hrows⟩
    · have hid : r'.id = r.id := congrArg FixedColumns.id hfix
      obtain ⟨hs, hdue⟩ := hi.gated msg hmsg r hr₀ (hid ▸ hnames)
      exact ⟨fun h' => hs (hst.scheduled hwf h'),
        fun t ht => hdue t ((congrArg FixedColumns.scheduledAt hfix).symm.trans ht)⟩
    · obtain ⟨f, hf, hfn, -⟩ := hr.routed msg hmsg
      exact absurd (hfn.unique hnames)
        ((h.store_wf hw).fresh_of_append hrows (List.mem_map_of_mem _ hx) f hf)

/-- The copies an operation holds after its step are of rows whose time has come. -/
theorem ScheduleInv.heldDue_step (hi : ScheduleInv c) (hlt : i < c.ops.length)
    (h : OpStep m c.ops[i] c.world op' w') :
    ∀ n ∈ op'.copies, ∀ t, n.scheduledAt = some t → t ≤ w'.now := by
  have hop := List.getElem_mem hlt
  rw [h.now_eq]
  intro n hn t ht
  rcases h.copies_source hn with ⟨c', hc, hcn⟩ | ⟨-, hnone, -⟩ |
    ⟨off, msg, -, hmsg, hnames, hmem, hcan, -⟩ | ⟨k, -, hk⟩
  · exact hi.heldDue _ hop c' hc t ((congrArg FixedColumns.scheduledAt hcn).trans ht)
  · rw [hnone] at ht; cases ht
  · exact hi.due n hmem (hi.gated msg (List.getElem?_mem hmsg) n hmem hnames).1 hcan t ht
  · cases k
    · obtain ⟨-, -, t', ht', hle⟩ := NotificationRepo.mem_listDueScheduled hk
      rw [ht, Option.some.injEq] at ht'
      exact ht' ▸ hle
    · obtain ⟨hmem, hproc, -⟩ := NotificationRepo.mem_listStuckProcessing hk
      exact hi.due n hmem (by simp [hproc]) (by simp [hproc]) t ht

/-- What an operation publishes next after its step is not a scheduled row. -/
theorem ScheduleInv.ready_step (hi : ScheduleInv c) (hr : RoutingInv c) (hw : c.world.store.Wf)
    (hlt : i < c.ops.length) (hwf : c.ops[i].Wf) (h : OpStep m c.ops[i] c.world op' w') :
    ∀ n ∈ op'.ready, ∀ r' ∈ w'.store.notifications, r'.id = n.id → r'.status ≠ .scheduled := by
  have hop := List.getElem_mem hlt
  have hw' := h.store_wf hw
  intro n hn
  rcases h.ready_source hn with hn | ⟨hx, hnone, hrows⟩ | ⟨-, hpend, hrows⟩
  · exact h.effect.not_scheduled hwf hw' (hr.held _ hop n (Op.mem_copies_of_mem_ready hn))
      (hi.ready _ hop n hn)
  · intro r' hr' hid
    have hins : NotificationRepo.insertedRow n ∈ w'.store.notifications := by
      rw [hrows]; exact List.mem_append_right _ (List.mem_map_of_mem _ hx)
    rw [hw'.row_eq hr' hins hid]
    simp [NotificationRepo.insertedRow, Op.inserts_status hwf hx, hnone]
  · intro r' hr' hid
    rw [hrows, List.mem_map] at hr'
    obtain ⟨r, -, rfl⟩ := hr'
    rw [NotificationRepo.id_updatedRow] at hid
    simp [NotificationRepo.status_updatedRow, hid, hpend]

theorem ScheduleInv.step {c' : Config} (hi : ScheduleInv c) (hr : RoutingInv c)
    (hw : c.world.store.Wf) (hops : ∀ op ∈ c.ops, op.Wf) (hs : Step m c c') : ScheduleInv c' := by
  cases hs with
  | start h _ =>
    refine ⟨hi.stamped, hi.gated, hi.due, fun o ho => ?_, fun o ho => ?_⟩ <;>
      rcases List.mem_append.1 ho with ho | ho
    · exact hi.heldDue o ho
    · simp [List.mem_singleton.1 ho, h.copies_eq]
    · exact hi.ready o ho
    · simp [List.mem_singleton.1 ho, h.ready_eq]
  | run hlt h =>
    have hop := List.getElem_mem hlt
    have hwf := hops _ hop
    have hw' := h.store_wf hw
    have hnow := h.now_eq
    refine ⟨hi.stamped_step hlt h, hi.gated_step hr hw hlt hwf h, ?_, ?_, ?_⟩
    · rw [hnow]; exact h.effect.due hwf hw (hr.held _ hop) (hi.heldDue _ hop) hi.due
    · exact forall_mem_set (fun o ho => hnow ▸ hi.heldDue o ho) _ (hi.heldDue_step hlt h)
    · exact forall_mem_set (fun o ho n hn => h.effect.not_scheduled hwf hw'
        (hr.held o ho n (Op.mem_copies_of_mem_ready hn)) (hi.ready o ho n hn)) _
        (hi.ready_step hr hw hlt hwf h)
  | template h =>
    obtain rfl := h.store
    exact ⟨hi.stamped, hi.gated, hi.due, hi.heldDue, hi.ready⟩
  | tick d =>
    exact ⟨fun msg hm => (hi.stamped msg hm).trans (Nat.le_add_right _ _), hi.gated,
      fun r hr hs hc t ht => (hi.due r hr hs hc t ht).trans (Nat.le_add_right _ _),
      fun o ho n hn t ht => (hi.heldDue o ho n hn t ht).trans (Nat.le_add_right _ _), hi.ready⟩

theorem ScheduleInv.reachable (h : Reachable m c) : ScheduleInv c := by
  induction h with
  | init => exact ⟨by simp [Config.init, World.init], by simp [Config.init, World.init],
      by simp [Config.init, World.init, Store.empty], by simp [Config.init],
      by simp [Config.init]⟩
  | step hc hs ih =>
    exact ih.step (RoutingInv.reachable hc) hc.store_wf hc.ops_wf hs

end Step

variable {m : Mode} {c c' : Config}

/-- No message naming a notification is written while its row is scheduled, nor before its
`scheduled_at`: whichever writer appends a message, the row it names is not scheduled and its
time has come by the clock of the write. -/
theorem scheduled_published_when_due (h : Reachable m c) (hs : Step m c c') {msg : Message}
    (hlog : c'.world.log = c.world.log ++ [msg]) {n : Notification}
    (hn : n ∈ c.world.store.notifications) (hnames : msg.Names n.id) :
    n.status ≠ .scheduled ∧ ∀ t, n.scheduledAt = some t → t ≤ c.world.now := by
  have hinv := ScheduleInv.reachable (h.step hs)
  have hmsg : msg ∈ c'.world.log := hlog ▸ List.mem_append_right _ (List.mem_singleton_self _)
  cases hs with
  | start => simp at hlog
  | template | tick => simp at hlog
  | run _ h' =>
    cases h'.effect with
    | publish _ _ hst =>
      obtain ⟨hsched, hdue⟩ := hinv.gated msg hmsg n (hst ▸ hn) hnames
      exact ⟨hsched, fun t ht => (hdue t ht).trans (h'.now_eq ▸ hinv.stamped msg hmsg)⟩
    | none hl | insert hl | update _ hl | cancel _ hl => rw [hl] at hlog; simp at hlog

/-- A notification scheduled for time 5, published by the due sweep at time 10. -/
theorem scheduled_published_when_due_sweep : ∃ (c c' : Config) (msg : Message) (n : Notification),
    Reachable Mode.deployed c ∧ Step Mode.deployed c c' ∧ c'.world.log = c.world.log ++ [msg] ∧
      n ∈ c.world.store.notifications ∧ msg.Names n.id ∧ n.scheduledAt = some 5 ∧
      (n.status ≠ .scheduled ∧ ∀ t, n.scheduledAt = some t → t ≤ c.world.now) := by
  have h0 := (Reachable.init (m := Mode.deployed)).start
    (.create ⟨.sms, "+905530050594", "Hello", .normal, some 5, none, none, none⟩)
    (by simp [Config.init])
  have h1 := h0.run (i := 0) (by decide) (.create (.noKey rfl))
  have h2 := h1.run (i := 0) (by decide)
    (.create (.build ⟨List.replicate 16 1, rfl⟩ (.ok "Hello") (.plain rfl)))
  have h3 := h2.run (i := 0) (by decide) (.create (.insert rfl))
  have h4 := h3.run (i := 0) (by decide) (.create (.noSetNX rfl))
  have h5 := h4.run (i := 0) (by decide) (.create (.enqueueScheduled rfl))
  have h6 := h5.step (.tick 10)
  have h7 := h6.start (.sweep .dueScheduled) (by decide)
  have h8 := h7.run (i := 1) (by decide) (.sweep .list)
  have h9 := h8.run (i := 1) (by decide) (.sweep .update)
  exact ⟨_, _, _, _, h9, .run (i := 1) (by decide) (.sweep (.enqueue rfl)), rfl,
    List.mem_singleton_self _, parse_toString _, rfl,
    scheduled_published_when_due h9 (.run (i := 1) (by decide) (.sweep (.enqueue rfl))) rfl
      (List.mem_singleton_self _) (parse_toString _)⟩

end Pipeline
