-- SUMMARY: Every message of the log is routed by its notification's priority, id and channel, and names a stored row.
import NotificationPipeline.System.Frame

/-!
# Routing

Every message of the log goes where its notification's messages belong: the topic of its
priority, keyed by its id, with its channel in the payload. Three writers append messages:
`Create` and `CreateBatch` and both sweeps through `Producer.Enqueue`, and the consumer's
in-log retry, which copies the message it is handling.

What a message must carry is read off the fixed columns, which no statement updates; so the
invariant tracks them: every message is routed as some row of the table, and every copy an
operation holds is of a row of the table. Rows are never deleted, so no message is left
naming a missing row (`Reachable.log_rows_found`).
-/

namespace Queue

open Domain Postgres

/-- `msg` is routed as the notification with fixed columns `f`: it names `f`'s id, lies in
the topic of `f`'s priority, is keyed by the id and carries `f`'s channel. -/
def Message.RoutedAs (msg : Message) (f : FixedColumns) : Prop :=
  msg.Names f.id ∧ some msg.topic = topicForPriority f.priority ∧ msg.key = f.id.toString ∧
    msg.value.channel = f.channel.toString

theorem Message.routedAs_of_message {n : Notification} {now : Instant} {msg : Message}
    (h : Producer.message n now = .ok msg) : msg.RoutedAs n.fixed :=
  let ⟨h1, h2, h3, h4, _⟩ := Producer.message_ok h
  ⟨h1, h2, h3, h4⟩

end Queue

namespace Pipeline

open Domain Uuid Postgres Queue App

/-- The routing invariant. -/
structure RoutingInv (c : Config) : Prop where
  /-- Every message is routed as some row of the table. -/
  routed : ∀ msg ∈ c.world.log, ∃ f ∈ c.world.store.fixedRows, msg.RoutedAs f
  /-- Every copy an operation holds is of a row of the table. -/
  held : ∀ op ∈ c.ops, ∀ n ∈ op.copies, n.fixed ∈ c.world.store.fixedRows

variable {m : Mode} {w w' : World} {op op' : Op}

/-- A copy an operation holds after a step is of a row of the table. -/
theorem OpStep.copies_stored (h : OpStep m op w op' w')
    (hop : ∀ n ∈ op.copies, n.fixed ∈ w.store.fixedRows) :
    ∀ n ∈ op'.copies, n.fixed ∈ w'.store.fixedRows := by
  have hpre := h.effect.fixedRows_prefix
  intro n hn
  rcases h.copies_source hn with ⟨c, hc, hcn⟩ | ⟨hins, -, hr⟩ | ⟨-, -, -, -, -, hmem, -⟩ | ⟨k, -, hk⟩
  · exact hpre.subset (hcn ▸ hop c hc)
  · simp only [Store.fixedRows, hr, List.map_append, List.map_map]
    exact List.mem_append_right _ (List.mem_map_of_mem _ hins)
  · exact hpre.subset (List.mem_map_of_mem _ hmem)
  · refine hpre.subset (List.mem_map_of_mem _ ?_)
    cases k
    · exact (NotificationRepo.mem_listDueScheduled hk).1
    · exact (NotificationRepo.mem_listStuckProcessing hk).1

/-- A message a step appends is routed as a row of the table. -/
theorem Op.Writes.routed {msg : Message} (hw : op.Writes w msg)
    (hop : ∀ n ∈ op.copies, n.fixed ∈ w.store.fixedRows)
    (hlog : ∀ msg ∈ w.log, ∃ f ∈ w.store.fixedRows, msg.RoutedAs f) :
    ∃ f ∈ w.store.fixedRows, msg.RoutedAs f := by
  rcases hw with ⟨n, hn, hm⟩ | ⟨off, pc, orig, -, horig, rfl⟩
  · exact ⟨n.fixed, hop n (Op.mem_copies_of_mem_ready hn), Message.routedAs_of_message hm⟩
  · exact hlog orig (List.getElem?_mem horig)

theorem RoutingInv.init : RoutingInv Config.init :=
  ⟨by simp [Config.init, World.init], by simp [Config.init]⟩

theorem RoutingInv.step {c c' : Config} (hi : RoutingInv c) (hs : Step m c c') : RoutingInv c' := by
  cases hs with
  | start h _ =>
    refine ⟨hi.routed, fun o ho => ?_⟩
    rcases List.mem_append.1 ho with ho | ho
    · exact hi.held o ho
    · simp [List.mem_singleton.1 ho, h.copies_eq]
  | run hi' h =>
    have hop := hi.held _ (List.getElem_mem hi')
    have hpre := h.effect.fixedRows_prefix
    refine ⟨fun msg hmsg => ?_, forall_mem_set (fun o ho n hn => hpre.subset (hi.held o ho n hn))
      _ (h.copies_stored hop)⟩
    cases h.effect with
    | publish hw hl hs =>
      rw [hl, List.mem_append, List.mem_singleton] at hmsg
      rw [hs]
      rcases hmsg with hmsg | rfl
      · exact hi.routed msg hmsg
      · exact hw.routed hop hi.routed
    | none hl | insert hl | update _ hl | cancel _ hl =>
      obtain ⟨f, hf, hr⟩ := hi.routed msg (hl ▸ hmsg)
      exact ⟨f, hpre.subset hf, hr⟩
  | template h => obtain rfl := h.store; exact ⟨hi.routed, hi.held⟩
  | tick => exact ⟨hi.routed, hi.held⟩

theorem RoutingInv.reachable {c : Config} (h : Reachable m c) : RoutingInv c := by
  induction h with
  | init => exact RoutingInv.init
  | step _ hs ih => exact ih.step hs

/-- In every mode, a run publishes a message for a stored notification: `Create` of an SMS
without key or schedule. -/
theorem Reachable.exists_published (m : Mode) :
    ∃ c, Reachable m c ∧ ∃ msg n, c.world.log = [msg] ∧ c.world.store.notifications = [n] ∧
      msg.Names n.id ∧ n.status = .pending := by
  have h0 := (Reachable.init (m := m)).start
    (.create ⟨.sms, "+905530050594", "Hello", .normal, none, none, none, none⟩) (by simp [Config.init])
  have h1 := h0.run (i := 0) (by decide) (.create (.noKey rfl))
  have h2 := h1.run (i := 0) (by decide)
    (.create (.build ⟨List.replicate 16 1, rfl⟩ (.ok "Hello") (.plain rfl)))
  have h3 := h2.run (i := 0) (by decide) (.create (.insert rfl))
  have h4 := h3.run (i := 0) (by decide) (.create (.noSetNX rfl))
  have h5 := h4.run (i := 0) (by decide) (.create (.enqueue rfl rfl))
  exact ⟨_, h5, _, _, rfl, rfl, parse_toString _, rfl⟩

/-- Every message of the log, whichever writer appended it, lies in the topic of the priority
of the notification it names, is keyed by its id, and carries its channel; so every attempt
and every retry for a notification goes to one partition of one topic. -/
theorem message_routed {c : Config} (h : Reachable m c) {msg : Message} (hmsg : msg ∈ c.world.log)
    {n : Notification} (hn : n ∈ c.world.store.notifications) (hnames : msg.Names n.id) :
    some msg.topic = topicForPriority n.priority ∧ msg.key = n.id.toString ∧
      msg.value.channel = n.channel.toString := by
  obtain ⟨f, hf, hfn, htopic, hkey, hchan⟩ := (RoutingInv.reachable h).routed msg hmsg
  have hid : f.id = n.id := hfn.unique hnames
  have hfix : f = n.fixed := (h.store_wf).fixed_eq hf (List.mem_map_of_mem _ hn) hid
  subst hfix
  exact ⟨htopic, hkey, hchan⟩

theorem message_routed_sms : ∃ (c : Config) (msg : Message) (n : Notification),
    Reachable Mode.deployed c ∧ msg ∈ c.world.log ∧ n ∈ c.world.store.notifications ∧
      msg.Names n.id ∧ some msg.topic = topicForPriority n.priority ∧ msg.key = n.id.toString ∧
        msg.value.channel = n.channel.toString := by
  obtain ⟨c, h, msg, n, hl, hr, hnames, -⟩ := Reachable.exists_published Mode.deployed
  have hmsg : msg ∈ c.world.log := by simp [hl]
  have hn : n ∈ c.world.store.notifications := by simp [hr]
  exact ⟨c, msg, n, h, hmsg, hn, hnames, message_routed h hmsg hn hnames⟩

/-- In every reachable configuration, in every mode, every message of the log names a stored
row, and `GetByID` returns it: the worker's load of a message the code wrote never fails with
`ErrNotificationNotFound`. -/
theorem Reachable.log_rows_found {c : Config} (h : Reachable m c) {msg : Message}
    (hmsg : msg ∈ c.world.log) :
    ∃ n ∈ c.world.store.notifications, msg.Names n.id ∧
      NotificationRepo.getByID c.world.store n.id = .ok n := by
  obtain ⟨f, hf, hnames, -⟩ := (RoutingInv.reachable h).routed msg hmsg
  obtain ⟨n, hn, rfl⟩ := List.mem_map.1 hf
  exact ⟨n, hn, hnames, h.store_wf.getByID_of_mem hn⟩

theorem log_rows_found_published : ∃ (c : Config) (msg : Message), Reachable Mode.deployed c ∧
    msg ∈ c.world.log ∧ ∃ n ∈ c.world.store.notifications, msg.Names n.id ∧
      NotificationRepo.getByID c.world.store n.id = .ok n := by
  obtain ⟨c, h, msg, -, hl, -⟩ := Reachable.exists_published Mode.deployed
  have hmsg : msg ∈ c.world.log := by simp [hl]
  exact ⟨c, msg, h, hmsg, Reachable.log_rows_found h hmsg⟩

end Pipeline
