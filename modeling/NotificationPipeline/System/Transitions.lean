-- SUMMARY: Status transitions against the spec's state machine: the serial edges, and the runs that leave it.
import NotificationPipeline.System.Schedule

/-!
# Status transitions

The spec's state machine (section 3) against the code's. In a serial run (one operation at a
time, every call succeeding) every change of a stored status is an edge of the spec's
machine, with one exception: `ProcessDelivery` skips cancelled and delivered rows but not
failed ones, so a message delivered again for a failed row takes it back to processing and
calls the provider again. Outside serial runs the unconditional `UpdateStatus` also
overwrites statuses written since the writer read the row, a committed cancel among them.

The serial result rests on `SerialInv`: at most one operation is running, and what its program
point says of the row it works on is what the table holds.
-/

namespace Domain

/-- A status the code writes: any but an unknown string. -/
def Status.IsKnown : Status → Prop
  | .other _ => False
  | _ => True

end Domain

namespace Pipeline

open Domain Uuid Postgres Queue App

/-- The status edges of the spec's state machine (section 3), as the spec words them. -/
def SpecEdge : Status → Status → Prop
  | .pending, .cancelled | .scheduled, .cancelled | .scheduled, .pending
  | .pending, .processing | .processing, .processing | .processing, .pending
  | .processing, .delivered | .processing, .failed => True
  | _, _ => False

variable {m : Mode} {c c' : Config}

/-- Every stored status is one the code writes. -/
theorem Reachable.status_known (h : Reachable m c) :
    ∀ r ∈ c.world.store.notifications, r.status.IsKnown := by
  induction h with
  | init => simp [Config.init, World.init, Store.empty]
  | step hc hs ih =>
    cases hs with
    | start => exact ih
    | template h => obtain rfl := h.store; exact ih
    | tick => exact ih
    | run hlt h =>
      have hwf := hc.ops_wf _ (List.getElem_mem hlt)
      intro r' hr'
      rcases h.effect.row_source hr' with ⟨r, hr, -, hst | ⟨n, hn, -, hst⟩ | hst⟩ | ⟨x, hx, rfl, -⟩
      · exact hst ▸ ih r hr
      · rcases (Op.update_spec hwf hn).2 with h' | h' | h' | h' <;> rw [hst, h'] <;> trivial
      · rw [hst.2]; trivial
      · show x.status.IsKnown
        rw [Op.inserts_status hwf hx]
        split <;> trivial

-- ---------------------------------------------------------------------------
-- Serial runs
-- ---------------------------------------------------------------------------

/-- Rows a sweep has listed and not yet reset: stored as listed, in the status its query
selects, each once. -/
def Listed (k : Sweep) (s : Store) (rest : List Notification) : Prop :=
  (rest.map (·.id)).Nodup ∧ ∀ n ∈ rest, n ∈ s.notifications ∧ n.status = k.status

/-- What the running operation's program point says of the stored statuses in a serial run:
the worker's copy is the row it loaded until it writes, and the row then holds the status it
wrote; a sweep's listed rows are as listed until it resets them. -/
def Op.Synced (s : Store) : Op → Prop
  | .consume _ (.read n) => n ∈ s.notifications ∧ n.status ≠ .scheduled ∧
      n.status ≠ .cancelled ∧ n.status ≠ .delivered
  | .consume _ (.marked n) | .consume _ (.retrying n _) | .consume _ (.failing n)
  | .consume _ (.delivering n) =>
      ∀ r ∈ s.notifications, r.id = n.id → r.status = .processing
  | .consume _ (.counting n) | .consume _ (.broadcasting n) =>
      ∀ r ∈ s.notifications, r.id = n.id → r.status = n.status
  | .sweep k (.looping rest) => Listed k s rest
  | .sweep k (.enqueuing n rest) =>
      (∀ r ∈ s.notifications, r.id = n.id → r.status = .pending) ∧
        n.id ∉ rest.map (·.id) ∧ Listed k s rest
  | _ => True

/-- The serial-run invariant: at most one operation is running, and its program point
agrees with the table. -/
structure SerialInv (c : Config) : Prop where
  one : ∀ i j (hi : i < c.ops.length) (hj : j < c.ops.length),
    c.ops[i].finished = false → c.ops[j].finished = false → i = j
  synced : ∀ op ∈ c.ops, op.Synced c.world.store

variable {w w' : World} {op op' : Op}

/-- An operation that returned takes no step. -/
theorem OpStep.not_finished (h : OpStep m op w op' w') : op.finished = false := by
  rcases h with ⟨h⟩ | ⟨h⟩ | ⟨h⟩ | ⟨-, h⟩ | ⟨h⟩ <;> cases h <;> rfl

theorem Op.synced_of_finished {s : Store} (h : op.finished = true) : op.Synced s := by
  rcases op with ⟨_, _ | _ | _ | _ | _ | _ | _ | _⟩ | ⟨_, _ | _ | _ | _ | _⟩ | _ |
    ⟨_, _ | _ | _ | _ | _ | _ | _ | _ | _ | _ | _⟩ | ⟨_, _ | _ | _ | _⟩ <;>
    simp [Op.finished] at h <;> trivial

theorem synced_afterSend {off : Nat} {n : Notification} {now : Instant}
    (hs : ∀ r ∈ w.store.notifications, r.id = n.id → r.status = .processing)
    (r : Except GoError ProviderResponse) : (Op.consume off (afterSend n now r)).Synced w.store := by
  cases r with
  | error e =>
    show (Op.consume off (if _ then _ else _)).Synced w.store
    split <;> exact hs
  | ok => exact hs

/-- In a serial run, a step of the running operation keeps its program point in agreement
with the table. -/
theorem OpStep.synced (hm : m.storeFaults = false) (hw : w.store.Wf)
    (hgated : ∀ msg ∈ w.log, ∀ r ∈ w.store.notifications, msg.Names r.id → r.status ≠ .scheduled)
    (h : OpStep m op w op' w') (hs : op.Synced w.store) : op'.Synced w'.store := by
  rcases h with ⟨h⟩ | ⟨h⟩ | ⟨h⟩ | ⟨hmsg, h⟩ | ⟨h⟩
  · trivial
  · trivial
  · trivial
  · cases h with
    | @load _ id n hid h =>
      obtain ⟨hmem, rfl⟩ := NotificationRepo.getByID_ok h
      simp only [afterLoad]
      split
      · trivial
      · rename_i hskip
        simp only [not_or] at hskip
        exact ⟨hmem, hgated _ (List.getElem?_mem hmsg) n hmem hid, hskip⟩
    | mark => exact fun r hr hid => NotificationRepo.status_of_mem_map_updatedRow hr hid
    | send r => exact synced_afterSend hs r
    | persistFailed | persistDelivered =>
      exact fun r hr hid => NotificationRepo.status_of_mem_map_updatedRow hr hid
    | bump => exact fun r hr hid => hs r (by simpa using hr) hid
    | noBatch => exact hs
    | loadFault _ hf | markFault hf | persistRetryFault hf | persistFailedFault hf
    | persistDeliveredFault hf | bumpFault _ hf => simp [hm] at hf
    | _ => trivial
  · cases h with
    | list => exact ⟨Sweep.nodup_list _ _ hw.ids_nodup, fun n hn => Sweep.mem_list hn⟩
    | @update _ n rest =>
      obtain ⟨hnd, hrest⟩ := hs
      have hnd' := List.nodup_cons.1 hnd
      refine ⟨fun r hr hid => by simpa using NotificationRepo.status_of_mem_map_updatedRow hr hid,
        hnd'.1, hnd'.2, fun x hx => ⟨?_, (hrest x (.tail _ hx)).2⟩⟩
      have hne : x.id ≠ (resetPending n w.now).id := fun he =>
        hnd'.1 (List.mem_map.2 ⟨x, hx, he⟩)
      exact List.mem_map.2 ⟨x, (hrest x (.tail _ hx)).1, NotificationRepo.updatedRow_of_ne hne⟩
    | enqueue | enqueueError | enqueueFault => exact hs.2.2
    | updateFault hf | listFault hf => simp [hm] at hf
    | _ => trivial

theorem SerialInv.step (hm : m.atomic = true) (hf : m.storeFaults = false) (hi : SerialInv c)
    (hw : c.world.store.Wf) (hsched : ScheduleInv c) (hs : Step m c c') : SerialInv c' := by
  cases hs with
  | @start op h hatomic =>
    have hfin := hatomic hm
    have key : ∀ k (hk : k < (c.ops ++ [op]).length),
        (c.ops ++ [op])[k].finished = false → k = c.ops.length := by
      intro k hk hu
      by_contra hne
      have hk' : k < c.ops.length := by simp at hk; omega
      rw [List.getElem_append_left hk', hfin _ (List.getElem_mem hk')] at hu
      cases hu
    refine ⟨fun i j hi' hj' hui huj => (key i hi' hui).trans (key j hj' huj).symm, fun o ho => ?_⟩
    rcases List.mem_append.1 ho with ho | ho
    · exact hi.synced o ho
    · rw [List.mem_singleton.1 ho]; cases h <;> trivial
  | @run i op' _ hlt h =>
    have hu := h.not_finished
    have hother : ∀ j (hj : j < c.ops.length), j ≠ i → c.ops[j].finished = true := by
      intro j hj hne
      cases hfj : c.ops[j].finished
      · exact absurd (hi.one j i hj hlt hfj hu) hne
      · rfl
    have key : ∀ k (hk : k < (c.ops.set i op').length), (c.ops.set i op')[k].finished = false → k = i := by
      intro k hk hu'
      by_contra hne
      rw [List.getElem_set, if_neg (Ne.symm hne), hother k (by simpa using hk) hne] at hu'
      cases hu'
    refine ⟨fun a b ha hb hua hub => (key a ha hua).trans (key b hb hub).symm,
      forall_mem_set_of_ne (fun j hj hne => Op.synced_of_finished (hother j hj hne)) ?_⟩
    exact h.synced hf hw (fun msg hmsg r hr hn => (hsched.gated msg hmsg r hr hn).1)
      (hi.synced _ (List.getElem_mem hlt))
  | template h => obtain rfl := h.store; exact ⟨hi.one, hi.synced⟩
  | tick => exact ⟨hi.one, hi.synced⟩

theorem SerialInv.reachable (hm : m.atomic = true) (hf : m.storeFaults = false)
    (h : Reachable m c) : SerialInv c := by
  induction h with
  | init => exact ⟨fun i _ hi => by simp [Config.init] at hi, by simp [Config.init]⟩
  | step hc hs ih => exact ih.step hm hf hc.store_wf (ScheduleInv.reachable hc) hs

/-- The statuses a worker reads and marks processing: the edge is the spec's, or leaves
failed. -/
theorem markProcessing_edge {s : Status} (hk : s.IsKnown) (hsch : s ≠ .scheduled)
    (hcan : s ≠ .cancelled) (hdel : s ≠ .delivered) (hne : Status.processing ≠ s) :
    SpecEdge s .processing ∨ (s = .failed ∧ Status.processing = .processing) := by
  cases s <;> first
    | exact .inl trivial
    | exact .inr ⟨rfl, rfl⟩
    | exact absurd rfl ‹_›
    | exact hk.elim

/-- In a serial run every change of a stored status is an edge of the spec's state machine,
or takes a failed row back to processing. -/
theorem status_change_edge (hm : m.atomic = true) (hf : m.storeFaults = false)
    (h : Reachable m c) (hs : Step m c c') {r r' : Notification}
    (hr : r ∈ c.world.store.notifications) (hr' : r' ∈ c'.world.store.notifications)
    (hid : r'.id = r.id) (hne : r'.status ≠ r.status) :
    SpecEdge r.status r'.status ∨ (r.status = .failed ∧ r'.status = .processing) := by
  have hw := h.store_wf
  cases hs with
  | start | tick => exact absurd (congrArg Notification.status (hw.row_eq hr' hr hid)) hne
  | template h =>
    obtain rfl := h.store
    exact absurd (congrArg Notification.status (hw.row_eq hr' hr hid)) hne
  | run hlt h' =>
    have hsync := (SerialInv.reachable hm hf h).synced _ (List.getElem_mem hlt)
    have hwf := h.ops_wf _ (List.getElem_mem hlt)
    rcases h'.effect.row_source hr' with ⟨r₀, hr₀, hfix, hst⟩ | ⟨x, hx, rfl, hrows⟩
    · obtain rfl : r = r₀ := hw.row_eq hr hr₀ (hid.symm.trans (congrArg FixedColumns.id hfix))
      rcases hst with hst | ⟨n, hn, hrn, hst⟩ | ⟨hcan, hst⟩
      · exact absurd hst hne
      · rw [hst]
        rcases Op.update_eq_some hn with ⟨off, n₀, hop, rfl⟩ | ⟨off, e, hop⟩ | ⟨off, hop⟩ |
          ⟨off, hop⟩ | ⟨k, n₀, rest, hop, rfl⟩ <;> rw [hop] at hsync hwf
        · obtain ⟨hmem, hsch, hcan, hdel⟩ := hsync
          obtain rfl : r = n₀ := hw.row_eq hr hmem hrn
          rw [Notification.status_markProcessing] at hst ⊢
          exact markProcessing_edge (h.status_known r hr) hsch hcan hdel (hst ▸ hne)
        · exact absurd (hst.trans (hwf.trans (hsync r hr hrn).symm)) hne
        · rw [hwf, hsync r hr hrn]; exact .inl trivial
        · rw [hwf, hsync r hr hrn]; exact .inl trivial
        · obtain ⟨hmem, hk⟩ := hsync.2 n₀ (.head _)
          obtain rfl : r = n₀ := hw.row_eq hr hmem hrn
          rw [hk, status_resetPending]
          cases k <;> exact .inl trivial
      · rw [hst]
        rcases hcan with hcan | hcan <;> rw [hcan] <;> exact .inl trivial
    · exact absurd hid.symm ((h.step (.run hlt h')).store_wf.fresh_of_append hrows
        (List.mem_map_of_mem _ hx) _ (List.mem_map_of_mem _ hr))

/-- A worker marking a pending row processing takes the spec's edge. -/
theorem status_change_edge_mark : ∃ (c c' : Config) (r r' : Notification),
    Reachable Mode.serial c ∧ Step Mode.serial c c' ∧ r ∈ c.world.store.notifications ∧
      r' ∈ c'.world.store.notifications ∧ r.status = .pending ∧ r'.status = .processing ∧
      (SpecEdge r.status r'.status ∨ (r.status = .failed ∧ r'.status = .processing)) := by
  have h0 := (Reachable.init (m := Mode.serial)).start
    (.create ⟨.sms, "+905530050594", "Hello", .normal, none, none, none, none⟩) (by simp [Config.init])
  have h1 := h0.run (i := 0) (by decide) (.create (.noKey rfl))
  have h2 := h1.run (i := 0) (by decide)
    (.create (.build ⟨List.replicate 16 1, rfl⟩ (.ok "Hello") (.plain rfl)))
  have h3 := h2.run (i := 0) (by decide) (.create (.insert rfl))
  have h4 := h3.run (i := 0) (by decide) (.create (.noSetNX rfl))
  have h5 := h4.run (i := 0) (by decide) (.create (.enqueue rfl rfl))
  have h6 := h5.start (@Op.Start.consume _ 0 (by decide)) (by decide)
  have h7 := h6.run (i := 1) (by decide) (.consume rfl (.load (parse_toString _) rfl))
  refine ⟨_, _, _, _, h7, .run (i := 1) (by decide) (.consume rfl .mark),
    List.mem_singleton_self _, List.mem_singleton_self _, rfl, rfl, ?_⟩
  exact status_change_edge rfl rfl h7 (.run (i := 1) (by decide) (.consume rfl .mark))
    (List.mem_singleton_self _) (List.mem_singleton_self _) rfl (by decide)

/-- The skip check of `ProcessDelivery` lets a failed row through: in a serial run a worker
handling a redelivered message for a failed notification marks it processing again and calls
the provider a second time. -/
theorem failed_row_reprocessed : ∃ (c c' c'' : Config) (id : UUID),
    Reachable Mode.serial c ∧ Step Mode.serial c c' ∧ Step Mode.serial c' c'' ∧
      (∃ r ∈ c.world.store.notifications, r.id = id ∧ r.status = .failed) ∧
      (∃ r ∈ c'.world.store.notifications, r.id = id ∧ r.status = .processing) ∧
      c'.world.sends = [id] ∧ c''.world.sends = [id, id] := by
  have h0 := (Reachable.init (m := Mode.serial)).start
    (.create ⟨.sms, "+905530050594", "Hello", .normal, none, none, none, none⟩) (by simp [Config.init])
  have h1 := h0.run (i := 0) (by decide) (.create (.noKey rfl))
  have h2 := h1.run (i := 0) (by decide)
    (.create (.build ⟨List.replicate 16 1, rfl⟩ (.ok "Hello") (.plain rfl)))
  have h3 := h2.run (i := 0) (by decide) (.create (.insert rfl))
  have h4 := h3.run (i := 0) (by decide) (.create (.noSetNX rfl))
  have h5 := h4.run (i := 0) (by decide) (.create (.enqueue rfl rfl))
  -- the first delivery fails permanently
  have h6 := h5.start (@Op.Start.consume _ 0 (by decide)) (by decide)
  have h7 := h6.run (i := 1) (by decide) (.consume rfl (.load (parse_toString _) rfl))
  have h8 := h7.run (i := 1) (by decide) (.consume rfl .mark)
  have h9 := h8.run (i := 1) (by decide) (.consume rfl (.send (.error (.other "permanent"))))
  have h10 := h9.run (i := 1) (by decide) (.consume rfl .persistFailed)
  have h11 := h10.run (i := 1) (by decide) (.consume rfl (.noBatch rfl))
  have h12 := h11.run (i := 1) (by decide) (.consume rfl .broadcast)
  have h13 := h12.run (i := 1) (by decide) (.consume rfl .commit)
  -- the message is delivered again and the failed row passes the skip check
  have h14 := h13.start (@Op.Start.consume _ 0 (by decide)) (by decide)
  have h15 := h14.run (i := 2) (by decide) (.consume rfl (.load (parse_toString _) rfl))
  exact ⟨_, _, _, _, h15, .run (i := 2) (by decide) (.consume rfl .mark),
    .run (i := 2) (by decide) (.consume rfl (.send (.ok ⟨"m", "sent", "t"⟩))),
    ⟨_, List.mem_singleton_self _, rfl, rfl⟩, ⟨_, List.mem_singleton_self _, rfl, rfl⟩, rfl, rfl⟩

/-- A failed row handled again counts its retries past the cap: a low-priority notification
fails transiently, is retried in the log, fails at its cap, and then the first message is
delivered again and fails once more. -/
theorem retry_count_exceeds_cap : ∃ c : Config, Reachable Mode.serial c ∧
    ∃ r ∈ c.world.store.notifications, r.status = .failed ∧ r.retryCount = 3 ∧ r.maxRetries = 2 := by
  have h0 := (Reachable.init (m := Mode.serial)).start
    (.create ⟨.sms, "+905530050594", "Hello", .low, none, none, none, none⟩) (by simp [Config.init])
  have h1 := h0.run (i := 0) (by decide) (.create (.noKey rfl))
  have h2 := h1.run (i := 0) (by decide)
    (.create (.build ⟨List.replicate 16 1, rfl⟩ (.ok "Hello") (.plain rfl)))
  have h3 := h2.run (i := 0) (by decide) (.create (.insert rfl))
  have h4 := h3.run (i := 0) (by decide) (.create (.noSetNX rfl))
  have h5 := h4.run (i := 0) (by decide) (.create (.enqueue rfl rfl))
  -- the first attempt fails transiently and is retried in the log
  have h6 := h5.start (@Op.Start.consume _ 0 (by decide)) (by decide)
  have h7 := h6.run (i := 1) (by decide) (.consume rfl (.load (parse_toString _) rfl))
  have h8 := h7.run (i := 1) (by decide) (.consume rfl .mark)
  have h9 := h8.run (i := 1) (by decide) (.consume rfl (.send (.error (.sentinel .providerUnavailable))))
  have h10 := h9.run (i := 1) (by decide) (.consume rfl .persistRetry)
  have h11 := h10.run (i := 1) (by decide) (.consume rfl .retry)
  have h12 := h11.run (i := 1) (by decide) (.consume rfl .commitRetried)
  -- the retry copy fails transiently with no retries left: failed at the cap
  have h13 := h12.start (@Op.Start.consume _ 1 (by decide)) (by decide)
  have h14 := h13.run (i := 2) (by decide) (.consume rfl (.load (parse_toString _) rfl))
  have h15 := h14.run (i := 2) (by decide) (.consume rfl .mark)
  have h16 := h15.run (i := 2) (by decide) (.consume rfl (.send (.error (.sentinel .providerUnavailable))))
  have h17 := h16.run (i := 2) (by decide) (.consume rfl .persistFailed)
  have h18 := h17.run (i := 2) (by decide) (.consume rfl (.noBatch rfl))
  have h19 := h18.run (i := 2) (by decide) (.consume rfl .broadcast)
  have h20 := h19.run (i := 2) (by decide) (.consume rfl .commit)
  -- the first message is delivered again and fails transiently once more
  have h21 := h20.start (@Op.Start.consume _ 0 (by decide)) (by decide)
  have h22 := h21.run (i := 3) (by decide) (.consume rfl (.load (parse_toString _) rfl))
  have h23 := h22.run (i := 3) (by decide) (.consume rfl .mark)
  have h24 := h23.run (i := 3) (by decide) (.consume rfl (.send (.error (.sentinel .providerUnavailable))))
  have h25 := h24.run (i := 3) (by decide) (.consume rfl .persistFailed)
  exact ⟨_, h25, _, List.mem_singleton_self _, rfl, rfl, rfl⟩

/-- With operations interleaved, `UpdateStatus` writes back the status a worker read before a
`Cancel` committed: the cancel has returned, the row is processing again, and the provider is
called for it. -/
theorem cancel_overwritten : ∃ (c c' : Config) (id : UUID),
    Reachable Mode.deployed c ∧ Step Mode.deployed c c' ∧ .cancel id (.done (.ok ())) ∈ c.ops ∧
      (∃ r ∈ c.world.store.notifications, r.id = id ∧ r.status = .processing) ∧
      c.world.sends = [] ∧ c'.world.sends = [id] := by
  have h0 := (Reachable.init (m := Mode.deployed)).start
    (.create ⟨.sms, "+905530050594", "Hello", .normal, none, none, none, none⟩) (by simp [Config.init])
  have h1 := h0.run (i := 0) (by decide) (.create (.noKey rfl))
  have h2 := h1.run (i := 0) (by decide)
    (.create (.build ⟨List.replicate 16 1, rfl⟩ (.ok "Hello") (.plain rfl)))
  have h3 := h2.run (i := 0) (by decide) (.create (.insert rfl))
  have h4 := h3.run (i := 0) (by decide) (.create (.noSetNX rfl))
  have h5 := h4.run (i := 0) (by decide) (.create (.enqueue rfl rfl))
  -- a worker reads the pending row, then a cancel runs to completion
  have h6 := h5.start (@Op.Start.consume _ 0 (by decide)) (by decide)
  have h7 := h6.run (i := 1) (by decide) (.consume rfl (.load (parse_toString _) rfl))
  have h8 := h7.start (.cancel ⟨List.replicate 16 1, rfl⟩) (by decide)
  have h9 := h8.run (i := 2) (by decide) (.cancel (.load rfl))
  have h10 := h9.run (i := 2) (by decide) (.cancel (.cancel rfl))
  have h11 := h10.run (i := 2) (by decide) (.cancel (.noBatch rfl))
  -- the worker writes back its copy marked processing
  have h12 := h11.run (i := 1) (by decide) (.consume rfl .mark)
  exact ⟨_, _, _, h12, .run (i := 1) (by decide) (.consume rfl (.send (.ok ⟨"m", "sent", "t"⟩))),
    .tail _ (.tail _ (.head _)), ⟨_, List.mem_singleton_self _, rfl, rfl⟩, rfl, rfl⟩

end Pipeline
