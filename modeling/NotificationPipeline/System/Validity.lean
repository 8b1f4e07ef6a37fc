-- SUMMARY: Every stored row passes NewNotification's checks, and /metrics lists exactly the three channels.
import NotificationPipeline.System.Routing
import NotificationPipeline.App.Metrics

/-!
# Every stored row passes `NewNotification`'s checks

A row reaches the notifications table only through `repo.Create` or `repo.CreateBatch`, and
each inserts what `NewNotification` built: a channel it knows, a recipient and a content that
channel accepts, a priority it knows and that priority's retry cap (`Notification.Valid`).
Neither `UpdateStatus` nor `Cancel` writes those columns. So the table keeps the checks in
every reachable configuration, in every mode: with store and log calls failing, and with the
operations interleaved.

`Op.built` names the rows an operation has built and not inserted yet; `OpStep.built_valid`
is the step lemma for them, `Effect.valid_rows` the one for the table, and
`ValidInv.reachable` carries both over a run.

So `/metrics`, which groups the table by its `channel` column, lists exactly the three
channels its map literal starts from (`Reachable.metrics_channels`).
-/

namespace Postgres.NotificationRepo

open Domain Uuid

theorem valid_insertedRow {n : Notification} (h : n.Valid) : (insertedRow n).Valid := h

theorem valid_updatedRow (n : Notification) {r : Notification} (h : r.Valid) :
    (updatedRow n r).Valid := by
  unfold updatedRow
  split <;> exact h

theorem valid_cancelledRow (id : UUID) (now : Instant) {r : Notification} (h : r.Valid) :
    (cancelledRow id now r).Valid := by
  unfold cancelledRow
  split <;> exact h

end Postgres.NotificationRepo

namespace App

open Domain Uuid

variable {input : CreateNotificationInput} {c : String} {id : UUID} {now : Instant}
  {n : Notification}

/-- `Create`'s decorations keep what `NewNotification` checked. -/
theorem CreateNotificationInput.build_valid (h : input.build c id now = .ok n) : n.Valid := by
  simp only [CreateNotificationInput.build, bind, Except.bind] at h
  split at h
  · cases h
  · rename_i n₀ h₀
    cases h
    exact newNotification_valid (n := n₀) h₀

theorem CreateNotificationInput.buildChild_valid {bid : UUID}
    (h : input.buildChild c id now bid = .ok n) : n.Valid := by
  obtain ⟨n₀, h₀, rfl⟩ := CreateNotificationInput.buildChild_ok h
  exact CreateNotificationInput.build_valid (n := n₀) h₀

end App

namespace Pipeline

open Domain Uuid Postgres Queue App NotificationRepo
open scoped List

/-- The rows an operation has built and not inserted yet. -/
def Op.built : Op → List Notification
  | .create _ (.built n) => [n]
  | .createBatch _ (.building _ acc _) | .createBatch _ (.persisting _ acc) => acc
  | _ => []

theorem Op.inserts_subset_built (op : Op) : op.inserts ⊆ op.built := by
  rcases op with ⟨_, _ | _ | _ | _ | _ | _ | _ | _⟩ | ⟨_, _ | _ | _ | _ | _⟩ | _ | _ | _ <;>
    first | exact List.Subset.refl _ | exact List.nil_subset _

variable {m : Mode} {w w' : World} {op op' : Op}

/-- A step builds only rows that pass the checks. -/
theorem OpStep.built_valid (h : OpStep m op w op' w') (hv : ∀ n ∈ op.built, n.Valid) :
    ∀ n ∈ op'.built, n.Valid := by
  rcases h with ⟨h⟩ | ⟨h⟩ | ⟨-⟩ | ⟨-, -⟩ | ⟨-⟩
  · cases h with
    | build id content =>
      rcases content with e | c
      · exact fun n hn => by cases hn
      · show ∀ n ∈ (Op.create _ (.ofBuilt (CreateNotificationInput.build _ c id w.now))).built, n.Valid
        cases hb : CreateNotificationInput.build _ c id w.now with
        | error e => exact fun n hn => by cases hn
        | ok n =>
          simp only [CreatePc.ofBuilt, Op.built, List.mem_singleton, forall_eq]
          exact CreateNotificationInput.build_valid hb
    | _ => simp [Op.built]
  · cases h with
    | @buildChild _ b acc inp rest id content =>
      rcases content with e | c
      · exact fun n hn => by cases hn
      · show ∀ n ∈ (Op.createBatch _ (.ofChild b acc rest (inp.buildChild c id w.now b.id))).built, n.Valid
        cases hb : inp.buildChild c id w.now b.id with
        | error e => exact fun n hn => by cases hn
        | ok n =>
          simp only [BatchPc.ofChild, Op.built, List.mem_append, List.mem_singleton]
          rintro x (hx | rfl)
          · exact hv x hx
          · exact CreateNotificationInput.buildChild_valid hb
    | built => exact hv
    | _ => simp [Op.built]
  all_goals simp [Op.built]

/-- A step keeps the checks on every row of the table. -/
theorem Effect.valid_rows (e : Effect op w w') (hb : ∀ n ∈ op.built, n.Valid)
    (hv : ∀ r ∈ w.store.notifications, r.Valid) : ∀ r ∈ w'.store.notifications, r.Valid := by
  cases e with
  | none _ hr => exact hr ▸ hv
  | publish _ _ hs => exact hs ▸ hv
  | insert _ hr =>
    simp only [hr, List.mem_append, List.mem_map]
    rintro r (hr | ⟨x, hx, rfl⟩)
    · exact hv r hr
    · exact NotificationRepo.valid_insertedRow (hb x (op.inserts_subset_built hx))
  | update _ _ hr =>
    simp only [hr, List.mem_map]
    rintro r ⟨r₀, hr₀, rfl⟩
    exact NotificationRepo.valid_updatedRow _ (hv r₀ hr₀)
  | cancel _ _ hr =>
    simp only [hr, List.mem_map]
    rintro r ⟨r₀, hr₀, rfl⟩
    exact NotificationRepo.valid_cancelledRow _ _ (hv r₀ hr₀)

/-- The rows of the table, and the rows every operation has built, pass `NewNotification`'s
checks. -/
structure ValidInv (c : Config) : Prop where
  rows : ∀ r ∈ c.world.store.notifications, r.Valid
  built : ∀ op ∈ c.ops, ∀ n ∈ op.built, n.Valid

variable {c : Config}

theorem ValidInv.reachable (h : Reachable m c) : ValidInv c := by
  induction h with
  | init => exact ⟨fun r hr => (by cases hr), fun op hop => (by cases hop)⟩
  | step _ hs ih =>
    cases hs with
    | start hst =>
      refine ⟨ih.rows, fun o ho => ?_⟩
      rcases List.mem_append.1 ho with ho | ho
      · exact ih.built o ho
      · rw [List.mem_singleton.1 ho]
        cases hst <;> simp [Op.built]
    | run hi h =>
      have hb := ih.built _ (List.getElem_mem hi)
      exact ⟨h.effect.valid_rows hb ih.rows, forall_mem_set ih.built _ (h.built_valid hb)⟩
    | template h => obtain rfl := h.store; exact ⟨ih.rows, ih.built⟩
    | tick => exact ⟨ih.rows, ih.built⟩

/-- In every reachable configuration, in every mode, every row of the notifications table
passes the checks `NewNotification` made when it was built: a channel it knows, a recipient
and a content that channel accepts, a priority it knows, and that priority's retry cap. -/
theorem Reachable.rows_valid (h : Reachable m c) {r : Notification}
    (hr : r ∈ c.world.store.notifications) : r.Valid :=
  (ValidInv.reachable h).rows r hr

theorem rows_valid_published : ∃ (c : Config) (r : Notification), Reachable Mode.deployed c ∧
    r ∈ c.world.store.notifications ∧ r.Valid := by
  obtain ⟨c, h, -, n, -, hr, -⟩ := Reachable.exists_published Mode.deployed
  have hn : n ∈ c.world.store.notifications := by simp [hr]
  exact ⟨c, n, h, hn, Reachable.rows_valid h hn⟩

/-- In every reachable configuration, in every mode, `/metrics` lists exactly the channels sms,
email and push when its query succeeds, in whatever order the query returns its rows: each
with the counts of that channel's rows, and the zero entry for a channel with no row. -/
theorem Reachable.metrics_channels (h : Reachable m c) {stats : List ChannelStats}
    (hp : stats ~ getChannelMetrics c.world.store) (k : String) :
    (snapshot (.ok stats)).channels k =
      if k = "sms" ∨ k = "email" ∨ k = "push" then
        some (.ofStats (channelStats k (channelRows c.world.store k)))
      else none := by
  rw [snapshot_channels _ hp, defaultChannels_eq]
  by_cases hk : k ∈ c.world.store.notifications.map (·.channel.toString)
  · obtain ⟨n, hn, rfl⟩ := List.mem_map.1 hk
    rw [if_pos hk, if_pos ((ValidInv.reachable h).rows n hn).channel_toString]
  · rw [if_neg hk, channelRows_eq_nil hk, ChannelSnapshot.ofStats_nil]

theorem metrics_channels_published : ∃ c : Config, Reachable Mode.deployed c ∧
    ∀ k, (snapshot (.ok (getChannelMetrics c.world.store))).channels k =
      if k = "sms" ∨ k = "email" ∨ k = "push" then
        some (.ofStats (channelStats k (channelRows c.world.store k)))
      else none := by
  obtain ⟨c, h, -⟩ := Reachable.exists_published Mode.deployed
  exact ⟨c, h, Reachable.metrics_channels h (List.Perm.refl _)⟩

end Pipeline
