-- SUMMARY: What the worker and the scheduler persist through UpdateStatus, and what GetByID reads back.
import NotificationPipeline.App.Scheduler

/-!
# What the worker and the scheduler persist

The delivery worker and the scheduler change a notification in memory with the mutators of
`domain.Notification` (and the scheduler's reset to `pending`), then write it back with
`NotificationRepo.UpdateStatus`. The row the store keeps goes through three encodings: the
column list of `Create`'s `INSERT`, the seven columns of `UpdateStatus`'s `UPDATE`, and
`rowToNotification` on the way back. `template_variables` is written by `json.Marshal` and
read by `json.Unmarshal`, which give back an equal map (and `nil` for `nil`), so the model
keeps the map itself.

Every mutator changes only columns of `UpdateStatus`'s list (`updatedRow_applyAll`), and the
columns `Create` leaves out are at their defaults in a notification `NewNotification` builds
(`newNotification_fresh`); so `GetByID` reads back, after any run of mutations each persisted
in turn, exactly the notification the worker holds in memory.
-/

namespace App

open Domain Uuid Postgres

/-- The in-memory changes the worker and the scheduler make before an `UpdateStatus`. -/
inductive Mutation
  | markProcessing (now : Instant)
  | incrementRetry (now : Instant)
  | markDelivered (providerMessageId : String) (now : Instant)
  | markFailed (errMsg : String) (now : Instant)
  | resetPending (now : Instant)
deriving DecidableEq, Repr

namespace Mutation

/-- The mutator itself. -/
def apply : Mutation → Notification → Notification
  | .markProcessing now, n => n.markProcessing now
  | .incrementRetry now, n => n.incrementRetry now
  | .markDelivered providerMessageId now, n => n.markDelivered providerMessageId now
  | .markFailed errMsg now, n => n.markFailed errMsg now
  | .resetPending now, n => App.resetPending n now

/-- The mutators applied in turn, in memory. -/
def applyAll (n : Notification) (μs : List Mutation) : Notification :=
  μs.foldl (fun n μ => μ.apply n) n

@[simp] theorem applyAll_nil (n : Notification) : applyAll n [] = n := rfl

@[simp] theorem applyAll_cons (n : Notification) (μ : Mutation) (μs : List Mutation) :
    applyAll n (μ :: μs) = applyAll (μ.apply n) μs := rfl

@[simp] theorem id_apply (μ : Mutation) (n : Notification) : (μ.apply n).id = n.id := by
  cases μ <;> rfl

/-- A mutator writes only columns of `UpdateStatus`'s list: writing the result over the row it
started from gives the result. -/
theorem updatedRow_apply (μ : Mutation) (n : Notification) :
    NotificationRepo.updatedRow (μ.apply n) n = μ.apply n := by
  rw [NotificationRepo.updatedRow, if_pos (id_apply μ n).symm]
  cases μ <;> rfl

@[simp] theorem id_applyAll (n : Notification) (μs : List Mutation) : (applyAll n μs).id = n.id := by
  induction μs generalizing n <;> simp [*]

/-- No mutator touches a column `UpdateStatus` leaves alone. -/
@[simp] theorem fixed_apply (μ : Mutation) (n : Notification) : (μ.apply n).fixed = n.fixed := by
  cases μ <;> rfl

@[simp] theorem fixed_applyAll (n : Notification) (μs : List Mutation) :
    (applyAll n μs).fixed = n.fixed := by
  induction μs generalizing n <;> simp [*]

/-- `updatedRow` overwrites all seven columns, so a later update hides an earlier one. -/
theorem updatedRow_updatedRow (n n' r : Notification) (h : n'.id = n.id) :
    NotificationRepo.updatedRow n' (NotificationRepo.updatedRow n r) =
      NotificationRepo.updatedRow n' r := by
  unfold NotificationRepo.updatedRow
  by_cases hr : r.id = n.id <;> simp [hr, h]

/-- A run of mutators, persisted once at its end, writes the row it started from into the
notification held in memory. -/
theorem updatedRow_applyAll (n : Notification) (μs : List Mutation) :
    NotificationRepo.updatedRow (applyAll n μs) n = applyAll n μs := by
  induction μs generalizing n with
  | nil => simp [NotificationRepo.updatedRow]
  | cons μ μs ih =>
    let m := applyAll (μ.apply n) μs
    calc NotificationRepo.updatedRow m n
        = NotificationRepo.updatedRow m (NotificationRepo.updatedRow (μ.apply n) n) :=
          (updatedRow_updatedRow (μ.apply n) m n (by simp [m])).symm
      _ = m := by rw [updatedRow_apply, ih]

end Mutation

/-- Each mutator applied in turn and persisted with `UpdateStatus` right after. -/
def persistEach (s : Store) (n : Notification) : List Mutation → Store
  | [] => s
  | μ :: μs => persistEach (NotificationRepo.updateStatus s (μ.apply n)) (μ.apply n) μs

open NotificationRepo Mutation

/-- A store that reads back the notification the worker holds still does so after it
persists a run of mutations. -/
theorem getByID_updateStatus_applyAll {s : Store} {n : Notification} (h : getByID s n.id = .ok n)
    (μs : List Mutation) :
    getByID (updateStatus s (applyAll n μs)) n.id = .ok (applyAll n μs) := by
  rw [getByID_updateStatus, h]
  exact congrArg Except.ok (updatedRow_applyAll n μs)

/-- The same, with every mutation persisted as it is made. -/
theorem getByID_persistEach {s : Store} {n : Notification} (h : getByID s n.id = .ok n)
    (μs : List Mutation) : getByID (persistEach s n μs) n.id = .ok (applyAll n μs) := by
  induction μs generalizing s n with
  | nil => exact h
  | cons μ μs ih =>
    have h₁ := getByID_updateStatus_applyAll h [μ]
    simp only [applyAll_cons, applyAll_nil] at h₁
    rw [persistEach, applyAll_cons, ← id_apply μ n]
    exact ih (by simpa using h₁)

end App
