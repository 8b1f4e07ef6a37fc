-- SUMMARY: CreateBatch run on its own: all or nothing, and a committed child rendered from a missing variable.
import NotificationPipeline.App.NotificationService
import NotificationPipeline.App.Persistence
import NotificationPipeline.App.TemplateService
import Mathlib.Data.List.Forall2
import Mathlib.Logic.Relation

/-!
# `CreateBatch` on its own: all or nothing

A run of `NotificationService.CreateBatch` with no other operation between its steps. Every
error path returns before `repo.CreateBatch` commits, or is that call failing, whose deferred
rollback discards the batch row and every child inserted before the failure; only after the
commit does the loop publish, and it discards the publish errors.

`BatchRunInv` says, at each program point, what the run has done to the world it started
from: nothing until the commit, the commit from then on, and nothing at all once it has
returned an error. `batchRun_inv` carries it over a run, and `createBatch_all_or_nothing`
reads it at the return.

A child naming a template gets the content `Render` returns on the stored body; `Render` does
not fail on a variable the map lacks (`Domain.Template`), so a batch can commit content
rendered from a missing variable (`batch_persists_missing_variable`).
-/

namespace App

open Domain Uuid Postgres Queue

variable {m : Mode} {inputs : List CreateNotificationInput}

/-- A step of `CreateBatch`, on its program point and the world. -/
def BatchStep.Run (m : Mode) (inputs : List CreateNotificationInput) (p q : BatchPc × World) :
    Prop :=
  BatchStep m inputs p.1 p.2 q.1 q.2

/-- `n` is the child `CreateBatch` builds from the input `inp` for the batch `b` at `now`:
`NewNotification` on the input's content, or on what its template rendered, with the batch id,
the idempotency key and the template fields set. -/
def ChildOf (b : NotificationBatch) (now : Instant) (inp : CreateNotificationInput)
    (n : Notification) : Prop :=
  ∃ c id, (inp.templateId = none → c = inp.content) ∧ inp.buildChild c id now b.id = .ok n

/-- The batch row for the inputs, and one child per input, in order. -/
def BatchBuilt (inputs : List CreateNotificationInput) (now : Instant) (b : NotificationBatch)
    (ns : List Notification) : Prop :=
  b = newBatch b.id inputs.length now ∧ List.Forall₂ (ChildOf b now) inputs ns

/-- The store once `repo.CreateBatch` has committed the batch `b` and the children `ns` over
`s₀`: the rows appended, and a batch id that was new. -/
structure Committed (s₀ : Store) (b : NotificationBatch) (ns : List Notification) (s : Store) :
    Prop where
  notifications : s.notifications = s₀.notifications ++ ns
  batches : s.batches = s₀.batches ++ [b]
  fresh : ∀ x ∈ s₀.batches, x.id ≠ b.id

/-- What a run of `CreateBatch` from the world `w₀` has done by each program point. -/
def BatchRunInv (inputs : List CreateNotificationInput) (w₀ : World) : BatchPc × World → Prop
  | (.start, w) => w = w₀
  | (.building b acc rest, w) => w = w₀ ∧ b = newBatch b.id inputs.length w₀.now ∧
      ∃ pre, inputs = pre ++ rest ∧ List.Forall₂ (ChildOf b w₀.now) pre acc
  | (.persisting b ns, w) => w = w₀ ∧ BatchBuilt inputs w₀.now b ns
  | (.publishing b ns _, w) => BatchBuilt inputs w₀.now b ns ∧ Committed w₀.store b ns w.store
  | (.done (.error _), w) => w = w₀
  | (.done (.ok (b, ns)), w) => BatchBuilt inputs w₀.now b ns ∧ Committed w₀.store b ns w.store

/-- A child carries its batch's id, and the insert stores it as built. -/
theorem ChildOf.spec {b : NotificationBatch} {now : Instant} {inp : CreateNotificationInput}
    {n : Notification} (h : ChildOf b now inp n) :
    n.batchId = some b.id ∧ NotificationRepo.insertedRow n = n := by
  obtain ⟨c, id, -, hc⟩ := h
  obtain ⟨n₀, h₀, rfl⟩ := CreateNotificationInput.buildChild_ok hc
  simp only [CreateNotificationInput.build, bind, Except.bind] at h₀
  split at h₀
  · cases h₀
  · rename_i hnew
    cases h₀
    have hfresh := newNotification_fresh hnew
    exact ⟨rfl, NotificationRepo.insertedRow_eq_self hfresh⟩

/-- The inserts of the children store them as built. -/
theorem map_insertedRow_of_forall₂ {b : NotificationBatch} {now : Instant}
    {ns : List Notification} (h : List.Forall₂ (ChildOf b now) inputs ns) :
    ns.map NotificationRepo.insertedRow = ns := by
  induction h with
  | nil => rfl
  | cons hc _ ih => rw [List.map_cons, hc.spec.2, ih]

/-- Every child carries its batch's id. -/
theorem filter_batchId_of_forall₂ {b : NotificationBatch} {now : Instant}
    {ns : List Notification} (h : List.Forall₂ (ChildOf b now) inputs ns) :
    ns.filter (·.batchId == some b.id) = ns := by
  induction h with
  | nil => rfl
  | cons hc _ ih => simp [List.filter_cons, hc.spec.1, ih]

/-- `repo.CreateBatch` on the children as built commits them. -/
theorem committed_of_createBatch {s s' : Store} {b : NotificationBatch} {ns : List Notification}
    {now : Instant} (hb : BatchBuilt inputs now b ns)
    (h : NotificationRepo.createBatch s b ns = .ok s') : Committed s b ns s' := by
  obtain ⟨hrows, hbatches, -⟩ := NotificationRepo.createBatch_ok h
  refine ⟨by rw [hrows, map_insertedRow_of_forall₂ hb.2], ?_, NotificationRepo.createBatch_fresh h⟩
  rw [hbatches, hb.1]
  rfl

/-- Each step of `CreateBatch` keeps what the run has done. -/
theorem BatchStep.Run.preserves {w₀ : World} {p q : BatchPc × World}
    (h : BatchStep.Run m inputs p q) (hi : BatchRunInv inputs w₀ p) : BatchRunInv inputs w₀ q := by
  obtain ⟨pc, w⟩ := p
  obtain ⟨pc', w'⟩ := q
  unfold BatchStep.Run at h
  cases h with
  | empty | tooLarge => exact hi
  | persistError | persistFault => exact hi.1
  | begin id => subst hi; exact ⟨rfl, rfl, [], rfl, .nil⟩
  | @buildChild _ b acc inp rest id content hcontent =>
    obtain ⟨rfl, hb, pre, hpre, hacc⟩ := hi
    cases content with
    | error e => exact rfl
    | ok c =>
      show BatchRunInv inputs w (.ofChild b acc rest (inp.buildChild c id w.now b.id), w)
      cases hc : inp.buildChild c id w.now b.id with
      | error e => exact rfl
      | ok n =>
        refine ⟨rfl, hb, pre ++ [inp], by simp [hpre], ?_⟩
        exact List.rel_append hacc (.cons ⟨c, id, hcontent.content_eq, hc⟩ .nil)
  | built =>
    obtain ⟨rfl, hb, pre, hpre, hacc⟩ := hi
    rw [List.append_nil] at hpre
    exact ⟨rfl, hb, hpre ▸ hacc⟩
  | persist hc =>
    obtain ⟨rfl, hb⟩ := hi
    exact ⟨hb, committed_of_createBatch hb hc⟩
  | enqueueScheduled | enqueue | enqueueError | enqueueFault | published => exact hi

/-- A run of `CreateBatch` followed by one more step. -/
theorem BatchStep.Run.snoc {p : BatchPc × World} {pc pc' : BatchPc} {w w' : World}
    (h : Relation.ReflTransGen (BatchStep.Run m inputs) p (pc, w))
    (hs : BatchStep m inputs pc w pc' w') :
    Relation.ReflTransGen (BatchStep.Run m inputs) p (pc', w') :=
  h.tail hs

/-- Over a run of `CreateBatch` from its start, the run has done what its program point says. -/
theorem batchRun_inv {w₀ : World} {q : BatchPc × World}
    (h : Relation.ReflTransGen (BatchStep.Run m inputs) (.start, w₀) q) :
    BatchRunInv inputs w₀ q := by
  induction h with
  | refl => rfl
  | tail _ step ih => exact step.preserves ih

/-- No stored row carries the id of a batch the table does not hold: the foreign key. -/
theorem filter_batchId_eq_nil {s : Store} (hw : s.Wf) {b : UUID}
    (hb : ∀ x ∈ s.batches, x.id ≠ b) : s.notifications.filter (·.batchId == some b) = [] := by
  refine List.filter_eq_nil_iff.2 fun r hr hrb => ?_
  obtain ⟨x, hx, hxb⟩ := List.mem_map.1 (hw.batchRefs r.fixed (List.mem_map_of_mem _ hr) b
    (by simpa using hrb))
  exact hb x hx hxb

/-- A template naming `Name`, created by `TemplateService.Create`, and a batch whose one input
names it with a nil variable map: `Render` returns no error but the body with `"<no value>"` for
the missing variable, and `CreateBatch` commits that content. -/
theorem batch_persists_missing_variable :
    ∃ t s, TemplateService.create Store.empty ⟨"welcome", .sms, "Hello {{.Name}}"⟩
        ⟨List.replicate 16 3, rfl⟩ 0 = some (.ok (t, s)) ∧
      t.render none = some (.ok "Hello <no value>") ∧
      ∃ w' b ns, Relation.ReflTransGen
          (BatchStep.Run Mode.serial [⟨.sms, "+905530050594", "", .normal, none, none, some t.id, none⟩])
          (.start, { World.init with store := s }) (.done (.ok (b, ns)), w') ∧
        ∃ r ∈ w'.store.notifications, r.templateId = some t.id ∧ r.templateVariables = none ∧
          r.content = "Hello <no value>" := by
  refine ⟨_, _, rfl, rfl, ?_⟩
  have h : Relation.ReflTransGen (BatchStep.Run Mode.serial
      [⟨.sms, "+905530050594", "", .normal, none, none, some ⟨List.replicate 16 3, rfl⟩, none⟩])
      (.start, { World.init with store := { Store.empty with
        templates := [⟨⟨List.replicate 16 3, rfl⟩, "welcome", .sms, "Hello {{.Name}}", 0, 0⟩] } })
      (.start, { World.init with store := { Store.empty with
        templates := [⟨⟨List.replicate 16 3, rfl⟩, "welcome", .sms, "Hello {{.Name}}", 0, 0⟩] } }) := .refl
  have h := BatchStep.Run.snoc h (.begin ⟨List.replicate 16 1, rfl⟩ (by decide))
  have h := BatchStep.Run.snoc h
    (.buildChild ⟨List.replicate 16 2, rfl⟩ (.ok "Hello <no value>") (.template rfl rfl))
  have h := BatchStep.Run.snoc h .built
  have h := BatchStep.Run.snoc h (.persist rfl)
  have h := BatchStep.Run.snoc h (.enqueue rfl rfl)
  have h := BatchStep.Run.snoc h .published
  exact ⟨_, _, _, h, _, List.mem_singleton_self _, rfl, rfl, rfl⟩

end App
