-- SUMMARY: The pipeline as one transition system: configurations of the world and started operations, and its steps.
import NotificationPipeline.App.NotificationService
import NotificationPipeline.App.DeliveryService
import NotificationPipeline.App.Scheduler
import NotificationPipeline.App.TemplateService
import Mathlib.Logic.Relation

/-!
# The system

The pipeline as one transition system. A configuration is the shared world and the list of
operations started so far, each at its program point; an operation that has returned stays in
the list with its result, and one that stops taking steps is a crashed process. A step starts
an operation, runs one step of a started one, commits a `TemplateService.Create` (one insert,
so one step), or lets time pass. A refused or failed template call changes nothing and is no
step.

Intake requests, scheduler sweeps and consumed messages start at any time, in any number. A
consumer may fetch any message of the log, committed or not: that is redelivery after a
crash, a duplicate write, and a forced replay alike. In an atomic mode an operation starts
only when every started one has returned.
-/

namespace Pipeline

open Domain Uuid Postgres Queue App

/-- A started operation at its program point. -/
inductive Op
  | create (input : CreateNotificationInput) (pc : CreatePc)
  | createBatch (inputs : List CreateNotificationInput) (pc : BatchPc)
  | cancel (id : UUID) (pc : CancelPc)
  /-- The consumer handling the message at offset `offset`. -/
  | consume (offset : Nat) (pc : ConsumePc)
  | sweep (kind : Sweep) (pc : SweepPc)

/-- Whether an operation has returned. -/
def Op.finished : Op → Bool
  | .create _ (.done _) | .create _ (.published _) => true
  | .createBatch _ (.done _) => true
  | .cancel _ (.done _) => true
  | .consume _ .done => true
  | .sweep _ .done => true
  | _ => false

/-- One step of a started operation. -/
inductive OpStep (m : Mode) : Op → World → Op → World → Prop
  | create {input : CreateNotificationInput} {pc pc' : CreatePc} {w w' : World}
      (h : CreateStep m input pc w pc' w') : OpStep m (.create input pc) w (.create input pc') w'
  | createBatch {inputs : List CreateNotificationInput} {pc pc' : BatchPc} {w w' : World}
      (h : BatchStep m inputs pc w pc' w') :
      OpStep m (.createBatch inputs pc) w (.createBatch inputs pc') w'
  | cancel {id : UUID} {pc pc' : CancelPc} {w w' : World} (h : CancelStep m id pc w pc' w') :
      OpStep m (.cancel id pc) w (.cancel id pc') w'
  | consume {off : Nat} {msg : Message} {pc pc' : ConsumePc} {w w' : World}
      (hmsg : w.log[off]? = some msg) (h : ConsumeStep m msg off pc w pc' w') :
      OpStep m (.consume off pc) w (.consume off pc') w'
  | sweep {k : Sweep} {pc pc' : SweepPc} {w w' : World} (h : SweepStep m k pc w pc' w') :
      OpStep m (.sweep k pc) w (.sweep k pc') w'

/-- How an operation starts. -/
inductive Op.Start (w : World) : Op → Prop
  | create (input : CreateNotificationInput) : Op.Start w (.create input .start)
  | createBatch (inputs : List CreateNotificationInput) : Op.Start w (.createBatch inputs .start)
  | cancel (id : UUID) : Op.Start w (.cancel id .start)
  | consume {off : Nat} (h : off < w.log.length) : Op.Start w (.consume off .fetched)
  | sweep (k : Sweep) : Op.Start w (.sweep k .start)

/-- A configuration: the world and the operations started so far. -/
structure Config where
  world : World
  ops : List Op

/-- Nothing started yet. -/
def Config.init : Config := ⟨World.init, []⟩

/-- One step of the system. -/
inductive Step (m : Mode) : Config → Config → Prop
  | start {c : Config} {op : Op} (h : op.Start c.world)
      (hatomic : m.atomic → ∀ o ∈ c.ops, o.finished) :
      Step m c ⟨c.world, c.ops ++ [op]⟩
  | run {c : Config} {i : Nat} {op' : Op} {w' : World} (hi : i < c.ops.length)
      (h : OpStep m c.ops[i] c.world op' w') : Step m c ⟨w', c.ops.set i op'⟩
  | template {c : Config} {input : CreateTemplateInput} {id : UUID} {t : Template} {s' : Store}
      (h : TemplateService.Commits c.world.store input id c.world.now t s')
      (hatomic : m.atomic → ∀ o ∈ c.ops, o.finished) :
      Step m c ⟨{ c.world with store := s' }, c.ops⟩
  | tick {c : Config} (d : Nat) : Step m c ⟨{ c.world with now := c.world.now + d }, c.ops⟩

/-- The configurations a run reaches. -/
inductive Reachable (m : Mode) : Config → Prop
  | init : Reachable m Config.init
  | step {c c' : Config} : Reachable m c → Step m c c' → Reachable m c'

namespace Reachable

variable {m : Mode} {c : Config}

/-- Running a started operation one step. -/
theorem run (hc : Reachable m c) {i : Nat} {op' : Op} {w' : World} (hi : i < c.ops.length)
    (h : OpStep m c.ops[i] c.world op' w') : Reachable m ⟨w', c.ops.set i op'⟩ :=
  .step hc (.run hi h)

/-- Starting an operation. -/
theorem start (hc : Reachable m c) {op : Op} (h : op.Start c.world)
    (hatomic : m.atomic → ∀ o ∈ c.ops, o.finished) : Reachable m ⟨c.world, c.ops ++ [op]⟩ :=
  .step hc (.start h hatomic)

/-- What a run reaches from a reachable configuration is reachable. -/
theorem trans (hc : Reachable m c) {c' : Config} (h : Relation.ReflTransGen (Step m) c c') :
    Reachable m c' := by
  induction h with
  | refl => exact hc
  | tail _ hs ih => exact ih.step hs

end Reachable

end Pipeline
