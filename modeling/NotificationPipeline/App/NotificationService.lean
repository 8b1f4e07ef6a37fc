-- SUMMARY: NotificationService's Create, CreateBatch and Cancel as threads of one store or log call per step.
import NotificationPipeline.App.World

/-!
# Intake: `NotificationService`

`Create`, `CreateBatch` and `Cancel` (`unnamed/part_001`), each as a thread that performs one
call on the store or the log per step. A program point carries the local variables that are
live there, so a state of the thread says exactly what the rest of the call will do; that is
what lets invariants speak about calls still in progress.

An input naming a template gets its content from the templates table: `tmplRepo.GetByID`,
then `Render` with the input's variables (`templatedContent`). `Rendered` lists what that step
may give; it is free only where the model does not know the answer: a failing `GetByID`, and a
stored body outside the grammar `Template.parse` models.
-/

namespace App

open Domain Uuid Postgres Queue

/-- `CreateNotificationInput`. -/
structure CreateNotificationInput where
  channel : Channel
  recipient : String
  content : String
  priority : Priority
  scheduledAt : Option Instant
  idempotencyKey : Option String
  templateId : Option UUID
  templateVariables : Option (List (String × String))
deriving DecidableEq, Repr

/-- `NewNotification` on the input with the content to use, then the three fields `Create`
copies from the input. -/
def CreateNotificationInput.build (input : CreateNotificationInput) (content : String) (id : UUID)
    (now : Instant) : Except GoError Notification := do
  let n ← newNotification input.channel input.recipient content input.priority input.scheduledAt
    id now
  pure { n with idempotencyKey := input.idempotencyKey, templateId := input.templateId
                templateVariables := input.templateVariables }

/-- What `build` fixes about the notification: the drawn id, the input's routing fields and
key, no batch, the initial status, no retries yet and a positive cap. -/
theorem CreateNotificationInput.build_ok {input : CreateNotificationInput} {c : String} {id : UUID}
    {now : Instant} {n : Notification} (h : input.build c id now = .ok n) :
    n.id = id ∧ n.priority = input.priority ∧ n.channel = input.channel ∧
      n.scheduledAt = input.scheduledAt ∧ n.idempotencyKey = input.idempotencyKey ∧
      n.batchId = none ∧ n.status = (if input.scheduledAt.isSome then .scheduled else .pending) ∧
      n.retryCount = 0 ∧ 0 < n.maxRetries ∧ validatePriority n.priority = .ok () := by
  simp only [build, bind, Except.bind] at h
  split at h
  · cases h
  · rename_i n₀ h₀
    cases h
    obtain ⟨h1, h2, h3, h4, h5, h6, h7, _, h9, _, _, hp⟩ := newNotification_ok h₀
    exact ⟨h1, h3, h2, h4, rfl, h9, h5, h6, h7, h3 ▸ hp⟩

/-- The content `Create` renders for an input naming the template `id`: `tmplRepo.GetByID`, then
`Render` with the input's variables; `none` where the stored body is outside the grammar the
model parses. -/
def templatedContent (s : Store) (id : UUID) (vars : Option (List (String × String))) :
    Option (Except GoError String) :=
  match TemplateRepo.getByID s id with
  | .ok t => t.render vars
  | .error e => some (.error e)

/-- The content `Create` and `CreateBatch` go on with for `input`: its own without a template;
with one, what `templatedContent` gives, any outcome where it is `none`, and any error where
`GetByID` fails. -/
inductive Rendered (m : Mode) (s : Store) (input : CreateNotificationInput) :
    Except GoError String → Prop
  | plain (h : input.templateId = none) : Rendered m s input (.ok input.content)
  | template {id : UUID} {r : Except GoError String} (h : input.templateId = some id)
      (hr : templatedContent s id input.templateVariables = some r) : Rendered m s input r
  | unparsed {id : UUID} {r : Except GoError String} (h : input.templateId = some id)
      (hr : templatedContent s id input.templateVariables = none) : Rendered m s input r
  | fault {id : UUID} {e : GoError} (h : input.templateId = some id) (hf : m.storeFaults) :
      Rendered m s input (.error e)

/-- Without a template, the content is the input's. -/
theorem Rendered.content_eq {m : Mode} {s : Store} {input : CreateNotificationInput} {c : String}
    (h : Rendered m s input (.ok c)) (hn : input.templateId = none) : c = input.content := by
  cases h with
  | plain => rfl
  | template h | unparsed h => simp [hn] at h

-- ---------------------------------------------------------------------------
-- Create
-- ---------------------------------------------------------------------------

/-- The program points of `Create`. -/
inductive CreatePc
  /-- Entry: the idempotency check comes first. -/
  | start
  /-- `Check` reported the key bound to `existingID`; `GetByID` comes next. -/
  | hit (existingID : String)
  /-- No hit: render, then `NewNotification`. -/
  | fresh
  /-- The notification is built; `repo.Create` comes next. -/
  | built (n : Notification)
  /-- The row is in; `SetNX` comes next. -/
  | inserted (n : Notification)
  /-- `Enqueue` or `EnqueueScheduled` comes next. -/
  | publishing (n : Notification)
  /-- Returned without calling `Enqueue`. -/
  | done (r : Except GoError Notification)
  /-- Returned from `Enqueue`. -/
  | published (r : Except GoError Notification)

/-- Where `Create` goes once the notification is built, or not. -/
def CreatePc.ofBuilt : Except GoError Notification → CreatePc
  | .ok n => .built n
  | .error e => .done (.error e)

/-- The store after `SetNX`, whose result and error `Create` only logs. -/
def storeAfterSetNX (s : Store) (key : String) (id : UUID) (now : Instant) : Store :=
  match IdempotencyRepo.setNX s key id now with
  | .ok (s', _) => s'
  | .error _ => s

/-- One step of `NotificationService.Create`. -/
inductive CreateStep (m : Mode) (input : CreateNotificationInput) :
    CreatePc → World → CreatePc → World → Prop
  | noKey {w : World} (hk : input.idempotencyKey = none) : CreateStep m input .start w .fresh w
  | checkHit {w : World} {k str : String} (hk : input.idempotencyKey = some k)
      (h : IdempotencyRepo.check w.store k w.now = (true, str)) :
      CreateStep m input .start w (.hit str) w
  | checkMiss {w : World} {k : String} (hk : input.idempotencyKey = some k)
      (h : (IdempotencyRepo.check w.store k w.now).1 = false) :
      CreateStep m input .start w .fresh w
  /-- `Check` failed: the error is logged and intake goes on as on a miss. -/
  | checkFault {w : World} {k : String} (hk : input.idempotencyKey = some k)
      (hf : m.storeFaults) : CreateStep m input .start w .fresh w
  /-- On a hit, the row of the parsed id is returned (the zero id when it does not parse). -/
  | hitLoad {w : World} {str : String} :
      CreateStep m input (.hit str) w
        (.done (NotificationRepo.getByID w.store ((Uuid.parse str).getD Uuid.nil))) w
  | hitFault {w : World} {str : String} {e : GoError} (hf : m.storeFaults) :
      CreateStep m input (.hit str) w (.done (.error e)) w
  /-- The content, `NewNotification` with a fresh `id`, and the decorations. -/
  | build {w : World} (id : UUID) (content : Except GoError String)
      (hc : Rendered m w.store input content) :
      CreateStep m input .fresh w (.ofBuilt (content >>= fun c => input.build c id w.now)) w
  | insert {w : World} {n : Notification} {s' : Store}
      (h : NotificationRepo.create w.store n = .ok s') :
      CreateStep m input (.built n) w (.inserted n) { w with store := s' }
  | insertError {w : World} {n : Notification} {e : GoError}
      (h : NotificationRepo.create w.store n = .error e) :
      CreateStep m input (.built n) w (.done (.error e)) w
  | insertFault {w : World} {n : Notification} {e : GoError} (hf : m.storeFaults) :
      CreateStep m input (.built n) w (.done (.error e)) w
  | setNX {w : World} {n : Notification} {k : String} (hk : input.idempotencyKey = some k) :
      CreateStep m input (.inserted n) w (.publishing n)
        { w with store := storeAfterSetNX w.store k n.id w.now }
  | setNXFault {w : World} {n : Notification} {k : String} (hk : input.idempotencyKey = some k)
      (hf : m.storeFaults) : CreateStep m input (.inserted n) w (.publishing n) w
  | noSetNX {w : World} {n : Notification} (hk : input.idempotencyKey = none) :
      CreateStep m input (.inserted n) w (.publishing n) w
  /-- `EnqueueScheduled` returns nil and writes nothing. -/
  | enqueueScheduled {w : World} {n : Notification} (hs : n.scheduledAt.isSome) :
      CreateStep m input (.publishing n) w (.done (.ok n)) w
  | enqueue {w : World} {n : Notification} {msg : Message} (hs : n.scheduledAt = none)
      (h : Producer.message n w.now = .ok msg) :
      CreateStep m input (.publishing n) w (.published (.ok n)) { w with log := w.log ++ [msg] }
  | enqueueError {w : World} {n : Notification} {e : GoError} (hs : n.scheduledAt = none)
      (h : Producer.message n w.now = .error e) :
      CreateStep m input (.publishing n) w (.published (.error e)) w
  | enqueueFault {w : World} {n : Notification} {e : GoError} (hs : n.scheduledAt = none)
      (hf : m.publishFaults) : CreateStep m input (.publishing n) w (.published (.error e)) w

/-- What `Create` knows of its notification once it is built: the initial status its
schedule gives, the input's key, no batch, and a priority `NewNotification` accepted. -/
def CreatePc.Wf (input : CreateNotificationInput) : CreatePc → Prop
  | .built n | .inserted n | .publishing n =>
    n.status = (if n.scheduledAt.isSome then .scheduled else .pending) ∧
      n.idempotencyKey = input.idempotencyKey ∧ n.batchId = none ∧
        validatePriority n.priority = .ok ()
  | _ => True

theorem CreateStep.wf {m : Mode} {input : CreateNotificationInput} {pc pc' : CreatePc}
    {w w' : World} (h : CreateStep m input pc w pc' w') (hpc : pc.Wf input) : pc'.Wf input := by
  cases h with
  | build id content =>
    cases content with
    | error e => exact trivial
    | ok c =>
      show (CreatePc.ofBuilt (input.build c id w.now)).Wf input
      cases hb : input.build c id w.now with
      | error e => exact trivial
      | ok n =>
        obtain ⟨-, -, -, hs, hk, hbatch, hst, -, -, hp⟩ := CreateNotificationInput.build_ok hb
        exact ⟨by rw [hst, hs], hk, hbatch, hp⟩
  | insert | setNX | setNXFault | noSetNX => exact hpc
  | _ => exact trivial

-- ---------------------------------------------------------------------------
-- CreateBatch
-- ---------------------------------------------------------------------------

/-- The program points of `CreateBatch`. -/
inductive BatchPc
  | start
  /-- Building the children in input order; `rest` is still to build. -/
  | building (batch : NotificationBatch) (built : List Notification)
      (rest : List CreateNotificationInput)
  /-- All built; `repo.CreateBatch` comes next. -/
  | persisting (batch : NotificationBatch) (ns : List Notification)
  /-- Committed; publishing `rest`, one child a step. -/
  | publishing (batch : NotificationBatch) (ns : List Notification) (rest : List Notification)
  | done (r : Except GoError (NotificationBatch × List Notification))

/-- The batch row `CreateBatch` builds for `count` children. -/
def newBatch (id : UUID) (count : Nat) (now : Instant) : NotificationBatch :=
  ⟨id, count, count, 0, 0, 0, now⟩

/-- A child as `CreateBatch` builds it: `Create`'s notification, with the batch id. -/
def CreateNotificationInput.buildChild (input : CreateNotificationInput) (content : String)
    (id : UUID) (now : Instant) (batchId : UUID) : Except GoError Notification := do
  let n ← input.build content id now
  pure { n with batchId := some batchId }

/-- Where `CreateBatch` goes once a child is built, or not: the first error returns. -/
def BatchPc.ofChild (b : NotificationBatch) (acc : List Notification)
    (rest : List CreateNotificationInput) : Except GoError Notification → BatchPc
  | .ok n => .building b (acc ++ [n]) rest
  | .error e => .done (.error e)

/-- One step of `NotificationService.CreateBatch`. -/
inductive BatchStep (m : Mode) (inputs : List CreateNotificationInput) :
    BatchPc → World → BatchPc → World → Prop
  | empty {w : World} (h : inputs.length = 0) :
      BatchStep m inputs .start w (.done (.error (.sentinel .batchEmpty))) w
  | tooLarge {w : World} (h : inputs.length > 1000) :
      BatchStep m inputs .start w (.done (.error (.sentinel .batchTooLarge))) w
  | begin {w : World} (id : UUID) (h : 0 < inputs.length ∧ inputs.length ≤ 1000) :
      BatchStep m inputs .start w (.building (newBatch id inputs.length w.now) [] inputs) w
  /-- One child: its content and `NewNotification`. -/
  | buildChild {w : World} {b : NotificationBatch} {acc : List Notification}
      {inp : CreateNotificationInput} {rest : List CreateNotificationInput}
      (id : UUID) (content : Except GoError String) (hc : Rendered m w.store inp content) :
      BatchStep m inputs (.building b acc (inp :: rest)) w
        (.ofChild b acc rest (content >>= fun c => inp.buildChild c id w.now b.id)) w
  | built {w : World} {b : NotificationBatch} {acc : List Notification} :
      BatchStep m inputs (.building b acc []) w (.persisting b acc) w
  | persist {w : World} {b : NotificationBatch} {ns : List Notification} {s' : Store}
      (h : NotificationRepo.createBatch w.store b ns = .ok s') :
      BatchStep m inputs (.persisting b ns) w (.publishing b ns ns) { w with store := s' }
  | persistError {w : World} {b : NotificationBatch} {ns : List Notification} {e : GoError}
      (h : NotificationRepo.createBatch w.store b ns = .error e) :
      BatchStep m inputs (.persisting b ns) w (.done (.error e)) w
  | persistFault {w : World} {b : NotificationBatch} {ns : List Notification} {e : GoError}
      (hf : m.storeFaults) : BatchStep m inputs (.persisting b ns) w (.done (.error e)) w
  | enqueueScheduled {w : World} {b : NotificationBatch} {ns rest : List Notification}
      {n : Notification} (hs : n.scheduledAt.isSome) :
      BatchStep m inputs (.publishing b ns (n :: rest)) w (.publishing b ns rest) w
  /-- `Enqueue`; its error is discarded. -/
  | enqueue {w : World} {b : NotificationBatch} {ns rest : List Notification} {n : Notification}
      {msg : Message} (hs : n.scheduledAt = none) (h : Producer.message n w.now = .ok msg) :
      BatchStep m inputs (.publishing b ns (n :: rest)) w (.publishing b ns rest)
        { w with log := w.log ++ [msg] }
  | enqueueError {w : World} {b : NotificationBatch} {ns rest : List Notification}
      {n : Notification} {e : GoError} (hs : n.scheduledAt = none)
      (h : Producer.message n w.now = .error e) :
      BatchStep m inputs (.publishing b ns (n :: rest)) w (.publishing b ns rest) w
  | enqueueFault {w : World} {b : NotificationBatch} {ns rest : List Notification}
      {n : Notification} (hs : n.scheduledAt = none) (hf : m.publishFaults) :
      BatchStep m inputs (.publishing b ns (n :: rest)) w (.publishing b ns rest) w
  | published {w : World} {b : NotificationBatch} {ns : List Notification} :
      BatchStep m inputs (.publishing b ns []) w (.done (.ok (b, ns))) w

/-- A child is `Create`'s notification with the batch id set. -/
theorem CreateNotificationInput.buildChild_ok {input : CreateNotificationInput} {c : String}
    {id : UUID} {now : Instant} {bid : UUID} {n : Notification}
    (h : input.buildChild c id now bid = .ok n) :
    ∃ n₀, input.build c id now = .ok n₀ ∧ n = { n₀ with batchId := some bid } := by
  simp only [buildChild, bind, Except.bind] at h
  split at h
  · cases h
  · cases h; exact ⟨_, ‹_›, rfl⟩

/-- A child as `CreateBatch` builds it for the batch `b`: the initial status its schedule
gives, `b`'s id, and a priority `NewNotification` accepted. -/
def BatchChild (b : NotificationBatch) (n : Notification) : Prop :=
  n.status = (if n.scheduledAt.isSome then .scheduled else .pending) ∧ n.batchId = some b.id ∧
    validatePriority n.priority = .ok ()

/-- What `CreateBatch` knows of its children: each is a child of its batch, and the batch row
counts as pending every child built or still to build. -/
def BatchPc.Wf : BatchPc → Prop
  | .building b acc rest =>
    b = newBatch b.id (acc.length + rest.length) b.createdAt ∧ ∀ n ∈ acc, BatchChild b n
  | .persisting b ns => b = newBatch b.id ns.length b.createdAt ∧ ∀ n ∈ ns, BatchChild b n
  | .publishing b ns rest =>
    b = newBatch b.id ns.length b.createdAt ∧ (∀ n ∈ ns, BatchChild b n) ∧ rest <:+ ns
  | .start | .done _ => True

theorem BatchStep.wf {m : Mode} {inputs : List CreateNotificationInput} {pc pc' : BatchPc}
    {w w' : World} (h : BatchStep m inputs pc w pc' w') (hpc : pc.Wf) : pc'.Wf := by
  cases h with
  | begin => exact ⟨by simp [newBatch], fun n hn => by cases hn⟩
  | @buildChild _ b acc inp rest id content =>
    obtain ⟨hb, hacc⟩ := hpc
    cases content with
    | error e => exact trivial
    | ok c =>
      show (BatchPc.ofChild b acc rest (inp.buildChild c id w.now b.id)).Wf
      cases hc : inp.buildChild c id w.now b.id with
      | error e => exact trivial
      | ok n =>
        obtain ⟨n₀, h₀, rfl⟩ := CreateNotificationInput.buildChild_ok hc
        obtain ⟨-, -, -, hs, -, -, hst, -, -, hp⟩ := CreateNotificationInput.build_ok h₀
        refine ⟨by rw [hb]; simp [newBatch]; omega, ?_⟩
        simp only [List.mem_append, List.mem_singleton]
        rintro n (hn | rfl)
        · exact hacc n hn
        · exact ⟨by simp [hst, hs], rfl, hp⟩
  | built => simpa using hpc
  | persist => exact ⟨hpc.1, hpc.2, List.suffix_refl _⟩
  | enqueueScheduled | enqueue | enqueueError | enqueueFault =>
    exact ⟨hpc.1, hpc.2.1, (List.suffix_cons _ _).trans hpc.2.2⟩
  | _ => exact trivial

-- ---------------------------------------------------------------------------
-- Cancel
-- ---------------------------------------------------------------------------

/-- The program points of `Cancel`. -/
inductive CancelPc
  | start
  /-- `n.Cancel()` accepted the loaded row (`n` is the cancelled copy); `repo.Cancel` next. -/
  | loaded (n : Notification)
  /-- The row is cancelled; the batch counter comes next. -/
  | cancelled (n : Notification)
  | done (r : Except GoError Unit)

/-- Where `Cancel` goes after `n.Cancel()`. -/
def CancelPc.ofCancel : Except GoError Notification → CancelPc
  | .ok n => .loaded n
  | .error e => .done (.error e)

/-- One step of `NotificationService.Cancel`. -/
inductive CancelStep (m : Mode) (id : UUID) : CancelPc → World → CancelPc → World → Prop
  | load {w : World} {n : Notification} (h : NotificationRepo.getByID w.store id = .ok n) :
      CancelStep m id .start w (.ofCancel (n.cancel w.now)) w
  | loadError {w : World} {e : GoError} (h : NotificationRepo.getByID w.store id = .error e) :
      CancelStep m id .start w (.done (.error e)) w
  | loadFault {w : World} {e : GoError} (hf : m.storeFaults) :
      CancelStep m id .start w (.done (.error e)) w
  | cancel {w : World} {n : Notification} {s' : Store}
      (h : NotificationRepo.cancel w.store id w.now = .ok s') :
      CancelStep m id (.loaded n) w (.cancelled n) { w with store := s' }
  | cancelError {w : World} {n : Notification} {e : GoError}
      (h : NotificationRepo.cancel w.store id w.now = .error e) :
      CancelStep m id (.loaded n) w (.done (.error e)) w
  | cancelFault {w : World} {n : Notification} {e : GoError} (hf : m.storeFaults) :
      CancelStep m id (.loaded n) w (.done (.error e)) w
  /-- `IncrementBatchCounter`; its error is discarded. -/
  | bump {w : World} {n : Notification} {b : UUID} (hb : n.batchId = some b) :
      CancelStep m id (.cancelled n) w (.done (.ok ()))
        { w with store := NotificationRepo.incrementBatchCounter w.store b .cancelled }
  | bumpFault {w : World} {n : Notification} {b : UUID} (hb : n.batchId = some b)
      (hf : m.storeFaults) : CancelStep m id (.cancelled n) w (.done (.ok ())) w
  | noBatch {w : World} {n : Notification} (hb : n.batchId = none) :
      CancelStep m id (.cancelled n) w (.done (.ok ())) w

end App
