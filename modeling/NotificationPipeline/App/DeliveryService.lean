-- SUMMARY: One consumed message as a thread: ProcessDelivery as the handler, the retry write, and the commit.
import NotificationPipeline.App.World

/-!
# The worker: `Consumer.consume` and `DeliveryService.ProcessDelivery`

One consumed message as a thread: the consumer has fetched the message at some offset and
decoded it, runs `ProcessDelivery` as its handler, then writes the in-log retry copy when the
handler returned an error, and commits the offset. Each step is one call: a repository call,
the provider call, the broadcast, the retry write, or the commit.

The provider is the `DeliveryProvider` capability: a step may receive any response or any
error from it (`Provider.Webhook` models the HTTP implementation). The rate limiter only
delays a message, so it is not a step.
-/

namespace App

open Domain Uuid Postgres Queue

/-- `isTransient`: the two sentinels the coordinator retries on. -/
def isTransient (e : GoError) : Bool := e.is .providerUnavailable || e.is .circuitOpen

/-- The program points of one consumed message. -/
inductive ConsumePc
  /-- Fetched and decoded; the handler starts with `uuid.Parse` and `GetByID`. -/
  | fetched
  /-- `GetByID` returned a row that is neither cancelled nor delivered. -/
  | read (n : Notification)
  /-- The row is marked processing; `Send` comes next. -/
  | marked (n : Notification)
  /-- A transient error with retries left; the row (retry counted) is persisted next. -/
  | retrying (n : Notification) (e : GoError)
  /-- Marked failed; persisted next. -/
  | failing (n : Notification)
  /-- Marked delivered; persisted next. -/
  | delivering (n : Notification)
  /-- The final status is written; the batch counter comes next. -/
  | counting (n : Notification)
  /-- The status broadcast comes next. -/
  | broadcasting (n : Notification)
  /-- The handler returned; on an error the retry copy is written next, then the commit. -/
  | handled (r : Option GoError)
  /-- The retry copy is written (or its write failed); the commit comes next. -/
  | retried
  | done

/-- Where `ProcessDelivery` goes after `Send`: the error branch counts the retry and either
returns the error for an in-log retry or marks the row failed; success marks it delivered. -/
def afterSend (n : Notification) (now : Instant) : Except GoError ProviderResponse → ConsumePc
  | .error e =>
    let n' := n.incrementRetry now
    if isTransient e && n'.hasRetriesLeft then .retrying n' e
    else .failing (n'.markFailed e.error now)
  | .ok resp => .delivering (n.markDelivered resp.messageId now)

/-- Where `ProcessDelivery` goes after `GetByID` returned `n`: cancelled and delivered rows
are skipped. -/
def afterLoad (n : Notification) : ConsumePc :=
  if n.status = .cancelled ∨ n.status = .delivered then .handled none else .read n

/-- A load that did not skip goes on with the row it loaded. -/
theorem eq_of_afterLoad_eq_read {n n' : Notification} (h : afterLoad n = .read n') : n' = n := by
  unfold afterLoad at h
  split at h <;> cases h
  rfl

/-- `Send` never leads back to a read. -/
theorem afterSend_ne_read (n : Notification) (now : Instant) (r : Except GoError ProviderResponse)
    (n' : Notification) : afterSend n now r ≠ .read n' := by
  cases r with
  | error e =>
    show (if _ then _ else _ : ConsumePc) ≠ _
    split <;> exact fun h => by cases h
  | ok => exact fun h => by cases h

/-- One step of the consumer on the message `msg` at offset `off`. -/
inductive ConsumeStep (m : Mode) (msg : Message) (off : Nat) :
    ConsumePc → World → ConsumePc → World → Prop
  /-- The payload's id does not parse: the handler returns the parse error. -/
  | parseError {w : World} (h : Uuid.parse msg.value.notificationId = none) (e : GoError) :
      ConsumeStep m msg off .fetched w (.handled (some e)) w
  | load {w : World} {id : UUID} {n : Notification}
      (hid : Uuid.parse msg.value.notificationId = some id)
      (h : NotificationRepo.getByID w.store id = .ok n) :
      ConsumeStep m msg off .fetched w (afterLoad n) w
  | loadError {w : World} {id : UUID} {e : GoError}
      (hid : Uuid.parse msg.value.notificationId = some id)
      (h : NotificationRepo.getByID w.store id = .error e) :
      ConsumeStep m msg off .fetched w (.handled (some e)) w
  | loadFault {w : World} {id : UUID} {e : GoError}
      (hid : Uuid.parse msg.value.notificationId = some id) (hf : m.storeFaults) :
      ConsumeStep m msg off .fetched w (.handled (some e)) w
  /-- `MarkProcessing`, then `UpdateStatus`, whose error the handler returns. -/
  | mark {w : World} {n : Notification} :
      ConsumeStep m msg off (.read n) w (.marked (n.markProcessing w.now))
        { w with store := NotificationRepo.updateStatus w.store (n.markProcessing w.now) }
  | markFault {w : World} {n : Notification} {e : GoError} (hf : m.storeFaults) :
      ConsumeStep m msg off (.read n) w (.handled (some e)) w
  /-- `provider.Send`, with whatever it returns. -/
  | send {w : World} {n : Notification} (r : Except GoError ProviderResponse) :
      ConsumeStep m msg off (.marked n) w (afterSend n w.now r) { w with sends := w.sends ++ [n.id] }
  /-- `UpdateStatus` of the retry count; its error is only logged. -/
  | persistRetry {w : World} {n : Notification} {e : GoError} :
      ConsumeStep m msg off (.retrying n e) w (.handled (some e))
        { w with store := NotificationRepo.updateStatus w.store n }
  | persistRetryFault {w : World} {n : Notification} {e : GoError} (hf : m.storeFaults) :
      ConsumeStep m msg off (.retrying n e) w (.handled (some e)) w
  | persistFailed {w : World} {n : Notification} :
      ConsumeStep m msg off (.failing n) w (.counting n)
        { w with store := NotificationRepo.updateStatus w.store n }
  | persistFailedFault {w : World} {n : Notification} (hf : m.storeFaults) :
      ConsumeStep m msg off (.failing n) w (.counting n) w
  | persistDelivered {w : World} {n : Notification} :
      ConsumeStep m msg off (.delivering n) w (.counting n)
        { w with store := NotificationRepo.updateStatus w.store n }
  | persistDeliveredFault {w : World} {n : Notification} (hf : m.storeFaults) :
      ConsumeStep m msg off (.delivering n) w (.counting n) w
  /-- `IncrementBatchCounter` with the row's final status; its error is discarded. -/
  | bump {w : World} {n : Notification} {b : UUID} (hb : n.batchId = some b) :
      ConsumeStep m msg off (.counting n) w (.broadcasting n)
        { w with store := NotificationRepo.incrementBatchCounter w.store b n.status }
  | bumpFault {w : World} {n : Notification} {b : UUID} (hb : n.batchId = some b)
      (hf : m.storeFaults) : ConsumeStep m msg off (.counting n) w (.broadcasting n) w
  | noBatch {w : World} {n : Notification} (hb : n.batchId = none) :
      ConsumeStep m msg off (.counting n) w (.broadcasting n) w
  | broadcast {w : World} {n : Notification} :
      ConsumeStep m msg off (.broadcasting n) w (.handled none)
        { w with broadcasts := w.broadcasts ++ [(n.id, n.status)] }
  /-- `Consumer.retry` after a handler error; a failed write is only logged. -/
  | retry {w : World} {e : GoError} :
      ConsumeStep m msg off (.handled (some e)) w .retried
        { w with log := w.log ++ [Consumer.retryMessage msg w.now] }
  | retryFault {w : World} {e : GoError} (hf : m.publishFaults) :
      ConsumeStep m msg off (.handled (some e)) w .retried w
  | commitRetried {w : World} :
      ConsumeStep m msg off .retried w .done { w with committed := off :: w.committed }
  | commit {w : World} :
      ConsumeStep m msg off (.handled none) w .done { w with committed := off :: w.committed }

/-- What a program point of the worker says about the status of its copy of the row. -/
def ConsumePc.Wf : ConsumePc → Prop
  | .marked n | .retrying n _ => n.status = .processing
  | .failing n => n.status = .failed
  | .delivering n => n.status = .delivered
  | .counting n | .broadcasting n => n.status = .failed ∨ n.status = .delivered
  | .fetched | .read _ | .handled _ | .retried | .done => True

theorem ConsumePc.wf_afterSend {n : Notification} (h : n.status = .processing) (now : Instant)
    (r : Except GoError ProviderResponse) : (afterSend n now r).Wf := by
  cases r with
  | error e =>
    show (if _ then _ else _ : ConsumePc).Wf
    split
    · exact h
    · rfl
  | ok => rfl

theorem ConsumePc.wf_afterLoad (n : Notification) : (afterLoad n).Wf := by
  unfold afterLoad; split <;> trivial

theorem ConsumeStep.wf {m : Mode} {msg : Message} {off : Nat} {pc pc' : ConsumePc} {w w' : World}
    (h : ConsumeStep m msg off pc w pc' w') (hpc : pc.Wf) : pc'.Wf := by
  cases h with
  | load => exact ConsumePc.wf_afterLoad _
  | mark => rfl
  | send r => exact ConsumePc.wf_afterSend hpc _ r
  | persistFailed | persistFailedFault => exact .inl hpc
  | persistDelivered | persistDeliveredFault => exact .inr hpc
  | bump | bumpFault | noBatch => exact hpc
  | _ => trivial

end App
