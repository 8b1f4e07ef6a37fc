-- SUMMARY: Channels, priorities, statuses, the notification and batch records, NewNotification and the mutators.
import NotificationPipeline.Domain.Uuid
import NotificationPipeline.Domain.Errors

/-!
# Notifications

`internal/domain/notification.go`: channels, priorities and statuses, the notification and
batch records, the validation `NewNotification` performs, and the in-memory mutators the
worker applies before it persists a row.

`Channel`, `Priority` and `Status` are Go string types, so a value outside the constants is
possible (a request may carry `"fax"`, a list filter any status). Each is modelled as the
constants plus `other s`; `ofString` builds `other s` only for a string that is none of the
constants, so Go's string equality is Lean's equality on these values.
-/

namespace Domain

open Uuid

/-- Instants, in microseconds: the precision the store keeps. -/
abbrev Instant := Nat

-- ---------------------------------------------------------------------------
-- Channels, priorities, statuses
-- ---------------------------------------------------------------------------

/-- `domain.Channel`. -/
inductive Channel
  | sms | email | push
  | other (s : String)
deriving DecidableEq, Repr

/-- `domain.Priority`. -/
inductive Priority
  | high | normal | low
  | other (s : String)
deriving DecidableEq, Repr

/-- `domain.Status`. -/
inductive Status
  | pending | scheduled | processing | delivered | failed | cancelled
  | other (s : String)
deriving DecidableEq, Repr

def Channel.toString : Channel → String
  | .sms => "sms" | .email => "email" | .push => "push" | .other s => s

def Channel.ofString (s : String) : Channel :=
  if s = "sms" then .sms else if s = "email" then .email else if s = "push" then .push
  else .other s

def Priority.toString : Priority → String
  | .high => "high" | .normal => "normal" | .low => "low" | .other s => s

def Priority.ofString (s : String) : Priority :=
  if s = "high" then .high else if s = "normal" then .normal else if s = "low" then .low
  else .other s

def Status.toString : Status → String
  | .pending => "pending" | .scheduled => "scheduled" | .processing => "processing"
  | .delivered => "delivered" | .failed => "failed" | .cancelled => "cancelled"
  | .other s => s

def Status.ofString (s : String) : Status :=
  if s = "pending" then .pending else if s = "scheduled" then .scheduled
  else if s = "processing" then .processing else if s = "delivered" then .delivered
  else if s = "failed" then .failed else if s = "cancelled" then .cancelled
  else .other s

/-- The terminal statuses of the state machine. -/
def Status.isTerminal : Status → Bool
  | .delivered | .failed | .cancelled => true
  | _ => false

/-- `channelContentLimits`, in bytes. -/
def channelContentLimits : Channel → Option Nat
  | .sms => some 160
  | .email => some 10000
  | .push => some 4096
  | .other _ => none

/-- `priorityMaxRetries`; Go's map lookup yields `0` for a missing key. -/
def priorityMaxRetries : Priority → Int
  | .high => 5
  | .normal => 3
  | .low => 2
  | .other _ => 0

-- ---------------------------------------------------------------------------
-- Records
-- ---------------------------------------------------------------------------

/-- `domain.Notification`. Go's `int` fields are `Int`; `TemplateVariables` is a
`map[string]string` that may be nil. -/
structure Notification where
  id : UUID
  batchId : Option UUID
  idempotencyKey : Option String
  channel : Channel
  recipient : String
  content : String
  priority : Priority
  status : Status
  scheduledAt : Option Instant
  sentAt : Option Instant
  failedAt : Option Instant
  errorMessage : Option String
  retryCount : Int
  maxRetries : Int
  providerMessageId : Option String
  templateId : Option UUID
  templateVariables : Option (List (String × String))
  createdAt : Instant
  updatedAt : Instant
deriving DecidableEq, Repr

/-- `domain.NotificationBatch`. -/
structure NotificationBatch where
  id : UUID
  totalCount : Int
  pendingCount : Int
  deliveredCount : Int
  failedCount : Int
  cancelledCount : Int
  createdAt : Instant
deriving DecidableEq, Repr

-- ---------------------------------------------------------------------------
-- Validation
-- ---------------------------------------------------------------------------

def validateChannel : Channel → Except GoError Unit
  | .sms | .email | .push => .ok ()
  | .other s => .error (.wrap .invalidChannel s)

/-- `e164Regex`, `^\+[1-9]\d{6,14}$`. -/
def isE164 (s : String) : Bool :=
  match s.toList with
  | '+' :: d :: rest =>
    d.isDigit && d != '0' && rest.all Char.isDigit && 6 ≤ rest.length && rest.length ≤ 14
  | _ => false

/-- The class `[a-zA-Z0-9._%+\-]` of an address's local part. -/
def isLocalChar (c : Char) : Bool :=
  c.isAlphanum || c == '.' || c == '_' || c == '%' || c == '+' || c == '-'

/-- The class `[a-zA-Z0-9.\-]` of an address's domain. -/
def isDomainChar (c : Char) : Bool := c.isAlphanum || c == '.' || c == '-'

/-- `[a-zA-Z0-9.\-]+\.[a-zA-Z]{2,}$` on the text after the `@`. The letters at the end hold
no dot, so they are what follows the last dot; the list is read reversed. -/
def isEmailDomain (d : List Char) : Bool :=
  let tld := d.reverse.takeWhile (· != '.')
  let host := (d.reverse.dropWhile (· != '.')).drop 1
  !host.isEmpty && host.all isDomainChar && tld.all Char.isAlpha && 2 ≤ tld.length

/-- `emailRegex`. Neither class holds `@`, so a match has exactly one. -/
def isEmail (s : String) : Bool :=
  match s.toList.splitOn '@' with
  | [loc, dom] => !loc.isEmpty && loc.all isLocalChar && isEmailDomain dom
  | _ => false

def validateRecipient (ch : Channel) (recipient : String) : Except GoError Unit :=
  if recipient = "" then .error (.sentinel .emptyRecipient)
  else match ch with
    | .sms => if isE164 recipient then .ok ()
        else .error (.wrap .invalidRecipient "must be E.164 format")
    | .email => if isEmail recipient then .ok ()
        else .error (.wrap .invalidRecipient "must be valid email")
    | .push => if recipient.length < 1 then .error (.wrap .invalidRecipient "device token required")
        else .ok ()
    | .other _ => .ok ()

/-- `validateContent`: Go's `len` counts bytes. -/
def validateContent (ch : Channel) (content : String) : Except GoError Unit :=
  if content = "" then .error (.sentinel .emptyContent)
  else match channelContentLimits ch with
    | none => .error (.wrap .invalidChannel ch.toString)
    | some limit =>
      if content.utf8ByteSize > limit then
        .error (.wrap .contentTooLong ("max " ++ toString limit ++ " characters for " ++ ch.toString))
      else .ok ()

def validatePriority : Priority → Except GoError Unit
  | .high | .normal | .low => .ok ()
  | .other s => .error (.wrap .invalidPriority s)

/-- `NewNotification`. `id` is the `uuid.NewV7()` it draws and `now` the clock it reads. -/
def newNotification (channel : Channel) (recipient content : String) (priority : Priority)
    (scheduledAt : Option Instant) (id : UUID) (now : Instant) : Except GoError Notification := do
  validateChannel channel
  validateRecipient channel recipient
  validateContent channel content
  validatePriority priority
  pure
    { id, batchId := none, idempotencyKey := none, channel, recipient, content, priority
      status := if scheduledAt.isSome then .scheduled else .pending
      scheduledAt, sentAt := none, failedAt := none, errorMessage := none, retryCount := 0
      maxRetries := priorityMaxRetries priority, providerMessageId := none, templateId := none
      templateVariables := none, createdAt := now, updatedAt := now }

-- ---------------------------------------------------------------------------
-- Mutators
-- ---------------------------------------------------------------------------

namespace Notification

def canCancel (n : Notification) : Bool := n.status == .pending || n.status == .scheduled

def cancel (n : Notification) (now : Instant) : Except GoError Notification :=
  if n.canCancel then .ok { n with status := .cancelled, updatedAt := now }
  else .error (.wrap .invalidStatusTransition ("current status is " ++ n.status.toString))

def markProcessing (n : Notification) (now : Instant) : Notification :=
  { n with status := .processing, updatedAt := now }

def markDelivered (n : Notification) (providerMessageId : String) (now : Instant) : Notification :=
  { n with status := .delivered, providerMessageId := some providerMessageId, sentAt := some now
           updatedAt := now }

def markFailed (n : Notification) (errMsg : String) (now : Instant) : Notification :=
  { n with status := .failed, errorMessage := some errMsg, failedAt := some now, updatedAt := now }

def incrementRetry (n : Notification) (now : Instant) : Notification :=
  { n with retryCount := n.retryCount + 1, updatedAt := now }

def hasRetriesLeft (n : Notification) : Bool := n.retryCount < n.maxRetries

variable (n : Notification) (now : Instant)

@[simp] theorem status_markProcessing : (n.markProcessing now).status = .processing := rfl
@[simp] theorem status_markDelivered (id : String) : (n.markDelivered id now).status = .delivered :=
  rfl
@[simp] theorem status_markFailed (e : String) : (n.markFailed e now).status = .failed := rfl
@[simp] theorem status_incrementRetry : (n.incrementRetry now).status = n.status := rfl

end Notification

/-- A notification built by `NewNotification` starts with no retries, the cap of its
priority (a positive one, as the priority was validated), and `scheduled` exactly when it
has a `scheduled_at`. -/
theorem newNotification_ok {channel : Channel} {recipient content : String} {priority : Priority}
    {scheduledAt : Option Instant} {id : UUID} {now : Instant} {n : Notification}
    (h : newNotification channel recipient content priority scheduledAt id now = .ok n) :
    n.id = id ∧ n.channel = channel ∧ n.priority = priority ∧ n.scheduledAt = scheduledAt ∧
      n.status = (if scheduledAt.isSome then .scheduled else .pending) ∧ n.retryCount = 0 ∧
      0 < n.maxRetries ∧ n.maxRetries = priorityMaxRetries priority ∧ n.batchId = none ∧
      n.createdAt = now ∧ n.updatedAt = now ∧ validatePriority priority = .ok () := by
  unfold newNotification at h
  cases hc : validateChannel channel <;> simp only [hc, bind, Except.bind] at h
  · cases h
  cases hr : validateRecipient channel recipient <;> simp only [hr] at h
  · cases h
  cases hct : validateContent channel content <;> simp only [hct] at h
  · cases h
  cases hp : validatePriority priority <;> simp only [hp] at h
  · cases h
  cases h
  refine ⟨rfl, rfl, rfl, rfl, rfl, rfl, ?_, rfl, rfl, rfl, rfl, rfl⟩
  cases priority <;> simp_all [validatePriority, priorityMaxRetries]

/-- `NewNotification` leaves the delivery columns at their zero values: not sent, not failed,
no error, no retries, no provider id. -/
theorem newNotification_fresh {channel : Channel} {recipient content : String}
    {priority : Priority} {scheduledAt : Option Instant} {id : UUID} {now : Instant}
    {n : Notification} (h : newNotification channel recipient content priority scheduledAt id now = .ok n) :
    n.sentAt = none ∧ n.failedAt = none ∧ n.errorMessage = none ∧ n.retryCount = 0 ∧
      n.providerMessageId = none := by
  revert h
  unfold newNotification
  cases validateChannel channel <;> cases validateRecipient channel recipient <;>
    cases validateContent channel content <;> cases validatePriority priority <;> rintro ⟨⟩
  exact ⟨rfl, rfl, rfl, rfl, rfl⟩

/-- What `NewNotification` checks, on columns no `UPDATE` writes: a channel it knows, a recipient
and a content that channel accepts, a priority it knows, and that priority's retry cap. -/
def Notification.Valid (n : Notification) : Prop :=
  validateChannel n.channel = .ok () ∧ validateRecipient n.channel n.recipient = .ok () ∧
    validateContent n.channel n.content = .ok () ∧ validatePriority n.priority = .ok () ∧
    n.maxRetries = priorityMaxRetries n.priority

theorem newNotification_valid {channel : Channel} {recipient content : String}
    {priority : Priority} {scheduledAt : Option Instant} {id : UUID} {now : Instant}
    {n : Notification} (h : newNotification channel recipient content priority scheduledAt id now = .ok n) :
    n.Valid := by
  revert h
  unfold newNotification
  cases hc : validateChannel channel <;> cases hr : validateRecipient channel recipient <;>
    cases hct : validateContent channel content <;> cases hp : validatePriority priority <;> rintro ⟨⟩
  exact ⟨hc, hr, hct, hp, rfl⟩

/-- `NewNotification` keeps the recipient and the content it was given. -/
theorem newNotification_content {channel : Channel} {recipient content : String}
    {priority : Priority} {scheduledAt : Option Instant} {id : UUID} {now : Instant}
    {n : Notification} (h : newNotification channel recipient content priority scheduledAt id now = .ok n) :
    n.recipient = recipient ∧ n.content = content := by
  revert h
  unfold newNotification
  cases validateChannel channel <;> cases validateRecipient channel recipient <;>
    cases validateContent channel content <;> cases validatePriority priority <;> rintro ⟨⟩
  exact ⟨rfl, rfl⟩

/-- A row that passed the checks names one of the three channels. -/
theorem Notification.Valid.channel_toString {n : Notification} (h : n.Valid) :
    n.channel.toString = "sms" ∨ n.channel.toString = "email" ∨ n.channel.toString = "push" := by
  have hc := h.1
  revert hc
  cases n.channel <;> simp [validateChannel, Channel.toString]

end Domain
