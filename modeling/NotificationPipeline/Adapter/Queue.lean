-- SUMMARY: The log: priority topics, the message the producer writes for a notification, and the consumer's retry copy.
import NotificationPipeline.Domain.Notification

/-!
# The log

`internal/adapter/queue`: the three priority topics, the message the producer writes for a
notification, and the copy the consumer writes back on an in-log retry. A message's value is
the JSON of a `NotificationPayload`; `json.Unmarshal` reads back the payload it was marshalled
from, so the value is kept as the payload itself. The trace carrier only feeds tracing and is
left out.

The log holds pointers only: a message *names* the notification whose id its payload parses
to, which is the row `ProcessDelivery` will load for it (`Message.Names`).
-/

namespace Queue

open Domain Uuid

/-- `NotificationPayload`, without its trace carrier. -/
structure NotificationPayload where
  notificationId : String
  channel : String
deriving DecidableEq, Repr

/-- A `kafka.Message` as the pipeline writes it: topic, key, value, and the timestamp the
writer stamps on it. -/
structure Message where
  topic : String
  key : String
  value : NotificationPayload
  time : Instant
deriving DecidableEq, Repr

/-- `topicForPriority`; a missing key is `none`. -/
def topicForPriority : Priority → Option String
  | .high => some "notifications.high"
  | .normal => some "notifications.normal"
  | .low => some "notifications.low"
  | .other _ => none

/-- `priorityTopics`, the topics `Consumer.Start` subscribes to. -/
def priorityTopics : List String :=
  ["notifications.high", "notifications.normal", "notifications.low"]

/-- `Producer.Enqueue` up to `WriteMessages`: the message it writes for `n` at `now`, keyed by
the id's string, or the error for a priority without a topic. -/
def Producer.message (n : Notification) (now : Instant) : Except GoError Message :=
  match topicForPriority n.priority with
  | none => .error (.other ("unknown priority: " ++ n.priority.toString))
  | some topic =>
    .ok { topic, key := n.id.toString, value := ⟨n.id.toString, n.channel.toString⟩, time := now }

/-- `Consumer.retry`: the original topic, key and value in a new message. -/
def Consumer.retryMessage (original : Message) (now : Instant) : Message :=
  { original with time := now }

/-- A message names the notification whose id its payload parses to. -/
def Message.Names (m : Message) (id : UUID) : Prop := Uuid.parse m.value.notificationId = some id

instance (m : Message) (id : UUID) : Decidable (m.Names id) :=
  inferInstanceAs (Decidable (_ = _))

theorem Message.Names.unique {m : Message} {id id' : UUID} (h : m.Names id) (h' : m.Names id') :
    id = id' :=
  Option.some.inj (h.symm.trans h')

/-- The producer's message names its notification, lies in the topic of its priority, is
keyed by its id and carries its channel. -/
theorem Producer.message_ok {n : Notification} {now : Instant} {m : Message}
    (h : Producer.message n now = .ok m) :
    m.Names n.id ∧ some m.topic = topicForPriority n.priority ∧ m.key = n.id.toString ∧
      m.value.channel = n.channel.toString ∧ m.time = now := by
  unfold Producer.message at h
  split at h
  · cases h
  · rename_i topic ht
    cases h
    exact ⟨parse_toString n.id, ht.symm, rfl, rfl, rfl⟩

/-- The producer has a message for every priority `NewNotification` accepts. -/
theorem Producer.message_of_validatePriority {n : Notification} (now : Instant)
    (h : validatePriority n.priority = .ok ()) : ∃ msg, Producer.message n now = .ok msg := by
  unfold Producer.message
  cases hp : n.priority <;> simp_all [validatePriority, topicForPriority]

@[simp] theorem Consumer.retryMessage_names {m : Message} {now : Instant} {id : UUID} :
    (Consumer.retryMessage m now).Names id ↔ m.Names id := Iff.rfl

end Queue
