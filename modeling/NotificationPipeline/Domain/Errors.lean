-- SUMMARY: The sentinel errors and Go error values, told apart by errors.Is along the wrap chain.
import Mathlib.Data.List.Basic

/-!
# Errors

The sentinel errors of `internal/domain/errors.go`, and the Go `error` values built from
them. Code here tells errors apart only with `errors.Is`, which compares a sentinel by
identity along the wrap chain, so two sentinels with the same text are still different
errors: `domain.ErrCircuitOpen` and gobreaker's `ErrOpenState` are both
"circuit breaker is open" and `errors.Is` never confuses them. That is why gobreaker's two
sentinels are listed here beside the domain's.
-/

namespace Domain

/-- The sentinel errors (`errors.New`) that code here matches with `errors.Is`. -/
inductive Sentinel
  | invalidChannel | invalidRecipient | emptyRecipient | emptyContent | contentTooLong
  | invalidPriority | invalidStatusTransition | notificationNotFound | batchNotFound
  | batchTooLarge | batchEmpty | duplicateIdempotencyKey | emptyTemplateName
  | emptyTemplateBody | invalidTemplateBody | templateNotFound | duplicateTemplateName
  | templateRenderFailed | providerUnavailable | circuitOpen
  /-- `gobreaker.ErrOpenState`. -/
  | openState
  /-- `gobreaker.ErrTooManyRequests`. -/
  | tooManyRequests
deriving DecidableEq, Repr

/-- The text each sentinel was created with. -/
def Sentinel.text : Sentinel → String
  | .invalidChannel => "invalid channel"
  | .invalidRecipient => "invalid recipient"
  | .emptyRecipient => "recipient is required"
  | .emptyContent => "content is required"
  | .contentTooLong => "content exceeds character limit"
  | .invalidPriority => "invalid priority"
  | .invalidStatusTransition => "invalid status transition"
  | .notificationNotFound => "notification not found"
  | .batchNotFound => "batch not found"
  | .batchTooLarge => "batch exceeds maximum size of 1000"
  | .batchEmpty => "batch must contain at least one notification"
  | .duplicateIdempotencyKey => "duplicate idempotency key"
  | .emptyTemplateName => "template name is required"
  | .emptyTemplateBody => "template body is required"
  | .invalidTemplateBody => "invalid template body syntax"
  | .templateNotFound => "template not found"
  | .duplicateTemplateName => "template name already exists"
  | .templateRenderFailed => "template render failed"
  | .providerUnavailable => "delivery provider unavailable"
  | .circuitOpen => "circuit breaker is open"
  | .openState => "circuit breaker is open"
  | .tooManyRequests => "too many requests"

/-- A Go `error` value as `errors.Is` and `Error()` see it. Every wrap in this code base is a
single `fmt.Errorf("%w: ...")` around a sentinel. -/
inductive GoError
  /-- A sentinel returned as it is. -/
  | sentinel (s : Sentinel)
  /-- `fmt.Errorf("%w: <detail>", s, ...)`. -/
  | wrap (s : Sentinel) (detail : String)
  /-- An error with no sentinel in its chain: a driver, network or I/O error, or a
  `fmt.Errorf` without `%w`. -/
  | other (text : String)
deriving DecidableEq, Repr

/-- `errors.Is(err, s)`. -/
def GoError.is : GoError → Sentinel → Bool
  | .sentinel s', s => s' == s
  | .wrap s' _, s => s' == s
  | .other _, _ => false

/-- `err.Error()`. -/
def GoError.error : GoError → String
  | .sentinel s => s.text
  | .wrap s d => s.text ++ ": " ++ d
  | .other t => t

@[simp] theorem GoError.is_sentinel (s s' : Sentinel) : (GoError.sentinel s').is s = (s' == s) :=
  rfl

@[simp] theorem GoError.is_wrap (s s' : Sentinel) (d : String) :
    (GoError.wrap s' d).is s = (s' == s) := rfl

@[simp] theorem GoError.is_other (s : Sentinel) (t : String) : (GoError.other t).is s = false :=
  rfl

/-- Two sentinels with one text: `errors.Is` still tells them apart. -/
example : Sentinel.openState.text = Sentinel.circuitOpen.text ∧
    (GoError.sentinel .openState).is .circuitOpen = false := by decide

end Domain
