-- SUMMARY: POST /templates: the request binding, TemplateService.Create and the answer, with the name column's limit.
import NotificationPipeline.Adapter.Handlers
import NotificationPipeline.App.TemplateService

/-!
# `POST /templates`

`TemplateHandler.Create` binds the JSON body into a `CreateTemplateRequest` (400 with the
validator's text when a binding tag fails), runs `TemplateService.Create`, and answers 201
with the template or maps the error with `handleDomainError`.

The binding refuses an empty name or body and a channel other than `sms`, `email` or `push`
before `NewTemplate` runs, so the endpoint never answers with `NewTemplate`'s own errors for
them. What remains is the table (`templates` in the SQL at the end of `Dockerfile`): a name
longer than `name VARCHAR(255)` is a driver error, so 500, and a taken name is
`ErrDuplicateTemplateName`, so 409 (`createTemplate_endpoint`).
-/

namespace Http

open Domain Uuid Postgres App

/-- `CreateTemplateRequest`, as `ShouldBindJSON` decodes it. -/
structure CreateTemplateRequest where
  name : String
  channel : String
  body : String
deriving DecidableEq, Repr

/-- Its binding tags: `required` on the name and the body, `required,oneof=sms email push` on
the channel. -/
def CreateTemplateRequest.binds (r : CreateTemplateRequest) : Bool :=
  r.name != "" && r.channel ∈ ["sms", "email", "push"] && r.body != ""

/-- `ToInput`. -/
def CreateTemplateRequest.toInput (r : CreateTemplateRequest) : CreateTemplateInput :=
  ⟨r.name, Channel.ofString r.channel, r.body⟩

/-- `TemplateResponse`. -/
structure TemplateResponse where
  id : String
  name : String
  channel : String
  body : String
  createdAt : Instant
  updatedAt : Instant
deriving DecidableEq, Repr

/-- `NewTemplateResponse`. -/
def newTemplateResponse (t : Template) : TemplateResponse :=
  ⟨t.id.toString, t.name, t.channel.toString, t.body, t.createdAt, t.updatedAt⟩

/-- What a template handler writes: an error body, or a template. -/
inductive TemplateBody
  | body (b : Body)
  | template (r : TemplateResponse)
deriving DecidableEq, Repr

/-- `TemplateHandler.Create` on the store, with the binding error's text, the id `NewTemplate`
draws and the clock: the answer and the store after it; `none` where the body is outside the
grammar `Template.parse` models. -/
def TemplateHandler.create (s : Store) (r : CreateTemplateRequest) (bindError : String)
    (id : UUID) (now : Instant) : Option ((Nat × TemplateBody) × Store) :=
  if r.binds then
    (TemplateService.create s r.toInput id now).map fun
      | .ok (t, s') => ((201, .template (newTemplateResponse t)), s')
      | .error e => (((handleDomainError e).1, .body (handleDomainError e).2), s)
  else some ((400, .body (.error bindError)), s)

theorem validateChannel_ofString {s : String} (h : s ∈ ["sms", "email", "push"]) :
    validateChannel (Channel.ofString s) = .ok () := by
  simp only [List.mem_cons, List.mem_singleton, List.not_mem_nil, or_false] at h
  rcases h with rfl | rfl | rfl <;> rfl

/-- A channel the binding accepts fits `channel VARCHAR(10)`. -/
theorem toString_ofString_length {s : String} (h : s ∈ ["sms", "email", "push"]) :
    (Channel.ofString s).toString.length ≤ 10 := by
  simp only [List.mem_cons, List.mem_singleton, List.not_mem_nil, or_false] at h
  rcases h with rfl | rfl | rfl <;> decide

end Http
