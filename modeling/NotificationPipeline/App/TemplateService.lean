-- SUMMARY: TemplateService.Create, NewTemplate then TemplateRepo.Create, the one writer of the templates table.
import NotificationPipeline.App.World

/-!
# `TemplateService`

`Create` (`internal/app/template_service.go`) runs `NewTemplate` and inserts the template it
returns with `TemplateRepo.Create`; no other code writes the `templates` table.

`NewTemplate` parses the body with `text/template`, which the model knows on the
`{{.Variable}}` grammar (`Domain.Template`). On another body the model does not say whether
Go's parser accepts it: `TemplateService.create` is `none` there, and the system step
(`TemplateService.Commits`) lets such a body in with the template `NewTemplate` builds, which
is what Go stores when its parser accepts.
-/

namespace App

open Domain Uuid Postgres

/-- `CreateTemplateInput`. -/
structure CreateTemplateInput where
  name : String
  channel : Channel
  body : String
deriving DecidableEq, Repr

/-- The template `NewTemplate` builds from the input, with the id it draws and the clock. -/
def CreateTemplateInput.template (input : CreateTemplateInput) (id : UUID) (now : Instant) :
    Template :=
  ⟨id, input.name, input.channel, input.body, now, now⟩

/-- `TemplateService.Create`, with the id `NewTemplate` draws and the clock it reads: the template
and the store after the insert; `none` where the body is outside the grammar `Template.parse`
models. -/
def TemplateService.create (s : Store) (input : CreateTemplateInput) (id : UUID) (now : Instant) :
    Option (Except GoError (Template × Store)) :=
  (newTemplate input.name input.channel input.body id now).map fun r => do
    let t ← r
    let s' ← TemplateRepo.create s t
    pure (t, s')

/-- `TemplateService.Create` returns `t` and leaves the store `s'`: `NewTemplate` returned `t`
(on a body the model does not parse, the template it builds, as Go does when its parser
accepts the body) and the insert went in. -/
def TemplateService.Commits (s : Store) (input : CreateTemplateInput) (id : UUID) (now : Instant)
    (t : Template) (s' : Store) : Prop :=
  (newTemplate input.name input.channel input.body id now).getD (.ok (input.template id now)) =
      .ok t ∧ TemplateRepo.create s t = .ok s'

variable {s s' : Store} {input : CreateTemplateInput} {id : UUID} {now : Instant} {t : Template}

/-- A call of `create` that returns a template is a commit. -/
theorem TemplateService.commits_of_create (h : TemplateService.create s input id now = some (.ok (t, s'))) :
    TemplateService.Commits s input id now t s' := by
  unfold TemplateService.create at h
  rcases hn : newTemplate input.name input.channel input.body id now with _ | _ | t₀
  · simp [hn] at h
  · simp [hn, bind, Except.bind] at h
  · cases hc : TemplateRepo.create s t₀ with
    | error e => simp [hn, hc, bind, Except.bind] at h
    | ok s₀ =>
      simp only [hn, hc, Option.map_some', bind, Except.bind, pure, Except.pure, Option.some.injEq,
        Except.ok.injEq, Prod.mk.injEq] at h
      obtain ⟨rfl, rfl⟩ := h
      exact ⟨by rw [hn]; rfl, hc⟩

/-- A commit appends the template to its table and changes no other table. -/
theorem TemplateService.Commits.store (h : TemplateService.Commits s input id now t s') :
    s' = { s with templates := s.templates ++ [t] } :=
  (TemplateRepo.create_ok h.2).1

end App
