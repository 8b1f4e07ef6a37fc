-- SUMMARY: domain.Template, NewTemplate and Render on the {{.Variable}} grammar: the lexer, execution, and the grammar's round trip.
import NotificationPipeline.Domain.Notification
import Mathlib.Data.List.Infix

/-!
# Templates: `domain.Template`, `NewTemplate` and `Render`

`NewTemplate` and `Render` (`unnamed/part_000`) hand the body to `text/template`: `Parse`, then
`Execute` with the variable map as data. The pipeline's bodies are written in the
`{{.Variable}}` substitution grammar, spaces allowed inside the braces, and on that grammar the
two are modelled here: the lexer as one pass over the body's characters (`Lex.scan`),
producing the nodes the parser builds, and `execute` printing them.

`Execute` looks a field up in the map and, under the default `missingkey` option, prints
`"<no value>"` for a key the map lacks (a nil map lacks every key); it raises no error. So on
the grammar `Render` never fails (`render_write`): a variable missing from the map is
rendered as `"<no value>"`.

Go's parser knows the whole template language (other actions, pipelines, chained fields,
comments, trim markers), and `unicode.IsLetter` takes non-ASCII letters in a name. The model
knows the grammar with ASCII names, and `parse` is `none` on any other body: there the model
does not say whether Go accepts the body or what `Execute` does with it, and every caller
leaves that outcome free.
-/

namespace Domain

open Uuid

/-- `domain.Template`. -/
structure Template where
  id : UUID
  name : String
  channel : Channel
  body : String
  createdAt : Instant
  updatedAt : Instant
deriving DecidableEq, Repr

namespace Template

/-- A node of a parsed body: a run of literal text, or the action `{{.Name}}`. -/
inductive Node
  | text (s : String)
  | field (name : String)
deriving DecidableEq, Repr

/-- The lexer's `isAlphaNumeric`: the characters of a field name. -/
def isAlphaNumeric (c : Char) : Bool := c == '_' || c.isAlpha || c.isDigit

/-- The first character of a field name: after `.`, a digit starts a number instead. -/
def isFieldStart (c : Char) : Bool := c == '_' || c.isAlpha

/-- The lexer's `isSpace`: what an action may hold around its field. -/
def isSpace (c : Char) : Bool := c == ' ' || c == '\t' || c == '\r' || c == '\n'

/-- Where the lexer is in a body of the grammar. -/
inductive Lex
  /-- In literal text; `acc` is the text read since the last action. -/
  | text (acc : List Char)
  /-- The text, then one `{`. -/
  | brace (acc : List Char)
  /-- After `{{` and any spaces. -/
  | leftDelim
  /-- After `{{.`. -/
  | dot
  /-- In a field name. -/
  | field (name : List Char)
  /-- The name, then spaces. -/
  | spaced (name : List Char)
  /-- The name, then one `}`. -/
  | rightBrace (name : List Char)
deriving DecidableEq, Repr

/-- The text node for the text read, if any: the lexer emits no empty text. -/
def textNodes : List Char → List Node
  | [] => []
  | c :: cs => [.text ⟨c :: cs⟩]

namespace Lex

/-- One character: the next place, and the nodes it completes; `none` off the grammar. -/
def step : Lex → Char → Option (Lex × List Node)
  | .text acc, c => some (if c = '{' then .brace acc else .text (acc ++ [c]), [])
  | .brace acc, c =>
    if c = '{' then some (.leftDelim, textNodes acc) else some (.text (acc ++ ['{', c]), [])
  | .leftDelim, c =>
    if c = '.' then some (.dot, []) else if isSpace c then some (.leftDelim, []) else none
  | .dot, c => if isFieldStart c then some (.field [c], []) else none
  | .field name, c =>
    if c = '}' then some (.rightBrace name, [])
    else if isAlphaNumeric c then some (.field (name ++ [c]), [])
    else if isSpace c then some (.spaced name, []) else none
  | .spaced name, c =>
    if c = '}' then some (.rightBrace name, []) else if isSpace c then some (.spaced name, [])
    else none
  | .rightBrace name, c => if c = '}' then some (.text [], [.field ⟨name⟩]) else none

/-- The end of the body: literal text is complete, an open action is not. -/
def finish : Lex → Option (List Node)
  | .text acc => some (textNodes acc)
  | .brace acc => some (textNodes (acc ++ ['{']))
  | _ => none

/-- The nodes of the rest of the body, from the place `l`. -/
def scan : Lex → List Char → Option (List Node)
  | l, [] => l.finish
  | l, c :: cs =>
    match l.step c with
    | none => none
    | some (l', out) => (l'.scan cs).map (out ++ ·)

end Lex

/-- `template.New(name).Parse(body)`: the nodes of a body of the grammar. -/
def parse (body : String) : Option (List Node) := (Lex.text []).scan body.toList

/-- `Execute` with the variable map as data: each field prints the map's value, or
`"<no value>"` for a key the map (or a nil map) lacks. -/
def execute (vars : Option (List (String × String))) : List Node → String
  | [] => ""
  | .text s :: ns => s ++ execute vars ns
  | .field name :: ns =>
    ((vars.bind fun vs => vs.lookup name).getD "<no value>") ++ execute vars ns

/-- `Render`: parse the body, then execute it with the variables. -/
def render (t : Template) (vars : Option (List (String × String))) :
    Option (Except GoError String) :=
  (parse t.body).map fun nodes => .ok (execute vars nodes)

end Template

/-- `NewTemplate`; `id` is the `uuid.NewV7()` it draws and `now` the clock it reads. -/
def newTemplate (name : String) (channel : Channel) (body : String) (id : UUID) (now : Instant) :
    Option (Except GoError Template) :=
  if name = "" then some (.error (.sentinel .emptyTemplateName))
  else match validateChannel channel with
    | .error e => some (.error e)
    | .ok () =>
      if body = "" then some (.error (.sentinel .emptyTemplateBody))
      else (Template.parse body).map fun _ => .ok ⟨id, name, channel, body, now, now⟩

namespace Template

-- ---------------------------------------------------------------------------
-- The grammar, written out
-- ---------------------------------------------------------------------------

/-- A node as the body spells it. -/
def Node.chars : Node → List Char
  | .text s => s.toList
  | .field name => '{' :: '{' :: '.' :: name.toList ++ ['}', '}']

/-- The body that spells the nodes. -/
def write (ns : List Node) : String := ⟨ns.flatMap Node.chars⟩

/-- Text with no `{{` in it. -/
def NoDoubleBrace (cs : List Char) : Prop := ¬ ['{', '{'] <:+: cs

instance (cs : List Char) : Decidable (NoDoubleBrace cs) :=
  inferInstanceAs (Decidable (¬ _))

/-- A name the lexer reads whole as one field. -/
def validName (name : String) : Bool :=
  match name.toList with
  | [] => false
  | c :: cs => isFieldStart c && cs.all isAlphaNumeric

def startsWithText : List Node → Bool
  | .text _ :: _ => true
  | _ => false

/-- The node lists `Parse` produces: text nodes non-empty, without `{{`, never two in a row,
and not ending in `{` before an action; names the lexer reads whole. -/
def wellFormed : List Node → Bool
  | [] => true
  | .field name :: ns => validName name && wellFormed ns
  | .text s :: ns =>
    s ≠ "" && decide (NoDoubleBrace s.toList) && !startsWithText ns &&
      (ns.isEmpty || s.toList.getLast? != some '{') && wellFormed ns

-- ---------------------------------------------------------------------------
-- Scanning, a character at a time
-- ---------------------------------------------------------------------------

namespace Lex

/-- The place literal text leaves the lexer in: a trailing `{` may start an action. -/
def ofText (acc : List Char) : Lex :=
  if acc.getLast? = some '{' then .brace acc.dropLast else .text acc

theorem finish_ofText (acc : List Char) : (ofText acc).finish = some (textNodes acc) := by
  unfold ofText
  split
  · rename_i h
    simp [finish, List.dropLast_append_getLast? _ h]
  · rfl

/-- One character of literal text, not a second `{`. -/
theorem scan_ofText_cons {acc : List Char} {c : Char} (h : ¬ (acc.getLast? = some '{' ∧ c = '{'))
    (cs : List Char) : (ofText acc).scan (c :: cs) = (ofText (acc ++ [c])).scan cs := by
  by_cases hl : acc.getLast? = some '{'
  · have hc : c ≠ '{' := fun hc => h ⟨hl, hc⟩
    have hacc := List.dropLast_append_getLast? _ hl
    conv_rhs => rw [← hacc]
    simp [ofText, hl, hc, scan, step]
  · by_cases hc : c = '{' <;> simp [ofText, hl, hc, scan, step]

/-- Literal text without `{{` leaves the lexer in text. -/
theorem scan_ofText_append {acc t : List Char} (h : NoDoubleBrace (acc ++ t)) (rest : List Char) :
    (ofText acc).scan (t ++ rest) = (ofText (acc ++ t)).scan rest := by
  induction t generalizing acc with
  | nil => simp
  | cons c t ih =>
    have hc : ¬ (acc.getLast? = some '{' ∧ c = '{') := by
      rintro ⟨hl, rfl⟩
      refine h ⟨acc.dropLast, t, ?_⟩
      conv_rhs => rw [← List.dropLast_append_getLast? _ hl]
      simp
    rw [List.cons_append, scan_ofText_cons hc, ih (by simpa using h), List.append_assoc]
    rfl

/-- A field name up to its `}}`. -/
theorem scan_field {pre cs : List Char} (h : ∀ d ∈ cs, isAlphaNumeric d) (rest : List Char) :
    (Lex.field pre).scan (cs ++ '}' :: '}' :: rest) =
      ((Lex.text []).scan rest).map (.field ⟨pre ++ cs⟩ :: ·) := by
  induction cs generalizing pre with
  | nil => simp [scan, step, Function.comp_def]
  | cons d cs ih =>
    have hd : d ≠ '}' := by rintro rfl; simp [isAlphaNumeric] at h
    have hd' : isAlphaNumeric d := h d (List.mem_cons_self _ _)
    simp [scan, step, hd, hd', ih fun x hx => h x (List.mem_cons_of_mem _ hx), Function.comp_def]

/-- An action `{{.Name}}`, from literal text. -/
theorem scan_action (acc : List Char) {name : String} (hn : validName name) (rest : List Char) :
    (Lex.text acc).scan ((Node.field name).chars ++ rest) =
      ((Lex.text []).scan rest).map (textNodes acc ++ .field name :: ·) := by
  obtain ⟨c, cs, hname, hc, hcs⟩ : ∃ c cs, name.toList = c :: cs ∧ isFieldStart c ∧
      ∀ d ∈ cs, isAlphaNumeric d := by
    unfold validName at hn
    split at hn
    · cases hn
    · rename_i c cs h
      simp only [Bool.and_eq_true, List.all_eq_true] at hn
      exact ⟨c, cs, h, hn⟩
  have hname' : name = ⟨c :: cs⟩ := by rw [← hname]; rfl
  subst hname'
  simp [Node.chars, scan, step, hc, scan_field hcs, Function.comp_def]

end Lex

open Lex

/-- Scanning a well-formed node list from literal text: the text read so far, then the nodes.
The text read so far may be kept only if the nodes do not start with more text. -/
theorem scan_write {ns : List Node} (h : wellFormed ns) {acc : List Char}
    (hlead : startsWithText ns → acc = []) :
    (Lex.text acc).scan (ns.flatMap Node.chars) = some (textNodes acc ++ ns) := by
  induction ns generalizing acc with
  | nil => simp [scan, finish]
  | cons n ns ih =>
    cases n with
    | field name =>
      simp only [wellFormed, Bool.and_eq_true] at h
      rw [List.flatMap_cons, scan_action acc h.1, ih h.2 fun _ => rfl]
      simp [textNodes]
    | text s =>
      obtain rfl := hlead rfl
      simp only [wellFormed, Bool.and_eq_true, decide_eq_true_eq, Bool.not_eq_true',
        Bool.or_eq_true, bne_iff_ne, ne_eq] at h
      obtain ⟨⟨⟨⟨hs, hbrace⟩, hnext⟩, hlast⟩, hwf⟩ := h
      have htext : textNodes s.toList = [.text s] := by
        cases hcs : s.toList with
        | nil => exact absurd (String.ext hcs) hs
        | cons c cs => rw [textNodes, ← hcs]; rfl
      rw [List.flatMap_cons, Node.chars, show Lex.text [] = ofText [] from rfl,
        scan_ofText_append (by simpa using hbrace), List.nil_append]
      cases ns with
      | nil => rw [List.flatMap_nil, scan, finish_ofText, htext]; rfl
      | cons n ns =>
        have hl : s.toList.getLast? ≠ some '{' := by simpa using hlast
        rw [ofText, if_neg hl, ih hwf fun h' => by simp [hnext] at h', htext]
        rfl

/-- The parser reads back every well-formed body as the nodes that spell it. -/
theorem parse_write {ns : List Node} (h : wellFormed ns) : parse (write ns) = some ns := by
  simpa [parse, write, textNodes] using @scan_write _ h [] fun _ => rfl

/-- On a body of the grammar, `Render` never fails: it prints the text and each variable,
with `"<no value>"` for one the map lacks. -/
theorem render_write {t : Template} {ns : List Node} (h : wellFormed ns) (hb : t.body = write ns)
    (vars : Option (List (String × String))) :
    t.render vars = some (.ok (execute vars ns)) := by
  rw [render, hb, parse_write h]
  rfl

/-- A well-formed non-empty node list spells a non-empty body. -/
theorem write_ne_empty {ns : List Node} (h : wellFormed ns) (hne : ns ≠ []) : write ns ≠ "" := by
  obtain ⟨n, ns, rfl⟩ := List.exists_cons_of_ne_nil hne
  intro hw
  have hnil : (n :: ns).flatMap Node.chars = [] := congrArg String.data hw
  rw [List.flatMap_cons, List.append_eq_nil] at hnil
  cases n with
  | field name => cases hnil.1
  | text t =>
    simp only [wellFormed, Bool.and_eq_true, decide_eq_true_eq] at h
    exact h.1.1.1.1 (String.ext hnil.1)

/-- `NewTemplate` accepts every non-empty body of the grammar, under a name and a valid
channel, and keeps the body as written. -/
theorem newTemplate_write {ns : List Node} (h : wellFormed ns) (hne : ns ≠ []) {name : String}
    (hname : name ≠ "") {channel : Channel} (hch : validateChannel channel = .ok ()) (id : UUID)
    (now : Instant) :
    newTemplate name channel (write ns) id now = some (.ok ⟨id, name, channel, write ns, now, now⟩) := by
  rw [newTemplate, if_neg hname, hch]
  simp only [if_neg (write_ne_empty h hne), parse_write h, Option.map_some']

/-- A greeting body, accepted under a name for SMS. -/
theorem newTemplate_write_greeting :
    let ns : List Node := [.text "Hi ", .field "Name"]
    wellFormed ns = true ∧ ns ≠ [] ∧ validateChannel .sms = .ok () ∧
      newTemplate "welcome" .sms (write ns) ⟨List.replicate 16 3, rfl⟩ 0 =
        some (.ok ⟨⟨List.replicate 16 3, rfl⟩, "welcome", .sms, write ns, 0, 0⟩) :=
  ⟨by decide, by simp, rfl, newTemplate_write (by decide) (by simp) (by decide) (by rfl) _ _⟩

/-- A body with two variables, rendered with a map holding one of them. -/
theorem render_write_greeting :
    let ns : List Node := [.text "Hi ", .field "Name", .text ", code ", .field "Code"]
    wellFormed ns = true ∧
      (⟨⟨List.replicate 16 3, rfl⟩, "welcome", .sms, write ns, 0, 0⟩ : Template).render
        (some [("Code", "42")]) = some (.ok (execute (some [("Code", "42")]) ns)) :=
  ⟨by decide, render_write (by decide) rfl _⟩

example : (⟨⟨List.replicate 16 3, rfl⟩, "welcome", .sms, "Hi {{ .Name }}, code {{.Code}}", 0, 0⟩ :
    Template).render (some [("Code", "42")]) = some (.ok "Hi <no value>, code 42") :=
  rfl

end Template

end Domain
