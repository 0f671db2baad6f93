import MailDispatch.Task.Parameters
import MailDispatch.Template

/-!
# The body of a mail

The body is rendered from a template: a file if the task names one, or else a text among the task's
parameters. Who renders a body says how files are read, as from a workspace. Only the task's own
parameters are its variables; the entries of the `mail` table and the secrets are not.
-/

namespace MailDispatch

/-- What renders a template with variables. -/
abbrev Engine := String → Table → Except Failure String

namespace Engine

/-- The engine that fills in placeholders. -/
def standard : Engine := Template.render

/-- An engine that shows what it is given: the template in brackets and the names of the variables
in order. -/
def outline : Engine := fun template bindings ↦
  let names := (bindings.map (·.1)).mergeSort fun a b ↦ a ≤ b
  .ok ("[" ++ template ++ "]" ++ String.intercalate "," names)

end Engine

namespace Body

/-- The parameter that names the file of the template. -/
def fileKey : String := "_command"

/-- The parameter that holds the template itself. -/
def textKey : String := "body"

/-- A failure to read the template at a path. Files that cannot be read or decoded are failures of
the template; others stay what they are. -/
def unreadable (path : String) : Failure → Failure
  | .file e => .template path e.message
  | .undecodable e => .template path e.message
  | f => f

/-- The template of a task, its file being read by `read`. -/
def template (p : TaskParameters) (read : String → Except Failure String) :
    Preparation String := do
  match p.plain? fileKey with
  | some v =>
    let path ← v.plain
    Preparation.log .body .debug ("Loading body template from workspace file " ++ path)
    (read path).mapError (unreadable path)
  | none => match p.plain? textKey with
    | some v => v.plain
    | none =>
      Preparation.refuse
        (.missingField textKey (some "Either a body template file or 'body' is required"))

/-- The body of a task's mail. -/
def render (p : TaskParameters) (read : String → Except Failure String) (engine : Engine) :
    Preparation String := do
  let text ← template p read
  engine text p.bindings

end Body

end MailDispatch
