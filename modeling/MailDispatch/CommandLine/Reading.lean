import MailDispatch.CommandLine.Invocation
import MailDispatch.Operator.File

/-!
# What a command may read

A command is carried out on a tree of files, so whoever runs it has to know which files belong into
the tree. These are found in two steps: the command line names the configuration and the task's
parameters, and any text among the parameters may name a file of the workspace. Listing too many
does no harm, because the workspace decides what is read.
-/

namespace MailDispatch

namespace Value

mutual

/-- The texts within a value. -/
def texts : Value → List String
  | .text s => [s]
  | .list items => textsOfAll items
  | .tuple items => textsOfAll items
  | .table entries => textsOfEntries entries
  | _ => []

/-- The texts within several values. -/
def textsOfAll : List Value → List String
  | [] => []
  | v :: rest => texts v ++ textsOfAll rest

/-- The texts within the values of a table. -/
def textsOfEntries : List (String × Value) → List String
  | [] => []
  | (_, v) :: rest => texts v ++ textsOfEntries rest

end

end Value

namespace CommandLine

/-- The directory that a task is confined to: the one that is given, or else the one with the
parameters. -/
def Invocation.workspaceFor (i : Invocation) (params : FilePath) : FilePath :=
  i.workspace.getD params.parent

/-- The files that a command line names, and the directory of the workspace. -/
def Invocation.named (i : Invocation) (s : Surroundings) : List FilePath :=
  s.configFileOr i.config :: match i.params with
    | none => []
    | some params => [params, i.workspaceFor params]

/-- The files that the parameters of the task may name. -/
def Invocation.mentioned (i : Invocation) (s : Surroundings) : List FilePath :=
  match i.params with
  | none => []
  | some params => match s.loadTask params with
    | .error _ => []
    | .ok raw =>
      (Value.textsOfEntries raw).map fun name ↦ (i.workspaceFor params).join (.ofText name)

end CommandLine

end MailDispatch
