import MailDispatch.CommandLine.Switch
import MailDispatch.FileTree.Path

/-!
# Invocations

What a command line asks for. Switches are obeyed from left to right, so that a question for help or
for the version is answered even in front of mistakes; words that are left over are complained about
at the end. The one plain word that is expected names the file with the task's parameters.
-/

namespace MailDispatch.CommandLine

/-- What a command line asks for. -/
structure Invocation where
  params : Option FilePath := none
  config : Option FilePath := none
  workspace : Option FilePath := none
  paths : Bool := false
  initConfig : Bool := false
  debug : Bool := false
  deriving DecidableEq, Repr

/-- Why a command line is not carried out. -/
inductive Ending where
  | help
  | version
  | invalid (problem : String)
  deriving DecidableEq, Repr

/-- The words obeyed so far: what they ask for, whether the plain word was taken, and the words that
are left over. -/
structure Progress where
  invocation : Invocation := {}
  taken : Bool := false
  extras : List String := []
  deriving DecidableEq, Repr

/-- A complaint about a switch. -/
def complain {α : Type} (s : Switch) (problem : String) : Except Ending α :=
  .error (.invalid ("argument " ++ s.name ++ ": " ++ problem))

/-- The complaint about an argument of a switch that takes none. -/
def ignoredArgument {α : Type} (s : Switch) (argument : List Char) : Except Ending α :=
  complain s ("ignored explicit argument " ++ Text.quoted (String.ofList argument))

/-- What is wrong with the letters behind a switch of a single letter, if anything. `marked` says
whether an equals sign stands in front of them. -/
def badCluster : (marked : Bool) → List Char → Option (List Char)
  | true, s => some s
  | false, [] => none
  | false, '-' :: rest => some ('-' :: rest)
  | false, 'h' :: '=' :: rest => some rest
  | false, 'h' :: rest => badCluster false rest
  | false, _ => none

/-- Obeys a switch that takes no argument. -/
def obey (p : Progress) : Switch → Except Ending Progress
  | .help => .error .help
  | .version => .error .version
  | .paths => .ok { p with invocation := { p.invocation with paths := true } }
  | .initConfig => .ok { p with invocation := { p.invocation with initConfig := true } }
  | .debug => .ok { p with invocation := { p.invocation with debug := true } }
  | .config => .ok p
  | .workspace => .ok p

/-- Obeys a switch that takes an argument. -/
def obeyWith (p : Progress) (argument : String) : Switch → Progress
  | .config => { p with invocation := { p.invocation with config := some (.ofText argument) } }
  | .workspace =>
    { p with invocation := { p.invocation with workspace := some (.ofText argument) } }
  | _ => p

/-- Whether a switch takes an argument. -/
def takesArgument (s : Switch) : Bool := s = .config || s = .workspace

/-- Obeys a switch that takes no argument, complaining about one that it has nevertheless. -/
def obeyUse (p : Progress) (u : SwitchUse) : Except Ending Progress :=
  match u.explicit with
  | none => obey p u.switch
  | some e =>
    if u.short then match badCluster u.marked e with
      | some bad => ignoredArgument u.switch bad
      | none => obey p u.switch
    else ignoredArgument u.switch e

/-- Takes the plain word that is expected. -/
def take (p : Progress) (text : String) : Progress :=
  { p with invocation := { p.invocation with params := some (.ofText text) }, taken := true }

/-- Keeps a word that is left over. -/
def leave (p : Progress) (text : String) : Progress := { p with extras := p.extras ++ [text] }

/-- Obeys the words of a command line. -/
def follow (p : Progress) : List Word → Except Ending Progress
  | [] => .ok p
  | .unknown text :: rest => follow (leave p text) rest
  | .switch u :: .plain text :: rest =>
    if takesArgument u.switch then match u.explicit with
      | some e => follow (obeyWith p (String.ofList e) u.switch) (.plain text :: rest)
      | none => follow (obeyWith p text u.switch) rest
    else (obeyUse p u).bind fun p ↦ follow p (.plain text :: rest)
  | .switch u :: rest =>
    if takesArgument u.switch then match u.explicit with
      | some e => follow (obeyWith p (String.ofList e) u.switch) rest
      | none => complain u.switch "expected one argument"
    else (obeyUse p u).bind fun p ↦ follow p rest
  | .plain text :: .separator :: rest =>
    if p.taken then follow (leave p text) (.separator :: rest)
    else follow (take p text) rest
  | .plain text :: rest => follow (if p.taken then leave p text else take p text) rest
  | .separator :: .plain text :: rest =>
    if p.taken then follow (leave p "--") (.plain text :: rest) else follow (take p text) rest
  | .separator :: rest => follow (if p.taken then leave p "--" else { p with taken := true }) rest

/-- What the words that were obeyed ask for together. -/
def conclude (p : Progress) : Except Ending Invocation :=
  let i := p.invocation
  if !p.extras.isEmpty then
    .error (.invalid ("unrecognized arguments: " ++ String.intercalate " " p.extras))
  else if i.params.isNone && !(i.paths || i.initConfig) then
    .error (.invalid "the task parameters file is required")
  else .ok i

/-- Reads a command line. -/
def parse (args : List String) : Except Ending Invocation :=
  match words args with
  | .error problem => .error (.invalid problem)
  | .ok ws => (follow {} ws).bind conclude

/-! ## Texts -/

/-- How the command is used, in short. -/
def usage : String :=
  "usage: mailtask [-h] [--version] [--paths] [--init-config] [--config CONFIG]\n" ++
  "                [--workspace WORKSPACE] [--debug]\n" ++
  "                [params]\n"

/-- How the command is used. -/
def help : String :=
  usage ++
  "\nSend one email the way the workflow mail task does\n" ++
  "\npositional arguments:\n" ++
  "  params                TOML file with the task parameters\n" ++
  "\noptions:\n" ++
  "  -h, --help            show this help message and exit\n" ++
  "  --version             show program's version number and exit\n" ++
  "  --paths               Print configuration paths and exit\n" ++
  "  --init-config         Write an empty system config file and exit\n" ++
  "  --config CONFIG       Path to system config file (default: XDG config\n" ++
  "                        location)\n" ++
  "  --workspace WORKSPACE\n" ++
  "                        Workspace directory (default: directory of the params\n" ++
  "                        file)\n" ++
  "  --debug               Enable debug mode (verbose logging)\n"

/-- The version of the program. -/
def version : String := "mailtask 0.1.0\n"

/-- The complaint about a command line. -/
def complaint (problem : String) : String := usage ++ "mailtask: error: " ++ problem ++ "\n"

end MailDispatch.CommandLine
