import MailDispatch.FileTree.Walk
import MailDispatch.Operator.Layout
import MailDispatch.Text.Decoding
import MailDispatch.Toml.Document
import MailDispatch.Toml.Writer

/-!
# Configuration files

Where the operator's configuration lies, and how it and the parameters of a task are read from TOML
files. A configuration that does not exist counts as empty; one that exists and is malformed is an
error of its own kind. Writing a configuration makes the directories on the way; in which form the
configuration is put down is left to a writer of tables.
-/

namespace MailDispatch

/-! ## The surroundings -/

/-- What a command sees of the system it runs on. -/
structure Surroundings where
  tree : FileTree
  /-- The current directory. -/
  current : Location
  home : FilePath
  /-- The directory for configurations, if one is set. -/
  configHome : Option String := none

namespace Surroundings

/-- The directory of the operator's configuration. -/
def configDirectory (s : Surroundings) : FilePath :=
  let base := match s.configHome with
    | none => s.home.child ".config"
    | some "" => s.home.child ".config"
    | some path => .ofText path
  base.child "mailtask"

/-- The file of the operator's configuration. -/
def configFile (s : Surroundings) : FilePath := s.configDirectory.child "config.toml"

/-- The file that is meant: the one that is given, or else the usual one. -/
def configFileOr (s : Surroundings) (given : Option FilePath) : FilePath :=
  given.getD s.configFile

/-! ## Reading -/

/-- Whether a path leads to anything. Only an obstacle other than a missing entry, a file in the way
or a circle of links is an error. -/
def pathExists (s : Surroundings) (p : FilePath) : Except Failure Bool :=
  if p.hasNul then .ok false
  else match s.tree.status s.current p with
    | .ok _ => .ok true
    | .error .notFound => .ok false
    | .error .notDirectory => .ok false
    | .error .tooManyLinks => .ok false
    | .error fault => .error (.file ⟨fault, p.text⟩)

/-- The content of a file. -/
def read (s : Surroundings) (p : FilePath) : Except Failure (List UInt8) :=
  if p.hasNul then .error .nulInPath
  else (s.tree.read s.current p).mapError .file

/-- What stands for the error in a malformed document. -/
def syntaxErrorText : String := "<toml syntax error>"

/-- The document in the content of a file. `what` begins the message for a malformed one. -/
def parseDocument (what : String) (content : List UInt8) : Except Failure Table :=
  match Text.decode .utf8 content with
  | .error e => .error (.undecodable e)
  | .ok s => match Toml.document s with
    | .ok t => .ok t
    | .error .malformed => .error (.configFile (what ++ ": " ++ syntaxErrorText))
    | .error (.longNumeral digits) => .error (.longNumeral digits)
    | .error .tooDeep => .error .tooDeep

/-- Loads the operator's configuration. -/
def loadConfig (s : Surroundings) (given : Option FilePath) : Preparation OperatorConfig := do
  let p := s.configFileOr given
  if ← s.pathExists p then
    let content ← s.read p
    let data ← parseDocument ("Invalid config file " ++ p.text) content
    OperatorConfig.ofTable data
  else
    Preparation.log .config .debug ("No system config at " ++ p.text ++ ", using empty defaults")
    return {}

/-- A failure to open the parameters of a task. -/
def unreadableTask (p : FilePath) : Failure → Failure
  | .file e => .configFile ("Cannot read task parameters " ++ p.text ++ ": " ++ e.message)
  | f => f

/-- Loads the parameters of a task. -/
def loadTask (s : Surroundings) (p : FilePath) : Except Failure Table :=
  ((s.read p).mapError (unreadableTask p)).bind
    (parseDocument ("Invalid task parameters " ++ p.text))

/-! ## Writing -/

/-- Makes the directory around a file and writes the file. -/
def writeFile (s : Surroundings) (p : FilePath) (content : List UInt8) :
    Surroundings × Except Failure Unit :=
  if p.parent.hasNul then (s, .error .nulInPath)
  else match s.tree.ensureDirectory s.current p.parent with
    | (tree, .error e) => ({ s with tree }, .error (.file e))
    | (tree, .ok ()) =>
      if p.hasNul then ({ s with tree }, .error .nulInPath)
      else match tree.writeFile s.current p content with
        | .error e => ({ s with tree }, .error (.file e))
        | .ok tree => ({ s with tree }, .ok ())

/-- Writes a configuration to a file. What was written of it stays in the file if the writer fails. -/
def saveConfig (s : Surroundings) (write : Toml.Writer) (c : OperatorConfig) (p : FilePath) :
    Surroundings × Except Failure Unit :=
  let written := write c.toTable
  match s.writeFile p (Text.encode written.text) with
  | (s, .ok ()) => (s, written.result)
  | (s, .error e) => (s, .error e)

end Surroundings

end MailDispatch
