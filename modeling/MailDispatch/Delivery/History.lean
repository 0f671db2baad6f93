import MailDispatch.Delivery.Basic

/-!
# Deliveries one after the other

One sender delivers one mail after the other, all of them out of one workspace. Between two
deliveries files are written and removed, and each delivery begins under the thresholds that the one
before has left; nothing else outlives a delivery.
-/

namespace MailDispatch.Delivery

/-- What comes of a delivery: its result, the situation at its end, and its events. -/
abbrev Run := Outcome Situation (Event Message) Failure Receipt

/-- One delivery that is asked for, and what becomes of the files before it begins. -/
structure Errand where
  edit : FileTree → FileTree
  raw : Table
  secrets : SecretStore
  server : Server
  stamp : Stamp

/-- The delivery by a sender of its own, out of the workspace at `root` as its files are then. -/
def Errand.alone (e : Errand) (config : OperatorConfig) (root : Location) (files : FileTree)
    (thresholds : Thresholds) : Run :=
  start ⟨e.raw, e.secrets, ⟨files, root⟩⟩ config e.server e.stamp thresholds

/-- The deliveries by one sender, each under the thresholds that the one before has left. -/
def inTurn (config : OperatorConfig) (root : Location) :
    FileTree → Thresholds → List Errand → List Run
  | _, _, [] => []
  | files, thresholds, e :: rest =>
    let run := e.alone config root (e.edit files) thresholds
    run :: inTurn config root (e.edit files) run.state.thresholds rest

/-- The files as they are when the delivery at a place in the sequence begins. -/
def filesAt (files : FileTree) (errands : List Errand) (place : Nat) : FileTree :=
  (errands.take (place + 1)).foldl (fun files e ↦ e.edit files) files

end MailDispatch.Delivery
