import MailDispatch.Value.Basic

/-!
# Endpoints

An endpoint says where mail is handed over, how the connection is secured and which credentials are
shown. It comes as a whole from one origin: from the task, or from the system's configuration.
Nothing in this library combines fields of two endpoints.
-/

namespace MailDispatch

open Decimal (numeral?)

/-- Who supplied an endpoint. -/
inductive Origin where
  | user
  | system
  deriving DecidableEq, Repr

namespace Origin

/-- The word for an origin. -/
def text : Origin → String
  | .user => "user"
  | .system => "system"

/-- The literal of an origin. -/
def literal : Origin → String
  | .user => "<SmtpOrigin.USER: 'user'>"
  | .system => "<SmtpOrigin.SYSTEM: 'system'>"

end Origin

/-- Where and how mail is handed over. -/
structure Endpoint where
  host : String
  port : Int
  /-- Upgrade the connection when the server offers it. -/
  startTls : Bool := true
  /-- Encrypt the connection from its start. -/
  ssl : Bool := false
  /-- Show the server's replies in the journal. -/
  debug : Bool := false
  /-- The login name; without one the session is anonymous. -/
  username : Option String := none
  password : Option String := none
  origin : Origin := .user
  deriving DecidableEq, Repr

namespace Endpoint

/-- Whether a login will be attempted. -/
def isAuthenticated (e : Endpoint) : Bool := e.username.isSome

/-- The endpoint in words: host, port and origin. It has none if the port is too long to be
written. -/
def text? (e : Endpoint) : Option String :=
  (numeral? e.port).map fun port ↦ e.host ++ ":" ++ port ++ " (" ++ e.origin.text ++ ")"

/-- The literal of an optional text. -/
def optionLiteral : Option String → String
  | some s => Text.quoted s
  | none => "None"

/-- The endpoint with all its fields but the password, which is never shown. -/
def literal? (e : Endpoint) : Option String :=
  (numeral? e.port).map fun port ↦
    call "SmtpConfig" ["host=" ++ Text.quoted e.host, "port=" ++ port,
      "start_tls=" ++ Value.flagLiteral e.startTls, "ssl=" ++ Value.flagLiteral e.ssl,
      "debug=" ++ Value.flagLiteral e.debug, "username=" ++ optionLiteral e.username,
      "origin=" ++ e.origin.literal]

end Endpoint

end MailDispatch
