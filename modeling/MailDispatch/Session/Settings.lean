import MailDispatch.Endpoint

/-!
# Session settings

How a session is opened, as an endpoint asks for it. A connection that is encrypted from its start
is never upgraded on top; otherwise it is upgraded when the server offers that, unless the endpoint
forbids it. The timeouts are fixed.
-/

namespace MailDispatch

open Decimal (numeral?)

/-- When a connection is upgraded to an encrypted one. -/
inductive Upgrade where
  | never
  | whenOffered
  deriving DecidableEq, Repr

/-- The literal of an upgrade rule. -/
def Upgrade.literal : Upgrade → String
  | .never => "False"
  | .whenOffered => "None"

/-- What a mail client is constructed with. -/
structure ClientOptions where
  hostname : String
  port : Int
  useTls : Bool
  upgrade : Upgrade
  /-- Seconds allowed for each command. -/
  timeout : Nat
  deriving DecidableEq, Repr

/-- Name and password for a login. -/
structure Credentials where
  username : String
  password : String
  deriving DecidableEq, Repr

/-- How a session is opened. -/
structure SessionSettings where
  hostname : String
  port : Int
  useTls : Bool
  upgrade : Upgrade
  /-- Seconds allowed for connecting. -/
  connectTimeout : Nat
  /-- Seconds allowed for each command after that. -/
  timeout : Nat
  debug : Bool
  credentials : Option Credentials
  deriving DecidableEq, Repr

namespace SessionSettings

/-- The settings for an endpoint. A missing password counts as empty. -/
def ofEndpoint (e : Endpoint) : SessionSettings where
  hostname := e.host
  port := e.port
  useTls := e.ssl
  upgrade := if !e.ssl && e.startTls then .whenOffered else .never
  connectTimeout := 10
  timeout := 60
  debug := e.debug
  credentials := e.username.map fun name ↦ ⟨name, e.password.getD ""⟩

/-- What the client is told when it is constructed: neither the credentials nor the time allowed for
connecting are among it. -/
def client (s : SessionSettings) : ClientOptions where
  hostname := s.hostname
  port := s.port
  useTls := s.useTls
  upgrade := s.upgrade
  timeout := s.timeout

/-- A number of seconds, as it is written. -/
def secondsText (n : Nat) : String := toString n ++ ".0"

/-- The literal of the settings; credentials are never shown. It does not exist if the port is too
long to be written. -/
def literal? (s : SessionSettings) : Option String :=
  (numeral? s.port).map fun port ↦
    call "SessionParams" ["hostname=" ++ Text.quoted s.hostname, "port=" ++ port,
      "use_tls=" ++ Value.flagLiteral s.useTls, "start_tls=" ++ s.upgrade.literal,
      "connect_timeout=" ++ secondsText s.connectTimeout,
      "timeout=" ++ secondsText s.timeout, "debug=" ++ Value.flagLiteral s.debug]

end SessionSettings

end MailDispatch
