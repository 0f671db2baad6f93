import MailDispatch.Session.Tracing

/-!
# Sessions with a mail server

A session connects, logs in if it has credentials, does its work and says goodbye. Once connected,
the goodbye is said whatever happens, unless the connection is gone by then; a goodbye that fails is
logged and the connection closed, so that it never turns a message that was taken into a failure.
-/

namespace MailDispatch

namespace Session

variable {μ α : Type}

/-- What the transport answers, or the fault that it raises. -/
def answered (r : Except Fault α) : Work μ α := Activity.ofResult (r.mapError .fault)

/-- Calls the mail client. -/
def call (c : Call μ) : Work μ Unit := Activity.emit (.call c)

/-- Connects to the server. The connection may be gone again as soon as it stands. -/
def connect (settings : SessionSettings) (server : Server) : Work μ Reply := do
  call (.construct settings.client)
  call (.connect settings.connectTimeout)
  let reply ← answered server.onConnect
  Work.setConnected (!server.dropsOnConnect)
  return reply

/-- Logs in, if there are credentials. -/
def login (settings : SessionSettings) (server : Server) : Work μ Unit := do
  match settings.credentials with
  | none => return ()
  | some c =>
    Work.log .session .debug ("Authenticating as " ++ c.username)
    call (.login c)
    if server.dropsOnLogin then Work.setConnected false
    let reply ← answered server.onLogin
    Work.log .session .debug "SMTP authentication successful"
    Work.trace settings.debug [ProtocolTrace.reply ("AUTH " ++ c.username) reply]

/-- The server's answer to the next message. -/
def nextAnswer : Work μ SendAnswer := do
  let s ← Activity.get
  Activity.modify fun s ↦ { s with answers := s.answers.tail }
  return s.answers.headD {}

/-- Hands a message over. -/
def send (settings : SessionSettings) (message : μ) : Work μ Unit := do
  call (.send message)
  let answer ← nextAnswer
  if answer.drops then Work.setConnected false
  let acceptance ← answered answer.result
  Work.trace settings.debug (ProtocolTrace.sent acceptance)

/-- What becomes of a failure to say goodbye. -/
def onFailedQuit : Failure → Work μ Unit
  | .fault f =>
    if f.isIgnoredOnQuit then do
      Work.log .session .warning ("Error during SMTP disconnect: " ++ f.message)
      call .close
      Work.setConnected false
    else Activity.fail (.fault f)
  | e => Activity.fail e

/-- Says goodbye. -/
def quit (server : Server) : Work μ Unit := do
  Work.log .session .debug "Disconnecting from SMTP"
  call .quit
  let _ ← answered server.onQuit
  Work.setConnected false

/-- Ends the connection if there still is one. -/
def disconnect (server : Server) : Work μ Unit := do
  if (← Activity.get).connected then (quit server).rescue onFailedQuit

/-- Opens a session and does `work` in it. -/
def within (settings : SessionSettings) (server : Server) (work : Work μ α) : Work μ α :=
  Work.traced settings.debug do
    let port ← Activity.ofResult (orFail .longInteger (Decimal.numeral? settings.port))
    Work.log .session .info ("Connecting to SMTP " ++ settings.hostname ++ ":" ++ port)
    let reply ← connect settings server
    Work.log .session .debug "SMTP connection established"
    Work.trace settings.debug
      [ProtocolTrace.reply "connect" reply, ProtocolTrace.extensions server.extensions]
    Activity.ensuring (do login settings server; work) (disconnect server)

end Session

end MailDispatch
