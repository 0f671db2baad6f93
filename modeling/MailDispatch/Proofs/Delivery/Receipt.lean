import MailDispatch.Proofs.Delivery.Progress
import MailDispatch.Proofs.Message.Composition

/-!
# Receipts

A message that the server took must not be sent again, and one that it did not take must not be
lost. A delivery therefore ends in a receipt exactly if the server took its message, whatever
happens to the session afterwards, and a failure may be tried again only if no message was taken.
The receipt tells of the one message handed over and of the one endpoint that it went through.
-/

namespace MailDispatch

variable {μ : Type}

/-- The message that a call hands over, if it does. -/
def Call.message? : Call μ → Option μ
  | .send message => some message
  | _ => none

/-- What the client that a call constructs is told, if it constructs one. -/
def Call.options? : Call μ → Option ClientOptions
  | .construct options => some options
  | _ => none

/-- The messages handed over among calls, in order. -/
def handedOver (calls : List (Call μ)) : List μ := calls.filterMap Call.message?

/-- What the clients constructed among calls are told, in order. -/
def clients (calls : List (Call μ)) : List ClientOptions := calls.filterMap Call.options?

theorem handedOver_append (calls calls' : List (Call μ)) :
    handedOver (calls ++ calls') = handedOver calls ++ handedOver calls' :=
  List.filterMap_append

theorem clients_append (calls calls' : List (Call μ)) :
    clients (calls ++ calls') = clients calls ++ clients calls' :=
  List.filterMap_append

/-- Some message was handed over for which the server's answer is no fault: the answers belong to
the messages in their order. -/
def Server.Takes (server : Server) (calls : List (Call μ)) : Prop :=
  ∃ i < (handedOver calls).length, ∃ acceptance,
    (server.onSend.getD i {}).result = .ok acceptance

/-- What a receipt tells of a mail and of the message composed for it. -/
structure Receipt.Tells (receipt : Receipt) (m : Mail) (message : Message) : Prop where
  messageId : message.headers.value? "Message-ID" = some receipt.messageId
  recipients : receipt.recipients = m.recipients
  header : message.headers.value? "To" = some (String.intercalate ", " receipt.recipients)
  endpoint : m.endpoint.text = .ok receipt.endpoint
  state : receipt.state = .sent

/-- The receipt for a composed message tells of it. -/
theorem Receipt.tells_of_compose {m : Mail} {w : Workspace} {stamp : Stamp} {message : Message}
    {shown : String} (h : (m.compose w stamp).result = .ok message)
    (hshown : m.endpoint.text = .ok shown) :
    Tells ⟨message.headerText "Message-ID", m.recipients, shown, .sent⟩ m message := by
  obtain ⟨parts, -, rfl⟩ := Mail.compose_eq_ok h
  cases parts <;> exact ⟨rfl, rfl, rfl, hshown, rfl⟩

namespace Session

variable {server : Server} {connected : Bool} {goodbye : List (Event μ)} {fault : Option Fault}
  {settings : SessionSettings}

theorem handedOver_loginCalls : handedOver (called (loginCalls (μ := μ) settings)) = [] := by
  rw [called_loginCalls]
  cases settings.credentials <;> rfl

theorem clients_loginCalls : clients (called (loginCalls (μ := μ) settings)) = [] := by
  rw [called_loginCalls]
  cases settings.credentials <;> rfl

/-- A goodbye hands nothing over and needs no other client. -/
theorem Farewell.called_eq_nil (h : Farewell server connected goodbye fault) :
    handedOver (called goodbye) = [] ∧ clients (called goodbye) = [] := by
  cases h <;> exact ⟨rfl, rfl⟩

end Session

namespace Delivery

open Activity Outcome Session

/-- Either nothing is handed over and the transmission fails, or the message is; then it succeeds
only if the server takes the message, and does unless a fault of the goodbye gets in between. -/
theorem transmission_hands_over {settings : SessionSettings} {server : Server} {message : Message}
    {answers : List SendAnswer} {events : List (Event Message)} {r : Except Failure Unit}
    (h : Session.Course settings server (handOver settings message) answers events r) :
    (handedOver (called events) = [] ∧ ∃ e, r = .error e) ∨
      handedOver (called events) = [message] ∧ clients (called events) = [settings.client] ∧
        (r = .ok () → ∃ acceptance, (answers.headD {}).result = .ok acceptance) ∧
        ((∀ f, server.onQuit = .error f → f.isIgnoredOnQuit) →
          (∃ acceptance, (answers.headD {}).result = .ok acceptance) → r = .ok ()) := by
  cases h with
  | unwritten _ => exact .inl ⟨rfl, _, rfl⟩
  | unreachable _ => exact .inl ⟨rfl, _, rfl⟩
  | @rejected _ _ _ _ fault _ _ _ hf =>
    refine .inl ⟨?_, ?_⟩
    · rw [called_append, called_append, handedOver_append, handedOver_append,
        handedOver_loginCalls, hf.called_eq_nil.1]
      rfl
    · cases fault <;> exact ⟨_, rfl⟩
  | @opened _ s _ fault _ _ hanswers hf =>
    obtain ⟨s', hout⟩ := outline_handOver settings message s
    obtain ⟨hr, -, he⟩ := eq_of_outline hout
    rw [hr, he, hanswers]
    simp only [called_append]
    refine .inr ⟨?_, ?_, fun hok ↦ ?_, fun hquit ↦ ?_⟩
    · rw [handedOver_append, handedOver_append, handedOver_append, handedOver_loginCalls,
        hf.called_eq_nil.1]
      rfl
    · rw [clients_append, clients_append, clients_append, clients_loginCalls, hf.called_eq_nil.2]
      rfl
    · cases ha : (answers.headD {}).result with
      | ok acceptance => exact ⟨acceptance, rfl⟩
      | error f => rw [ha] at hok; cases fault <;> cases hok
    · rintro ⟨acceptance, ha⟩
      rw [hf.eq_none hquit, ha]
      rfl

/-- Every call of a transmission follows the settings of its session. -/
theorem follows_of_transmission {settings : SessionSettings} {server : Server} {message : Message}
    {answers : List SendAnswer} {events : List (Event Message)} {r : Except Failure Unit}
    (h : Session.Course settings server (handOver settings message) answers events r)
    {k : Call Message} (hk : k ∈ called events) : k.Follows settings := by
  have hopening : ∀ k ∈ called (opening (μ := Message) settings), k.Follows settings := by
    simp [Call.Follows]
  have hlogin : ∀ k ∈ called (loginCalls (μ := Message) settings), k.Follows settings := by
    intro k hk
    rw [called_loginCalls] at hk
    obtain ⟨c, hc, rfl⟩ := Option.map_eq_some_iff.mp (Option.mem_toList.mp hk)
    exact hc
  have hgoodbye : ∀ {connected : Bool} {goodbye : List (Event Message)} {fault : Option Fault},
      Farewell server connected goodbye fault → ∀ k ∈ called goodbye, k.Follows settings := by
    intro connected goodbye fault hf k hk
    rcases hf.eq_of_mem_called hk with rfl | rfl <;> trivial
  cases h with
  | unwritten _ => cases hk
  | unreachable _ => exact hopening k hk
  | rejected _ _ _ hf =>
    rw [called_append, called_append, List.mem_append, List.mem_append] at hk
    rcases hk with hk | hk | hk
    exacts [hopening k hk, hlogin k hk, hgoodbye hf k hk]
  | @opened _ s _ _ _ _ _ hf =>
    obtain ⟨s', hout⟩ := outline_handOver settings message s
    rw [(eq_of_outline hout).2.2, called_append, called_append, called_append, List.mem_append,
      List.mem_append, List.mem_append] at hk
    rcases hk with hk | hk | hk | hk
    · exact hopening k hk
    · exact hlogin k hk
    · rw [List.mem_singleton.mp hk]
      trivial
    · exact hgoodbye hf k hk

/-- What is prepared is a mail of the task and the message composed for it. -/
theorem Preparing.exists_body {t : Task} {c : OperatorConfig} {stamp : Stamp}
    {events : List (Event Message)} {p : Prepared} (h : Preparing t c stamp events (.ok p)) :
    ∃ body, (t.parameters.mail c body).result = .ok p.mail ∧
      (p.mail.compose t.workspace stamp).result = .ok p.message := by
  cases h with
  | composed _ hmail hmessage => exact ⟨_, hmail, hmessage⟩

/-- What a delivery hands over, and what its receipt tells of it. -/
structure IsAccounted (t : Task) (c : OperatorConfig) (stamp : Stamp)
    (calls : List (Call Message)) (r : Except Failure Receipt) : Prop where
  /-- At most one message is handed over. -/
  once : (handedOver calls).length ≤ 1
  /-- A receipt tells of the mail of the task, of the one message that was composed for it and
  handed over, and of the one endpoint that there was a client for and that every call follows. -/
  told : ∀ receipt, r = .ok receipt → ∃ body m message,
    (t.parameters.mail c body).result = .ok m ∧
      (m.compose t.workspace stamp).result = .ok message ∧
      handedOver calls = [message] ∧
      clients calls = [(SessionSettings.ofEndpoint m.endpoint).client] ∧
      (∀ k ∈ calls, k.Follows (.ofEndpoint m.endpoint)) ∧ receipt.Tells m message

theorem not_takes_of_nil {server : Server} {calls : List (Call Message)}
    (h : handedOver calls = []) : ¬server.Takes calls := by
  rintro ⟨i, hi, -⟩
  rw [h] at hi
  cases hi

theorem takes_iff_of_singleton {server : Server} {calls : List (Call Message)} {message : Message}
    (h : handedOver calls = [message]) :
    server.Takes calls ↔ ∃ acceptance, (server.onSend.headD {}).result = .ok acceptance := by
  have hfirst : server.onSend.getD 0 {} = server.onSend.headD {} := by
    cases server.onSend <;> rfl
  rw [Server.Takes, h, ← hfirst]
  constructor
  · rintro ⟨i, hi, ha⟩
    rwa [Nat.lt_one_iff.mp hi] at ha
  · exact fun ha ↦ ⟨0, Nat.zero_lt_one, ha⟩

section Accounts

variable {t : Task} {c : OperatorConfig} {server : Server} {stamp : Stamp}

/-- Where nothing is handed over, there is nothing to account for, and no receipt. -/
theorem accounts_of_nil {calls : List (Call Message)} (h : handedOver calls = []) (e : Failure) :
    IsAccounted t c stamp calls (.error e) ∧
      ((∃ receipt, Except.error e = Except.ok (α := Receipt) receipt) ↔ server.Takes calls) := by
  refine ⟨⟨?_, nofun⟩, iff_of_false nofun (not_takes_of_nil h)⟩
  rw [h]
  exact Nat.zero_le 1

/-- Unless the goodbye raises a fault that is not ignored, there is a receipt exactly if the server
took a message. -/
theorem Course.accounts {events : List (Event Message)} {r : Except Failure Receipt}
    (h : Course t c server stamp server.onSend events r) :
    IsAccounted t c stamp (called events) r ∧
      ((∀ f, server.onQuit = .error f → f.isIgnoredOnQuit) →
        ((∃ receipt, r = .ok receipt) ↔ server.Takes (called events))) := by
  cases h with
  | unprepared hprepare =>
    rw [called_append, called_failedIf, hprepare.of_error.1]
    exact (accounts_of_nil rfl _).imp_right fun hiff _ ↦ hiff
  | @untransmitted before events p shown e hprepare hshown htransmit =>
    simp only [called_append, called_failedIf, hprepare.of_ok.1, List.nil_append, List.append_nil]
    rcases transmission_hands_over htransmit with ⟨hnil, -⟩ | ⟨hone, -, -, htaken⟩
    · exact (accounts_of_nil hnil _).imp_right fun hiff _ ↦ hiff
    · refine ⟨⟨?_, nofun⟩, fun hquit ↦ ?_⟩
      · rw [hone]
        exact le_refl 1
      · rw [takes_iff_of_singleton hone]
        exact iff_of_false nofun fun ha ↦ nomatch htaken hquit ha
  | @delivered before events p shown hprepare hshown htransmit =>
    obtain ⟨body, hmail, hmessage⟩ := hprepare.exists_body
    simp only [called_append, hprepare.of_ok.1, List.nil_append, called_cons_state, called_nil,
      List.append_nil]
    rcases transmission_hands_over htransmit with ⟨-, e, he⟩ | ⟨hone, hclients, htaken, -⟩
    · cases he
    · refine ⟨⟨?_, fun receipt hreceipt ↦ ?_⟩, fun _ ↦ ?_⟩
      · rw [hone]
        exact le_refl 1
      · cases hreceipt
        exact ⟨body, p.mail, p.message, hmail, hmessage, hone, hclients,
          fun k ↦ follows_of_transmission htransmit, Receipt.tells_of_compose hmessage hshown⟩
      · rw [takes_iff_of_singleton hone]
        exact iff_of_true ⟨_, rfl⟩ (htaken rfl)

end Accounts

/-- **Receipts.** A delivery hands over one message at most, and its receipt tells of that message
and of the endpoint that it went through. If the server's goodbye fails, if at all, by a fault of
the transport or of the operating system, there is a receipt exactly if the server took a message,
so that a failure may be tried again only if it took none. -/
theorem receipt_iff_taken (t : Task) (c : OperatorConfig) (server : Server) (stamp : Stamp)
    (thresholds : Thresholds) :
    IsAccounted t c stamp (called (start t c server stamp thresholds).events)
        (start t c server stamp thresholds).result ∧
      ((∀ f, server.onQuit = .error f → f.family = .smtp ∨ f.family = .system) →
        ((∃ receipt, (start t c server stamp thresholds).result = .ok receipt) ↔
          server.Takes (called (start t c server stamp thresholds).events)) ∧
        ∀ f, (start t c server stamp thresholds).result = .error (.task f) → f.isRetryable →
          ¬server.Takes (called (start t c server stamp thresholds).events)) := by
  have hcourse := run_course t c server stamp { thresholds, answers := server.onSend }
  obtain ⟨haccounted, htaken⟩ := hcourse.accounts
  rw [← called_milestones]
  refine ⟨haccounted, fun hfamily ↦ ?_⟩
  have hquit : ∀ f, server.onQuit = .error f → f.isIgnoredOnQuit := by
    intro f hf
    rw [Fault.isIgnoredOnQuit, Bool.or_eq_true, decide_eq_true_iff, decide_eq_true_iff]
    exact hfamily f hf
  refine ⟨htaken hquit, fun f hf _ htakes ↦ ?_⟩
  obtain ⟨receipt, hreceipt⟩ := (htaken hquit).mpr htakes
  cases hreceipt.symm.trans hf

/-- A task that brings along all that a mail needs. -/
private def letter : Task where
  raw := [("host", .text "mx.task.org"), ("port", .int 25), ("from", .text "a@task.org"),
    ("subject", .text "Hi"), ("to", .text "b@task.org"), ("body", .text "Hello")]
  secrets := .ofTable []
  workspace := ⟨.empty, []⟩

/-- A server that takes messages and hangs up when it is told goodbye. -/
private def hangingUp : Server := { onQuit := .error ⟨"SSLZeroReturnError", "gone", .system⟩ }

/-- A goodbye that fails does not cost the receipt. -/
theorem receipt_hangingUp :
    (∀ f, hangingUp.onQuit = .error f → f.family = .smtp ∨ f.family = .system) ∧
      ∃ receipt, (start letter {} hangingUp ⟨"now", "1", "here"⟩ ⟨30, 0⟩).result = .ok receipt := by
  have hquit : ∀ f, hangingUp.onQuit = .error f → f.family = .smtp ∨ f.family = .system := by
    intro f hf
    cases hf
    exact .inr rfl
  have htakes : hangingUp.Takes
      (called (start letter {} hangingUp ⟨"now", "1", "here"⟩ ⟨30, 0⟩).events) := by
    refine ⟨0, ?_, {}, rfl⟩
    cbv
  exact ⟨hquit, (((receipt_iff_taken letter {} hangingUp ⟨"now", "1", "here"⟩ ⟨30, 0⟩).2
    hquit).1.mpr htakes)⟩

end Delivery

end MailDispatch
