import MailDispatch.Proofs.Delivery.Receipt

/-!
# Recipients that the server refuses

A server may take a message and still refuse some of its recipients. Receipts take no notice: a
receipt lists all recipients of its mail, and so it is true to the answer of the server exactly if
none of them was refused.
-/

namespace MailDispatch

/-- Whether the address of a recipient is among those that the server refused. -/
def Acceptance.refuses (a : Acceptance) (recipient : String) : Bool :=
  a.refusals.any fun refusal ↦ Address.ofText? recipient.toList == some refusal.recipient.toList

/-- A receipt is true to what a server answered about the recipients of a mail: it lists none that
was refused, and all others in their order. -/
structure Receipt.IsTrueTo (receipt : Receipt) (a : Acceptance) (recipients : List String) :
    Prop where
  noneRefused : ∀ r ∈ receipt.recipients, a.refuses r = false
  allReached : (recipients.filter fun r ↦ !a.refuses r).Sublist receipt.recipients

/-- A receipt with all recipients is true to an answer that refuses none of them. -/
theorem Receipt.isTrueTo_iff {receipt : Receipt} {a : Acceptance} {recipients : List String}
    (h : receipt.recipients = recipients) :
    receipt.IsTrueTo a recipients ↔ ∀ r ∈ recipients, a.refuses r = false := by
  constructor
  · intro htrue
    rw [← h]
    exact htrue.noneRefused
  · intro hnone
    constructor
    · rwa [h]
    · rw [h]
      exact List.filter_sublist

namespace Delivery

variable {t : Task} {c : OperatorConfig} {server : Server} {stamp : Stamp} {receipt : Receipt}

/-- A receipt lists the recipients of the task, and there is one only if the server took the one
message handed over. -/
theorem Course.lists {answers : List SendAnswer} {events : List (Event Message)}
    (h : Course t c server stamp answers events (.ok receipt)) :
    t.parameters.recipients.result = .ok receipt.recipients ∧
      (∃ message, handedOver (called events) = [message]) ∧
      ∃ a, (answers.headD {}).result = .ok a := by
  cases h with
  | @delivered before events p shown hprepare hshown htransmit =>
    obtain ⟨body, hmail, -⟩ := hprepare.exists_body
    obtain ⟨-, hrecipients, -⟩ := TaskParameters.mail_eq_ok hmail
    simp only [called_append, hprepare.of_ok.1, List.nil_append, called_cons_state, called_nil,
      List.append_nil]
    rcases transmission_hands_over htransmit with ⟨-, e, he⟩ | ⟨hone, -, htaken, -⟩
    · cases he
    · exact ⟨hrecipients, ⟨p.message, hone⟩, htaken rfl⟩

/-- **Refused recipients.** Behind every receipt there is one message handed over and the server's
answer to it. The receipt lists all recipients that the task resolves to, and so it is true to that
answer exactly if none of them was refused. -/
theorem receipt_isTrueTo_iff {s : Situation}
    (h : (run t c server stamp s).result = .ok receipt) :
    ∃ recipients a, t.parameters.recipients.result = .ok recipients ∧
      (∃ message, handedOver (called (run t c server stamp s).events) = [message]) ∧
      (s.answers.headD {}).result = .ok a ∧ receipt.recipients = recipients ∧
      (receipt.IsTrueTo a recipients ↔ ∀ r ∈ recipients, a.refuses r = false) := by
  have hcourse := run_course t c server stamp s
  rw [h] at hcourse
  obtain ⟨hrecipients, hmessage, a, ha⟩ := hcourse.lists
  rw [called_milestones] at hmessage
  exact ⟨receipt.recipients, a, hrecipients, hmessage, ha, rfl, Receipt.isTrueTo_iff rfl⟩

/-- A task for two recipients, one of them with a display name. -/
private def notice : Task where
  raw := [("host", .text "mx.task.org"), ("port", .int 25), ("from", .text "a@task.org"),
    ("subject", .text "Hi"), ("body", .text "Hello"),
    ("to", .list [.text "Bob <bob@task.org>", .text "carol@task.org"])]
  secrets := .ofTable []
  workspace := ⟨.empty, []⟩

/-- What a server answers that takes a message and refuses one recipient. -/
private def refusal (recipient : String) : Acceptance where
  refused := [⟨recipient, ⟨550, "unknown user"⟩⟩]

/-- The delivery of the notice while such a server has this answer left. -/
private def noticed (recipient : String) : Outcome Situation (Event Message) Failure Receipt :=
  run notice {} {} ⟨"now", "1", "here"⟩
    { thresholds := ⟨30, 0⟩, answers := [{ result := .ok (refusal recipient) }] }

private theorem exists_receipt_noticed (recipient : String) :
    ∃ receipt, (noticed recipient).result = .ok receipt :=
  exists_of_isOk (by cbv)

private theorem recipients_notice :
    notice.parameters.recipients.result = .ok ["Bob <bob@task.org>", "carol@task.org"] := by cbv

/-- The refusal of someone to whom the notice does not go leaves its receipt true. -/
theorem isTrueTo_refusal_of_other :
    ∃ receipt, (noticed "dave@task.org").result = .ok receipt ∧
      receipt.IsTrueTo (refusal "dave@task.org") receipt.recipients := by
  obtain ⟨receipt, hreceipt⟩ := exists_receipt_noticed "dave@task.org"
  obtain ⟨recipients, a, hrecipients, -, ha, rfl, htrue⟩ := receipt_isTrueTo_iff hreceipt
  cases ha
  have hbob : (refusal "dave@task.org").refuses "Bob <bob@task.org>" = false := by cbv
  have hcarol : (refusal "dave@task.org").refuses "carol@task.org" = false := by cbv
  refine ⟨receipt, hreceipt, htrue.mpr ?_⟩
  rw [Except.ok.inj (hrecipients.symm.trans recipients_notice)]
  exact List.forall_mem_cons.mpr ⟨hbob, List.forall_mem_singleton.mpr hcarol⟩

/-- The receipt for the notice lists a recipient that the server refused. -/
theorem not_isTrueTo_refusal_of_recipient :
    ∃ receipt, (noticed "bob@task.org").result = .ok receipt ∧
      notice.parameters.recipients.result = .ok ["Bob <bob@task.org>", "carol@task.org"] ∧
      receipt.recipients = ["Bob <bob@task.org>", "carol@task.org"] ∧
      ¬receipt.IsTrueTo (refusal "bob@task.org") ["Bob <bob@task.org>", "carol@task.org"] := by
  obtain ⟨receipt, hreceipt⟩ := exists_receipt_noticed "bob@task.org"
  have hcourse := run_course notice {} {} ⟨"now", "1", "here"⟩
    { thresholds := ⟨30, 0⟩, answers := [{ result := .ok (refusal "bob@task.org") }] }
  rw [show (run notice {} {} _ _).result = .ok receipt from hreceipt] at hcourse
  have hlisted := Except.ok.inj (hcourse.lists.1.symm.trans recipients_notice)
  have hbob : (refusal "bob@task.org").refuses "Bob <bob@task.org>" = true := by cbv
  refine ⟨receipt, hreceipt, recipients_notice, hlisted, fun htrue ↦ ?_⟩
  have hnone := htrue.noneRefused "Bob <bob@task.org>" (by rw [hlisted]; exact List.mem_cons_self)
  exact absurd (hbob.symm.trans hnone) (by decide)

end Delivery

end MailDispatch
