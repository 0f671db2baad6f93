import MailDispatch.Proofs.Message.LineBreaks

/-!
# The identifier of a message

The domain in a message's identifier is read from the sender after the sender was accepted and
trimmed. Since an accepted address is read in the same way before and after that, the domain is the
one that was accepted, and the name of the host is never used in its place.
-/

namespace MailDispatch

open Address (HasParts domainOf validate validate_eq_ok_iff)
open Text (isBlank)

/-- The identifier of a message names the domain that is read from its sender. -/
theorem Mail.value?_messageId {m : Mail} {w : Workspace} {stamp : Stamp} {message : Message}
    {domain : List Char} (hdomain : domainOf m.sender.toList = some domain)
    (h : (m.compose w stamp).result = .ok message) :
    message.headers.value? "Message-ID"
      = some ("<" ++ stamp.token ++ "@" ++ String.ofList domain ++ ">") := by
  have hid : m.messageId stamp = "<" ++ stamp.token ++ "@" ++ String.ofList domain ++ ">" := by
    rw [messageId, hdomain]
  obtain ⟨parts, -, rfl⟩ := compose_eq_ok h
  rw [← hid]
  cases parts <;> rfl

/-- **Accepted addresses.** What is accepted has no white space at its ends and is accepted again as
it is. It is read as one address, the same as before it was trimmed, with one at sign only and a
domain without white space behind it. So every message that is composed for a collected mail is
identified by the domain of its sender's address. -/
theorem accepted_read_again :
    (∀ (v : Value) (r : String), validate v = .ok r →
      (∀ c, r.toList.head? = some c → isBlank c = false) ∧
      (∀ c, r.toList.getLast? = some c → isBlank c = false) ∧
      validate (.text r) = .ok r ∧
      ∃ s localPart domain, v = .text s ∧
        HasParts s.toList localPart domain ∧ HasParts r.toList localPart domain) ∧
    ∀ (p : TaskParameters) (config : OperatorConfig) (body : String) (m : Mail),
      (p.mail config body).result = .ok m →
      ∃ localPart domain, HasParts m.sender.toList localPart domain ∧
        ∀ w stamp message, (m.compose w stamp).result = .ok message →
          message.headers.value? "Message-ID"
            = some ("<" ++ stamp.token ++ "@" ++ String.ofList domain ++ ">") := by
  refine ⟨fun v r h ↦ ?_, fun p config body m hm ↦ ?_⟩
  · obtain ⟨s, a, rfl, ha, rfl⟩ := validate_eq_ok_iff.mp h
    have htrim := Address.ofText?_trim ha
    obtain ⟨localPart, domain, hread⟩ := Address.exists_hasParts (Address.ofText?_eq_some.mp ha).2.1
    rw [String.toList_ofList]
    refine ⟨(Text.isBlank_ends_trim _).1, (Text.isBlank_ends_trim _).2, ?_,
      s, localPart, domain, rfl, hread _ ha, hread _ htrim⟩
    refine validate_eq_ok_iff.mpr ⟨_, a, rfl, ?_, ?_⟩
    · rwa [String.toList_ofList]
    · rw [String.toList_ofList, Text.trim_trim]
  · obtain ⟨-, -, hsender, -⟩ := TaskParameters.mail_eq_ok hm
    obtain ⟨a, ha⟩ := exists_ofText?_sender hsender
    obtain ⟨localPart, domain, hread⟩ := Address.exists_hasParts (Address.ofText?_eq_some.mp ha).2.1
    exact ⟨localPart, domain, hread _ ha,
      fun w stamp message ↦ Mail.value?_messageId (hread _ ha).domainOf⟩

/-- A task whose sender has a display name, a comment, and white space at both ends. -/
private def signed : TaskParameters where
  raw := [("from", .text "\x0bAlice (home) <alice@b.org> "), ("to", .text "b@c.org"),
    ("subject", .text "Hi")]
  secrets := .ofTable []

/-- An operator's endpoint, for tasks that bring none. -/
private def relay : OperatorConfig := ⟨{}, some { host := "mx.op.org", port := 587 }⟩

/-- The white space around the sender is taken away, and the sender is read as before. -/
theorem accepted_read_again_signed :
    validate (.text "\x0bAlice (home) <alice@b.org> ") = .ok "Alice (home) <alice@b.org>" ∧
      validate (.text "Alice (home) <alice@b.org>") = .ok "Alice (home) <alice@b.org>" ∧
      ∃ m, (signed.mail relay "Hello").result = .ok m ∧
        ∃ localPart domain, HasParts m.sender.toList localPart domain := by
  have hv : validate (.text "\x0bAlice (home) <alice@b.org> ")
      = .ok "Alice (home) <alice@b.org>" := by cbv
  have hmail : ∃ m, (signed.mail relay "Hello").result = .ok m := exists_of_isOk (by cbv)
  obtain ⟨m, hm⟩ := hmail
  obtain ⟨localPart, domain, hparts, -⟩ := accepted_read_again.2 signed relay "Hello" m hm
  exact ⟨hv, (accepted_read_again.1 _ _ hv).2.2.1, m, hm, localPart, domain, hparts⟩

end MailDispatch
