import MailDispatch.Composition
import MailDispatch.Proofs.Journal.Contract

/-!
# What a composed message consists of
-/

namespace MailDispatch

namespace Mail

variable {m : Mail} {w : Workspace} {stamp : Stamp} {message : Message}

theorem compose_eq_ok (h : (m.compose w stamp).result = .ok message) :
    ∃ parts, m.readAttachments w = .ok parts ∧ message = m.assemble stamp parts := by
  unfold compose at h
  obtain ⟨parts, hparts, h⟩ := Traced.bind_eq_ok h
  rw [Traced.result_monadLift] at hparts
  obtain ⟨-, -, h⟩ := Traced.bind_eq_ok h
  exact ⟨parts, hparts, (Except.ok.inj h).symm⟩

/-- Without attachments, nothing can go wrong. -/
theorem compose_of_no_attachments (h : m.attachments = []) (w : Workspace) (stamp : Stamp) :
    (m.compose w stamp).result = .ok (m.assemble stamp []) := by
  have hread : m.readAttachments w = .ok [] := by
    rw [readAttachments, h]
    rfl
  unfold compose
  rw [hread]
  rfl

theorem headerText_to (m : Mail) (stamp : Stamp) (parts : List Part) :
    (m.assemble stamp parts).headerText "To" = String.intercalate ", " m.recipients := by
  cases parts <;> rfl

end Mail

end MailDispatch
