import MailDispatch.Proofs.CommandLine.Loading
import MailDispatch.Proofs.Delivery.Receipt

/-!
# The delivery within a command

A command that delivers a task loads its files, takes the workspace, and makes the delivery; what it
prints follows from the result. Everything but the delivery leaves log records and nothing else, so
that the calls of the command are those of the delivery, and it has a receipt to print exactly if
one message was handed over and the server took it.
-/

namespace MailDispatch

namespace Delivery

variable {t : Task} {config : OperatorConfig} {server : Server} {stamp : Stamp}
  {answers : List SendAnswer} {events : List (Event Message)} {e : Failure}

/-- A failure that is no error of a file does not become one by being reported. -/
theorem not_isConfigFile_reportOf {kind? : Failure → Option FailureKind}
    {words : Failure → String} (h : ¬e.IsConfigFile) : ¬(reportOf kind? words e).IsConfigFile := by
  rw [reportOf]
  split
  · exact id
  · exact h

/-- The files of a command are loaded before its delivery begins, which cannot fail by an error of
them any more. -/
theorem Course.not_isConfigFile (h : Course t config server stamp answers events (.error e)) :
    ¬e.IsConfigFile := by
  cases h with
  | @unprepared _ e hprepare =>
    refine not_isConfigFile_reportOf fun hfile ↦ ?_
    obtain ⟨-, -, -, hforeseen, -⟩ := hprepare.of_error
    cases e with
    | configFile _ => exact hforeseen
    | _ => exact hfile
  | untransmitted _ _ htransmit =>
    refine not_isConfigFile_reportOf fun hfile ↦ ?_
    rcases transmission_fails htransmit with ⟨rfl, -⟩ | ⟨f, rfl, -⟩ <;> exact hfile

end Delivery

namespace CommandLine

variable {c : Context} {i : Invocation} {params : FilePath} {e : Failure}
  {o : Outcome Situation (Event Message) Failure Receipt}

/-! ## What a command does -/

/-- The delivery that a command makes, or why it does not come to it. -/
def delivery (c : Context) (i : Invocation) (params : FilePath) :
    Except Failure (Outcome Situation (Event Message) Failure Receipt) :=
  (load c.surroundings i params).result.bind fun (config, raw) ↦
    (Workspace.ofPath c.surroundings.tree c.surroundings.current (i.workspaceFor params)).map
      fun workspace ↦
        Delivery.run ⟨raw, c.secrets, workspace⟩ config c.server c.stamp (startSituation c i)

/-- What is printed about a failure, unless it takes the place of the status. -/
def printed : Failure → Except Failure Printed
  | .configFile text => .ok { status := 1, stderr := "Config error: " ++ text ++ "\n" }
  | .task f => .ok { status := 1, stderr := failureReport f ++ "\n" }
  | e => .error e

/-- What a command leaves behind that ends in this way after these events. -/
def ended (c : Context) (events : List (Event Message)) : Except Failure Printed → CommandOutcome
  | .ok p =>
    { exit := .ok p.status, stdout := p.stdout, stderr := logLines c.time events ++ p.stderr,
      events, surroundings := c.surroundings }
  | .error e =>
    { exit := .error e, stderr := logLines c.time events, events, surroundings := c.surroundings }

theorem printFailure_apply (e : Failure) (situation : Situation) :
    printFailure e situation = ⟨printed e, situation, []⟩ := by
  cases e <;> rfl

/-- What a command leaves behind whose delivery fails, or that does not come to it. -/
theorem deliverOutcome_of_error {situation : Situation} {events : List (Event Message)}
    (h : deliver c i params (startSituation c i) = ⟨.error e, situation, events⟩) :
    deliverOutcome c i params = ended c events (printed e) := by
  have hrescue : (deliver c i params).rescue printFailure (startSituation c i)
      = ⟨printed e, situation, events⟩ := by
    rw [Activity.rescue, h]
    simp only [printFailure_apply, List.append_nil]
  simp only [deliverOutcome, hrescue]
  cases printed e <;> rfl

theorem deliverOutcome_of_ok {situation : Situation} {events : List (Event Message)} {p : Printed}
    (h : deliver c i params (startSituation c i) = ⟨.ok p, situation, events⟩) :
    deliverOutcome c i params = ended c events (.ok p) := by
  have hrescue : (deliver c i params).rescue printFailure (startSituation c i)
      = ⟨.ok p, situation, events⟩ := by
    rw [Activity.rescue, h]
  simp only [deliverOutcome, hrescue]
  rfl

theorem prepare_load {config : OperatorConfig} {raw : Table}
    (h : (load c.surroundings i params).result = .ok (config, raw)) :
    (Work.prepare (load c.surroundings i params) : Work Message _) (startSituation c i)
      = ⟨.ok (config, raw), startSituation c i, loadEvents c i params⟩ := by
  rw [← h]
  rfl

/-- A command that does not come to its delivery has loaded files and nothing else. -/
theorem deliver_of_delivery_error (h : delivery c i params = .error e) :
    deliver c i params (startSituation c i)
      = ⟨.error e, startSituation c i, loadEvents c i params⟩ := by
  rw [delivery, bind_eq_error_iff] at h
  rcases h with hload | ⟨⟨config, raw⟩, hload, hworkspace⟩
  · exact deliver_of_load_error hload
  · rw [map_eq_error_iff] at hworkspace
    unfold deliver
    refine (Activity.chain_of_ok (prepare_load hload) _).trans ?_
    simp only [hworkspace]
    exact congrArg _ (List.append_nil _)

/-- A command that comes to its delivery makes it last, and prints its receipt. -/
theorem deliver_of_delivery_ok (h : delivery c i params = .ok o) :
    deliver c i params (startSituation c i)
      = ⟨o.result.map fun receipt ↦ { status := 0, stdout := receiptLine receipt }, o.state,
          loadEvents c i params ++ o.events⟩ := by
  obtain ⟨⟨config, raw⟩, hload, h⟩ := bind_eq_ok h
  obtain ⟨workspace, hworkspace, rfl⟩ := map_eq_ok_iff.mp h
  unfold deliver
  refine (Activity.chain_of_ok (prepare_load hload) _).trans ?_
  simp only [hworkspace]
  rw [show (Activity.ofResult (.ok workspace) : Work Message Workspace) = pure workspace from rfl,
    pure_bind, Activity.bind_pure_apply]

/-! ## Whether it comes to a delivery -/

/-- A workspace cannot be taken because of its path, and nothing is printed about that. -/
theorem printed_of_ofPath {t : FileTree} {current : Location} {p : FilePath}
    (h : Workspace.ofPath t current p = .error e) : printed e = .error e := by
  rw [Workspace.ofPath, map_eq_error_iff, FileTree.realLocation] at h
  split at h
  · cases h
    rfl
  split at h
  · cases h
    rfl
  · cases h

/-- A command that does not come to its delivery either prints an error of a file or ends by a
failure. -/
theorem printed_of_delivery_error (h : delivery c i params = .error e) :
    (∃ text, (load c.surroundings i params).result = .error (.configFile text) ∧
      e = .configFile text) ∨
      (∀ text, (load c.surroundings i params).result ≠ .error (.configFile text)) ∧
        printed e = .error e := by
  rw [delivery, bind_eq_error_iff] at h
  rcases h with hload | ⟨⟨config, raw⟩, hload, hworkspace⟩
  · by_cases hfile : e.IsConfigFile
    · cases e with
      | configFile text => exact .inl ⟨text, hload, rfl⟩
      | _ => exact hfile.elim
    · refine .inr ⟨fun text htext ↦ ?_, ?_⟩
      · cases hload.symm.trans htext
        exact hfile trivial
      · have hescape := ((loadEscape_iff _ _ _ _).mp ⟨hload, hfile⟩).printFailure_eq
        have happly := congrFun hescape (startSituation c i)
        rw [printFailure_apply] at happly
        exact congrArg Outcome.result happly
  · refine .inr ⟨fun text htext ↦ ?_, printed_of_ofPath (map_eq_error_iff.mp hworkspace)⟩
    cases hload.symm.trans htext

/-- Once it comes to a delivery, the files were loaded. -/
theorem load_of_delivery (h : delivery c i params = .ok o) (text : String) :
    (load c.surroundings i params).result ≠ .error (.configFile text) := by
  obtain ⟨x, hload, -⟩ := bind_eq_ok h
  rw [hload]
  exact nofun

theorem course_of_delivery (h : delivery c i params = .ok o) : ∃ t config,
    Delivery.Course t config c.server c.stamp c.server.onSend (milestones o.events) o.result := by
  obtain ⟨⟨config, raw⟩, -, h⟩ := bind_eq_ok h
  obtain ⟨workspace, -, rfl⟩ := map_eq_ok_iff.mp h
  exact ⟨_, config, Delivery.run_course _ config c.server c.stamp (startSituation c i)⟩

theorem called_eq_nil {events : List (Event Message)}
    (h : ∀ event ∈ events, ∃ r, event = .note (.record r)) : called events = [] := by
  refine List.filterMap_eq_nil_iff.mpr fun event hevent ↦ ?_
  obtain ⟨r, rfl⟩ := h event hevent
  rfl

theorem called_loadEvents (c : Context) (i : Invocation) (params : FilePath) :
    called (loadEvents c i params) = [] :=
  called_eq_nil fun _ ↦ exists_record_of_mem_loadEvents

/-! ## Messages handed over -/

/-- Before a delivery is begun, no message is handed over. -/
theorem not_sent_of_loadEvents (c : Context) (i : Invocation) (params : FilePath) :
    ¬((handedOver (called (loadEvents c i params))).length = 1 ∧
      c.server.Takes (called (loadEvents c i params))) := by
  rw [called_loadEvents]
  exact fun h ↦ Delivery.not_takes_of_nil rfl h.2

/-- A delivery has a receipt exactly if the one message that it handed over was taken. -/
theorem receipt_iff_sent (hd : delivery c i params = .ok o)
    (hquit : ∀ f, c.server.onQuit = .error f → f.family = .smtp ∨ f.family = .system) :
    (∃ receipt, o.result = .ok receipt) ↔
      (handedOver (called (loadEvents c i params ++ o.events))).length = 1 ∧
        c.server.Takes (called (loadEvents c i params ++ o.events)) := by
  obtain ⟨t, config, hcourse⟩ := course_of_delivery hd
  obtain ⟨haccounted, htaken⟩ := hcourse.accounts
  rw [called_milestones] at haccounted htaken
  rw [called_append, called_loadEvents, List.nil_append]
  have hignored : ∀ f, c.server.onQuit = .error f → f.isIgnoredOnQuit := by
    intro f hf
    rw [Fault.isIgnoredOnQuit, Bool.or_eq_true, decide_eq_true_iff, decide_eq_true_iff]
    exact hquit f hf
  constructor
  · rintro ⟨receipt, hr⟩
    obtain ⟨-, -, message, -, -, hone, -⟩ := haccounted.told receipt hr
    refine ⟨?_, (htaken hignored).mp ⟨receipt, hr⟩⟩
    rw [hone]
    rfl
  · rintro ⟨-, htakes⟩
    exact (htaken hignored).mpr htakes

/-- So a delivery that fails has not handed over a message that was taken. -/
theorem not_sent_of_error (hd : delivery c i params = .ok o) (hr : o.result = .error e)
    (hquit : ∀ f, c.server.onQuit = .error f → f.family = .smtp ∨ f.family = .system) :
    ¬((handedOver (called (loadEvents c i params ++ o.events))).length = 1 ∧
      c.server.Takes (called (loadEvents c i params ++ o.events))) := by
  rw [← receipt_iff_sent hd hquit, hr]
  exact nofun

end CommandLine

end MailDispatch
