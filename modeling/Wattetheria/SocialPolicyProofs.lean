import Wattetheria.SocialPolicy

/-!
# The decision log

Every outbound evaluation is to answer with the decision of the rules and to
leave one row in the log.  The rules always answer (`expected`), but the row
goes in under an id that only tells calls of different seconds apart: over a whole run,
every call is served exactly when every call finds its id free (`served_iff`).
-/

namespace WattPolicyLog

open WattRows WattRuns WattJournal WattSocial WattPolicy Program

/-! ## Runs of evaluations -/

/-- A call of one of the two evaluations. -/
inductive OutboundCall where
  | friendRequest (ownerPublicId targetPublicId : String) (targetNodeId : Option String) (now : Int)
  | directMessage (ownerPublicId targetPublicId : String) (targetNodeId : Option String) (now : Int)

namespace OutboundCall

/-- What a call runs. -/
def program : OutboundCall → Policy PolicyEvaluation
  | .friendRequest owner target node now =>
    evaluateOutboundFriendRequestPolicy owner target node now
  | .directMessage owner target node now => evaluateOutboundDmPolicy owner target node now

/-- What is evaluated. -/
def call : OutboundCall → PolicyCall
  | .friendRequest owner target node now => ⟨.friendRequestsOutbound, owner, target, node, now⟩
  | .directMessage owner target node now => ⟨.directMessagesOutbound, owner, target, node, now⟩

def pending : OutboundCall → Store → Bool
  | .friendRequest owner target _ _ => hasPendingRequest owner target
  | .directMessage _ _ _ _ => fun _ => false

lemma program_eq (c : OutboundCall) : c.program = evaluateOutbound c.call c.pending := by
  cases c <;> rfl

end OutboundCall

/-- What happens to the store: an evaluation, or anything else that changes the
relationships or the rules. -/
inductive PolicyEvent where
  | evaluate (c : OutboundCall)
  | elsewhere (social : Store) (policyRules : Table PolicyRule)

variable (s : PolicyStore)

def step : PolicyEvent → PolicyStore
  | .evaluate c => after c.program s
  | .elsewhere social policyRules => { s with social, policyRules }

variable (c : OutboundCall)

/-- The rules a call is decided by: those of its owner, the defaults included. -/
def currentRules : List PolicyRule :=
  rulesForOwner ((after (ensureDefaultPolicyRules c.call.ownerPublicId c.call.now)
    s).listPolicyRules none) c.call.ownerPublicId

/-- The decision of the current rules on the current facts. -/
def expected : PolicyEvaluation :=
  evaluate (currentRules s c) (policyContext c.call (c.pending s.social) s.social)

/-- The call returns that decision, and the log has one more row. -/
def Served : Prop :=
  result c.program s = .ok (expected s c) ∧ (after c.program s).decisionLogs.rows
      = s.decisionLogs.rows ++ [decisionLog c.call (expected s c)]

/-- No earlier decision is logged under the id of this one. -/
def FreshId : Prop :=
  ∀ row ∈ s.decisionLogs.rows, row.decisionId ≠ decisionId c.call (expected s c)

/-! ## The default rules -/

section Defaults

variable {ownerPublicId : String} {now : Int}

/-- A statement on the rules. -/
def OnRules (w : PolicyWrite) : Prop := ∃ rule, w = .upsertPolicyRule rule

lemma onRules_upserts (rules : List PolicyRule) : AllWrites OnRules (forEach rules fun rule =>
      (write (.upsertPolicyRule rule) : Policy Unit)) :=
  allWrites_forEach fun rule _ => allWrites_write ⟨rule, rfl⟩

variable (existing : List PolicyRule)

lemma onRules_disableLegacy :
    AllWrites OnRules (disableLegacyDuplicatePendingDefault ownerPublicId existing now) := by
  unfold disableLegacyDuplicatePendingDefault
  dsimp only
  split
  · exact allWrites_pure ()
  · exact allWrites_ite (allWrites_pure ()) (allWrites_write ⟨_, rfl⟩)

lemma onRules_ensureDefaultPolicyRules :
    AllWrites OnRules (ensureDefaultPolicyRules ownerPublicId now) := by
  refine allWrites_read_bind fun store => allWrites_bind ?_ fun _ =>
    allWrites_read_bind fun _ => allWrites_pure _
  unfold addDefaultRules
  refine allWrites_ite (onRules_upserts _) ?_
  exact allWrites_bind (onRules_disableLegacy _) fun _ => onRules_upserts _

lemma result_disableLegacy (s : PolicyStore) :
    result (disableLegacyDuplicatePendingDefault ownerPublicId existing now) s = .ok () := by
  unfold disableLegacyDuplicatePendingDefault
  dsimp only
  split
  · rfl
  · split
    · rfl
    · rfl

/-- Adding the default rules always succeeds … -/
lemma result_ensureDefaultPolicyRules (ownerPublicId : String) (now : Int) (s : PolicyStore) :
    ∃ rules, result (ensureDefaultPolicyRules ownerPublicId now) s = .ok rules := by
  unfold ensureDefaultPolicyRules
  rw [result_read_bind]
  refine ⟨_, (result_bind_ok (a := ()) ?_).trans rfl⟩
  unfold addDefaultRules
  dsimp only
  split
  · exact result_forEach_write _ _ _
  · exact (result_bind_ok (result_disableLegacy _ s)).trans (result_forEach_write _ _ _)

/-- … and leaves the relationships and the log alone. -/
lemma keeps_ensureDefaultPolicyRules (s : PolicyStore) :
    (after (ensureDefaultPolicyRules ownerPublicId now) s).social = s.social
      ∧ (after (ensureDefaultPolicyRules ownerPublicId now) s).decisionLogs = s.decisionLogs := by
  constructor
  · refine view_after ?_ onRules_ensureDefaultPolicyRules s
    rintro s w ⟨rule, rfl⟩
    rfl
  · refine view_after ?_ onRules_ensureDefaultPolicyRules s
    rintro s w ⟨rule, rfl⟩
    rfl

end Defaults

/-! ## One call -/

variable {s : PolicyStore} {c : OutboundCall} {log : PolicyDecisionLog}

/-- The store once the rules are there. -/
abbrev withDefaults (s : PolicyStore) (c : OutboundCall) : PolicyStore :=
  after (ensureDefaultPolicyRules c.call.ownerPublicId c.call.now) s

lemma decisionLogs_withDefaults (s : PolicyStore) (c : OutboundCall) :
    (withDefaults s c).decisionLogs = s.decisionLogs := (keeps_ensureDefaultPolicyRules s).2

/-- The expected decision, logged. -/
abbrev loggedDecision (s : PolicyStore) (c : OutboundCall) : Policy PolicyEvaluation :=
  appendPolicyDecisionLog (decisionLog c.call (expected s c)) >>= fun _ => pure (expected s c)

lemma program_apply (s : PolicyStore) (c : OutboundCall) :
    result c.program s = result (loggedDecision s c) (withDefaults s c)
      ∧ after c.program s = after (loggedDecision s c) (withDefaults s c) := by
  obtain ⟨rules, hrules⟩ :=
    result_ensureDefaultPolicyRules c.call.ownerPublicId c.call.now s
  rw [c.program_eq]
  unfold evaluateOutbound
  rw [result_bind_ok hrules, after_bind_ok hrules, result_read_bind, after_read_bind,
    (keeps_ensureDefaultPolicyRules s).1]
  exact ⟨rfl, rfl⟩

/-- A row under a free id is inserted … -/
lemma append_of_fresh (h : ∀ row ∈ s.decisionLogs.rows, row.decisionId ≠ log.decisionId) :
    result (appendPolicyDecisionLog log) s = .ok ()
      ∧ (after (appendPolicyDecisionLog log) s).decisionLogs.rows
        = s.decisionLogs.rows ++ [log] := by
  have hfree : (s.decisionLogs.rows.any fun row => row.decisionId = log.decisionId) = false := by
    rw [List.any_eq_false]
    intro row hrow
    simpa using h row hrow
  unfold appendPolicyDecisionLog
  rw [result_read_bind, after_read_bind, hfree]
  exact ⟨rfl, Table.rows_upsert_of_fresh h⟩

/-- … and one under a taken id is not. -/
lemma append_of_taken (h : ∃ row ∈ s.decisionLogs.rows, row.decisionId = log.decisionId) :
    (∃ text, result (appendPolicyDecisionLog log) s = .error (.storage text))
      ∧ after (appendPolicyDecisionLog log) s = s := by
  obtain ⟨row, hrow, hid⟩ := h
  have htaken : (s.decisionLogs.rows.any fun row => row.decisionId = log.decisionId) = true :=
    List.any_eq_true.mpr ⟨row, hrow, decide_eq_true hid⟩
  unfold appendPolicyDecisionLog
  rw [result_read_bind, after_read_bind, htaken]
  exact ⟨⟨_, rfl⟩, rfl⟩

lemma served_of_fresh (h : FreshId s c) : Served s c := by
  obtain ⟨hresult, hafter⟩ := program_apply s c
  rw [FreshId, ← decisionLogs_withDefaults s c] at h
  have happend : result (appendPolicyDecisionLog (decisionLog c.call (expected s c)))
      (withDefaults s c) = .ok () ∧ _ := append_of_fresh h
  obtain ⟨hok, hrows⟩ := happend
  constructor
  · rw [hresult]
    exact result_bind_ok hok
  · rw [hafter, after_bind_ok hok, after_pure, hrows, decisionLogs_withDefaults]

lemma refused_of_taken (h : ¬ FreshId s c) : (∃ text, result c.program s = .error (.storage text))
      ∧ (after c.program s).decisionLogs = s.decisionLogs := by
  obtain ⟨hresult, hafter⟩ := program_apply s c
  have htaken : ∃ row ∈ (withDefaults s c).decisionLogs.rows,
      row.decisionId = (decisionLog c.call (expected s c)).decisionId := by
    rw [FreshId, ← decisionLogs_withDefaults s c] at h
    push Not at h
    exact h
  obtain ⟨⟨text, herror⟩, hsame⟩ := append_of_taken htaken
  constructor
  · rw [hresult]
    exact ⟨text, result_bind_error herror⟩
  · rw [hafter, after_bind_error herror, hsame, decisionLogs_withDefaults]

lemma served_iff_fresh : Served s c ↔ FreshId s c := by
  refine ⟨fun hserved => ?_, served_of_fresh⟩
  by_contra hfresh
  obtain ⟨text, herror⟩ := (refused_of_taken hfresh).1
  exact nomatch hserved.1.symm.trans herror

/-! ## The whole run -/

/-- **EVERY CALL IS SERVED**, whatever happens to the relationships and the rules in
between, exactly when every call finds its id free in the log. -/
theorem served_iff (s : PolicyStore) (events : List PolicyEvent) :
    (∀ done c rest, events = done ++ .evaluate c :: rest → Served (run step s done) c)
      ↔ AllSteps step (fun s event => ∀ c, event = .evaluate c → FreshId s c) s events := by
  rw [allSteps_iff_split]
  constructor
  · rintro h done event rest hevents c rfl
    exact served_iff_fresh.mp (h done c rest hevents)
  · intro h done c rest hevents
    exact served_iff_fresh.mpr (h done (.evaluate c) rest hevents c rfl)

/-- Two messages to the same counterpart in one second: the second is refused. -/
theorem same_second_refused :
    let s : PolicyStore := ⟨.empty, .empty, .empty⟩
    let c : OutboundCall := .directMessage "alice" "bob" (some "node-bob") 100
    result c.program s = .ok (expected s c) ∧ result c.program (after c.program s)
        = .error (.storage ("append policy decision log: "
            ++ "UNIQUE constraint failed: policy_decision_logs.decision_id"))
      ∧ (after c.program (after c.program s)).decisionLogs.rows.length = 1 := by
  decide +kernel

end WattPolicyLog
