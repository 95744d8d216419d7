import Wattetheria.RustText
import Wattetheria.StepRuns

/-!
# Approvals and the decisions they justify (`kernel-core/src/brain/policy_engine.rs`)

A high-risk capability is allowed only under a grant, and a grant comes from a
pending request that someone approved. The grant keeps the request's subject and
capability as patterns and drops its trust level, so a decision traces back to an
approval of the same texts and trust only where no other approved text matches.
-/

namespace WattGrants

open WattRuns List

/-! ## The engine -/

/-- How far a subject is trusted. -/
inductive TrustLevel
  | trusted | verified | untrusted
  deriving DecidableEq

/-- How long a grant lasts. -/
inductive GrantScope
  | once | session | permanent
  deriving DecidableEq

/-- What an approval leaves. -/
structure CapabilityGrant where
  grantId : String
  createdAt : Int
  (approvedBy subjectPattern capabilityPattern : String)
  scope : GrantScope
  sessionId : Option String
  deriving DecidableEq

/-- A subject asks for a capability. -/
structure CapabilityRequest where
  requestId : String
  timestamp : Int
  subject : String
  trust : TrustLevel
  capability : String
  deriving DecidableEq

/-- Allowed, or to be approved. -/
inductive DecisionKind
  | allowed | deniedPendingApproval

/-- The answer to a request. -/
structure PolicyDecision where
  decision : DecisionKind
  reason : String
  (requestId grantId : Option String)

/-- Grants and pending requests. -/
structure PolicyState where
  grants : List CapabilityGrant
  pending : List CapabilityRequest

/-- The engine, with the baseline set of each trust level. -/
structure PolicyEngine where
  sessionId : String
  base : TrustLevel → List String
  state : PolicyState

variable (capability : String)

/-- The part of a capability before its first colon. -/
def baseOf : String :=
  String.ofList (capability.toList.takeWhile (· != ':'))

variable (base : TrustLevel → List String)

/-- The trust level has the capability. -/
def isAllowed (trust : TrustLevel) (capability : String) : Bool :=
  (base trust).contains capability || (base trust).contains (baseOf capability)

/-- Needs a grant at any trust level. -/
def isHighRisk : Bool :=
  ["proc.exec", "wallet.sign", "wallet.send", "fs.write", "net.outbound", "oracle.publish",
    "p2p.publish"].contains (baseOf capability)

/-- Equal, or a beginning before `*`. -/
def matchesPattern (pattern value : String) : Bool :=
  if pattern = "*" then true
  else if pattern.toList.getLast? = some '*' then
    pattern.toList.dropLast.isPrefixOf value.toList
  else pattern == value

namespace PolicyEngine

variable (engine : PolicyEngine) (request : CapabilityRequest)

/-- The first grant that matches. -/
def findMatchingGrant : Option CapabilityGrant :=
  engine.state.grants.find? fun grant =>
    matchesPattern grant.subjectPattern request.subject
      && matchesPattern grant.capabilityPattern request.capability
      && (grant.scope != .session || grant.sessionId == some engine.sessionId)

/-- Judge a request; `id` and `now` are what a fresh id and the clock would give. -/
def evaluate (id : String) (now : Int) : PolicyDecision × PolicyEngine :=
  match engine.findMatchingGrant request with
  | some grant =>
    (⟨.allowed, "approved_by_grant", none, some grant.grantId⟩,
      if grant.scope = .once then
        { engine with state.grants := engine.state.grants.filter (·.grantId != grant.grantId) }
      else engine)
  | none =>
    if isAllowed engine.base request.trust request.capability && !isHighRisk request.capability then
      (⟨.allowed, "allowed_by_baseline_policy", none, none⟩, engine)
    else
      match engine.state.pending.find? fun pending =>
          pending.subject == request.subject && pending.capability == request.capability
            && pending.trust == request.trust with
      | some existing =>
        (⟨.deniedPendingApproval, "pending_existing_approval", some existing.requestId, none⟩,
          engine)
      | none =>
        let pending := { request with
          requestId := if WattText.isEmpty request.requestId then id else request.requestId
          timestamp := if request.timestamp = 0 then now else request.timestamp }
        (⟨.deniedPendingApproval, "approval_required", some pending.requestId, none⟩,
          { engine with state.pending := engine.state.pending ++ [pending] })

/-- Approve the first pending request of an id; the grant comes with that request. -/
def approvePending (requestId approvedBy : String) (scope : GrantScope) (id : String)
    (now : Int) : Except String (CapabilityRequest × CapabilityGrant × PolicyEngine) :=
  match engine.state.pending.find? (·.requestId == requestId) with
  | none => .error "pending request not found"
  | some request =>
    let grant := ⟨id, now, approvedBy, request.subject, request.capability, scope,
      if scope = .session then some engine.sessionId else none⟩
    .ok (request, grant, { engine with state :=
      ⟨engine.state.grants ++ [grant], engine.state.pending.eraseP (·.requestId == requestId)⟩ })

/-- `retain`, with an error if nothing goes. -/
def retain {α : Type} (list : List α) (keep : α → Bool) (text : String) : Except String (List α) :=
  if (list.filter keep).length = list.length then .error text else .ok (list.filter keep)

def rejectPending (requestId : String) : Except String PolicyEngine := do
  let pending ← retain engine.state.pending (·.requestId != requestId) "pending request not found"
  return { engine with state.pending := pending }

def revokeGrant (grantId : String) : Except String PolicyEngine := do
  let grants ← retain engine.state.grants (·.grantId != grantId) "grant not found"
  return { engine with state.grants := grants }

end PolicyEngine

/-! ## Runs -/

/-- A call of the engine. -/
inductive Op
  | evaluate (request : CapabilityRequest) (id : String) (now : Int)
  | approve (requestId approvedBy : String) (scope : GrantScope) (id : String) (now : Int)
  | reject (requestId : String)
  | revoke (grantId : String)

/-- What happened: approvals and revocations that succeeded, decisions that allowed. -/
inductive Entry
  | approved (request : CapabilityRequest) (grant : CapabilityGrant)
  | revoked (grantId : String)
  | allowed (request : CapabilityRequest) (grantId : Option String)
  deriving DecidableEq

def Entry.grantId : Entry → Option String
  | approved _ grant => some grant.grantId
  | revoked grantId => some grantId
  | allowed _ grantId => grantId

/-- The engine and what happened so far. -/
structure Run where
  engine : PolicyEngine
  history : List Entry

variable (run : Run)

/-- One call, noted in the history. -/
def step : Op → Run
  | .evaluate request id now =>
    match run.engine.evaluate request id now with
    | (⟨.allowed, _, _, grantId⟩, engine) => ⟨engine, run.history ++ [.allowed request grantId]⟩
    | (_, engine) => { run with engine }
  | .approve requestId approvedBy scope id now =>
    match run.engine.approvePending requestId approvedBy scope id now with
    | .ok (request, grant, engine) => ⟨engine, run.history ++ [.approved request grant]⟩
    | .error _ => run
  | .reject requestId =>
    match run.engine.rejectPending requestId with
    | .ok engine => { run with engine }
    | .error _ => run
  | .revoke grantId =>
    match run.engine.revokeGrant grantId with
    | .ok engine => ⟨engine, run.history ++ [.revoked grantId]⟩
    | .error _ => run

variable (sessionId : String)

def start (base : TrustLevel → List String) : Run :=
  ⟨⟨sessionId, base, [], []⟩, []⟩

/-- `Uuid::new_v4`: the id of a grant was not the id of a grant before. -/
def fresh : Op → Bool
  | .approve _ _ _ id _ => run.history.all fun entry => entry.grantId != some id
  | _ => true

/-- The requests that were approved. -/
def approvals (history : List Entry) : List CapabilityRequest :=
  history.filterMap fun
    | .approved request _ => some request
    | _ => none

/-- No text approved so far matches a high-risk request other than as its own text under
its own trust level. -/
def unmistaken : Op → Bool
  | .evaluate request _ _ =>
    isHighRisk request.capability = true → ∀ approved ∈ approvals run.history,
      matchesPattern approved.subject request.subject = true →
      matchesPattern approved.capability request.capability = true →
      approved.subject = request.subject ∧ approved.capability = request.capability
        ∧ approved.trust = request.trust
  | _ => true

/-- A grant not revoked and, for one use, not used. -/
def Stands (history : List Entry) (grant : CapabilityGrant) : Prop :=
  .revoked grant.grantId ∉ history
    ∧ (grant.scope = .once → ∀ request, .allowed request (some grant.grantId) ∉ history)

/-- A decision that allows rests on an approval whose grant stands, and for a high-risk
capability on one of the same subject, capability and trust, in this session if the
grant is for a session. -/
def Justified (history : List Entry) : Entry → Prop
  | .allowed request none => isHighRisk request.capability = false
  | .allowed request (some grantId) => ∃ approved grant, .approved approved grant ∈ history
      ∧ grant.grantId = grantId ∧ Stands history grant
      ∧ (grant.scope = .session → grant.sessionId = some sessionId)
      ∧ (isHighRisk request.capability = true → approved.subject = request.subject
        ∧ approved.capability = request.capability ∧ approved.trust = request.trust)
  | _ => True

/-! ## The invariant -/

/-- A grant that stands, with the request it was approved for. -/
def Backed (history : List Entry) (grant : CapabilityGrant) : Prop :=
  (∃ approved, .approved approved grant ∈ history ∧ approved.subject = grant.subjectPattern
    ∧ approved.capability = grant.capabilityPattern) ∧ Stands history grant

/-- What holds in every run. -/
structure Inv (sessionId : String) (run : Run) : Prop where
  session : run.engine.sessionId = sessionId
  backed : ∀ grant ∈ run.engine.state.grants, Backed run.history grant
  unique : (run.engine.state.grants.map (·.grantId)).Nodup
  justified : EachAfter (Justified sessionId) run.history

variable {sessionId : String} {run : Run} {history : List Entry} {grant : CapabilityGrant}
  {entry : Entry} {id : String} {now : Int}

/-- A grant stays backed past an entry that neither revokes it nor uses it up. -/
lemma Backed.snoc (h : Backed history grant) (hrevoked : entry ≠ .revoked grant.grantId)
    (hused : grant.scope = .once → ∀ request, entry ≠ .allowed request (some grant.grantId)) :
    Backed (history ++ [entry]) grant := by
  obtain ⟨⟨approved, hmem, htexts⟩, hlive, hunused⟩ := h
  refine ⟨⟨approved, mem_append_left _ hmem, htexts⟩, ?_, ?_⟩
  · rw [mem_append, mem_singleton]
    rintro (hold | hnew)
    · exact hlive hold
    · exact hrevoked hnew.symm
  · intro honce request
    rw [mem_append, mem_singleton]
    rintro (hold | hnew)
    · exact hunused honce request hold
    · exact hused honce request hnew.symm

/-- An entry that is right where it stands, with grants among those there were. -/
lemma Inv.record (h : Inv sessionId run) {state : PolicyState}
    (hentry : Justified sessionId run.history entry)
    (hsub : state.grants.Sublist run.engine.state.grants)
    (hkeeps : ∀ grant ∈ state.grants, entry ≠ .revoked grant.grantId
      ∧ (grant.scope = .once → ∀ request, entry ≠ .allowed request (some grant.grantId))) :
    Inv sessionId ⟨{ run.engine with state }, run.history ++ [entry]⟩ where
  session := h.session
  backed grant hmem :=
    (h.backed grant (hsub.subset hmem)).snoc (hkeeps grant hmem).1 (hkeeps grant hmem).2
  unique := h.unique.sublist (hsub.map _)
  justified := h.justified.snoc hentry

lemma inv_evaluate {request : CapabilityRequest}
    (h : Inv sessionId run) (hok : unmistaken run (.evaluate request id now) = true) :
    Inv sessionId (step run (.evaluate request id now)) := by
  rw [step, PolicyEngine.evaluate]
  cases hfound : run.engine.findMatchingGrant request with
  | some grant =>
    have hmem := mem_of_find?_eq_some hfound
    have htest := List.find?_some hfound
    rw [Bool.and_eq_true, Bool.and_eq_true] at htest
    obtain ⟨⟨hsubject, hcapability⟩, hscope⟩ := htest
    obtain ⟨⟨approved, happroved, hs, hc⟩, hstands⟩ := h.backed grant hmem
    have hjust : Justified sessionId run.history (.allowed request (some grant.grantId)) := by
      refine ⟨approved, grant, happroved, rfl, hstands, ?_, ?_⟩
      · intro hsession
        rw [hsession, h.session] at hscope
        simpa using hscope
      · intro hrisk
        exact of_decide_eq_true hok hrisk approved
          (mem_filterMap.mpr ⟨_, happroved, rfl⟩) (hs ▸ hsubject) (hc ▸ hcapability)
    by_cases honce : grant.scope = .once
    · simp only [honce, if_true]
      refine h.record hjust filter_sublist fun other hother => ⟨nofun, fun _ _ heq => ?_⟩
      have hid := (mem_filter.mp hother).2
      simp_all
    · simp only [honce, if_false]
      -- a grant for one use under the same id would be this one
      refine h.record hjust (List.Sublist.refl _) fun other hother =>
        ⟨nofun, fun hother_once _ heq => honce ?_⟩
      have hid : grant.grantId = other.grantId := by simpa using (Entry.allowed.inj heq).2
      rw [inj_on_of_nodup_map h.unique hmem hother hid]
      exact hother_once
  | none =>
    dsimp only
    by_cases hbase : (isAllowed run.engine.base request.trust request.capability
        && !isHighRisk request.capability) = true
    · rw [if_pos hbase]
      rw [Bool.and_eq_true, Bool.not_eq_true'] at hbase
      exact h.record hbase.2 (List.Sublist.refl _) fun _ _ => ⟨nofun, fun _ _ => nofun⟩
    · rw [if_neg hbase]
      cases run.engine.state.pending.find? fun pending =>
          pending.subject == request.subject && pending.capability == request.capability
            && pending.trust == request.trust with
      | some existing => exact h
      | none => exact ⟨h.session, h.backed, h.unique, h.justified⟩

lemma inv_approve {requestId approvedBy : String} {scope : GrantScope}
    (h : Inv sessionId run) (hfresh : fresh run (.approve requestId approvedBy scope id now) = true) :
    Inv sessionId (step run (.approve requestId approvedBy scope id now)) := by
  rw [step, PolicyEngine.approvePending]
  cases run.engine.state.pending.find? (·.requestId == requestId) with
  | none => exact h
  | some request =>
    have hfresh : ∀ entry ∈ run.history, entry.grantId ≠ some id := by simpa [fresh] using hfresh
    refine ⟨h.session, fun grant hmem => ?_, ?_, h.justified.snoc trivial⟩
    · rcases mem_append.mp hmem with hold | hnew
      · exact (h.backed grant hold).snoc nofun fun _ _ => nofun
      · cases mem_singleton.mp hnew
        refine ⟨⟨request, mem_concat_self, rfl, rfl⟩,
          fun hrevoked => ?_, fun _ request' hused => ?_⟩
        · exact hfresh _ ((mem_append.mp hrevoked).resolve_right (by simp)) rfl
        · exact hfresh _ ((mem_append.mp hused).resolve_right (by simp)) rfl
    · rw [map_append]
      refine nodup_append_comm.mp (nodup_cons.mpr ⟨fun hmem => ?_, h.unique⟩)
      obtain ⟨old, hold, heq⟩ := mem_map.mp hmem
      obtain ⟨⟨approved, happroved, -⟩, -⟩ := h.backed old hold
      exact hfresh _ happroved (congrArg some heq)

/-- **ONE STEP** keeps the invariant. -/
lemma inv_step (run : Run) (op : Op) (h : Inv sessionId run)
    (hok : fresh run op = true ∧ unmistaken run op = true) : Inv sessionId (step run op) := by
  cases op with
  | evaluate request id now => exact inv_evaluate h hok.2
  | approve requestId approvedBy scope id now => exact inv_approve h hok.1
  | reject requestId =>
    rw [step, PolicyEngine.rejectPending, PolicyEngine.retain]
    split_ifs with hsame
    · exact h
    · exact ⟨h.session, h.backed, h.unique, h.justified⟩
  | revoke grantId =>
    rw [step, PolicyEngine.revokeGrant, PolicyEngine.retain]
    split_ifs with hsame
    · exact h
    · refine h.record trivial filter_sublist fun grant hmem =>
        ⟨fun heq => ?_, fun _ _ => nofun⟩
      have hkept := (mem_filter.mp hmem).2
      simp [Entry.revoked.inj heq] at hkept

/-- **EVERY GRANT HAS ITS APPROVAL**: in every run from an empty state, if no text approved
before a high-risk request matches it other than as its own, each decision that allows is
justified by what happened before it. -/
theorem decisions_justified (sessionId : String) (base : TrustLevel → List String)
    (ops : List Op) (hfresh : AllSteps step (fun run op => fresh run op = true) (start sessionId base) ops)
    (hok : AllSteps step (fun run op => unmistaken run op = true) (start sessionId base) ops) :
    EachAfter (Justified sessionId) (WattRuns.run step (start sessionId base) ops).history := by
  have hstart : Inv sessionId (start sessionId base) :=
    ⟨rfl, fun _ hmem => (nomatch hmem), nodup_nil, eachAfter_nil⟩
  exact (inv_run inv_step hstart (hfresh.and hok)).justified

def toyRequest : CapabilityRequest := ⟨"r", 1, "agent:*", .trusted, "wallet.send:btc"⟩

/-- A request is approved for one use, and another one follows. -/
def toyOps (later : CapabilityRequest) : List Op :=
  [.evaluate toyRequest "" 1, .approve "r" "operator" .once "g" 2, .evaluate later "" 3]

theorem decisions_justified_approved : EachAfter (Justified "s")
    (WattRuns.run step (start "s" fun _ => []) (toyOps toyRequest)).history :=
  decisions_justified "s" _ (toyOps toyRequest) (by decide +kernel) (by decide +kernel)

/-- The same texts under no trust, or another agent, pass on the approval. -/
theorem allowed_by_another_approval :
    (¬ EachAfter (Justified "s") (WattRuns.run step (start "s" fun _ => [])
        (toyOps { toyRequest with trust := .untrusted })).history)
      ∧ ¬ EachAfter (Justified "s") (WattRuns.run step (start "s" fun _ => [])
        (toyOps { toyRequest with subject := "agent:eve" })).history := by
  have hlater : ∀ later, (WattRuns.run step (start "s" fun _ => []) (toyOps later)).history
        = [.approved toyRequest ⟨"g", 2, "operator", "agent:*", "wallet.send:btc", .once, none⟩,
          .allowed later (some "g")]
      ∧ isHighRisk later.capability = true
      ∧ ¬ (toyRequest.subject = later.subject ∧ toyRequest.trust = later.trust) →
      ¬ EachAfter (Justified "s")
        (WattRuns.run step (start "s" fun _ => []) (toyOps later)).history := by
    rintro later ⟨hlog, hrisk, hnot⟩ h
    obtain ⟨approved, grant, hmem, -, -, -, hsame⟩ := h [_] _ [] hlog
    cases mem_singleton.mp hmem
    exact hnot ⟨(hsame hrisk).1, (hsame hrisk).2.2⟩
  exact ⟨hlater _ (by decide +kernel), hlater _ (by decide +kernel)⟩

end WattGrants
