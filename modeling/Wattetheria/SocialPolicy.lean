import Wattetheria.SocialServices

/-!
# Outbound policies

`policy::{rules, evaluator, bootstrap, decisions}` and
`application::policy_service` of the social crate: before a friend request or a
direct message leaves, the rules of its owner decide about it, and the decision
goes into a log.  A rule that is missing is added first.

The log is written by a plain `INSERT` under an id made of the owner, the target,
the decision, the rule and the time, so an id that is taken is a storage error.
-/

namespace WattPolicy

open WattText WattJson WattRows WattJournal WattSocial Program

/-! ## Rules and decisions -/

/-- What a rule is about. -/
inductive PolicyScope where
  | global
  | friendRequestsInbound
  | friendRequestsOutbound
  | directMessagesInbound
  | directMessagesOutbound
  | blocks
  deriving DecidableEq

/-- Its stored text. -/
def PolicyScope.text : PolicyScope → String
  | .global => "global"
  | .friendRequestsInbound => "friend_requests_inbound"
  | .friendRequestsOutbound => "friend_requests_outbound"
  | .directMessagesInbound => "direct_messages_inbound"
  | .directMessagesOutbound => "direct_messages_outbound"
  | .blocks => "blocks"

/-- What a rule does. -/
inductive PolicyRuleType where
  | rejectBlockedAgent
  | rejectDuplicatePendingRequest
  | rejectActiveFriendship
  | allowDirectMessageForFriends
  | denyDirectMessageWhenBlocked
  | denyDirectMessageWhenNotFriends
  deriving DecidableEq

/-- A stored rule. -/
structure PolicyRule where
  ruleId : String
  ownerPublicId : Option String
  ruleType : PolicyRuleType
  scope : PolicyScope
  (matcherJson configJson : JsonValue)
  priority : Int
  enabled : Bool
  (createdAt updatedAt : Int)

/-- The answer of a rule. -/
inductive PolicyDecision where
  | allow
  | deny
  deriving DecidableEq

/-- The decision and its grounds. -/
structure PolicyEvaluation where
  decision : PolicyDecision
  matchedRuleId : Option String
  reason : String
  contextJson : JsonValue
  deriving DecidableEq

/-- A row of the log. -/
structure PolicyDecisionLog where
  (decisionId ownerPublicId : String)
  scope : PolicyScope
  targetPublicId : String
  (targetNodeId ruleId : Option String)
  decision : PolicyDecision
  reason : String
  contextJson : JsonValue
  createdAt : Int

/-- What the rules look at. -/
structure PolicyEvaluationContext where
  scope : PolicyScope
  (ownerPublicId targetPublicId : String)
  targetNodeId : Option String
  (hasBlock hasActiveFriendship hasPendingRequest : Bool)

/-! ## The evaluator -/

/-- `(priority, rule_id)`, the order of the queries and of the evaluator. -/
def byPriority (a b : PolicyRule) : Prop :=
  a.priority < b.priority ∨ (a.priority = b.priority ∧ a.ruleId ≤ b.ruleId)

instance : DecidableRel byPriority := fun _ _ => inferInstanceAs (Decidable (_ ∨ _))

def ruleAppliesToScope (rule : PolicyRule) (scope : PolicyScope) : Bool :=
  rule.scope = .global || rule.scope = scope

/-- `if let Some(expected) = matcher.get(field).and_then(read) && …`: a field that is
missing or of another type asks for nothing. -/
def asks {α : Type} (read : JsonValue → Option α) (matcher : JsonValue) (field : String)
    (met : α → Bool) : Bool :=
  ((matcher.get field).bind read).all met

/-- `matcher_matches`; a matcher that is no object has no fields and matches. -/
def matcherMatches (matcher : JsonValue) (context : PolicyEvaluationContext) : Bool :=
  asks JsonValue.asStr matcher "target_public_id" (fun expected =>
      expected = context.targetPublicId)
    && asks JsonValue.asStr matcher "target_public_id_prefix" (fun start =>
      start.toList.isPrefixOf context.targetPublicId.toList)
    && asks JsonValue.asStr matcher "target_node_id" (fun expected =>
      context.targetNodeId = some expected)
    && asks JsonValue.asBool matcher "requires_blocked" (fun required =>
      context.hasBlock = required)
    && asks JsonValue.asBool matcher "requires_active_friendship" (fun required =>
      context.hasActiveFriendship = required)
    && asks JsonValue.asBool matcher "requires_pending_request" (fun required =>
      context.hasPendingRequest = required)

/-- What a rule decides. -/
def decisionForRuleType : PolicyRuleType → PolicyDecision
  | .allowDirectMessageForFriends => .allow
  | .rejectBlockedAgent | .rejectDuplicatePendingRequest | .rejectActiveFriendship
  | .denyDirectMessageWhenBlocked | .denyDirectMessageWhenNotFriends => .deny

/-- The reason it gives. -/
def defaultReasonForRuleType : PolicyRuleType → String
  | .rejectBlockedAgent => "blocked_agent"
  | .rejectDuplicatePendingRequest => "duplicate_pending_request"
  | .rejectActiveFriendship => "already_friends"
  | .allowDirectMessageForFriends => "active_friendship"
  | .denyDirectMessageWhenBlocked => "blocked"
  | .denyDirectMessageWhenNotFriends => "friendship_required"

variable (context : PolicyEvaluationContext)

/-- The context as it is logged. -/
def contextToJson : JsonValue :=
  .object
    [("has_active_friendship", .bool context.hasActiveFriendship),
      ("has_block", .bool context.hasBlock),
      ("has_pending_request", .bool context.hasPendingRequest),
      ("owner_public_id", .string context.ownerPublicId),
      ("scope", .string context.scope.text),
      ("target_node_id", (context.targetNodeId.map JsonValue.string).getD .null),
      ("target_public_id", .string context.targetPublicId)]

variable (ruleSet : List PolicyRule)

/-- The enabled rules of a scope, most urgent first. -/
def orderedRules (scope : PolicyScope) : List PolicyRule :=
  (ruleSet.filter fun rule => rule.enabled && ruleAppliesToScope rule scope).insertionSort
    byPriority

/-- `evaluate`: the first rule that matches decides. -/
def evaluate (context : PolicyEvaluationContext) : PolicyEvaluation :=
  match (orderedRules ruleSet context.scope).find? fun rule =>
      matcherMatches rule.matcherJson context with
  | some rule =>
    { decision := decisionForRuleType rule.ruleType
      matchedRuleId := some rule.ruleId
      reason := ((rule.configJson.get "reason").bind JsonValue.asStr).getD
        (defaultReasonForRuleType rule.ruleType)
      contextJson := contextToJson context }
  | none =>
    { decision := .allow
      matchedRuleId := none
      reason := "no_matching_rule"
      contextJson := contextToJson context }

/-! ## The default rules -/

variable (ownerPublicId : String)

/-- A default rule. -/
def defaultRule (now : Int) (name : String) (ruleType : PolicyRuleType)
    (scope : PolicyScope) (matcher config : String × JsonValue) (priority : Int) : PolicyRule where
  ruleId := ownerPublicId ++ ":" ++ name
  ownerPublicId := some ownerPublicId
  ruleType
  scope
  matcherJson := .object [matcher]
  configJson := .object [config]
  priority
  enabled := true
  createdAt := now
  updatedAt := now

/-- The rules every owner starts with. -/
def defaultPolicyRules (now : Int) : List PolicyRule :=
  [ defaultRule ownerPublicId now "reject-blocked-agent" .rejectBlockedAgent
      .friendRequestsOutbound ("requires_blocked", .bool true)
      ("reason", .string "blocked_agent") 10,
    defaultRule ownerPublicId now "reject-active-friendship" .rejectActiveFriendship
      .friendRequestsOutbound ("requires_active_friendship", .bool true)
      ("reason", .string "already_friends") 20,
    defaultRule ownerPublicId now "allow-direct-message-for-friends"
      .allowDirectMessageForFriends .directMessagesOutbound
      ("requires_active_friendship", .bool true)
      ("relationship", .string "active_friendship") 50,
    defaultRule ownerPublicId now "deny-direct-message-when-blocked"
      .denyDirectMessageWhenBlocked .directMessagesOutbound ("requires_blocked", .bool true)
      ("reason", .string "blocked") 30,
    defaultRule ownerPublicId now "deny-direct-message-when-not-friends"
      .denyDirectMessageWhenNotFriends .directMessagesOutbound
      ("requires_active_friendship", .bool false)
      ("reason", .string "friendship_required") 40 ]

/-! ## The tables -/

instance : Row PolicyRule String where
  key := PolicyRule.ruleId
  merge old new := { new with createdAt := old.createdAt }
  key_merge _ _ := rfl

-- a log row is only ever inserted
instance : Row PolicyDecisionLog String where
  key := PolicyDecisionLog.decisionId
  merge _ new := new
  key_merge _ _ := rfl

/-- The database as the policy service sees it: the relationship tables, which it only
reads, and its own two. -/
structure PolicyStore where
  social : Store
  policyRules : Table PolicyRule
  decisionLogs : Table PolicyDecisionLog

/-- A statement on the tables. -/
inductive PolicyWrite where
  | upsertPolicyRule (rule : PolicyRule)
  | insertDecisionLog (log : PolicyDecisionLog)

variable (store : PolicyStore)

/-- What it does. -/
def PolicyStore.apply : PolicyWrite → PolicyStore
  | .upsertPolicyRule rule => { store with policyRules := store.policyRules.upsert rule }
  | .insertDecisionLog log => { store with decisionLogs := store.decisionLogs.upsert log }

instance : Replay PolicyWrite PolicyStore := ⟨PolicyStore.apply⟩

/-- A program over the tables. -/
abbrev Policy (α : Type) : Type := Program PolicyStore PolicyWrite SocialError α

/-- `list_policy_rules`, of one owner or of all. -/
def PolicyStore.listPolicyRules (ownerPublicId : Option String) : List PolicyRule :=
  (store.policyRules.rows.filter fun rule =>
    ownerPublicId.isNone || rule.ownerPublicId = ownerPublicId).insertionSort byPriority

/-- `append_policy_decision_log`: the primary key must be free. -/
def appendPolicyDecisionLog (log : PolicyDecisionLog) : Policy Unit := do
  let store ← read
  if store.decisionLogs.rows.any fun row => row.decisionId = log.decisionId then
    ofExcept (.error (.storage ("append policy decision log: "
      ++ "UNIQUE constraint failed: policy_decision_logs.decision_id")))
  else write (.insertDecisionLog log)

/-! ## The service -/

variable (existing : List PolicyRule)

/-- Switches off a rule of older versions. -/
def disableLegacyDuplicatePendingDefault (now : Int) : Policy Unit :=
  let legacyRuleId := ownerPublicId ++ ":reject-duplicate-pending-request"
  match existing.find? fun rule => rule.ruleId = legacyRuleId && rule.enabled with
  | none => pure ()
  | some legacyRule =>
    if legacyRule.ruleType ≠ .rejectDuplicatePendingRequest
        || legacyRule.matcherJson ≠ .object [("requires_pending_request", .bool true)] then
      pure ()
    else
      write (.upsertPolicyRule { legacyRule with
          enabled := false
          updatedAt := now
          configJson :=
            .object [("reason", .string "legacy_duplicate_pending_request_disabled")] })

/-- The rules `ensure_default_policy_rules` stores: the defaults that are missing. -/
def addDefaultRules (now : Int) : Policy Unit :=
  let defaults := defaultPolicyRules ownerPublicId now
  if existing.isEmpty then forEach defaults fun rule => write (.upsertPolicyRule rule)
  else do
    disableLegacyDuplicatePendingDefault ownerPublicId existing now
    forEach (defaults.filter fun rule =>
        !existing.any fun existingRule => existingRule.ruleId = rule.ruleId)
      fun rule => write (.upsertPolicyRule rule)

/-- Adds the default rules that are missing. -/
def ensureDefaultPolicyRules (now : Int) : Policy (List PolicyRule) := do
  let existing := (← read).listPolicyRules (some ownerPublicId)
  addDefaultRules ownerPublicId existing now
  return (← read).listPolicyRules (some ownerPublicId)

def rulesForOwner (rules : List PolicyRule) (ownerPublicId : String) : List PolicyRule :=
  rules.filter fun rule => rule.ownerPublicId.isNone || rule.ownerPublicId = some ownerPublicId

/-- `text.replace(':', "_")`. -/
def underscored (text : String) : String :=
  String.ofList (text.toList.map fun c => if c = ':' then '_' else c)

def decisionFragment : PolicyDecision → String
  | .allow => "allow"
  | .deny => "deny"

/-- One call of the service: who, about whom, when. -/
structure PolicyCall where
  scope : PolicyScope
  (ownerPublicId targetPublicId : String)
  targetNodeId : Option String
  now : Int

variable (call : PolicyCall) (evaluation : PolicyEvaluation)

/-- The id a decision is logged under. -/
def decisionId : String :=
  let rule := underscored (evaluation.matchedRuleId.getD "no_rule")
  let decision := decisionFragment evaluation.decision
  s!"policy:{call.ownerPublicId}:{call.targetPublicId}:{decision}:{rule}:{call.now}"

/-- The row `append_decision_log` inserts. -/
def decisionLog : PolicyDecisionLog where
  decisionId := decisionId call evaluation
  ownerPublicId := call.ownerPublicId
  scope := call.scope
  targetPublicId := call.targetPublicId
  targetNodeId := call.targetNodeId
  ruleId := evaluation.matchedRuleId
  decision := evaluation.decision
  reason := evaluation.reason
  contextJson := evaluation.contextJson
  createdAt := call.now

def appendDecisionLog : Policy Unit :=
  appendPolicyDecisionLog (decisionLog call evaluation)

/-- The facts a call is decided on; only a friend request looks for a pending one. -/
def policyContext (hasPendingRequest : Bool) (store : Store) : PolicyEvaluationContext where
  scope := call.scope
  ownerPublicId := call.ownerPublicId
  targetPublicId := call.targetPublicId
  targetNodeId := call.targetNodeId
  hasBlock := (store.findBlock call.ownerPublicId call.targetPublicId).isSome
  hasActiveFriendship :=
    (store.findFriendship call.ownerPublicId call.targetPublicId).any fun friendship =>
      friendship.state = .active
  hasPendingRequest

variable (ownerPublicId targetPublicId : String)

/-- A request of the pair is pending. -/
def hasPendingRequest (store : Store) : Bool :=
  (store.listFriendRequests ownerPublicId).any fun request =>
    request.remotePublicId = targetPublicId && request.state = .pending

/-- Decides about a call and logs it. -/
def evaluateOutbound (pending : Store → Bool) : Policy PolicyEvaluation := do
  let _ ← ensureDefaultPolicyRules call.ownerPublicId call.now
  -- the rules are listed again, those of all owners
  let store ← read
  let rules := rulesForOwner (store.listPolicyRules none) call.ownerPublicId
  let evaluation := evaluate rules (policyContext call (pending store.social) store.social)
  appendDecisionLog call evaluation
  return evaluation

variable (targetNodeId : Option String)

/-- About a friend request. -/
def evaluateOutboundFriendRequestPolicy (now : Int) : Policy PolicyEvaluation :=
  evaluateOutbound ⟨.friendRequestsOutbound, ownerPublicId, targetPublicId, targetNodeId, now⟩
    (hasPendingRequest ownerPublicId targetPublicId)

/-- About a direct message. -/
def evaluateOutboundDmPolicy (now : Int) : Policy PolicyEvaluation :=
  evaluateOutbound ⟨.directMessagesOutbound, ownerPublicId, targetPublicId, targetNodeId, now⟩
    fun _ => false

end WattPolicy
