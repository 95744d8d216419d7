import Wattetheria.PaymentLedger
import Wattetheria.MissionBoard
import Wattetheria.NetworkClaims

/-!
# Agent events

What the node does with an event the swarm delivers, up to the point where the
brain decides: check the signature of the agent envelope, merge the payment it
carries into the ledger, apply the mission notice it carries to the board or to
the network claims.

An event has a signed part, the agent envelope, and an unsigned one, its payload;
each field is looked up along a chain of places in both.  The crates outside the
repository are the parameter `Crates`, about which nothing is assumed.
-/

namespace WattEvents

open WattText WattJson WattPayment WattLedger WattMission WattClaims

/-! ## Events -/

/-- `SwarmAgentEnvelope`; of the agent card only its hash is read. -/
structure SwarmAgentEnvelope where
  protocol : String
  (transportProfile sourceAgentId targetAgentId sourceNodeId targetNodeId capability
    sourceAgentCardHash : Option String)
  message : JsonValue
  extensions : Option JsonValue
  signature : Option String
  deriving DecidableEq

/-- `AgentEventEnvelope`, as far as it is read here. -/
structure AgentEventEnvelope where
  eventType : String
  (sourceNodeId targetAgentId : Option String)
  agentEnvelope : Option SwarmAgentEnvelope
  payload : JsonValue
  createdAt : UInt64
  deriving DecidableEq

/-- `SignedAgentEnvelopePayload`: what the signature of an envelope covers. -/
structure SignedAgentEnvelopePayload where
  protocol : String
  (transportProfile sourceAgentId targetAgentId sourceNodeId targetNodeId capability
    sourceAgentCardHash : Option String)
  messageJson : String
  extensionsJson : Option String

/-- `VerifiedAgentContext`, as far as it is set or read here. -/
structure VerifiedAgentContext where
  (agentDid controllerNodeId : String)
  sourceNodeId : Option String
  (envelopeVerified sourceNodeVerified controllerBindingVerified : Bool)
  verifiedAtMs : Nat
  deriving DecidableEq

/-- `PaymentAccountBindingProof`; `proof` stands for the parts only the wallet crate
reads. -/
structure PaymentAccountBindingProof where
  agentDid : String
  (canSign receiveOnly : Bool)
  paymentAccountProof : Option JsonValue
  (paymentAddress rail : String)
  network : Option String
  proof : JsonValue

/-- The functions of the crates outside the repository. -/
structure Crates where
  envelopeFromValue : JsonValue → Except String SwarmAgentEnvelope
  contextFromValue : JsonValue → Except String VerifiedAgentContext
  bindingFromValue : JsonValue → Except String PaymentAccountBindingProof
  paymentFromValue : JsonValue → Except String PaymentTransaction
  toJson : JsonValue → Except String String
  verifyPayload : SignedAgentEnvelopePayload → String → String → Except String Bool
  parseDid : String → Except String String
  validateBasic : VerifiedAgentContext → Except String Unit
  verifyPaymentAccountBindingProof : PaymentAccountBindingProof → Except String Unit
  wallet : Wallet

/-- `map_err(|error| format!("{label}: {error}"))`. -/
def describe {α : Type} (label : String) : Except String α → Except String α
  | .ok a => .ok a
  | .error text => .error s!"{label}: {text}"

/-- `map(str::trim).filter(|value| !value.is_empty())`. -/
def nonBlank (value : Option String) : Option String :=
  (value.map trim).filter fun value => !isEmpty value

variable (event : AgentEventEnvelope)

/-- A field of the signed message. -/
def AgentEventEnvelope.signed (key : String) : Option JsonValue :=
  event.agentEnvelope.bind fun envelope => envelope.message.get key

/-! ## Verification -/

variable (crates : Crates)

/-- A copy of the envelope in the payload must be the signed one. -/
def verifyPayloadAgentEnvelopeMatchesSigned (event : AgentEventEnvelope)
    (signedEnvelope : SwarmAgentEnvelope) : Except String Unit :=
  match event.payload.get "agent_envelope" with
  | none => .ok ()
  | some value => do
      let payloadEnvelope ← describe "invalid payload agent_envelope"
        (crates.envelopeFromValue value)
      bailIf (payloadEnvelope.sourceAgentId ≠ signedEnvelope.sourceAgentId
          ∨ payloadEnvelope.targetAgentId ≠ signedEnvelope.targetAgentId
          ∨ payloadEnvelope.sourceNodeId ≠ signedEnvelope.sourceNodeId
          ∨ payloadEnvelope.targetNodeId ≠ signedEnvelope.targetNodeId
          ∨ payloadEnvelope.capability ≠ signedEnvelope.capability
          ∨ payloadEnvelope.message ≠ signedEnvelope.message)
        "payload agent_envelope does not match signed agent_envelope"

/-- What the envelope's signature is over. -/
def signedPayload (envelope : SwarmAgentEnvelope) (messageJson : String)
    (extensionsJson : Option String) : SignedAgentEnvelopePayload where
  protocol := envelope.protocol
  transportProfile := envelope.transportProfile
  sourceAgentId := envelope.sourceAgentId
  targetAgentId := envelope.targetAgentId
  sourceNodeId := envelope.sourceNodeId
  targetNodeId := envelope.targetNodeId
  capability := envelope.capability
  sourceAgentCardHash := envelope.sourceAgentCardHash
  messageJson
  extensionsJson

/-- The context of an envelope that verified. -/
def envelopeContext (agentDid sourceNodeId : String) (nowMs : Int) : VerifiedAgentContext where
  agentDid
  controllerNodeId := sourceNodeId
  sourceNodeId := some sourceNodeId
  envelopeVerified := true
  sourceNodeVerified := true
  controllerBindingVerified := false
  verifiedAtMs := nowMs.toNat

variable (nowMs : Int)

/-- Verifies the envelope of an event, if it has one. -/
def verifyAgentEventSignedEnvelope (event : AgentEventEnvelope) :
    Except String (Option VerifiedAgentContext) :=
  match event.agentEnvelope with
  | none => .ok none
  | some envelope => do
      let signature ← okOr "agent_envelope.signature is required" (nonBlank envelope.signature)
      let sourceAgentId ← okOr "agent_envelope.source_agent_id is required"
        (nonBlank envelope.sourceAgentId)
      let sourceNodeId ← okOr "agent_envelope.source_node_id is required"
        (nonBlank envelope.sourceNodeId)
      bailIf (event.sourceNodeId.any fun node => node ≠ sourceNodeId)
        "event.source_node_id does not match signed agent_envelope.source_node_id"
      bailIf (event.targetAgentId.any fun target =>
          envelope.targetAgentId.any fun signedTarget => target ≠ signedTarget)
        "event.target_agent_id does not match signed agent_envelope.target_agent_id"
      verifyPayloadAgentEnvelopeMatchesSigned crates event envelope
      let messageJson ← describe "invalid agent_envelope.message" (crates.toJson envelope.message)
      let extensionsJson ← describe "invalid agent_envelope.extensions"
        (envelope.extensions.mapM crates.toJson)
      let verified ← describe "agent_envelope signature verification failed"
        (crates.verifyPayload (signedPayload envelope messageJson extensionsJson) signature
          sourceAgentId)
      bailIf (!verified) "agent_envelope signature verification failed"
      let agentDid ← describe "invalid source agent DID" (crates.parseDid sourceAgentId)
      let context := envelopeContext agentDid sourceNodeId nowMs
      describe "invalid verified context" (crates.validateBasic context)
      return some context

/-- The context the payload states. -/
def extractVerifiedAgentContext (event : AgentEventEnvelope) :
    Except String (Option VerifiedAgentContext) :=
  match event.payload.get "__verified_agent_context" with
  | none => .ok none
  | some value =>
    (describe "invalid __verified_agent_context payload" (crates.contextFromValue value)).map some

/-- The context must be verified and of the source. -/
def verifyContextAgainstPaymentEvent (context : VerifiedAgentContext) (sourceAgentDid : String)
    (envelopeSourceNodeId : Option String) : Except String Unit := do
  bailIf (!context.envelopeVerified || !context.sourceNodeVerified)
    "verified agent context must have envelope and source node verified"
  bailIf (context.agentDid ≠ sourceAgentDid)
    "verified agent context agent_did does not match agent_envelope.source_agent_id"
  bailIf (context.sourceNodeId.any fun contextNode =>
      envelopeSourceNodeId.any fun envelopeNode => contextNode ≠ envelopeNode)
    "verified agent context source_node_id does not match agent_envelope.source_node_id"

/-- The signed context, with which a stated one must agree. -/
def verifiedContextForEvent (event : AgentEventEnvelope) :
    Except String (Option VerifiedAgentContext) := do
  let signedContext ← verifyAgentEventSignedEnvelope crates nowMs event
  let payloadContext ← extractVerifiedAgentContext crates event
  match signedContext, payloadContext with
  | some context, some payloadContext =>
    verifyContextAgainstPaymentEvent payloadContext context.agentDid context.sourceNodeId
    return some context
  | some context, none => return some context
  | none, some _ =>
    throw "signed agent_envelope is required for verified agent context"
  | none, none => return none

/-! ## Payments -/

/-- The payment, from the signed message first. -/
def paymentValueFromEvent : Option JsonValue :=
  (event.signed "payment").or <| (event.payload.get "payment").or <|
    event.payload.pointer ["agent_envelope", "message", "payment"]

/-- A field of the payment message, signed ones first. -/
def paymentMessageValueFromEvent (key : String) : Option JsonValue :=
  (event.signed key).or <| (event.payload.pointer ["agent_envelope", "message", key]).or <|
    event.payload.get key

/-- `payment_envelope_field_from_event` with the fallback field of the payload's
envelope. -/
def paymentEnvelopeFieldFromEvent
    (field : SwarmAgentEnvelope → Option String) (key : String) : Option String :=
  (event.agentEnvelope.bind field).or <|
    (event.payload.pointer ["agent_envelope", key]).bind JsonValue.asStr

/-- The kind a text names. -/
def paymentMessageKindFromStr : String → Option PaymentMessageKind
  | "payment_request" => some .request
  | "payment_authorized" => some .authorized
  | "payment_submitted" => some .submitted
  | "payment_settled" => some .settled
  | "payment_rejected" => some .rejected
  | "payment_cancelled" => some .cancelled
  | _ => none

/-- The kind a status is announced by. -/
def paymentMessageKindFromStatus : PaymentStatus → Option PaymentMessageKind
  | .proposed => some .request
  | .authorized => some .authorized
  | .submitted => some .submitted
  | .settled => some .settled
  | .rejected => some .rejected
  | .cancelled => some .cancelled
  | .expired => none

/-- The stated kind, else that of the status. -/
def paymentMessageKindFromEvent (payment : PaymentTransaction) : Option PaymentMessageKind :=
  (((paymentMessageValueFromEvent event "message_kind").bind JsonValue.asStr).bind
    paymentMessageKindFromStr).or <|
      if event.eventType = "payment_request" then some .request
      else paymentMessageKindFromStatus payment.status

def paymentEventSourceAgentDid : Option String :=
  nonBlank (paymentEnvelopeFieldFromEvent event (·.sourceAgentId) "source_agent_id")

def paymentEventTargetAgentDid : Option String :=
  nonBlank ((paymentEnvelopeFieldFromEvent event (·.targetAgentId) "target_agent_id").or
    event.targetAgentId)

def paymentEventSourceNodeId : Option String :=
  nonBlank (paymentEnvelopeFieldFromEvent event (·.sourceNodeId) "source_node_id")

/-- The value states parties or a status. -/
def looksLikeFullPaymentPayload (value : JsonValue) : Bool :=
  (value.get "sender_did").isSome || (value.get "recipient_did").isSome
    || (value.get "status").isSome

/-- Whether the message must bind the sender's account. -/
def sourcePaymentAccountBindingRequired (kind : PaymentMessageKind)
    (payment : PaymentTransaction) (sourceAgentDid : String) : Bool :=
  if sourceAgentDid ≠ payment.senderDid then false
  else
    match kind with
    | .authorized | .submitted | .settled => true
    | .request => payment.senderAddress.any fun address => !isEmpty (trim address)
    | .rejected | .cancelled => false

variable (event : AgentEventEnvelope)

/-- The binding proof an event carries. -/
def extractPaymentAccountBinding : Except String (Option PaymentAccountBindingProof) :=
  match (event.signed "payment_account_binding").or
      (event.payload.pointer ["agent_envelope", "message", "payment_account_binding"]) with
  | none => .ok none
  | some value =>
    (describe "invalid payment_account_binding payload" (crates.bindingFromValue value)).map some

/-- Checks a binding proof against the payment. -/
def verifyInboundPaymentAccountBinding (proof : PaymentAccountBindingProof)
    (sourceAgentDid : String) (payment : PaymentTransaction) (requireSenderBinding : Bool) :
    Except String Unit := do
  bailIf (proof.agentDid ≠ sourceAgentDid)
    "payment_account_binding agent_did does not match agent_envelope.source_agent_id"
  describe "payment_account_binding" (crates.verifyPaymentAccountBindingProof proof)
  if !requireSenderBinding then return
  bailIf (!proof.canSign || proof.receiveOnly || proof.paymentAccountProof.isNone)
    "payment_account_binding must prove a signing payment account"
  let senderAddress ← okOr
    "payment sender_address is required when sender account binding is required"
    (nonBlank payment.senderAddress)
  bailIf (!eqIgnoreAsciiCase proof.paymentAddress senderAddress)
    "payment_account_binding payment_address does not match payment.sender_address"
  bailIf (!eqIgnoreAsciiCase (trim proof.rail) (trim payment.rail))
    "payment_account_binding rail does not match payment.rail"
  bailIf ((nonBlank payment.network).any fun paymentNetwork =>
      (nonBlank proof.network).all fun network => !eqIgnoreAsciiCase network paymentNetwork)
    "payment_account_binding network does not match payment.network"

/-- The binding of an inbound payment: verified if there is one, and there must be one
if the source is to prove its account. -/
def checkPaymentAccountBinding
    (sourceAgentDid : String) (payment : PaymentTransaction) (requireSenderBinding : Bool) :
    Except String Unit := do
  match ← extractPaymentAccountBinding crates event with
  | some binding =>
    verifyInboundPaymentAccountBinding crates binding sourceAgentDid payment requireSenderBinding
  | none =>
    bailIf requireSenderBinding
      "payment_account_binding is required for sender-signed payment state"

/-- The payment of an event, if it decodes. -/
def paymentFromEvent : Option PaymentTransaction :=
  (paymentValueFromEvent event).bind fun value => (crates.paymentFromValue value).toOption

/-- The checks of `sync_payment_event_to_ledger`: the message to merge and its
source, or nothing when the event carries no full payment. -/
def paymentMessageFromEvent (agentDid : String) (event : AgentEventEnvelope)
    (verifiedContext : Option VerifiedAgentContext) :
    Except String (Option (PaymentAgentMessage × String)) :=
  if event.eventType ≠ "payment_request" ∧ event.eventType ≠ "payment_update" then .ok none
  else
    match paymentValueFromEvent event with
    | none => .ok none
    | some value =>
      match crates.paymentFromValue value with
      | .error text =>
        if looksLikeFullPaymentPayload value then .error s!"invalid payment payload: {text}"
        else .ok none
      | .ok payment => do
          bailIf ((paymentEventTargetAgentDid event).any fun target => target ≠ agentDid)
            "payment event target_agent_id does not match local agent"
          bailIf (payment.senderDid ≠ agentDid && payment.recipientDid ≠ agentDid)
            "payment event does not include the local agent as a participant"
          let kind ← okOr "payment event has unsupported payment status"
            (paymentMessageKindFromEvent event payment)
          let sourceAgentDid ← okOr "payment event missing agent_envelope.source_agent_id"
            (paymentEventSourceAgentDid event)
          let context ← okOr "signed agent_envelope is required for payment event"
            verifiedContext
          verifyContextAgainstPaymentEvent context sourceAgentDid (paymentEventSourceNodeId event)
          let requireSenderBinding :=
            sourcePaymentAccountBindingRequired kind payment sourceAgentDid
          checkPaymentAccountBinding crates event sourceAgentDid payment requireSenderBinding
          let emittedAt : Int :=
            if event.createdAt.toNat < 2 ^ 63 then event.createdAt.toNat else 2 ^ 63 - 1
          return some ({ kind, payment, emittedAt }, sourceAgentDid)

/-! ## The node -/

/-- The domains of the local database that are written here. -/
structure LocalDb where
  paymentLedger : PaymentLedger
  missionBoard : MissionBoard
  networkMissionClaims : NetworkMissionClaimRegistry

/-- The state an event is applied to: who this node is, the ledger and the board it
holds in memory, and its database. -/
structure Node where
  agentDid : String
  paymentLedger : PaymentLedger
  missionBoard : MissionBoard
  localDb : LocalDb

/-- What the environment does during one call: the readings of the clock, the errors of the
database, and what the swarm makes of an announcement: its payload if it is an event of the
active Agent Space. -/
structure Ambient where
  (checkedAt now : Int)
  (loadError saveError : Option String)
  announcement : Except String (Option JsonValue)

variable (ambient : Ambient) (node : Node)

/-- Merges the payment of an event into the ledger. -/
def syncPaymentEventToLedger
    (event : AgentEventEnvelope) (verifiedContext : Option VerifiedAgentContext) :
    Except String Unit × Node :=
  match paymentMessageFromEvent crates node.agentDid event verifiedContext with
  | .error text => (.error text, node)
  | .ok none => (.ok (), node)
  | .ok (some (message, sourceAgentDid)) =>
    match node.paymentLedger.mergeRemoteAgentMessage crates.wallet message sourceAgentDid with
    | (.error text, ledger) => (.error text, { node with paymentLedger := ledger })
    | (.ok _, ledger) =>
      match ambient.saveError with
      | some text => (.error text, { node with paymentLedger := ledger })
      | none =>
        (.ok (), { node with
          paymentLedger := ledger
          localDb := { node.localDb with paymentLedger := ledger } })

/-! ## Mission notices -/

/-- A field of a mission notice, the payload's first. -/
def missionLifecycleValueFromEvent (key : String) : Option JsonValue :=
  (event.payload.pointer ["content", key]).or <|
    (event.payload.pointer ["topic_content", key]).or <|
    (event.payload.pointer ["output", key]).or <|
    (event.payload.pointer ["task_inputs", key]).or <|
    (event.signed key).or <|
    (event.payload.pointer ["agent_envelope", "message", key]).or <|
    event.payload.get key

/-- A text field of a notice. -/
def missionLifecycleStringFromEvent (key : String) : Option String :=
  nonBlank ((missionLifecycleValueFromEvent event key).bind JsonValue.asStr)

/-- A boolean field of a notice. -/
def missionLifecycleFlag (key : String) : Option Bool :=
  (missionLifecycleValueFromEvent event key).bind JsonValue.asBool

def topicLifecycleKind : Option String :=
  (missionLifecycleValueFromEvent event "kind").bind JsonValue.asStr

/-- The kind of a notice, by the type of the event. -/
def missionLifecycleKind : Option String :=
  match event.eventType with
  | "topic_message_requires_reply" => topicLifecycleKind event
  | "task_claim_decision_received" =>
    if missionLifecycleFlag event "approved" = some true then some "mission_claim_approved"
    else none
  | "task_completion_decision_received" =>
    if missionLifecycleFlag event "approved" = some true
        ∧ missionLifecycleFlag event "retry_requested" ≠ some true then some "mission_completed"
    else none
  | "task_settled_received" => some "mission_settled"
  | _ => none

/-- The status a kind stands for. -/
def missionLifecycleStatus : String → Option String
  | "mission_claim_approved" => some "claimed"
  | "mission_completed" => some "completed"
  | "mission_settled" => some "settled"
  | _ => none

/-- The `{:?}` form used in error texts. -/
def debugStatus : MissionStatus → String
  | .open => "Open"
  | .claimed => "Claimed"
  | .completed => "Completed"
  | .settled => "Settled"
  | .cancelled => "Cancelled"

/-- The agent a notice names as the claimer. -/
def claimedAs : Option String :=
  (missionLifecycleStringFromEvent event "claimer_agent_did").or
    (missionLifecycleStringFromEvent event "agent_did")

/-- The call `sync_mission_lifecycle_to_board` makes on the board. -/
def boardOutcome (board : MissionBoard) (ambient : Ambient) (missionId kind agentDid : String)
    (claimedAs : Option String) (result : Option JsonValue) :
    Except String (Option CivilMission) × MissionBoard :=
  if (claimedAs.any fun claimedAs => claimedAs ≠ agentDid) = true then
    let named := claimedAs.getD ""
    (.error s!"envelope signed by {agentDid} names {named} as the claimer", board)
  else
    match kind with
    | "mission_claim_approved" =>
      board.applyRemoteClaimApproved missionId agentDid ambient.checkedAt ambient.now
    | "mission_completed" =>
      board.applyRemoteCompleted missionId agentDid result ambient.checkedAt ambient.now
    | "mission_settled" =>
      match board.get missionId with
      | some mission =>
        if mission.status = .settled then (.ok (some mission), board)
        else
          (.error s!"mission {missionId} is {debugStatus mission.status}; settlement must go through the local settle route",
            board)
      | none => (.ok none, board)
    | _ => (.ok none, board)

/-- Applies a notice to the node's own board. -/
def syncMissionLifecycleToBoard (event : AgentEventEnvelope)
    (missionId kind signerAgentDid : String) : Except String Unit × Node :=
  if signerAgentDid = node.agentDid then (.ok (), node)
  else
    let result := missionLifecycleValueFromEvent event "result"
    match boardOutcome node.missionBoard ambient missionId kind signerAgentDid (claimedAs event)
        result with
    | (.error _, board) | (.ok none, board) => (.ok (), { node with missionBoard := board })
    | (.ok (some _), board) =>
      match ambient.saveError with
      | some text => (.error text, { node with missionBoard := board })
      | none =>
        (.ok (), { node with
          missionBoard := board
          localDb := { node.localDb with missionBoard := board } })

/-- The registry arm of `sync_mission_lifecycle_event_to_state`. -/
def syncMissionLifecycleToClaims (missionId status : String) : Except String Unit × Node :=
  let (updated, registry) := node.localDb.networkMissionClaims.updateStatusByMission missionId status
  match updated with
  | none => (.ok (), node)
  | some _ =>
    match ambient.saveError with
    | some text => (.error text, node)
    | none =>
      (.ok (), { node with
        localDb := { node.localDb with networkMissionClaims := registry.serialized } })

/-- The arms of `sync_mission_lifecycle_event_to_state`: the table that tracks the
mission takes the notice. -/
def syncMissionLifecycleByOwner (event : AgentEventEnvelope)
    (missionId kind status signerAgentDid : String) : Except String Unit × Node :=
  let boardExists := (node.missionBoard.get missionId).isSome
  let claimExists := node.localDb.networkMissionClaims.containsMission missionId
  match boardExists, claimExists with
  | true, false => syncMissionLifecycleToBoard ambient node event missionId kind signerAgentDid
  | false, true => syncMissionLifecycleToClaims ambient node missionId status
  -- tracked in both tables or in none: skipped
  | true, true | false, false => (.ok (), node)

/-- Applies a notice to the board or the network claims. -/
def syncMissionLifecycleEventToState
    (event : AgentEventEnvelope) (verifiedContext : Option VerifiedAgentContext) :
    Except String Unit × Node :=
  match missionLifecycleKind event with
  | none => (.ok (), node)
  | some kind =>
    match missionLifecycleStatus kind with
    | none => (.ok (), node)
    | some status =>
      if (event.targetAgentId.any fun target => target ≠ node.agentDid) = true then
        (.error "mission lifecycle event target_agent_id does not match local agent", node)
      else
        match verifiedContext with
        | none => (.error "signed agent_envelope is required for mission lifecycle event", node)
        | some signer =>
          match missionLifecycleStringFromEvent event "mission_id" with
          | none => (.ok (), node)
          | some missionId =>
            match ambient.loadError with
            | some text => (.error text, node)
            | none =>
              syncMissionLifecycleByOwner ambient node event missionId kind status signer.agentDid

/-! ## Delivery -/

/-- The types of events that must be signed. -/
def remoteEventRequiresSignedAgentEnvelope : Bool :=
  ["payment_request", "payment_update", "friend_request", "task_claim_received",
    "task_claim_decision_received", "task_result_received", "task_completion_decision_received",
    "task_settled_received", "topic_message_requires_reply"].contains event.eventType

/-- `receive_world_announcement`, as far as it changes the event. -/
def receiveWorldAnnouncement (ambient : Ambient) (event : AgentEventEnvelope) :
    Except String AgentEventEnvelope :=
  if event.eventType = "global_announcement_received" then
    ambient.announcement.map fun world =>
      world.elim event fun payload => { event with eventType := "world_event", payload }
  else .ok event

/-- `callback` between the announcements and the gate for direct messages: the envelope is
verified, a payment merged, a mission notice applied. -/
def takeIn (ambient : Ambient) (node : Node)
    (event : AgentEventEnvelope) : Except String Unit × Node :=
  match verifiedContextForEvent crates nowMs event with
  | .error text => (.error text, node)
  | .ok context =>
    if (remoteEventRequiresSignedAgentEnvelope event && context.isNone) = true then
      (.error "signed agent_envelope is required for remote agent event", node)
    else
      match syncPaymentEventToLedger crates ambient node event context with
      | (.error text, node) => (.error text, node)
      | (.ok (), node) => syncMissionLifecycleEventToState ambient node event context

/-- `callback`, up to the gate for direct messages. -/
def callback (ambient : Ambient) (node : Node)
    (event : AgentEventEnvelope) : Except String Unit × Node :=
  match receiveWorldAnnouncement ambient event with
  | .error text => (.error text, node)
  | .ok event =>
    -- any other announcement is answered here
    if event.eventType = "global_announcement_received" then (.ok (), node)
    else takeIn crates nowMs ambient node event

/-!
## A concrete node

Toy crates under which concrete deliveries evaluate: a message is written out as
its text fields, a signature is the signer's DID followed by the message, and a
payment is the toy payment with the id and the amount the value gives.
-/

def toyText : JsonValue → String
  | .object fields =>
    fields.foldl (fun text field => text ++ field.1 ++ "=" ++ (field.2.asStr.getD "") ++ ";") ""
  | .null | .bool _ | .number _ | .string _ | .array _ => ""

def toyCrates : Crates where
  envelopeFromValue _ := .error "not an envelope"
  contextFromValue _ := .error "not a context"
  bindingFromValue _ := .error "not a binding"
  paymentFromValue value := do
    let paymentId ← okOr "missing field payment_id" ((value.get "payment_id").bind JsonValue.asStr)
    let amount ← okOr "missing field amount" ((value.get "amount").bind JsonValue.asStr)
    return { toyPayment with paymentId, amount }
  toJson message := .ok (toyText message)
  verifyPayload signed signature publicKey :=
    .ok (signature == publicKey ++ ":" ++ signed.messageJson)
  parseDid did := .ok did
  validateBasic _ := .ok ()
  verifyPaymentAccountBindingProof _ := .ok ()
  wallet := toyWallet

/-- A signed envelope from `did:alice` to `did:bob`. -/
def toyEnvelope (message : JsonValue) : SwarmAgentEnvelope where
  protocol := "google_a2a"
  transportProfile := none
  sourceAgentId := some "did:alice"
  targetAgentId := some "did:bob"
  sourceNodeId := some "alice-node"
  targetNodeId := none
  capability := none
  sourceAgentCardHash := none
  message
  extensions := none
  signature := some ("did:alice:" ++ toyText message)

def toyEvent (eventType : String) (message payload : JsonValue) : AgentEventEnvelope where
  eventType
  sourceNodeId := some "alice-node"
  targetAgentId := some "did:bob"
  agentEnvelope := some (toyEnvelope message)
  payload
  createdAt := 10

def toyNode : Node where
  agentDid := "did:bob"
  paymentLedger := .empty
  missionBoard := .empty
  localDb := ⟨.empty, .empty, .empty⟩

def toyAmbient : Ambient := ⟨100, 100, none, none, .ok none⟩

end WattEvents
