import Wattetheria.AgentEvents
import Wattetheria.ServiceNetClient

/-!
# The service-agent bridge

The A2A endpoint a node opens for the service agents it publishes.  A caller's request
carries an envelope the caller has signed; the bridge verifies it, compares the request
with the signed message, refuses an envelope it has taken before, and hands the request to
the agent: as a prompt to the node's own runtime, or as an A2A message to a customized
agent.  What the node's publisher state answers for an agent id is part of the call.  The
replay cache is one for the process.
-/

namespace WattBridge

open WattText WattJson WattJsonText WattSigning WattReplay WattEvents
open WattServiceNet (i64TryFrom)
open JsonValue (asStr asArray asU64 asObject asBool)

/-! ## Envelopes -/

/-- The caller's card. -/
structure SwarmSourceAgentCard where
  agentId : String
  nodeId : Option String
  cardHash : String
  issuedAt : UInt64
  card : JsonValue
  signature : Option String
  deriving DecidableEq

/-- `SwarmAgentEnvelope` with the whole agent card. -/
structure CallerEnvelope extends SwarmAgentEnvelope where
  sourceAgentCard : Option SwarmSourceAgentCard
  cardHash_eq : sourceAgentCardHash = sourceAgentCard.map (·.cardHash)
  deriving DecidableEq

/-- The functions of the crates outside the repository. -/
structure BridgeCrates (Part : Type) extends DocumentCrates where
  /-- the numbers `serde_json` prints -/
  displayNumbers : NumberText
  /-- `serde_json::from_value::<SwarmAgentEnvelope>` -/
  envelopeFromValue : JsonValue → Except String CallerEnvelope
  /-- `serde_json::from_str::<Value>` -/
  parseJson : String → Except String JsonValue
  /-- `serde_json::from_slice::<Value>` -/
  parseJsonBytes : List UInt8 → Except String JsonValue
  /-- `serde_json::from_value::<Part>` -/
  partFromValue : JsonValue → Except String Part
  /-- `Part::data` -/
  dataPart : JsonValue → Part

variable {Part : Type} (crates : BridgeCrates Part) (value : JsonValue)

/-- `serde_json::to_string` on a value. -/
def displayText : String :=
  String.ofList (valueText crates.displayNumbers value)

/-- A field that is left out when it is `None`. -/
def optionalEntry (key : String) (value : Option String) : List (String × JsonValue) :=
  (value.map fun text => (key, JsonValue.string text)).toList

/-- `SignedAgentEnvelopePayload` as it is serialized. -/
def envelopePayload (p : SignedAgentEnvelopePayload) : JsonValue :=
  .object ([("protocol", .string p.protocol)] ++ optionalEntry "transport_profile" p.transportProfile
    ++ optionalEntry "source_agent_id" p.sourceAgentId
    ++ optionalEntry "target_agent_id" p.targetAgentId
    ++ optionalEntry "source_node_id" p.sourceNodeId
    ++ optionalEntry "target_node_id" p.targetNodeId ++ optionalEntry "capability" p.capability
    ++ optionalEntry "source_agent_card_hash" p.sourceAgentCardHash
    ++ [("message_json", .string p.messageJson)] ++ optionalEntry "extensions_json" p.extensionsJson)

variable (card : SwarmSourceAgentCard)

/-- `SignedSourceAgentCardPayload` as it is serialized. -/
def cardPayload : JsonValue :=
  .object ([("agent_id", .string card.agentId)] ++ optionalEntry "node_id" card.nodeId
    ++ [("card_hash", .string card.cardHash), ("issued_at", .number (.posInt card.issuedAt))])

/-- A signature over a value verifies; `label` names what is signed. -/
def checkSignature (label : String) (payload : JsonValue) (signature signer : String) :
    Except String Unit := do
  let verified ← describe (label ++ " signature verification failed")
    (verifyPayload crates.signing (.ok (crates.canonicalBytes payload)) signature signer)
  bailIf (!verified) (label ++ " signature verification failed")

/-- The card must be the caller's and signed by it. -/
def verifySourceAgentCard (sourceAgentId : String) : Except String Unit := do
  bailIf (card.agentId ≠ sourceAgentId)
    "A2A source_agent_card.agent_id must match source_agent_id"
  bailIf (card.cardHash ≠ crates.digestOf card.card)
    "A2A source_agent_card.card_hash does not match card"
  let signature ← okOr "A2A source_agent_card.signature is required" (nonBlank card.signature)
  checkSignature crates "A2A source_agent_card" (cardPayload card) signature sourceAgentId

/-- Decodes and verifies an envelope. -/
def verifiedAgentEnvelope : Except String CallerEnvelope := do
  let envelope ← describe "invalid A2A agent_envelope" (crates.envelopeFromValue value)
  let signature ← okOr "A2A agent_envelope.signature is required" (nonBlank envelope.signature)
  let sourceAgentId ← okOr "A2A agent_envelope.source_agent_id is required"
    (nonBlank envelope.sourceAgentId)
  let _ ← okOr "A2A agent_envelope.source_node_id is required" (nonBlank envelope.sourceNodeId)
  envelope.sourceAgentCard.toList.forM fun card => verifySourceAgentCard crates card sourceAgentId
  let payload := signedPayload envelope.toSwarmAgentEnvelope (displayText crates envelope.message)
    (envelope.extensions.map (displayText crates))
  checkSignature crates "A2A agent_envelope" (envelopePayload payload) signature sourceAgentId
  .ok envelope

/-! ## The fields of a request -/

/-- A field of the message, else of the request. -/
def messageField (params : JsonValue) (field : String) : Option JsonValue :=
  ((params.get "message").bind fun message => message.get field).or (params.get field)

def metadataValue (params : JsonValue) (key : String) : Option JsonValue :=
  (params.get "metadata").bind fun metadata => metadata.get key

/-- The envelope, under one of two places. -/
def agentEnvelope (params : JsonValue) : Except String (Option JsonValue) :=
  match (metadataValue params "agent_envelope").or
      (params.pointer ["extensions", "agent_envelope"]) with
  | none => .ok none
  | some (.string encoded) =>
    (describe "invalid encoded A2A agent_envelope" (crates.parseJson encoded)).map some
  | some value => .ok (some value)

def settlement (params : JsonValue) : Option JsonValue :=
  (metadataValue params "settlement").or (params.pointer ["extensions", "settlement"])

def skillId (params : JsonValue) : Option JsonValue :=
  (metadataValue params "skillId").or (params.get "skillId")

/-- The `returnImmediately` of a request's configuration. -/
def returnImmediately (params : JsonValue) : Option JsonValue :=
  params.pointer ["configuration", "returnImmediately"]

/-- `string_at` with a path of one key. -/
def stringAt (key : String) : Option String :=
  nonBlank ((value.get key).bind asStr)

/-- `value_at(params, ["message", "parts"])`. -/
def rawParts (params : JsonValue) : Option JsonValue :=
  (params.get "message").bind fun message => message.get "parts"

/-- The text of a request. -/
def extractMessageText (params : JsonValue) : String :=
  match (rawParts params).bind asArray with
  | none => (((params.get "message").bind fun message => stringAt message "text")).getD ""
  | some parts => "\n".intercalate (parts.filterMap fun part => stringAt part "text")

/-! ## The request against the signed message -/

variable (part : JsonValue)

/-- A part as it is compared: its text, else its data, else itself. -/
def normalizedPart : JsonValue :=
  match part.get "text", part.get "data" with
  | some text, _ => .object [("kind", .string "text"), ("text", text)]
  | none, some data => .object [("data", data), ("kind", .string "data")]
  | none, none => part

def normalizedRole (message : JsonValue) : String :=
  match (message.get "role").bind asStr with
  | some "ROLE_USER" => "user"
  | some "ROLE_AGENT" => "agent"
  | some other => other
  | none => ""

/-- The message as it is compared. -/
def normalizedRequestMessage : Option JsonValue → JsonValue
  | none => .null
  | some message => .object
      [("parts", .array ((((message.get "parts").bind asArray).getD []).map normalizedPart)),
       ("role", .string (normalizedRole message))]

def normalizedReturnImmediately (value : Option JsonValue) : JsonValue := value.getD (.bool false)

/-- The parameters that are compared, in the order of their keys. -/
def coreParams (contextId message returnImmediately settlement skillId taskId : JsonValue) :
    JsonValue :=
  .object
    [("contextId", contextId), ("message", message), ("returnImmediately", returnImmediately),
     ("settlement", settlement), ("skillId", skillId), ("taskId", taskId)]

def statedContextId (params : JsonValue) : JsonValue := (messageField params "contextId").getD .null

/-- The request as it is compared. -/
def actualCoreParams (params : JsonValue) : JsonValue :=
  coreParams (statedContextId params) (normalizedRequestMessage (params.get "message"))
    (normalizedReturnImmediately (returnImmediately params)) ((settlement params).getD .null)
    ((skillId params).getD .null) ((messageField params "taskId").getD .null)

def nonEmptyText (value : String) : Option String := nonBlank (some value)

/-- The text of a signed message. -/
def messageTextFromValue : Option String :=
  match value with
  | .string text => nonEmptyText text
  | .object _ => ["message", "text", "query", "prompt"].findSome? fun key =>
    ((value.get key).bind asStr).bind nonEmptyText
  | _ => none

/-- `Map::insert` on the fields of an object, which are in key order. -/
def insertField (key : String) (value : JsonValue) :
    List (String × JsonValue) → List (String × JsonValue)
  | [] => [(key, value)]
  | e :: fields =>
    if key < e.1 then (key, value) :: e :: fields
    else if e.1 = key then (key, value) :: fields
    else e :: insertField key value fields

/-- The x402 protocol of a settlement request that names none. -/
def withProtocol (fields : List (String × JsonValue)) : List (String × JsonValue) :=
  match (JsonValue.object fields).get "request" with
  | some (.object request) =>
    if ((JsonValue.object request).get "protocol").isSome then fields
    else insertField "request" (.object (insertField "protocol" (.string "x402") request)) fields
  | some .null | none =>
    insertField "request" (.object [("protocol", .string "x402")]) fields
  | some _ => fields

variable (signedMessage : JsonValue)

/-- `normalized_signed_settlement`; assigning a field of a value that is not an object panics. -/
def normalizedSignedSettlement : Except String JsonValue :=
  match signedMessage.get "settlement" with
  | none | some .null => .ok .null
  | some (.object fields) =>
    let fields :=
      if ((JsonValue.object fields).get "layer").isSome then fields
      else insertField "layer" (.string "web3") fields
    let rail := (((JsonValue.object fields).get "rail").bind asStr).map fun rail =>
      toAsciiLowercase (trim rail)
    let fields := rail.elim fields fun rail => insertField "rail" (.string rail) fields
    .ok (.object (if rail = some "x402" then withProtocol fields else fields))
  | some _ => .error "cannot access key \"layer\" in JSON value"

/-- The parts a caller must send for the message it has signed. -/
def expectedParts : List JsonValue :=
  let input := (signedMessage.get "input").getD .null
  let message := (((signedMessage.get "message").bind asStr).bind nonEmptyText).or
    (messageTextFromValue input)
  let parts :=
    (message.map fun message => JsonValue.object [("kind", .string "text"), ("text", .string message)]
      ).toList
    ++ (if input = .null then [] else [.object [("data", input), ("kind", .string "data")]])
  if parts.isEmpty then [.object [("data", .null), ("kind", .string "data")]] else parts

def signedContextId : JsonValue :=
  (signedMessage.get "context_id").getD .null

/-- `expected_a2a_core_params` with the context it is compared under. -/
def expectedA2aCoreParams (signedMessage contextId : JsonValue) : Except String JsonValue := do
  let settlement ← normalizedSignedSettlement signedMessage
  .ok (coreParams contextId
    (.object [("parts", .array (expectedParts signedMessage)), ("role", .string "user")])
    (normalizedReturnImmediately (signedMessage.get "return_immediately")) settlement
    ((signedMessage.get "skill_id").getD .null) ((signedMessage.get "task_id").getD .null))

/-- The context of a caller's session with an agent. -/
def derivedContextId (sourceAgentId publishedAgentId : String) : JsonValue :=
  .string ("wattetheria:servicenet:" ++ sourceAgentId ++ ":" ++ publishedAgentId
    ++ ":mainnet:watt-etheria")

/-- The context a request is compared under: the signed one, or the derived one where none is
signed and the request states it. -/
def comparedContextId (params : JsonValue) (envelope : CallerEnvelope)
    (publishedAgentId : String) : JsonValue :=
  let signed := signedContextId envelope.message
  if signed = .null then
    match envelope.sourceAgentId with
    | some sourceAgentId =>
      let derived := derivedContextId sourceAgentId publishedAgentId
      if statedContextId params = derived then derived else signed
    | none => signed
  else signed

/-- The request must be what was signed. -/
def validateA2aParamsMatchSignedMessage (params : JsonValue) (envelope : CallerEnvelope)
    (publishedAgentId : String) : Except String Unit := do
  let expected ← expectedA2aCoreParams envelope.message
    (comparedContextId params envelope publishedAgentId)
  bailIf (expected ≠ actualCoreParams params)
    "A2A request params do not match the signed agent_envelope.message"

/-! ## The validity and the replay of an envelope -/

def invocationMaxClockSkewMs : Int64 := 5 * 60 * 1000

def invocationMaxTtlMs : Nat := 5 * 60 * 1000

def invocationReplayCacheMaxEntries : Nat := 262144

/-- `INVOCATION_REPLAY_CACHE`: each key with the time it may be forgotten. -/
abbrev ReplayCache := Std.ExtTreeMap String Nat

/-- What the response is bound to. -/
structure InvocationSecurity where
  (requestNonce requestDigest : String)

/-- What `validate_signed_envelope_security` knows of an envelope before it asks the cache. -/
structure EnvelopeCheck where
  security : InvocationSecurity
  sourceAgentId : String
  expiresAtMs : UInt64

def requiredString (value : Option JsonValue) (name : String) : Except String String :=
  okOr ("A2A agent_envelope.extensions." ++ name ++ " is required")
    ((value.bind asStr).bind nonEmptyText)

def requiredTime (value : Option JsonValue) (name : String) : Except String UInt64 :=
  okOr ("A2A agent_envelope.extensions." ++ name ++ " is required") (value.bind asU64)

/-- The extensions of an envelope, if they are an object. -/
def extensionsObject (envelope : CallerEnvelope) : Option JsonValue :=
  envelope.extensions.filter fun extensions => extensions.asObject.isSome

/-- The checks of `validate_signed_envelope_security` that need no cache; `nowMs` is the clock. -/
def checkEnvelope (nowMs : Int64) (envelope : CallerEnvelope) : Except String EnvelopeCheck := do
  let extensions ← okOr "A2A agent_envelope.extensions is required" (extensionsObject envelope)
  let requestNonce ← requiredString (extensions.get "nonce") "nonce"
  let requestDigest ← requiredString (extensions.get "request_digest") "request_digest"
  let issuedAtMs ← requiredTime (extensions.get "issued_at_ms") "issued_at_ms"
  let expiresAtMs ← requiredTime (extensions.get "expires_at_ms") "expires_at_ms"
  bailIf (requestDigest ≠ crates.digestOf envelope.message)
    "A2A agent_envelope.extensions.request_digest does not match the signed message"
  let issuedAt ← okOr "A2A agent_envelope issued_at_ms is invalid" (i64TryFrom issuedAtMs)
  let expiresAt ← okOr "A2A agent_envelope expires_at_ms is invalid" (i64TryFrom expiresAtMs)
  bailIf (invocationMaxClockSkewMs < issuedAt - nowMs)
    "A2A agent_envelope issued_at_ms is too far in the future"
  bailIf (expiresAt ≤ issuedAt)
    "A2A agent_envelope expires_at_ms must be greater than issued_at_ms"
  bailIf (invocationMaxTtlMs < expiresAtMs.toNat - issuedAtMs.toNat)
    "A2A agent_envelope validity window exceeds five minutes"
  bailIf (expiresAt + invocationMaxClockSkewMs < nowMs) "A2A agent_envelope has expired"
  let sourceAgentId ← okOr "verified envelope should have source_agent_id" envelope.sourceAgentId
  .ok { security := { requestNonce, requestDigest }, sourceAgentId, expiresAtMs }

/-- Under which an envelope is remembered. -/
def cacheKey (dataDir publishedAgentId sourceAgentId requestNonce : String) : String :=
  dataDir ++ ":" ++ publishedAgentId ++ ":" ++ sourceAgentId ++ ":" ++ requestNonce

/-- The time an entry for this expiry may be forgotten; the sum saturates as a `u64` does. -/
def forgottenAt (expiresAtMs : UInt64) : Nat := min (2 ^ 64 - 1) (expiresAtMs.toNat + 300000)

/-- What the cache answers, as `validate_signed_envelope_security` returns it. -/
def recallError (security : InvocationSecurity) : Recall → Except String InvocationSecurity
  | .fresh => .ok security
  | .used => .error "A2A agent_envelope nonce has already been used; refusing replay"
  | .full => .error
      "A2A invocation replay cache is at capacity; retry through another node instance"

variable (dataDir : String)

/-- Checks an envelope's times and that it is new. -/
def validateSignedEnvelopeSecurity (nowMs : Int64) (cache : ReplayCache)
    (envelope : CallerEnvelope) (publishedAgentId : String) :
    Except String InvocationSecurity × ReplayCache :=
  match checkEnvelope crates nowMs envelope with
  | .error error => (.error error, cache)
  | .ok checked =>
    let (answer, cache) := sweepAndRecord (fun forgotten => decide (nowMs.toInt.toNat ≤ forgotten))
      (some invocationReplayCacheMaxEntries) cache
      (cacheKey dataDir publishedAgentId checked.sourceAgentId checked.security.requestNonce)
      (forgottenAt checked.expiresAtMs)
    (recallError checked.security answer, cache)

/-! ## Calls -/

/-- `ServiceAgentExecution`; the one protocol of a customized agent is A2A v1. -/
inductive ServiceAgentExecution where
  | wattetheriaRuntime
  | customizedAgent (customizedAgentUrl : String)
  deriving DecidableEq

/-- The fields of `ServiceNetPublisherRegistration` that are read here. -/
structure PublisherRegistration where
  agentId : String
  execution : ServiceAgentExecution
  deriving DecidableEq

/-- A call of the A2A endpoint.  `localAgent` is what `validate_local_service_agent` finds in the
node's publisher state and identity store. -/
structure A2aCall where
  (pathAgentId authorization encodedAgentEnvelope : Option String)
  body : JsonValue
  localAgent : String → Except String PublisherRegistration

variable (call : A2aCall)

def A2aCall.params : JsonValue := (call.body.get "params").getD .null

/-- The agent a call is for: that of the path, or that of the envelope; they must agree. -/
def publishedAgentId (envelope : CallerEnvelope) :
    Except String { agentId : String // envelope.targetAgentId = some agentId } := do
  let agentId ← okOr "target Service Agent id is required"
    (call.pathAgentId.or envelope.targetAgentId)
  if h : envelope.targetAgentId = some agentId then .ok ⟨agentId, h⟩
  else .error "A2A target agent does not match signed agent_envelope.target_agent_id"

/-- What a call has shown before the replay cache is asked. -/
structure Prepared where
  envelope : CallerEnvelope
  publishedAgentId : String
  registration : PublisherRegistration
  targets : envelope.targetAgentId = some publishedAgentId
  deriving DecidableEq

/-- `send_message` up to `validate_signed_envelope_security`. -/
def prepareSendMessage : Except String Prepared := do
  bailIf (isEmpty (trim (extractMessageText call.params))) "A2A message text is required"
  let value ← agentEnvelope crates call.params
  let value ← okOr "A2A agent_envelope is required" value
  let envelope ← verifiedAgentEnvelope crates value
  let ⟨publishedAgentId, targets⟩ ← publishedAgentId call envelope
  let registration ← call.localAgent publishedAgentId
  validateA2aParamsMatchSignedMessage call.params envelope publishedAgentId
  .ok { envelope, publishedAgentId, registration, targets }

/-- The envelope in the header. -/
def decodeAgentEnvelopeHeader (encoded : Option String) : Except String JsonValue := do
  let encoded ← okOr "x-wattetheria-agent-envelope header is required" (nonBlank encoded)
  let bytes ← describe "decode x-wattetheria-agent-envelope" (crates.signing.base64Decode encoded)
  describe "parse x-wattetheria-agent-envelope" (crates.parseJsonBytes bytes)

/-- The operations on tasks. -/
inductive TaskMethod where
  | getTask
  | listTasks
  | cancelTask
  | subscribeToTask

/-- The field of a request under the name the signed message gives it; null if it is missing. -/
def copyField (params : JsonValue) (key field : String) : String × JsonValue :=
  (key, (params.get field).getD .null)

variable (method : TaskMethod)

/-- `task_operation_envelope_message`; `label` is the method as the caller spells it. -/
def taskOperationEnvelopeMessage (label : String) (params : JsonValue) : Except String JsonValue :=
  let taskId := okOr ("A2A " ++ label ++ " id is required") (stringAt params "id")
  match method with
  | .getTask => do
      let taskId ← taskId
      .ok (.object [copyField params "history_length" "historyLength",
        ("operation", .string "GetTask"), ("task_id", .string taskId)])
  | .listTasks => .ok (.object
      [copyField params "context_id" "contextId", copyField params "history_length" "historyLength",
       copyField params "include_artifacts" "includeArtifacts",
       ("operation", .string "ListTasks"),
       copyField params "page_size" "pageSize",
       copyField params "page_token" "pageToken",
       copyField params "status" "status",
       copyField params "status_timestamp_after" "statusTimestampAfter"])
  | .cancelTask => do
      let taskId ← taskId
      .ok (.object [("operation", .string "CancelTask"), ("task_id", .string taskId)])
  | .subscribeToTask => do
      let taskId ← taskId
      .ok (.object [("operation", .string "SubscribeToTask"), ("task_id", .string taskId)])

/-- `validate_task_invocation` up to `validate_signed_envelope_security`. -/
def prepareTask (label : String) (call : A2aCall) : Except String Prepared := do
  let value ← decodeAgentEnvelopeHeader crates call.encodedAgentEnvelope
  let envelope ← verifiedAgentEnvelope crates value
  let ⟨publishedAgentId, targets⟩ ← publishedAgentId call envelope
  let registration ← call.localAgent publishedAgentId
  bailIf (registration.execution = .wattetheriaRuntime)
    "A2A Task operations require Customized Agent execution; Wattetheria Runtime uses the internal invocation flow"
  let expectedMessage ← taskOperationEnvelopeMessage method label call.params
  bailIf (envelope.message ≠ expectedMessage)
    "A2A Task request does not match agent_envelope.message"
  .ok { envelope, publishedAgentId, registration, targets }

/-- `handle_a2a` up to `validate_signed_envelope_security`. -/
def prepare : Except String Prepared :=
  match ((call.body.get "method").bind asStr).getD "" with
  | "SendMessage" | "message/send" => prepareSendMessage crates call
  | "GetTask" => prepareTask crates .getTask "GetTask" call
  | "tasks/get" => prepareTask crates .getTask "tasks/get" call
  | "ListTasks" | "tasks/list" => prepareTask crates .listTasks "ListTasks" call
  | "CancelTask" => prepareTask crates .cancelTask "CancelTask" call
  | "tasks/cancel" => prepareTask crates .cancelTask "tasks/cancel" call
  | "SubscribeToTask" | "tasks/subscribe" =>
    prepareTask crates .subscribeToTask "SubscribeToTask" call
  | _ => .error "unsupported A2A method"

/-- `handle_a2a` up to the point where the call is let in. -/
def checkCall (nowMs : Int64) (cache : ReplayCache) (call : A2aCall) :
    Except String (Prepared × InvocationSecurity) × ReplayCache :=
  match prepare crates call with
  | .error error => (.error error, cache)
  | .ok prepared =>
    let (verdict, cache) := validateSignedEnvelopeSecurity crates dataDir nowMs cache
      prepared.envelope prepared.publishedAgentId
    (verdict.map fun security => (prepared, security), cache)

/-! ## What the agent is given -/

/-- The text of `bridge_prompt` before the parts. -/
def promptHead (caller callerPublicId message : String) : String :=
  "You are the published Wattetheria ServiceNet agent. Return strict JSON object \x7b\"message\":\"...\"\x7d. Caller agent DID: "
    ++ caller ++ ". Caller public id: " ++ callerPublicId ++ ". User message: " ++ message
    ++ ". A2A parts: "

/-- What the node's own runtime is asked. -/
def bridgePrompt (params : JsonValue) (message : String) (envelope : CallerEnvelope) : String :=
  promptHead (envelope.sourceAgentId.getD "unknown")
      ((envelope.extensions.bind fun value => stringAt value "caller_public_id").getD "unknown")
      message
    ++ displayText crates ((rawParts params).getD .null)

/-- The fields of the A2A crate's `SendMessageRequest` that are set from the request. -/
structure SendMessageRequest (Part : Type) where
  parts : List Part
  (contextId taskId : Option String)
  (skillId settlement : Option JsonValue)
  returnImmediately : Option Bool
  deriving DecidableEq

/-- One part as A2A v1 has it. -/
def a2aV1Part : Except String Part :=
  describe "convert A2A v1 message part" (crates.partFromValue (part.remove "kind"))

/-- The parts of `a2a_v1_request`; without any, one part of null data. -/
def a2aV1Parts (params : JsonValue) : Except String (List Part) := do
  let parts ← (((params.pointer ["message", "parts"]).bind asArray).getD []).mapM
    (a2aV1Part crates)
  .ok (if parts.isEmpty then [crates.dataPart .null] else parts)

/-- What a customized agent is handed. -/
def a2aV1Request (params : JsonValue) : Except String (SendMessageRequest Part) := do
  let parts ← a2aV1Parts crates params
  .ok
    { parts
      contextId := (messageField params "contextId").bind asStr
      taskId := (messageField params "taskId").bind asStr
      skillId := skillId params
      settlement := settlement params
      returnImmediately := (returnImmediately params).bind asBool }

/-- What `execute_service_agent` gives the agent. -/
inductive Handed (Part : Type) where
  | prompt (text : String)
  | message (customizedAgentUrl : String) (authorization : Option String)
      (request : SendMessageRequest Part)
  deriving DecidableEq

/-- `execute_service_agent` up to the call of the agent. -/
def executeServiceAgent (registration : PublisherRegistration) (params : JsonValue)
    (messageText : String) (envelope : CallerEnvelope) (authorization : Option String) :
    Except String (Handed Part) :=
  match registration.execution with
  | .wattetheriaRuntime => .ok (.prompt (bridgePrompt crates params messageText envelope))
  | .customizedAgent url => do
      let request ← a2aV1Request crates params
      .ok (.message url authorization request)

end WattBridge
