import Wattetheria.JsonText
import Wattetheria.PayloadSigning
import Wattetheria.PaymentTypes
import Wattetheria.ReplayWindow

/-!
# The ServiceNet client

`ServiceNetClient`: a caller sends a message, a task operation or a subscription to a
service agent, over the ServiceNet relay or directly to the agent's adapter, and takes the
answer when the service agent's signature covers it and its nonce was not seen before.

What an endpoint answers is an argument, and so are the readings of the two clocks during a
verification: `utc` in milliseconds, `instant` in nanoseconds of the monotonic clock.
-/

namespace WattServiceNet

open WattText WattJson WattJsonText WattSigning WattReplay WattPayment
open JsonValue (asStr asArray asU64)

/-! ## Requests and responses -/

/-- How a call is paid. -/
structure SettlementRequest where
  layer : SettlementLayer
  rail : String
  request : JsonValue
  deriving DecidableEq

/-- The fields of `ServiceNetInvokeRequest` that are read when the answer is back. -/
structure ServiceNetInvokeRequest where
  settlement : Option SettlementRequest
  agentEnvelope : Option JsonValue

def ServiceNetInvokeRequest.default : ServiceNetInvokeRequest where
  settlement := none
  agentEnvelope := none

/-- `ServiceNetServiceAgentSignature`. -/
structure ServiceAgentSignature where
  (protocol serviceDid agentId verificationMethod requestDigest : String)
  requestNonce : Option String
  (resultDigest nonce : String)
  issuedAtMs : UInt64
  signature : String
  deriving DecidableEq

/-- A response with its raw body. -/
structure ServiceNetInvokeResponse where
  (agentId status : String)
  (receiptId taskId contextId message : Option String)
  output : Option JsonValue
  settlement : Option SettlementRequest
  paymentReceipt : Option JsonValue
  serviceSignature : Option ServiceAgentSignature
  raw : JsonValue
  deriving DecidableEq

/-- The functions of the crates outside the repository. -/
structure ServiceNetCrates extends DocumentCrates where
  /-- `DidKey::public_key_multibase` -/
  publicKeyMultibase : String → String
  /-- the numbers `serde_json` prints -/
  displayNumbers : NumberText
  /-- `serde_json::from_str::<ServiceNetServiceAgentSignature>` -/
  signatureFromStr : String → Option ServiceAgentSignature

variable (crates : ServiceNetCrates)

/-! ## The signature of a response -/

/-- An optional text; a missing one may also be null. -/
def optionalField : Option JsonValue → Option (Option String)
  | none | some .null => some none
  | some (.string text) => some (some text)
  | some _ => none

/-- A signature, if all fields are there. -/
def signatureFromFields (field : String → Option JsonValue) : Option ServiceAgentSignature := do
  let protocol ← (field "protocol").bind asStr
  let serviceDid ← (field "service_did").bind asStr
  let agentId ← (field "agent_id").bind asStr
  let verificationMethod ← (field "verification_method").bind asStr
  let requestDigest ← (field "request_digest").bind asStr
  let requestNonce ← optionalField (field "request_nonce")
  let resultDigest ← (field "result_digest").bind asStr
  let nonce ← (field "nonce").bind asStr
  let issuedAtMs ← (field "issued_at_ms").bind asU64
  let signature ← (field "signature").bind asStr
  some { protocol, serviceDid, agentId, verificationMethod, requestDigest, requestNonce,
         resultDigest, nonce, issuedAtMs, signature }

/-- The fields in the order the structure declares them. -/
def signatureFieldNames : List String :=
  ["protocol", "service_did", "agent_id", "verification_method", "request_digest",
    "request_nonce", "result_digest", "nonce", "issued_at_ms", "signature"]

variable (value : JsonValue)

/-- `serde_json::from_value::<ServiceNetServiceAgentSignature>`: a structure is read from an
object, or from an array of its fields in order. -/
def signatureFromValue : Option ServiceAgentSignature :=
  match value with
  | .object _ => signatureFromFields value.get
  | .array items =>
    if items.length = signatureFieldNames.length then
      signatureFromFields fun name => items[signatureFieldNames.idxOf name]?
    else none
  | _ => none

/-- The key of the signature inside a result's metadata. -/
def signatureKey : String := "wattetheriaServiceAgentSignature"

variable (raw : JsonValue)

/-- The signature in a raw body. -/
def serviceSignatureFromRaw : Option ServiceAgentSignature :=
  ((raw.pointer ["result", "task", "metadata", signatureKey]).or
    ((raw.pointer ["result", "message", "metadata", signatureKey]).or
      ((raw.pointer ["result", "statusUpdate", "metadata", signatureKey]).or
        ((raw.pointer ["result", "artifactUpdate", "metadata", signatureKey]).or
          ((raw.pointer ["result", "metadata", signatureKey]).or
            (raw.pointer ["extensions", "service_agent_signature"])))))).bind fun value =>
    match value with
    | .string encoded => crates.signatureFromStr encoded
    | value => signatureFromValue value

/-- A payload without the signature in its metadata; metadata left empty goes as well. -/
def dropSignature (payload : JsonValue) : JsonValue :=
  match payload.get "metadata" with
  | some (.object metadata) =>
    let metadata := metadata.filter fun e => e.1 != signatureKey
    if metadata.isEmpty then payload.remove "metadata"
    else payload.modify "metadata" fun _ => .object metadata
  | _ => payload

def payloadNames : List String := ["task", "message", "statusUpdate", "artifactUpdate"]

/-- `result` of a raw response. -/
def resultOf : JsonValue := (raw.get "result").getD .null

/-- The result less the signature. -/
def unsignedServiceAgentResult : JsonValue :=
  dropSignature
    (payloadNames.foldl (fun result name => result.modify name dropSignature) (resultOf raw))

/-! ## The direct transport -/

variable (record : JsonValue)

/-- The agent is called without the relay. -/
def usesWattetheriaDirect : Bool :=
  (record.pointer ["deployment", "connection_mode"]).bind asStr == some "wattetheria_direct"

def lastParts (messages : Option JsonValue) : Option JsonValue :=
  ((messages.bind asArray).bind List.getLast?).bind fun message => message.get "parts"

variable (result : JsonValue)

/-- The text of a result. -/
def responseText : Option String :=
  let parts := (result.pointer ["message", "parts"]).or
    ((lastParts (result.pointer ["task", "messages"])).or (lastParts (result.pointer ["history"])))
  (parts.bind asArray).bind fun parts =>
    parts.findSome? fun part => (part.get "text").bind asStr

def artifactOutput : Option JsonValue :=
  ((result.pointer ["task", "artifacts", "0", "parts", "0"]).or
    (result.pointer ["artifacts", "0", "parts", "0"])).bind fun part =>
      (part.get "data").or (part.get "text")

def responseOutput : Option JsonValue :=
  (artifactOutput result).or (result.get "message")

/-- The task of a result: under `task`, or the result itself when it looks like one. -/
def resultTask : Option JsonValue :=
  (result.get "task").or
    (if (result.get "id").isSome && (result.get "status").isSome then some result else none)

/-- The response read from a raw body. -/
def buildDirectResponse (agentId : String) (request : ServiceNetInvokeRequest) (raw : JsonValue) :
    Except String ServiceNetInvokeResponse := do
  let result ← okOr "A2A response is missing result" (raw.get "result")
  let task := resultTask result
  let message := result.get "message"
  .ok
    { agentId
      status := ((task.bind fun task => task.pointer ["status", "state"]).bind
        asStr).getD "MESSAGE_COMPLETED"
      receiptId := none
      taskId := (task.bind fun task => task.get "id").bind asStr
      contextId := ((task.bind fun task => task.get "contextId").or
        (message.bind fun message => message.get "contextId")).bind asStr
      message := responseText result
      output := responseOutput result
      settlement := request.settlement
      paymentReceipt := none
      serviceSignature := serviceSignatureFromRaw crates raw
      raw }

/-- A JSON-RPC error of the adapter; `method` is what it refused. -/
def adapterBody (method : String) (raw : JsonValue) : Except String JsonValue :=
  match raw.get "error" with
  | some error => .error ("Wattetheria Adapter rejected " ++ method ++ ": "
      ++ String.ofList (valueText crates.displayNumbers error))
  | none => .ok raw

/-! ## Verification -/

def serviceResponseSignatureProtocol : String := "wattetheria.servicenet.response.v1"

def serviceResponseMaxClockSkewMs : Int64 := 5 * 60 * 1000

variable (publishedServiceDid : String)

/-- The key in the service's DID. -/
def serviceAgentResponsePublicKey
    (serviceSignature : ServiceAgentSignature) : Except String (List UInt8) := do
  let did ← withContext "parse Service Agent did:key" (crates.signing.parseDid publishedServiceDid)
  let didKey ← withContext "Service Agent identity must use did:key"
    (crates.signing.didKeyFromDid did)
  let expectedVerificationMethod := didKey ++ "#" ++ crates.publicKeyMultibase didKey
  bailIf (serviceSignature.verificationMethod ≠ expectedVerificationMethod)
    "Service Agent signature references the wrong did:key verification method"
  match ← withContext "decode Service Agent did:key public key"
      (crates.signing.decodePublicKey didKey) with
  | .ed25519 publicKey => .ok publicKey
  | .other => .error "Service Agent did:key must use Ed25519"

variable (s : ServiceAgentSignature)

/-- What the service agent signs. -/
def signaturePayload : JsonValue :=
  .object
    [("agent_id", .string s.agentId), ("issued_at_ms", .number (.posInt s.issuedAtMs)),
     ("nonce", .string s.nonce),
     ("protocol", .string s.protocol),
     ("request_digest", .string s.requestDigest),
     ("request_nonce", s.requestNonce.elim .null .string),
     ("result_digest", .string s.resultDigest),
     ("service_did", .string s.serviceDid),
     ("verification_method", .string s.verificationMethod)]

variable (utc : Int64)

/-- The timestamp of a signature is within the skew of the clock. -/
def withinSkew (issuedAtMs : Int64) : Bool :=
  (utc - issuedAtMs).abs ≤ serviceResponseMaxClockSkewMs

/-- `i64::try_from` on a `u64`. -/
def i64TryFrom (n : UInt64) : Option Int64 :=
  if n.toNat < 2 ^ 63 then some n.toInt64 else none

/-- The signature of a response was made with the published key. -/
def verifySignature : Except String Unit := do
  let publicKey ← serviceAgentResponsePublicKey crates publishedServiceDid s
  let signatureBytes ← withContext "decode Service Agent signature"
    (crates.signing.base64Decode s.signature)
  bailIf (signatureBytes.length ≠ 64) "Service Agent signature must contain 64 bytes"
  withContext "parse Service Agent public key" (crates.signing.verifyingKeyFromBytes publicKey)
  bailIf (!crates.signing.verify publicKey (crates.canonicalBytes (signaturePayload s))
    signatureBytes) "verify Service Agent response signature"

variable (publishedAgent : JsonValue) (response : ServiceNetInvokeResponse)

/-- The part of `verify_service_agent_invoke_response` on a response that is signed. -/
def verifySignedResponse (s : ServiceAgentSignature)
    (expectedRequestDigest expectedRequestNonce : Option String) : Except String Unit := do
  bailIf (s.protocol ≠ serviceResponseSignatureProtocol)
    "ServiceNet response uses an unsupported Service Agent signature protocol"
  let publishedAgentId ← okOr "published Service Agent is missing agent_id"
    ((publishedAgent.get "agent_id").bind asStr)
  bailIf (response.agentId ≠ publishedAgentId || s.agentId ≠ publishedAgentId)
    "ServiceNet response agent_id does not match the published Service Agent"
  let publishedServiceDid ← okOr "published Service Agent is missing service_did"
    ((publishedAgent.get "service_did").bind asStr)
  bailIf (s.serviceDid ≠ publishedServiceDid)
    "ServiceNet response DID does not match the published Service Agent"
  bailIf (expectedRequestDigest.any fun digest => s.requestDigest ≠ digest)
    "ServiceNet response request digest does not match the invocation"
  bailIf (s.requestNonce ≠ expectedRequestNonce)
    "ServiceNet response request nonce does not match the invocation"
  bailIf (isEmpty (trim s.nonce)) "ServiceNet response signature nonce is missing"
  let issuedAtMs ← okOr "invalid response timestamp" (i64TryFrom s.issuedAtMs)
  bailIf (!withinSkew utc issuedAtMs)
    "ServiceNet response signature timestamp is outside the accepted window"
  bailIf (s.resultDigest ≠ crates.digestOf (unsignedServiceAgentResult response.raw))
    "ServiceNet response result digest does not match its signed value"
  verifySignature crates publishedServiceDid s

/-- Verifies the signature of a response. -/
def verifyServiceAgentInvokeResponse
    (expectedRequestDigest expectedRequestNonce : Option String) (signatureRequired : Bool) :
    Except String Unit :=
  match response.serviceSignature with
  | none =>
    bailIf signatureRequired "ServiceNet response is missing the Service Agent signature"
  | some s =>
    verifySignedResponse crates utc publishedAgent response s expectedRequestDigest
      expectedRequestNonce

/-! ## The nonces of responses -/

/-- `service_response_nonce_cache`: each nonce with the instant it is forgotten. -/
abbrev NonceCache := Std.ExtTreeMap String Nat

/-- `SERVICE_RESPONSE_NONCE_CACHE_TTL`, in nanoseconds. -/
def serviceResponseNonceCacheTtl : Nat := 5 * 60 * 10 ^ 9

def serviceResponseNonceCacheMaxEntries : Nat := 262144

def nonceKey : String := s.serviceDid ++ ":" ++ s.nonce

/-- What the cache answers, as `record_service_response_nonce` returns it. -/
def recallError : Recall → Except String Unit
  | .fresh => .ok ()
  | .used => .error "ServiceNet response nonce has already been used; refusing replay"
  | .full => .error
      "ServiceNet response nonce cache is at capacity; retry through another client instance"

/-- Refuses a nonce that was seen. -/
def recordServiceResponseNonce (instant : Nat) (cache : NonceCache)
    (response : ServiceNetInvokeResponse) : Except String Unit × NonceCache :=
  match response.serviceSignature with
  | none => (.error "ServiceNet response is missing the Service Agent signature", cache)
  | some s =>
    let (answer, cache) := sweepAndRecord (fun expiresAt => decide (instant < expiresAt))
      (some serviceResponseNonceCacheMaxEntries) cache (nonceKey s)
      (instant + serviceResponseNonceCacheTtl)
    (recallError answer, cache)

/-! ## What the client does with an answer -/

/-- The readings of the clocks during one verification. -/
structure Clock where
  utc : Int64
  instant : Nat
  deriving DecidableEq

/-- A response with what it is verified against. -/
structure Verification where
  identity : JsonValue
  response : ServiceNetInvokeResponse
  (expectedDigest expectedNonce : Option String)
  deriving DecidableEq

variable (clock : Clock) (cache : NonceCache)

/-- A response is verified, then its nonce is recorded. -/
def verifyAndRecord (v : Verification) : Except String Unit × NonceCache :=
  match verifyServiceAgentInvokeResponse crates clock.utc v.identity v.response v.expectedDigest
      v.expectedNonce true with
  | .error error => (.error error, cache)
  | .ok () => recordServiceResponseNonce clock.instant cache v.response

/-- `request_digest` of a caller's envelope. -/
def envelopeDigest (envelope : JsonValue) : Option String :=
  (envelope.pointer ["extensions", "request_digest"]).bind asStr

/-- `nonce` of a caller's envelope. -/
def envelopeNonce (envelope : JsonValue) : Option String :=
  (envelope.pointer ["extensions", "nonce"]).bind asStr

/-- What an invocation is answered with: by the relay, or by the adapter. -/
structure Endpoints where
  relay : Except String ServiceNetInvokeResponse
  adapter : Except String JsonValue

/-- The response to an invocation before it is verified. -/
def invokeResponse (agentId : String) (request : ServiceNetInvokeRequest) (identity : JsonValue)
    (endpoints : Endpoints) : Except String ServiceNetInvokeResponse :=
  if usesWattetheriaDirect identity then do
    let raw ← endpoints.adapter
    let raw ← adapterBody crates "invocation" raw
    buildDirectResponse crates agentId request raw
  else endpoints.relay

/-- The response to an invocation with what it is verified against. -/
def invokeVerification (request : ServiceNetInvokeRequest) (identity : JsonValue)
    (response : ServiceNetInvokeResponse) : Verification where
  identity
  response
  expectedDigest := request.agentEnvelope.bind envelopeDigest
  expectedNonce := request.agentEnvelope.bind envelopeNonce

/-- The call, over the relay or directly. -/
def invokeAgentWithIdentity (agentId : String)
    (request : ServiceNetInvokeRequest) (identity : JsonValue) (endpoints : Endpoints) :
    Except String ServiceNetInvokeResponse × NonceCache :=
  match invokeResponse crates agentId request identity endpoints with
  | .error error => (.error error, cache)
  | .ok response =>
    let (verdict, cache) :=
      verifyAndRecord crates clock cache (invokeVerification request identity response)
    (verdict.map fun () => response, cache)

variable (taskId : String)

/-- `service_agent_task_request_digest`; the history length defaults to 10. -/
def serviceAgentTaskRequestDigest (historyLength : Option UInt32) : String :=
  crates.digestOf (.object
    [("historyLength", .number (.posInt (historyLength.getD 10).toUInt64)), ("id", .string taskId)])

variable (identity : JsonValue)

/-- `get_agent_task`, the polling of an earlier protocol. -/
def getAgentTask (taskId : String)
    (historyLength : Option UInt32) (relay : Except String ServiceNetInvokeResponse) :
    Except String ServiceNetInvokeResponse × NonceCache :=
  if usesWattetheriaDirect identity then
    (.error "wattetheria_direct agents do not support legacy ServiceNet task polling", cache)
  else
    match relay with
    | .error error => (.error error, cache)
    | .ok response =>
      let (verdict, cache) := verifyAndRecord crates clock cache
        { identity, response
          expectedDigest := some (serviceAgentTaskRequestDigest crates taskId historyLength)
          expectedNonce := none }
      (verdict.map fun () => response, cache)

/-- `invoke_agent_async`: the answer of the relay is handed on without a verification. -/
def invokeAgentAsync (relay : Except String ServiceNetInvokeResponse) :
    Except String ServiceNetInvokeResponse :=
  if usesWattetheriaDirect identity then
    .error "Wattetheria Runtime Direct agents do not support ServiceNet async receipts; use return_immediately=false or publish with Relay"
  else relay

/-- The record's execution mode. -/
def publishedAgentUsesWattetheriaRuntime : Except String Bool :=
  match (record.pointer ["deployment", "execution_mode"]).bind asStr with
  | some "wattetheria_runtime" => .ok true
  | some "customized_agent" => .ok false
  | some mode => .error ("unsupported Service Agent execution_mode `" ++ mode ++ "`")
  | none => .error "Service Agent record is missing deployment.execution_mode"

def ensureCustomizedAgent : Except String Unit := do
  bailIf (← publishedAgentUsesWattetheriaRuntime record)
    "A2A Task tools require a Customized Agent; Wattetheria Runtime agents use the internal invocation tools"

variable (envelope : Option JsonValue)

/-- Verifies the response to a task operation. -/
def verifyA2aTaskResponse (response : ServiceNetInvokeResponse) : Except String Unit × NonceCache :=
  match envelope with
  | none => (.error "A2A task request is missing agent_envelope", cache)
  | some envelope => verifyAndRecord crates clock cache
      { identity, response
        expectedDigest := envelopeDigest envelope
        expectedNonce := envelopeNonce envelope }

variable (method agentId : String)

/-- The response to a task operation before it is verified. -/
def taskResponse (identity : JsonValue) (endpoints : Endpoints) :
    Except String ServiceNetInvokeResponse := do
  ensureCustomizedAgent identity
  if usesWattetheriaDirect identity then
    let raw ← endpoints.adapter
    let raw ← adapterBody crates method raw
    buildDirectResponse crates agentId .default raw
  else endpoints.relay

/-- `get_service_agent_task`, `list_agent_tasks` and `cancel_agent_task`; `method` is `GetTask`,
`ListTasks` or `CancelTask`. -/
def taskOperation (identity : JsonValue) (envelope : Option JsonValue) (endpoints : Endpoints) :
    Except String ServiceNetInvokeResponse × NonceCache :=
  match taskResponse crates method agentId identity endpoints with
  | .error error => (.error error, cache)
  | .ok response =>
    let (verdict, cache) := verifyA2aTaskResponse crates clock cache identity envelope response
    (verdict.map fun () => response, cache)

/-- What an event of a subscription is verified as. -/
def eventResponse (agentId : String) (taskId : Option String) (signature : ServiceAgentSignature)
    (event : JsonValue) : ServiceNetInvokeResponse where
  agentId
  status := "event"
  receiptId := none
  taskId
  contextId := none
  message := none
  output := none
  settlement := none
  paymentReceipt := none
  serviceSignature := some signature
  raw := event

/-- The loop over the events of a subscription, at the clock readings of each; it stops at the
first event that is refused. -/
def verifyEvents (identity : JsonValue) (envelope : Option JsonValue) (agentId : String)
    (taskId : Option String) : NonceCache → List (Clock × JsonValue) →
      Except String Unit × NonceCache
  | cache, [] => (.ok (), cache)
  | cache, (clock, event) :: events =>
    match serviceSignatureFromRaw crates event with
    | none => (.error "A2A subscription event is missing Service Agent signature", cache)
    | some signature =>
      match verifyA2aTaskResponse crates clock cache identity envelope
          (eventResponse agentId taskId signature event) with
      | (.error error, cache) => (.error error, cache)
      | (.ok (), cache) => verifyEvents identity envelope agentId taskId cache events

/-- What a subscription is answered with: by the relay in one response, or by the adapter in a
stream of events. -/
structure Streams where
  relay : Except String ServiceNetInvokeResponse
  adapter : Except String (List JsonValue)

/-- The agent, the task and the events of a subscription's answer.  A relayed answer names its
own agent and task; `verify_a2a_subscription_response` and `verify_subscription_events`
differ in nothing else. -/
def subscriptionEvents (agentId : String) (identity : JsonValue) (streams : Streams) :
    Except String (String × Option String × List JsonValue) := do
  ensureCustomizedAgent identity
  if usesWattetheriaDirect identity then
    let events ← streams.adapter
    .ok (agentId, none, events)
  else
    let response ← streams.relay
    let events ← okOr "A2A subscription response is missing result.events"
      ((response.raw.pointer ["result", "events"]).bind asArray)
    .ok (response.agentId, response.taskId, events)

/-- `subscribe_agent_task` up to the verdict on its events; `clockAt` are the readings at each
of them. -/
def subscribeAgentTask (clockAt : Nat → Clock) (cache : NonceCache) (agentId : String)
    (identity : JsonValue) (envelope : Option JsonValue) (streams : Streams) :
    Except String Unit × NonceCache :=
  match subscriptionEvents agentId identity streams with
  | .error error => (.error error, cache)
  | .ok (agentId, taskId, events) =>
    verifyEvents crates identity envelope agentId taskId cache
      (events.mapIdx fun i event => (clockAt i, event))

end WattServiceNet
