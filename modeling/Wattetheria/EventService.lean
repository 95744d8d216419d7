import Wattetheria.DroppableTasks
import Wattetheria.EventStore
import Wattetheria.JsonValue

/-!
# The event service

`McpEvents`: subscriptions and an environment webhook receive the events of the node.
The store keeps both; a map in memory tells `publish` whether anybody listens, a
read-write lock keeps deliveries and new subscriptions apart from a revocation, and two
workers deliver what is queued.

The handlers are trees of steps, one for each point where the source awaits something
and for each access to shared state.  The log at the end of the state is what an
observer could write down; no handler reads it.  What HTTP, the disk and the random
generator answer comes with the schedule.
-/

namespace WattWebhooks

open WattText WattJson WattThreads WattAsync WattTasks EventDatabase

/-! ## Data -/

/-- An entry of the map in memory. -/
structure SubscriptionDiagnostic where
  (id eventType targetAgentId : String)
  expiresAt : Option Int

/-- How a POST fails. -/
inductive WebhookFailure where
  | invalidUrl
  | invalidSecret
  | invalidPayload
  | requestTooLarge
  | transport
  | receiverRejected
  deriving DecidableEq

/-- `EnvWebhookConfig`: where the environment wants its events. -/
structure EnvWebhookConfig where
  url : String
  secret : Option String

/-- The environment webhook. -/
structure EnvWebhook where
  subscriptionId : String

/-- Functions outside the repository, and `validate_secret`, which decodes base64. -/
structure Crates where
  /-- the text of the `k`-th `Uuid::new_v4` in the `n`-th call of the store -/
  uuid : Nat → Nat → String
  uuid_injective : ∀ {n k n' k' : Nat}, uuid n k = uuid n' k' → n = n' ∧ k = k'
  /-- SHA-256 of a source kind and an owner -/
  envDigest : String → String → List UInt8
  /-- SHA-256 of an owner, a callback URL and the event name -/
  subscriptionDigest : String → String → List UInt8
  /-- SHA-256 of a source kind, an event and an owner -/
  eventDigest : String → String → String → List UInt8
  /-- `validate_secret` -/
  validateSecret : String → Bool

/-- What a service is opened with. -/
structure Config where
  crates : Crates
  ownerId : String

def envWebhookSourceKind : String := "env_webhook"

/-- The source kind of `subscribe`. -/
def mcpSourceKind : String := "mcp_subscription"

variable (cfg : Config)

/-- The id of the environment webhook. -/
def envWebhookSubscriptionId : String :=
  s!"sub_env_{hexEncode (cfg.crates.envDigest envWebhookSourceKind cfg.ownerId)}"

/-- The id of a subscription, from owner and url. -/
def subscriptionId (url : String) : String :=
  s!"sub_{hexEncode (cfg.crates.subscriptionDigest cfg.ownerId url)}"

/-- The id of an event, from its source. -/
def eventId (sourceKind sourceEventId : String) : String :=
  s!"evt_{hexEncode (cfg.crates.eventDigest sourceKind sourceEventId cfg.ownerId)}"

def maxDeliveryAttempts : Nat := 20

def retentionSeconds : Int := 30 * 24 * 60 * 60

def rotationSeconds : Int := 10 * 60

def verificationSeconds : Int := 10 * 60

/-! ## State -/

/-- What happens to subscriptions, events and deliveries. -/
inductive Entry where
  | subscribed (row : StoredSubscription)
  | mapped (id : String)
  | cancelled (id : String) (now : Int)
  | queued (row subscription : String)
  | claimed (row token : String) (attempt : Nat)
  | posted (row subscription : String) (attempt : Nat)
  | unsent (row : String) (attempt : Nat) (failure : WebhookFailure)
  | exhausted (row : String)
  | answered (eventId eventType : String) (now : Int)
  | restarted
  deriving DecidableEq

/-- `McpEvents` with its store; a lock is the number of the handler that holds it. -/
structure Service where
  db : EventDatabase
  /-- milliseconds -/
  clock : Int
  /-- calls of the store so far, each with its own uuids -/
  draws : Nat
  credentialFingerprint : String
  subscriptions : Std.ExtTreeMap String SubscriptionDiagnostic
  subscriptionsLock : Option Nat
  verifiedCallbacks : Std.ExtTreeMap String Int
  verifiedLock : Option Nat
  /-- `subscription_lifecycle` -/
  readers : List Nat
  writer : Option Nat
  envWebhook : Option EnvWebhook
  log : List Entry

namespace Service

variable (s : Service)

def timestamp : Int := s.clock / 1000

/-- The guards of handler `i` are dropped. -/
def release (i : Nat) : Service :=
  { s with
    subscriptionsLock := s.subscriptionsLock.filter (· ≠ i)
    verifiedLock := s.verifiedLock.filter (· ≠ i)
    readers := s.readers.filter (· ≠ i)
    writer := s.writer.filter (· ≠ i) }

/-- Adds to the log. -/
def note (entries : List Entry) : Service := { s with log := s.log ++ entries }

end Service

/-- The call with its uuids drawn. -/
def StoreCall.draw (crates : Crates) (n : Nat) : StoreCall → StoreCall
  | .publish occurrence payload eventType _ now =>
    .publish { occurrence with id := crates.uuid n 0 } payload eventType
      (fun k => crates.uuid n (k + 1)) now
  | .claimOutbox ownerId fingerprint now leaseUntil _ sourceKind =>
    .claimOutbox ownerId fingerprint now leaseUntil (crates.uuid n 0) sourceKind
  | call => call

/-- What a call of the store adds to the log; `waiting` when its caller waits for it, which
is when a cancellation is promised to anybody. -/
def StoreCall.entries (waiting : Bool) (db : EventDatabase) : StoreCall → List Entry
  | .upsertSubscription row =>
    match (db.upsertSubscription row).1 with
    | .ok () => [.subscribed row]
    | .error _ => []
  | .publish occurrence payload eventType rowIds now =>
    let published := db.publish occurrence payload eventType rowIds now
    match published.1 with
    | .ok () =>
      (published.2.outbox.rows.drop db.outbox.rows.length).map
        (fun row => .queued row.id row.subscriptionId)
        ++ [.answered occurrence.eventId eventType now]
    | .error _ => []
  | .claimOutbox ownerId fingerprint now leaseUntil token sourceKind =>
    match (db.claimOutbox ownerId fingerprint now leaseUntil token sourceKind).1 with
    | some item => [.claimed item.id token item.attempts]
    | none => []
  | .completeDelivery id token (.retry ..) maxAttempts =>
    if db.outbox.rows.any fun row =>
        holdsLease row id token && decide (maxAttempts ≤ row.attempts) then [.exhausted id]
    else []
  | .cancelSubscription id _ now => if waiting then [.cancelled id now] else []
  | .cancelSubscriptionsBySourceKind sourceKind now =>
    if waiting then
      (db.cancelSubscriptionsBySourceKind sourceKind now).1.map fun id => .cancelled id now
    else []
  | .getSubscription _ | .deactivateSubscription .. | .revokeCredentialsExcept .. | .cleanup _
  | .completeDelivery _ _ (.delivered ..) _ | .completeDelivery _ _ (.deadLetter ..) _ => []

/-! ## Handlers -/

/-- What the schedule supplies to one step. -/
structure Outcome where
  /-- the error of a call of the store that was rolled back -/
  storeError : Option String
  /-- decrypting a row -/
  opened : Except String Unit
  /-- the answer to the verification challenge -/
  challenge : Except String Unit
  /-- a request that could not be sent -/
  request : Except WebhookFailure Unit
  /-- the answer to a request that was sent -/
  reply : Except WebhookFailure Nat
  generatedSecret : String

/-- Where a handler stands, and what its next step is about. -/
inductive Tag where
  /-- a step that changes nothing -/
  | look
  | lifecycleRead
  | lifecycleWrite
  | lockSubscriptions
  | lockVerified
  | checkVerified (url : String) (now : Int)
  | challenge (url : String)
  | clearVerified
  | reading
  | calling (call : StoreCall) (keepsGate : Bool)
  | resumed (call : StoreCall)
  | mapping (row : StoredSubscription) (now : Int)
  | unmapping (ids : List String)
  | envMapping (row : StoredSubscription)
  | envUnmapping (id : String)
  | setEnv (env : Option EnvWebhook)
  | looking (eventId eventType : String) (now : Int)
  | opening (item : StoredOutbox)
  | envConfig (item : StoredOutbox)
  | post (item : StoredOutbox)
  | reply (item : StoredOutbox)
  | returning

variable (s : Service)

/-- The callbacks whose verification has not run out. -/
def verifiedAt (now : Int) : Std.ExtTreeMap String Int :=
  s.verifiedCallbacks.filter fun _ expiry => decide (now < expiry)

variable (row : StoredSubscription)

def StoredSubscription.diagnostic : SubscriptionDiagnostic where
  id := row.id
  eventType := row.eventType
  targetAgentId := row.targetAgentId
  expiresAt := row.expiresAt

/-- Whether the map has a listener for the event. -/
def interested (eventType : String) (now : Int) : Bool :=
  s.subscriptions.toList.any fun (_, entry) =>
    entry.targetAgentId == cfg.ownerId && (entry.eventType == "*" || entry.eventType == eventType)
      && unexpired entry.expiresAt now

variable (tag : Tag)

/-- What the step of handler `i` at a tag does to the service. -/
def effect (i : Nat) (e : Outcome) (s : Service) : Service :=
  match tag with
  | .look | .reading | .resumed _ | .opening _ | .envConfig _ | .reply _ => s
  | .lifecycleRead => { s with readers := s.readers ++ [i] }
  | .lifecycleWrite => { s with writer := some i }
  | .lockSubscriptions => { s with subscriptionsLock := some i }
  | .lockVerified => { s with verifiedLock := some i }
  | .checkVerified url now =>
    -- the lock is kept for the challenge
    { s with
      verifiedCallbacks := verifiedAt s now
      verifiedLock := if (verifiedAt s now).contains url then none else some i }
  | .challenge url =>
    match e.challenge with
    | .error _ => { s with verifiedLock := none }
    | .ok () => { s with
        verifiedCallbacks := s.verifiedCallbacks.insert url (s.timestamp + verificationSeconds)
        verifiedLock := none }
  | .clearVerified => { s with verifiedCallbacks := ∅ }
  | .calling call keepsGate =>
    let drawn := call.draw cfg.crates s.draws
    let readers := if keepsGate then s.readers.filter (· ≠ i) else s.readers
    match e.storeError with
    | some _ => { s with draws := s.draws + 1, readers }
    | none =>
      { s with
        db := (drawn.apply s.db).2
        draws := s.draws + 1
        readers }.note (drawn.entries (s.subscriptionsLock == some i) s.db)
  | .mapping row now =>
    let kept := s.subscriptions.filter fun _ entry => unexpired entry.expiresAt now
    { s with subscriptions := kept.insert row.id row.diagnostic }.note [.mapped row.id]
  | .unmapping ids => { s with subscriptions := ids.foldl (·.erase ·) s.subscriptions }
  | .envMapping row =>
    { s with subscriptions := s.subscriptions.insert row.id row.diagnostic }.note [.mapped row.id]
  | .envUnmapping id => { s with subscriptions := s.subscriptions.erase id }
  | .setEnv env => { s with envWebhook := env }
  | .looking eventId eventType now =>
    if interested cfg s eventType now then s else s.note [.answered eventId eventType now]
  | .post item =>
    match e.request with
    | .ok () => s.note [.posted item.id item.subscription.id item.attempts]
    | .error failure => s.note [.unsent item.id item.attempts failure]
  | .returning => s.release i

/-- A handler of the service; its error is the text of the source. -/
def Handler (α : Type) : Type := Async Service Outcome Tag (Except String α)

namespace Handler

variable {α β : Type}

/-- A step with its effect, and its value. -/
def take (cfg : Config) (tag : Tag) (value : Outcome → Service → Except String α) : Handler α :=
  Async.atomic tag fun i e s => (value e s, effect cfg tag i e s)

def fail (text : String) : Handler α := Async.pure (.error text)

def ofExcept (result : Except String α) : Handler α := Async.pure result

/-- The operator `?`. -/
protected def bind (p : Handler α) (f : α → Handler β) : Handler β :=
  Async.bind p fun
    | .ok a => f a
    | .error text => .pure (.error text)

instance : Monad Handler where
  pure a := Async.pure (.ok a)
  bind := Handler.bind

def mapErr (p : Handler α) (f : String → String) : Handler α :=
  Async.bind p fun
    | .ok a => .pure (.ok a)
    | .error text => .pure (.error (f text))

/-- A handler from its first step to the point where its guards are dropped. -/
def serve (cfg : Config) (p : Handler α) : Async Service Outcome Tag Unit :=
  Async.bind p fun _ => .atomic .returning fun i e s => ((), effect cfg .returning i e s)

end Handler

open Handler

def act : Handler Unit := take cfg tag fun _ _ => .ok ()

/-- `Utc::now()`, in milliseconds. -/
def utcNow : Handler Int := take cfg .look fun _ s => .ok s.clock

/-- `Utc::now().timestamp()`. -/
def utcTimestamp : Handler Int := take cfg .look fun _ s => .ok s.timestamp

/-- The fingerprint of the token the service was opened with. -/
def fingerprint : Handler String :=
  take cfg .look fun _ s => .ok s.credentialFingerprint

def opened : Handler Unit := take cfg .look fun e _ => e.opened

variable (call : StoreCall) (keepsGate : Bool)

/-- A call of the store in its own thread; `keepsGate` when the closure owns the guard of
`subscription_lifecycle`. -/
def calling : Handler StoreReply :=
  take cfg (.calling call keepsGate) fun e s =>
    match e.storeError with
    | some text => .error text
    | none => ((call.draw cfg.crates s.draws).apply s.db).1

/-- A call of the store and the step after it. -/
def storeCall : Handler StoreReply := do
  let reply ← calling cfg call keepsGate
  act cfg (.resumed call)
  pure reply

/-- `store_call` of a closure that reads the clock. -/
def storeCallNow (job : Int → StoreCall) : Handler StoreReply := do
  let now ← take cfg .reading fun _ s => .ok s.timestamp
  storeCall cfg (job now) false

/-! ## Subscriptions -/

/-- The secret that a new one replaces, and until when. -/
def rotationProof (previous : Option StoredSubscription) (secret : String) (now : Int) :
    Option String × Option Int :=
  match previous.filter StoredSubscription.active with
  | some current =>
    if current.callbackSecret ≠ secret then
      (some current.callbackSecret, some (now + rotationSeconds))
    else if current.oldSecretExpiresAt.any fun time => decide (now < time) then
      (current.oldCallbackSecret, current.oldSecretExpiresAt)
    else (none, none)
  | none => (none, none)

def asU64 : JsonValue → Option Nat
  | .number (.posInt n) => some n.toNat
  | _ => none

variable (params : JsonValue)

/-- `granted_ttl`, in milliseconds. -/
def grantedTtl : Except String (Option Int) :=
  match params.get "ttlMs" with
  | none | some .null => .ok none
  | some value =>
    match (asU64 value).filter (0 < ·) with
    | none => .error "ttlMs must be a positive integer or null"
    | some requested => .ok (some (max 1000 (min requested (24 * 60 * 60 * 1000))))

/-- Asks the callback for its consent. -/
def verifySubscription (url : String) : Handler Unit := do
  let now ← utcTimestamp cfg
  let known ← take cfg (.checkVerified url now) fun _ s => .ok ((verifiedAt s now).contains url)
  if known then pure ()
  else take cfg (.challenge url) fun e _ =>
    match e.challenge with
    | .error _ => .error "callback verification failed"
    | .ok () => .ok ()

/-- The row `subscribe` writes. -/
def subscriptionRow (fingerprint url secret : String)
    (rotation : Option String × Option Int) (expiresAt : Option Int) : StoredSubscription where
  id := subscriptionId cfg url
  sourceKind := mcpSourceKind
  eventType := "*"
  targetAgentId := cfg.ownerId
  credentialFingerprint := fingerprint
  ownerId := cfg.ownerId
  callbackUrl := url
  callbackSecret := secret
  oldCallbackSecret := rotation.1
  oldSecretExpiresAt := rotation.2
  expiresAt
  active := true

def foundSubscription : StoreReply → Option StoredSubscription
  | .subscription found => found
  | _ => none

/-- The text of `EventError::internal`. -/
def storageFailed (_ : String) : String := "event subscription storage failed"

/-- The subscription as it was before, in one closure with a cleanup. -/
def previousSubscription (url : String) (now : Int) : Handler (Option StoredSubscription) := do
  let _ ← calling cfg (.cleanup now) false
  let reply ← storeCall cfg (.getSubscription (subscriptionId cfg url)) false
  opened cfg
  pure (foundSubscription reply)

/-- The store and then the map; a dropped request must not release the gate before its
blocking write. -/
def writeSubscription (now : Int) : Handler String := do
  let _ ← (storeCall cfg (.upsertSubscription row) true).mapErr storageFailed
  act cfg (.mapping row now)
  pure row.id

/-- `subscribe` after the challenge: the map is locked across the calls. -/
def replaceSubscription (url secret : String) (ttl : Option Int) : Handler String := do
  act cfg .lockSubscriptions
  let now ← utcTimestamp cfg
  let previous ← (previousSubscription cfg url now).mapErr storageFailed
  let millis ← utcNow cfg
  let token ← fingerprint cfg
  writeSubscription cfg (subscriptionRow cfg token url secret (rotationProof previous secret now)
    (ttl.map fun ttl => (millis + ttl).tdiv 1000)) now

/-- Stores a subscription and enters it in the map. -/
def subscribe (url : String) : Handler String := do
  act cfg .lifecycleRead
  let secret ← ofExcept (okOr "delivery.secret is required"
    (((params.get "delivery").bind (·.get "secret")).bind JsonValue.asStr))
  if !cfg.crates.validateSecret secret then
    fail "secret must be whsec_ with 24 to 64 decoded bytes"
  else do
    let ttl ← ofExcept (grantedTtl params)
    if (params.get "cursor").any (· ≠ .null) then fail "this event does not support replay"
    else do
      verifySubscription cfg url
      replaceSubscription cfg url secret ttl

/-- `unsubscribe`: the map is locked, the lifecycle is not. -/
def unsubscribe (url : String) : Handler Unit := do
  let id := subscriptionId cfg url
  act cfg .lockSubscriptions
  let _ ← (storeCallNow cfg fun now =>
    .cancelSubscription id cfg.ownerId now).mapErr storageFailed
  act cfg (.unmapping [id])

def cancelledIds : StoreReply → List String
  | .cancelled ids => ids
  | _ => []

/-- Cancels all subscriptions, with the workers shut out. -/
def revokeMcpSubscriptions : Handler Nat := do
  act cfg .lifecycleWrite
  act cfg .lockSubscriptions
  act cfg .lockVerified
  let reply ← storeCallNow cfg fun now => .cancelSubscriptionsBySourceKind mcpSourceKind now
  act cfg (.unmapping (cancelledIds reply))
  act cfg .clearVerified
  pure (cancelledIds reply).length

/-! ## The environment webhook -/

/-- The row `apply_env_webhook` writes. -/
def envWebhookRow (fingerprint url secret : String)
    (rotation : Option String × Option Int) : StoredSubscription where
  id := envWebhookSubscriptionId cfg
  sourceKind := envWebhookSourceKind
  eventType := "*"
  targetAgentId := cfg.ownerId
  credentialFingerprint := fingerprint
  ownerId := cfg.ownerId
  callbackUrl := url
  callbackSecret := secret
  oldCallbackSecret := rotation.1
  oldSecretExpiresAt := rotation.2
  expiresAt := none
  active := true

/-- `apply_env_webhook` without a configuration. -/
def removeEnvWebhook : Handler Unit := do
  let id := envWebhookSubscriptionId cfg
  let _ ← storeCall cfg (.deactivateSubscription id cfg.ownerId) false
  act cfg (.envUnmapping id)
  act cfg (.setEnv none)

/-- The last steps of `apply_env_webhook`: the store, the map, the configuration. -/
def writeEnvWebhook : Handler Unit := do
  let _ ← storeCall cfg (.upsertSubscription row) false
  act cfg (.envMapping row)
  act cfg (.setEnv (some ⟨row.id⟩))

/-- Stores the environment webhook, or removes it. -/
def applyEnvWebhook : Option EnvWebhookConfig → Handler Unit
  | none => removeEnvWebhook cfg
  | some config => do
      let now ← utcTimestamp cfg
      let reply ← storeCall cfg (.getSubscription (envWebhookSubscriptionId cfg)) false
      opened cfg
      let previous := foundSubscription reply
      let generated ← take cfg .look fun e _ => .ok e.generatedSecret
      let secret := (config.secret.or
        ((previous.filter StoredSubscription.active).map StoredSubscription.callbackSecret)).getD
          generated
      if !cfg.crates.validateSecret secret then
        fail "WATTETHERIA_EVENT_WEBHOOK_SECRET must look like whsec_<base64 of 24 to 64 bytes>"
      else do
        let token ← fingerprint cfg
        writeEnvWebhook cfg
          (envWebhookRow cfg token config.url secret (rotationProof previous secret now))

/-! ## Publication -/

/-- An event: `projected` is the name and the body that the catalog makes of it. -/
structure EventRequest where
  (sourceKind eventId eventType : String)
  projected : Except String (String × List UInt8)

variable (event : EventRequest)

/-- The occurrence of an event; its id is drawn when it is stored. -/
def occurrenceOf (kind : String) (time : Int) : StoredOccurrence where
  id := ""
  eventId := eventId cfg event.sourceKind event.eventId
  ownerId := cfg.ownerId
  kind
  privateContentId := none
  expiresAt := time + retentionSeconds

/-- `publish` once somebody listens. -/
def publishOccurrence : Handler Unit := do
  let (kind, body) ← ofExcept event.projected
  let time ← utcTimestamp cfg
  let _ ← storeCallNow cfg fun now => .publish (occurrenceOf cfg event kind time) body
    event.eventType (fun _ => "") now
  pure ()

/-- Records an event if anybody listens. -/
def publish : Handler Unit := do
  let now ← utcTimestamp cfg
  let listening ← take cfg
    (.looking (eventId cfg event.sourceKind event.eventId) event.eventType now)
    fun _ s => .ok (interested cfg s event.eventType now)
  if listening then publishOccurrence cfg event else pure ()

/-! ## Delivery -/

/-- Doubles up to five minutes. -/
def retryDelay (attempts : Nat) : Int := min (2 ^ (min (max (attempts + 1) 1) 8)) 300

/-- The stored category of a failure. -/
def failureCategory : WebhookFailure → DeliveryErrorCategory
  | .invalidUrl => .unsafeDestination
  | .invalidSecret => .invalidSecret
  | .invalidPayload => .invalidPayload
  | .requestTooLarge => .requestTooLarge
  | .transport => .transport
  | .receiverRejected => .httpRetryable

/-- A failure after which the delivery is tried again. -/
def WebhookFailure.retries : WebhookFailure → Bool
  | .transport | .receiverRejected => true
  | .invalidUrl | .invalidSecret | .invalidPayload | .requestTooLarge => false

/-- What a POST's outcome means for the row. -/
def classifyDelivery (outcome : Except WebhookFailure Nat) (attempts : Nat) (completedAt : Int) :
    DeliveryResult :=
  match outcome with
  | .ok status =>
    if 200 ≤ status ∧ status < 300 then .delivered status completedAt
    else if status = 410 ∨ status = 413 then .deadLetter (some status) .httpPermanent completedAt
    else .retry (some status) .httpRetryable (completedAt + retryDelay attempts) completedAt
  | .error failure =>
    if failure.retries then
      .retry none (failureCategory failure) (completedAt + retryDelay attempts) completedAt
    else .deadLetter none (failureCategory failure) completedAt

variable (item : StoredOutbox)

/-- The POST of a claimed row: it goes out, or fails before it does. -/
def sendPost : Handler (Except WebhookFailure Nat) := do
  let sent ← take cfg (.post item) fun e _ => .ok e.request
  match sent with
  | .error failure => pure (.error failure)
  | .ok () => take cfg (.reply item) fun e _ => .ok e.reply

def claimedItem : StoreReply → Option StoredOutbox
  | .claimed item => item
  | _ => none

/-- Sends a claimed row and completes it. -/
def deliver : Handler Bool := do
  let outcome ← sendPost cfg item
  let completedAt ← utcTimestamp cfg
  let _ ← storeCall cfg (.completeDelivery item.id (item.leaseToken.getD "")
    (classifyDelivery outcome item.attempts completedAt) maxDeliveryAttempts) false
  pure true

/-- `delivery_tick` after its claim: a row of the environment webhook waits for the current
configuration, and its claim is not completed. -/
def deliverClaimed : Handler Bool := do
  let configured ← take cfg (.envConfig item) fun _ s =>
    .ok (s.envWebhook.any fun env => env.subscriptionId == item.subscription.id)
  if item.subscription.sourceKind == envWebhookSourceKind then
    if configured then deliver cfg item else pure false
  else if item.subscription.sourceKind == mcpSourceKind then deliver cfg item
  else pure false

variable (sourceKind : Option String)

/-- A tick for anything but the environment webhook holds the lifecycle. -/
def subscriptionGuard : Handler Unit :=
  if sourceKind = some envWebhookSourceKind then pure () else act cfg .lifecycleRead

/-- The claim of a tick: the first row that is due. -/
def claimNext (token : String) (sourceKind : Option String) : Handler (Option StoredOutbox) := do
  let reply ← storeCallNow cfg fun now =>
    .claimOutbox cfg.ownerId token now (now + 30) "" sourceKind
  pure (claimedItem reply)

/-- One round of a worker. -/
def deliveryTick : Handler Bool := do
  subscriptionGuard cfg sourceKind
  let now ← utcTimestamp cfg
  let _ ← storeCall cfg (.cleanup now) false
  let token ← fingerprint cfg
  match ← claimNext cfg token sourceKind with
  | none => pure false
  | some item => do
      take cfg (.opening item) fun e _ => e.opened
      deliverClaimed cfg item

/-! ## The server -/

/-- A request, or a tick of a worker. -/
inductive Request where
  | subscribe (params : JsonValue) (url : String)
  | unsubscribe (url : String)
  | revokeMcpSubscriptions
  | applyEnvWebhook (config : Option EnvWebhookConfig)
  | publish (event : EventRequest)
  | deliveryTick (sourceKind : Option String)

/-- Time passes, or the process ends and is started with a token. -/
inductive Happening where
  | wait (millis : Nat)
  | restart (credentialFingerprint : String)

/-- The handler of a request. -/
def handlerOf : Request → Async Service Outcome Tag Unit
  | .subscribe params url => (subscribe cfg params url).serve cfg
  | .unsubscribe url => (unsubscribe cfg url).serve cfg
  | .revokeMcpSubscriptions => (revokeMcpSubscriptions cfg).serve cfg
  | .applyEnvWebhook config => (applyEnvWebhook cfg config).serve cfg
  | .publish event => (publish cfg event).serve cfg
  | .deliveryTick sourceKind => (deliveryTick cfg sourceKind).serve cfg

/-- A handler that waits for a lock goes on when the lock is free. -/
def Tag.ready : Tag → Bool
  | .lifecycleRead => s.writer.isNone
  | .lifecycleWrite => s.writer.isNone && s.readers.isEmpty
  | .lockSubscriptions | .looking .. | .envMapping _ | .envUnmapping _ => s.subscriptionsLock.isNone
  | .lockVerified | .checkVerified .. => s.verifiedLock.isNone
  | _ => true

/-- The steps on a thread of their own. -/
def Tag.blocking : Tag → Bool
  | .reading | .calling .. => true
  | _ => false

/-- A dropped handler drops its guards; the gate of a pending write stays with the write. -/
def dropHandler (i : Nat) (tag : Tag) (s : Service) : Service :=
  match tag with
  | .calling _ true => { s.release i with readers := s.readers }
  | _ => s.release i

/-- `open`: other credentials lose their subscriptions and the map is read from the store. -/
def openService (fingerprint : String) (s : Service) : Service :=
  let db := s.db.revokeCredentialsExcept cfg.ownerId fingerprint
  { s with
    db
    credentialFingerprint := fingerprint
    subscriptions := (db.activeSubscriptions cfg.ownerId s.timestamp).foldl
      (fun map (row : StoredSubscription) => map.insert row.id row.diagnostic) ∅
    subscriptionsLock := none
    verifiedCallbacks := ∅
    verifiedLock := none
    readers := []
    writer := none
    envWebhook := none }.note [.restarted]

def happen : Happening → Service → Service
  | .wait millis, s => { s with clock := s.clock + millis }
  | .restart fingerprint, s => openService cfg fingerprint s

def Happening.restarts : Happening → Bool
  | .restart _ => true
  | .wait _ => false

/-- The service as a server of droppable handlers. -/
def eventServer : Server Service Outcome Tag Request Happening where
  start := handlerOf cfg
  ready _ tag s := tag.ready s
  blocking := Tag.blocking
  drop := dropHandler
  env := happen cfg
  restarts := Happening.restarts
  blocking_ready i tag s h := by
    cases tag with
    | reading | calling => rfl
    | _ => cases h

/-- A new node. -/
def Service.fresh (clock : Int) (fingerprint : String) : Service where
  db := .empty
  clock
  draws := 0
  credentialFingerprint := fingerprint
  subscriptions := ∅
  subscriptionsLock := none
  verifiedCallbacks := ∅
  verifiedLock := none
  readers := []
  writer := none
  envWebhook := none
  log := []

/-- A schedule of requests, steps, dropped handlers and restarts. -/
abbrev Schedule := List (Event Request Outcome Happening)

end WattWebhooks
