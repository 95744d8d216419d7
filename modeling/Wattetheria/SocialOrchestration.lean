import Wattetheria.SocialServices

/-!
# Relationship actions and reconciliation

`application::orchestration_service`: what a local identity does to a counterpart and what
the transport reports about it.  Both sides write the same rows, under ids built from the
two public ids (`stablePairId`) or chosen by the caller; a local action stops at the first
refused transition, a reported view goes on after one.
-/

namespace WattSocial

open WattText WattJson WattRows WattJournal Program
open FriendRequestService FriendshipService ThreadService

/-! ## What the caller knows about the counterpart -/

/-- What is known of an identity. -/
structure KnownIdentitySnapshot where
  publicId : String
  agentDid : Option String
  displayName : String
  skills : List String
  active : Bool
  createdAt : Int

/-- What is known of its node. -/
structure KnownTransportBindingSnapshot where
  bindingSource : String
  bindingConfidence : Int
  bindingVerified : Bool
  bindingVerifiedAt : Option Int

/-- The counterpart, as the caller knows it. -/
structure CounterpartSnapshot where
  (counterpartPublicId targetAgent remoteNodeId : String)
  knownIdentity : Option KnownIdentitySnapshot
  knownBinding : Option KnownTransportBindingSnapshot
  observedAt : Int

/-- What the transport reports of a relationship. -/
structure RelationshipSyncView where
  counterpart : CounterpartSnapshot
  relationshipState : String
  lastAction : Option String
  initiatedBy : String
  (requestId correlationId : Option String)
  (requestedAt respondedAt : Option Int)
  updatedAt : Int

/-- What it reports of a thread. -/
structure DmThreadSyncView where
  counterpart : CounterpartSnapshot
  (transportThreadId sessionState : String)
  (createdAt updatedAt : Int)
  lastMessageAt : Option Int

/-- What it reports of a message. -/
structure DmMessageSyncView where
  counterpart : CounterpartSnapshot
  (transportThreadId messageId messageKind direction deliveryState : String)
  content : JsonValue
  (encryptedBody contentEncoding : Option String)
  agentEnvelopeJson : Option JsonValue
  agentSignature : Option String
  createdAt : Int
  acknowledgedAt : Option Int

/-- What a local identity can do. -/
inductive RelationshipAction where
  | request
  | accept
  | reject
  | cancel
  | remove
  | block
  | unblock
  deriving DecidableEq

/-- An action. -/
structure PersistRelationshipActionInput where
  localPublicId : String
  counterpart : CounterpartSnapshot
  action : RelationshipAction
  (requestId correlationId : Option String)
  occurredAt : Int

/-- A message sent from here. -/
structure PersistDmMessageInput where
  localPublicId : String
  counterpart : CounterpartSnapshot
  (threadId messageId : String)
  (content agentEnvelopeJson : JsonValue)
  agentSignature : Option String
  occurredAt : Int

/-- `stable_pair_id`: the two ids in order, joined by colons.  The order of the
arguments does not matter. -/
def stablePairId (kind left right : String) : String :=
  if left ≤ right then kind ++ ":" ++ left ++ ":" ++ right
  else kind ++ ":" ++ right ++ ":" ++ left

variable (snapshot : CounterpartSnapshot)

def counterpartDisplayName : Option String :=
  (snapshot.knownIdentity.map fun identity => trim identity.displayName).filter
    fun displayName => !isEmpty displayName

def normalizeAgentDid (value : String) : Option String :=
  if "did:".toList.isPrefixOf (trim value).toList then some (trim value) else none

/-- The first DID among three fields. -/
def counterpartAgentDid : Option String :=
  ((snapshot.knownIdentity.bind (·.agentDid)).bind normalizeAgentDid)
    <|> normalizeAgentDid snapshot.targetAgent
    <|> normalizeAgentDid snapshot.counterpartPublicId

variable (store : Store)

/-- The identity profile `cache_counterpart` stores. -/
def cachedIdentity (snapshot : CounterpartSnapshot) (agentDid : String) : RemoteIdentityProfile :=
  let existing := store.getRemoteIdentity snapshot.counterpartPublicId
  let known := snapshot.knownIdentity
  let incomingSkills := (known.map (·.skills)).getD []
  let active := (known.map (·.active)).getD true
  let createdAt := (known.map (·.createdAt)).getD snapshot.observedAt
  let updatedAt := max snapshot.observedAt createdAt
  { publicId := (known.map (·.publicId)).getD snapshot.counterpartPublicId
    agentDid
    displayName := (known.map (·.displayName)).getD snapshot.counterpartPublicId
    description := none
    capabilities := []
    skills := if incomingSkills.isEmpty then (existing.map (·.skills)).getD [] else incomingSkills
    didDocumentJson := none
    active := (existing.map fun identity => identity.active && active).getD active
    lastProfileFetchedAt := some updatedAt
    createdAt
    updatedAt }

/-- The transport binding `cache_counterpart` stores. -/
def cachedBinding : RemoteTransportBinding :=
  let known := snapshot.knownBinding
  let verifiedAt := known.bind (·.bindingVerifiedAt)
  { publicId := snapshot.counterpartPublicId
    agentDid := counterpartAgentDid snapshot
    transportKind := .wattswarm
    transportNodeId := snapshot.remoteNodeId
    bindingSource := (known.map (·.bindingSource)).getD "derived"
    bindingConfidence := (known.map (·.bindingConfidence)).getD 50
    bindingProofJson := none
    bindingVerified := (known.map (·.bindingVerified)).getD false
    bindingVerifiedAt := verifiedAt
    updatedAt := max (verifiedAt.getD snapshot.observedAt) snapshot.observedAt }

/-- The identity half of `cache_counterpart`: nothing without a DID. -/
def cacheIdentity : Social Unit :=
  match counterpartAgentDid snapshot with
  | none => pure ()
  | some agentDid => do
      RemoteIdentityService.upsertRemoteIdentity (cachedIdentity (← read) snapshot agentDid)

/-- Stores what is known of the counterpart. -/
def cacheCounterpart : Social Unit := do
  cacheIdentity snapshot
  TransportBindingService.upsertTransportBinding (cachedBinding snapshot)

/-- Notes whether the counterpart is active. -/
def markCounterpartIdentityState (counterpartPublicId : String) (active : Bool)
    (updatedAt : Int) : Social Unit := do
  match (← read).getRemoteIdentity counterpartPublicId with
  | none => pure ()
  | some identity =>
    RemoteIdentityService.upsertRemoteIdentity
      { identity with active, updatedAt := max identity.updatedAt updatedAt }

def CounterpartSnapshot.ref : FriendRequestCounterpartRef where
  publicId := snapshot.counterpartPublicId
  remoteNodeId := snapshot.remoteNodeId
  targetAgent := snapshot.targetAgent

/-! ## Small helpers -/

/-- Goes on after a refused transition. -/
def ignoreConflict (p : Social Unit) : Social Unit :=
  forgive (fun | .conflict _ => true | _ => false) p

def maxOptionalI64 : Option Int → Option Int → Option Int
  | some left, some right => some (max left right)
  | some value, none => some value
  | none, some value => some value
  | none, none => none

/-- Stretches the times to the last message. -/
def normalizeThreadLifetime (createdAt updatedAt : Int) (lastMessageAt : Option Int) : Int × Int :=
  let createdAt' := (lastMessageAt.map (min createdAt)).getD createdAt
  let updatedAt' := (lastMessageAt.map (max updatedAt)).getD updatedAt
  (createdAt', max updatedAt' createdAt')

/-- `max_by_key`: of several largest elements, the last. -/
def maxByKey (key : FriendRequest → Int × Int) : List FriendRequest → Option FriendRequest
  | [] => none
  | item :: items => some (items.foldl
      (fun best next =>
        if (key next).1 < (key best).1 || ((key next).1 = (key best).1 && (key next).2 < (key best).2)
        then best else next) item)

variable (items : List FriendRequest)

def latestRequestForCounterpart (counterpartPublicId : String) : Option FriendRequest :=
  maxByKey (fun item => (item.updatedAt, item.createdAt))
    (items.filter fun item => item.remotePublicId = counterpartPublicId)

/-- The last updated pending one. -/
def latestPendingRequestForCounterpart (counterpartPublicId : String) : Option FriendRequest :=
  maxByKey (fun item => (item.updatedAt, item.createdAt))
    (items.filter fun item =>
      item.remotePublicId = counterpartPublicId && item.state = .pending)

/-- Reopens the thread closed by an earlier removal once the friendship is active
again. -/
def reopenThreadOfActiveFriendship (localPublicId remotePublicId : String) (updatedAt : Int) :
    Social Unit := do
  let store ← read
  let friendshipActive := (store.findFriendship localPublicId remotePublicId).any (·.isActive)
  match ← ofExcept (findThread store localPublicId remotePublicId) with
  | none => pure ()
  | some thread =>
    if !friendshipActive || !thread.canReopenTo .ready then pure ()
    else
      upsertThreadForEstablishedFriendship
        { thread with state := .ready, updatedAt := max thread.updatedAt updatedAt }

/-- The active friendship of another public id that `retire_alias_friendships` takes
for the same counterpart. -/
def isAlias (canonicalRemotePublicId remoteNodeId requestId : String)
    (friendship : Friendship) : Bool :=
  friendship.state = .active && friendship.remotePublicId ≠ canonicalRemotePublicId
    && (friendship.establishedFromRequestId = some requestId
      || friendship.remotePublicId = remoteNodeId
      || store.bindings.rows.any fun binding =>
          binding.publicId = friendship.remotePublicId && binding.transportKind = .wattswarm
            && binding.transportNodeId = remoteNodeId)

/-- Removes the friendships under other ids. -/
def retireAliasFriendships (localPublicId canonicalRemotePublicId remoteNodeId requestId : String)
    (updatedAt : Int) : Social Unit := do
  let store ← read
  let friendships ← ofExcept (listFriendships store localPublicId)
  forEach (friendships.filter (isAlias store canonicalRemotePublicId remoteNodeId requestId))
    fun friendship =>
      upsertFriendship
        { friendship with
          state := .removed, updatedAt := max friendship.updatedAt updatedAt }

/-! ## Views of the transport -/

/-- What `reconcile_relationship_views` works out for a view before it looks at the
relationship state. -/
structure ViewFacts where
  requestId : String
  direction : FriendRequestDirection
  (requestedAt updatedAt : Int)
  (threadId friendshipId : String)

section View

variable (localPublicId : String) (view : RelationshipSyncView)

/-- The request a view is about: the given one, else the latest one of the pair, else
an id built from the pair. -/
def viewRequestId (existingRequests : List FriendRequest) : String :=
  let counterpart := view.counterpart.counterpartPublicId
  (view.requestId
      <|> (latestRequestForCounterpart existingRequests counterpart).map (·.requestId)).getD
    (stablePairId "friend-request" localPublicId counterpart)

/-- The facts of a view; a request's direction is fixed when it is first recorded. -/
def viewFacts (existingRequests : List FriendRequest) (thread : Option DirectThread) : ViewFacts :=
  let counterpart := view.counterpart.counterpartPublicId
  let requestId := viewRequestId localPublicId view existingRequests
  let requestedAt := view.requestedAt.getD view.updatedAt
  let removedHere := view.relationshipState = "none" && view.lastAction = some "remove"
    && view.initiatedBy = "local"
  { requestId
    direction :=
      ((existingRequests.find? fun request => request.requestId = requestId).map (·.direction)).getD
        (if view.initiatedBy = "remote" then .inbound else .outbound)
    requestedAt
    updatedAt :=
      if removedHere then max view.updatedAt requestedAt
      else max (view.respondedAt.getD view.updatedAt) requestedAt
    threadId := (thread.map (·.threadId)).getD (stablePairId "dm" localPublicId counterpart)
    friendshipId := stablePairId "friendship" localPublicId counterpart }

variable (facts : ViewFacts)

/-- The request a view stores. -/
def viewRequest (state : FriendRequestState) (decisionReason : Option String) : FriendRequest where
  requestId := facts.requestId
  localPublicId
  remotePublicId := view.counterpart.counterpartPublicId
  remoteNodeId := some view.counterpart.remoteNodeId
  direction := facts.direction
  state
  decisionReason
  correlationId := view.correlationId
  createdAt := facts.requestedAt
  updatedAt := facts.updatedAt
  expiresAt := none

/-- The friendship row of an accepted or blocked view. -/
def viewFriendship (state : FriendshipState) : Friendship where
  friendshipId := facts.friendshipId
  localPublicId
  remotePublicId := view.counterpart.counterpartPublicId
  displayName := counterpartDisplayName view.counterpart
  state
  establishedFromRequestId := some facts.requestId
  threadId := some facts.threadId
  createdAt := facts.requestedAt
  updatedAt := facts.updatedAt

/-- The block row of a view of a block initiated here. -/
def viewBlock : SocialBlock where
  blockId := stablePairId "block" localPublicId view.counterpart.counterpartPublicId
  ownerPublicId := localPublicId
  blockedPublicId := view.counterpart.counterpartPublicId
  blockedNodeId := some view.counterpart.remoteNodeId
  reason := some "blocked"
  createdAt := facts.requestedAt
  updatedAt := facts.updatedAt

/-- `("requested", _)`. -/
def applyRequested : Social Unit :=
  ignoreConflict (upsertFriendRequest (viewRequest localPublicId view facts .pending none))

/-- An accepted view that does not bring back a removed friendship: its request was
accepted before, or it is not later than the removal. -/
def isStaleAccept (existingRequests : List FriendRequest) (friendship : Friendship) : Bool :=
  friendship.state = .removed
    && ((existingRequests.any fun request =>
          request.requestId = facts.requestId && request.state = .accepted)
      || asMillis facts.updatedAt ≤ asMillis friendship.updatedAt)

/-- `("accepted", _)` once the view is known not to be stale. -/
def establishAccepted : Social Unit := do
  retireAliasFriendships localPublicId view.counterpart.counterpartPublicId
    view.counterpart.remoteNodeId facts.requestId facts.updatedAt
  ignoreConflict (upsertFriendRequest
    (viewRequest localPublicId view facts .accepted (some "accepted")))
  ignoreConflict (upsertFriendship (viewFriendship localPublicId view facts .active))
  reopenThreadOfActiveFriendship localPublicId view.counterpart.counterpartPublicId
    facts.updatedAt
  markCounterpartIdentityState view.counterpart.counterpartPublicId true facts.updatedAt
  clearFriendRequestRetry facts.requestId

/-- `("accepted", _)`. -/
def applyAccepted (existingRequests : List FriendRequest) : Social Unit := do
  acceptRelatedFriendRequests localPublicId view.counterpart.ref
    facts.updatedAt
  let friendship := (← read).findFriendship localPublicId view.counterpart.counterpartPublicId
  if friendship.any (isStaleAccept facts existingRequests) then pure ()
  else establishAccepted localPublicId view facts

/-- `("rejected", _)`. -/
def applyRejected : Social Unit := do
  ignoreConflict (upsertFriendRequest
    (viewRequest localPublicId view facts .rejected (some "rejected")))
  settleRelatedOutboundFriendRequests localPublicId view.counterpart.ref
    .rejected "rejected" facts.updatedAt
  clearFriendRequestRetry facts.requestId

/-- `("blocked", _)`: only a block initiated here is recorded as a block. -/
def applyBlocked : Social Unit := do
  ignoreConflict (upsertFriendRequest
    (viewRequest localPublicId view facts .blocked (some "blocked")))
  onlyIf (view.initiatedBy = "local")
    (ignoreConflict (BlockService.upsertBlock (viewBlock localPublicId view facts)))
  ignoreConflict (upsertFriendship (viewFriendship localPublicId view facts .blocked))
  settleRelatedOutboundFriendRequests localPublicId view.counterpart.ref
    .blocked "blocked" facts.updatedAt
  clearFriendRequestRetry facts.requestId

variable (existing : Option Friendship) (thread : Option DirectThread)

/-- The thread a removal closes: the friendship's, else the one of the pair. -/
def removedThreadId : String :=
  (existing.bind (·.threadId) <|> thread.map (·.threadId)).getD facts.threadId

/-- The friendship row a removal leaves: what is there, as removed. -/
def removedFriendship : Friendship where
  friendshipId := (existing.map (·.friendshipId)).getD facts.friendshipId
  localPublicId
  remotePublicId := view.counterpart.counterpartPublicId
  displayName := counterpartDisplayName view.counterpart <|> existing.bind (·.displayName)
  state := .removed
  establishedFromRequestId := existing.bind (·.establishedFromRequestId)
  threadId := some (removedThreadId facts existing thread)
  createdAt := (existing.map (·.createdAt)).getD facts.requestedAt
  updatedAt := facts.updatedAt

/-- The thread row a removal leaves: what is there, closed. -/
def closedThread : DirectThread :=
  let threadId := removedThreadId facts existing thread
  let lastMessageAt := thread.bind (·.lastMessageAt)
  let lifetime := normalizeThreadLifetime ((thread.map (·.createdAt)).getD facts.requestedAt)
    (max ((thread.map (·.updatedAt)).getD facts.requestedAt) facts.updatedAt) lastMessageAt
  { threadId
    localPublicId
    remotePublicId := view.counterpart.counterpartPublicId
    transportThreadId := (thread.map (·.transportThreadId)).getD threadId
    state := .closed
    lastMessageAt
    createdAt := lifetime.1
    updatedAt := lifetime.2 }

/-- `("none", Some("remove"))` for a removal that is not older than the friendship. -/
def removeFriendship : Social Unit := do
  ignoreConflict (upsertFriendship (removedFriendship localPublicId view facts existing thread))
  ignoreConflict (upsertThread (closedThread localPublicId view facts existing thread))
  markCounterpartIdentityState view.counterpart.counterpartPublicId false facts.updatedAt

/-- `("none", Some("remove"))`. -/
def applyRemoved : Social Unit := do
  let store ← read
  let friendships ← ofExcept (listFriendships store localPublicId)
  let existing := friendships.find? fun friendship =>
    friendship.remotePublicId = view.counterpart.counterpartPublicId
  if existing.any fun friendship => friendship.createdAt > facts.updatedAt then pure ()
  else do
    let thread ← ofExcept
      (findThread store localPublicId view.counterpart.counterpartPublicId)
    removeFriendship localPublicId view facts existing thread

/-- `("none", Some("cancel"))`. -/
def applyCancelled : Social Unit := do
  ignoreConflict (upsertFriendRequest
    (viewRequest localPublicId view facts .cancelled (some "cancelled")))
  clearFriendRequestRetry facts.requestId

/-- `("none", Some("unblock"))`. -/
def applyUnblocked : Social Unit :=
  ignoreConflict (BlockService.removeBlock localPublicId view.counterpart.counterpartPublicId)

variable (existingRequests : List FriendRequest)

/-- The `match` of `reconcile_relationship_views`. -/
def applyView : Social Unit :=
  match view.relationshipState, view.lastAction with
  | "requested", _ => applyRequested localPublicId view facts
  | "accepted", _ => applyAccepted localPublicId view facts existingRequests
  | "rejected", _ => applyRejected localPublicId view facts
  | "blocked", _ => applyBlocked localPublicId view facts
  | "none", some "remove" => applyRemoved localPublicId view facts
  | "none", some "cancel" => applyCancelled localPublicId view facts
  | "none", some "unblock" => applyUnblocked localPublicId view
  | _, _ => pure ()

/-- The body of the loop of `reconcile_relationship_views`; `existingRequests` was
listed before the loop. -/
def reconcileView : Social Unit := do
  cacheCounterpart view.counterpart
  let store ← read
  let thread ← ofExcept
    (findThread store localPublicId view.counterpart.counterpartPublicId)
  applyView localPublicId view (viewFacts localPublicId view existingRequests thread)
    existingRequests

end View

/-- The requests of an identity, none if they cannot be listed. -/
def listedRequests (localPublicId : String) : List FriendRequest :=
  match listFriendRequests store localPublicId with
  | .ok items => items
  | .error _ => []

variable (localPublicId : String)

/-- Applies the reported views in order. -/
def reconcileRelationshipViews (views : List RelationshipSyncView) : Social Unit := do
  let existingRequests := listedRequests (← read) localPublicId
  forEach views fun view => reconcileView localPublicId view existingRequests

variable (state : String)

def threadStateFromSwarm : ThreadState :=
  match state with
  | "ready" => .ready
  | "blocked" => .blocked
  | "closed" => .closed
  | _ => .pending

variable (view : DmThreadSyncView)

/-- The thread a report stores. -/
def syncedThread (existing : Option DirectThread) : DirectThread :=
  let createdAt := (existing.map fun thread => min thread.createdAt view.createdAt).getD
    view.createdAt
  let lastMessageAt := maxOptionalI64 (existing.bind (·.lastMessageAt)) view.lastMessageAt
  { threadId := (existing.map (·.threadId)).getD view.transportThreadId
    localPublicId
    remotePublicId := view.counterpart.counterpartPublicId
    transportThreadId := view.transportThreadId
    state := threadStateFromSwarm view.sessionState
    lastMessageAt
    createdAt
    updatedAt := max (max (max (lastMessageAt.getD view.updatedAt)
      ((existing.map (·.updatedAt)).getD view.updatedAt)) view.updatedAt) createdAt }

/-- The body of the loop of `reconcile_dm_threads`. -/
def reconcileDmThread : Social Unit := do
  cacheCounterpart view.counterpart
  let store ← read
  let existing ← ofExcept
    (findThread store localPublicId view.counterpart.counterpartPublicId)
  ignoreConflict (upsertThread (syncedThread localPublicId view existing))

/-- Applies the reported threads in order. -/
def reconcileDmThreads (views : List DmThreadSyncView) : Social Unit :=
  forEach views (reconcileDmThread localPublicId)

def messageKindFromSwarm (kind : String) : MessageKind :=
  match kind with
  | "relationship_established" => .relationshipEstablished
  | "session_init" => .sessionInit
  | _ => .message

def messageDirectionFromSwarm (direction : String) : MessageDirection :=
  match direction with
  | "inbound" => .inbound
  | _ => .outbound

def deliveryStateFromSwarm : DeliveryState :=
  match state with
  | "delivered" => .delivered
  | "acknowledged" => .acknowledged
  | "failed" => .failed
  | _ => .pending

section MessageView

variable (localPublicId : String) (view : DmMessageSyncView)

/-- `ensure_inbound_dm_allowed`: only an active friend's messages come in. -/
def ensureInboundDmAllowed (store : Store) : Except SocialError Unit :=
  let remote := view.counterpart.counterpartPublicId
  if messageDirectionFromSwarm view.direction ≠ .inbound then .ok ()
  else
    let pair := s!"local_public_id={localPublicId}, remote_public_id={remote}"
    match store.findFriendship localPublicId remote with
    | none =>
      .error (.conflict
        s!"inbound_dm_rejected_not_active_friendship: {pair}, message_id={view.messageId}")
    | some friendship =>
      let text := s!"{pair}, state={friendship.state.debug}, message_id={view.messageId}"
      conflictIf (friendship.state ≠ .active)
        s!"inbound_dm_rejected_not_active_friendship: {text}"

/-- When a message was last changed, as far as its view tells. -/
def messageUpdatedAt : Int := max (view.acknowledgedAt.getD view.createdAt) view.createdAt

variable (existing : Option DirectThread)

/-- The thread a message is filed under: the one of the pair, else a new one under the
transport's id. -/
def socialThreadId : String :=
  (existing.map (·.threadId)).getD view.transportThreadId

/-- The thread a message leaves. -/
def importedThread : DirectThread :=
  let createdAt := (existing.map fun thread => min thread.createdAt view.createdAt).getD
    view.createdAt
  let lastMessageAt := max ((existing.bind (·.lastMessageAt)).getD view.createdAt) view.createdAt
  { threadId := socialThreadId view existing
    localPublicId
    remotePublicId := view.counterpart.counterpartPublicId
    transportThreadId := view.transportThreadId
    state := .ready
    lastMessageAt := some lastMessageAt
    createdAt
    updatedAt := max (max (max (messageUpdatedAt view)
      ((existing.map (·.updatedAt)).getD (messageUpdatedAt view))) lastMessageAt) createdAt }

/-- The message as it is stored. -/
def importedMessage : DirectMessage where
  threadId := socialThreadId view existing
  messageId := view.messageId
  transportMessageId := some view.messageId
  localPublicId
  remotePublicId := view.counterpart.counterpartPublicId
  direction := messageDirectionFromSwarm view.direction
  messageKind := messageKindFromSwarm view.messageKind
  contentJson := view.content
  encryptedBody := view.encryptedBody
  contentEncoding := view.contentEncoding
  agentEnvelopeJson := view.agentEnvelopeJson
  agentSignature := view.agentSignature
  deliveryState := deliveryStateFromSwarm view.deliveryState
  readState := .unread
  createdAt := view.createdAt
  updatedAt := messageUpdatedAt view

/-- The receipts its delivery state implies. -/
def importReceipts : Social Unit := do
  let deliveryState := deliveryStateFromSwarm view.deliveryState
  onlyIf (deliveryState = .delivered || deliveryState = .acknowledged)
    (ignoreConflict (ReceiptService.upsertMessageReceipt
      { messageId := view.messageId
        receiptKind := .delivered
        recordedAt := view.createdAt
        detail := some "reconciled from transport delivery state" }))
  match view.acknowledgedAt with
  | none => pure ()
  | some acknowledgedAt =>
    ignoreConflict (ReceiptService.upsertMessageReceipt
      { messageId := view.messageId
        receiptKind := .acknowledged
        recordedAt := acknowledgedAt
        detail := some "reconciled from transport acknowledgment" })

/-- The rows a message view leaves, in the order they are stored. -/
def storeImported : Social Unit := do
  ignoreConflict (upsertThread (importedThread localPublicId view existing))
  ignoreConflict (MessageService.upsertMessage (importedMessage localPublicId view existing))
  importReceipts view

/-- The body of the loop of `reconcile_dm_messages`. -/
def reconcileDmMessage : Social Unit := do
  cacheCounterpart view.counterpart
  let store ← read
  ofExcept (ensureInboundDmAllowed localPublicId view store)
  let existing ← ofExcept
    (findThread store localPublicId view.counterpart.counterpartPublicId)
  storeImported localPublicId view existing

end MessageView

/-- Imports the reported messages in order. -/
def reconcileDmMessages (views : List DmMessageSyncView) : Social Unit :=
  forEach views (reconcileDmMessage localPublicId)

/-! ## Local actions -/

section Action

variable (input : PersistRelationshipActionInput)

/-- The request an action is about: the given one, else the latest one of the pair
(the latest pending one for a new request), else a new id. -/
def actionRequestId (store : Store) : String :=
  if input.action = .remove then ""
  else
    let items := listedRequests store input.localPublicId
    let counterpart := input.counterpart.counterpartPublicId
    let latest :=
      if input.action = .request then latestPendingRequestForCounterpart items counterpart
      else latestRequestForCounterpart items counterpart
    (input.requestId <|> latest.map (·.requestId)).getD s!"request-{input.occurredAt}"

variable (requestId : String)

/-- The request an action stores. -/
def actionRequest (direction : FriendRequestDirection)
    (state : FriendRequestState) (decisionReason : Option String) : FriendRequest where
  requestId
  localPublicId := input.localPublicId
  remotePublicId := input.counterpart.counterpartPublicId
  remoteNodeId := some input.counterpart.remoteNodeId
  direction
  state
  decisionReason
  correlationId := input.correlationId
  createdAt := input.occurredAt
  updatedAt := input.occurredAt
  expiresAt := none

/-- The thread of the pair. -/
def actionThreadId : String :=
  stablePairId "dm" input.localPublicId input.counterpart.counterpartPublicId

/-- The friendship of the pair. -/
def actionFriendshipId : String :=
  stablePairId "friendship" input.localPublicId input.counterpart.counterpartPublicId

/-- The friendship an action stores. -/
def actionFriendship (state : FriendshipState) : Friendship where
  friendshipId := actionFriendshipId input
  localPublicId := input.localPublicId
  remotePublicId := input.counterpart.counterpartPublicId
  displayName := counterpartDisplayName input.counterpart
  state
  establishedFromRequestId := some requestId
  threadId := some (actionThreadId input)
  createdAt := input.occurredAt
  updatedAt := input.occurredAt

/-- The thread an action stores. -/
def actionThread (threadId : String) (state : ThreadState) : DirectThread where
  threadId
  localPublicId := input.localPublicId
  remotePublicId := input.counterpart.counterpartPublicId
  transportThreadId := threadId
  state
  lastMessageAt := none
  createdAt := input.occurredAt
  updatedAt := input.occurredAt

/-- The block an action stores. -/
def actionBlock : SocialBlock where
  blockId := stablePairId "block" input.localPublicId input.counterpart.counterpartPublicId
  ownerPublicId := input.localPublicId
  blockedPublicId := input.counterpart.counterpartPublicId
  blockedNodeId := some input.counterpart.remoteNodeId
  reason := some "blocked"
  createdAt := input.occurredAt
  updatedAt := input.occurredAt

/-- `RelationshipAction::Accept`. -/
def persistAccept : Social Unit := do
  upsertFriendRequest (actionRequest input requestId .inbound .accepted (some "accepted"))
  upsertFriendship (actionFriendship input requestId .active)
  upsertThreadForEstablishedFriendship (actionThread input (actionThreadId input) .ready)
  markCounterpartIdentityState input.counterpart.counterpartPublicId true input.occurredAt
  acceptRelatedFriendRequests input.localPublicId input.counterpart.ref
    input.occurredAt

/-- `RelationshipAction::Reject`. -/
def persistReject : Social Unit := do
  upsertFriendRequest (actionRequest input requestId .inbound .rejected (some "rejected"))
  settleRelatedOutboundFriendRequests input.localPublicId
    input.counterpart.ref .rejected "rejected" input.occurredAt

/-- The friendship row of a removal: what is there, as removed. -/
def actionRemoved (existing : Option Friendship) : Friendship where
  friendshipId := (existing.map (·.friendshipId)).getD (actionFriendshipId input)
  localPublicId := input.localPublicId
  remotePublicId := input.counterpart.counterpartPublicId
  displayName := counterpartDisplayName input.counterpart <|> existing.bind (·.displayName)
  state := .removed
  establishedFromRequestId := existing.bind (·.establishedFromRequestId)
  threadId := some ((existing.bind (·.threadId)).getD (actionThreadId input))
  createdAt := (existing.map (·.createdAt)).getD input.occurredAt
  updatedAt := input.occurredAt

/-- `RelationshipAction::Remove`. -/
def persistRemove : Social Unit := do
  let store ← read
  let friendships ← ofExcept (listFriendships store input.localPublicId)
  let existing := friendships.find? fun friendship =>
    friendship.remotePublicId = input.counterpart.counterpartPublicId
  upsertFriendship (actionRemoved input existing)
  upsertThread
    (actionThread input ((existing.bind (·.threadId)).getD (actionThreadId input)) .closed)
  markCounterpartIdentityState input.counterpart.counterpartPublicId false input.occurredAt

/-- `RelationshipAction::Block`. -/
def persistBlock : Social Unit := do
  upsertFriendRequest (actionRequest input requestId .inbound .blocked (some "blocked"))
  BlockService.upsertBlock (actionBlock input)
  upsertFriendship (actionFriendship input requestId .blocked)
  upsertThread (actionThread input (actionThreadId input) .blocked)
  settleRelatedOutboundFriendRequests input.localPublicId
    input.counterpart.ref .blocked "blocked" input.occurredAt

/-- The `match` of `persist_relationship_action`. -/
def persistAction : Social Unit :=
  match input.action with
  | .request =>
    upsertFriendRequest (actionRequest input requestId .outbound .pending none)
  | .accept => persistAccept input requestId
  | .reject => persistReject input requestId
  | .cancel =>
    upsertFriendRequest (actionRequest input requestId .outbound .cancelled (some "cancelled"))
  | .remove => persistRemove input
  | .block => persistBlock input requestId
  | .unblock =>
    BlockService.removeBlock input.localPublicId input.counterpart.counterpartPublicId

/-- Carries out an action. -/
def persistRelationshipAction : Social Unit := do
  cacheCounterpart input.counterpart
  persistAction input (actionRequestId input (← read))

end Action

section DirectMessages

variable (input : PersistDmMessageInput)

/-- The thread a sent message leaves. -/
def messageThread (existing : Option DirectThread) : DirectThread where
  threadId := input.threadId
  localPublicId := input.localPublicId
  remotePublicId := input.counterpart.counterpartPublicId
  transportThreadId := (existing.map (·.transportThreadId)).getD input.threadId
  state := .ready
  lastMessageAt := some input.occurredAt
  createdAt := (existing.map (·.createdAt)).getD input.occurredAt
  updatedAt := input.occurredAt

/-- A sent message as it is stored. -/
def sentMessage : DirectMessage where
  threadId := input.threadId
  messageId := input.messageId
  transportMessageId := some input.messageId
  localPublicId := input.localPublicId
  remotePublicId := input.counterpart.counterpartPublicId
  direction := .outbound
  messageKind := .message
  contentJson := input.content
  encryptedBody := none
  contentEncoding := none
  agentEnvelopeJson := some input.agentEnvelopeJson
  agentSignature := input.agentSignature
  deliveryState := .pending
  readState := .unread
  createdAt := input.occurredAt
  updatedAt := input.occurredAt

/-- Stores a message sent from here. -/
def persistDmMessage : Social Unit := do
  cacheCounterpart input.counterpart
  let store ← read
  let existing ← ofExcept
    (findThread store input.localPublicId input.counterpart.counterpartPublicId)
  upsertThread (messageThread input existing)
  MessageService.upsertMessage (sentMessage input)
  ReceiptService.upsertMessageReceipt
    { messageId := input.messageId
      receiptKind := .sent
      recordedAt := input.occurredAt
      detail := some "transport accepted" }

end DirectMessages

/-!
## A small cast

Identities and actions to run the services on.
-/

def toyCounterpart (publicId : String) : CounterpartSnapshot where
  counterpartPublicId := publicId
  targetAgent := publicId
  remoteNodeId := "node-" ++ publicId
  knownIdentity := none
  knownBinding := none
  observedAt := 1

def toyAction (action : RelationshipAction) (localPublicId remotePublicId : String)
    (requestId : Option String) (occurredAt : Int) : PersistRelationshipActionInput where
  localPublicId
  counterpart := toyCounterpart remotePublicId
  action
  requestId
  correlationId := none
  occurredAt

def toyView (relationshipState : String) (lastAction : Option String)
    (initiatedBy remotePublicId : String) (updatedAt : Int) : RelationshipSyncView where
  counterpart := toyCounterpart remotePublicId
  relationshipState
  lastAction
  initiatedBy
  requestId := none
  correlationId := none
  requestedAt := none
  respondedAt := none
  updatedAt

def toyMessage (direction remotePublicId messageId : String) : DmMessageSyncView where
  counterpart := toyCounterpart remotePublicId
  transportThreadId := "dm-" ++ remotePublicId
  messageId
  messageKind := "message"
  direction
  deliveryState := "delivered"
  content := .null
  encryptedBody := none
  contentEncoding := none
  agentEnvelopeJson := none
  agentSignature := none
  createdAt := 5
  acknowledgedAt := none

/-- The store after a list of actions, from an empty one. -/
def toyStore (actions : List PersistRelationshipActionInput) : Store :=
  actions.foldl (fun store input => after (persistRelationshipAction input) store) .empty

end WattSocial
