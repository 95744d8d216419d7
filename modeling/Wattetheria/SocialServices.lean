import Wattetheria.SocialStore

/-!
# The services of the social crate

`application::{friend_request, friendship, block, thread, message, receipt,
remote_identity, transport_binding}_service`: each checks the row it is given
and, for a row that is already there, the transition, before it calls the
repository.  A friend request is also merged with what the pair already has
(`coalesceFriendRequest`), and the listed requests are not all that are stored
(`dedupeFriendRequests`).
-/

namespace WattSocial

open WattText WattJson WattRows WattJournal Program

variable (text : String)

/-- `if text.trim().is_empty()`. -/
def blank : Bool := isEmpty (trim text)

variable (c : Bool)

/-- `if c { return Err(SocialError::InvalidInput(text)) }`. -/
def refuseIf (text : String) : Except SocialError Unit :=
  if c then .error (.invalidInput text) else .ok ()

/-- `if c { return Err(SocialError::Conflict(text)) }`. -/
def conflictIf (text : String) : Except SocialError Unit :=
  if c then .error (.conflict text) else .ok ()

/-! ## Remote identities and transport bindings -/

namespace RemoteIdentityService

variable (identity : RemoteIdentityProfile)

/-- An identity's fields are there. -/
def check : Except SocialError Unit := do
  refuseIf (blank identity.publicId) "public_id is required"
  refuseIf (blank identity.agentDid) "agent_did is required"
  refuseIf (blank identity.displayName) "display_name is required"
  refuseIf (identity.updatedAt < identity.createdAt) "updated_at must be >= created_at"

/-- Stores an identity. -/
def upsertRemoteIdentity : Social Unit := do
  ofExcept (check identity)
  write (.upsertRemoteIdentity identity)

end RemoteIdentityService

namespace TransportBindingService

variable (binding : RemoteTransportBinding)

/-- A binding's fields are there. -/
def check : Except SocialError Unit := do
  refuseIf (blank binding.publicId) "public_id is required"
  refuseIf (blank binding.transportNodeId) "transport_node_id is required"
  refuseIf (blank binding.bindingSource) "binding_source is required"
  refuseIf (binding.bindingConfidence < 0) "binding_confidence must be >= 0"

/-- Stores a binding. -/
def upsertTransportBinding : Social Unit := do
  ofExcept (check binding)
  write (.upsertTransportBinding binding)

end TransportBindingService

/-! ## Friend requests -/

namespace FriendRequestService

/-- The names of a counterpart. -/
structure FriendRequestCounterpartRef where
  (publicId remoteNodeId targetAgent : String)

variable (left right : FriendRequest)

def sameIdentityPair : Bool :=
  left.localPublicId = right.localPublicId && left.remotePublicId = right.remotePublicId

def sameRequestPair : Bool :=
  sameIdentityPair left right && left.direction = right.direction

variable (state : FriendRequestState)

/-- States that shut out a new request. -/
def blocksNewPendingRequest : Bool :=
  state = .decisionPending || state = .blocked

/-- `merge_friend_request`: the incoming request under the id of the existing one. -/
def mergeFriendRequest (existing incoming : FriendRequest) : FriendRequest where
  requestId := existing.requestId
  localPublicId := incoming.localPublicId
  remotePublicId := incoming.remotePublicId
  remoteNodeId := incoming.remoteNodeId <|> existing.remoteNodeId
  direction := incoming.direction
  state := incoming.state
  decisionReason := incoming.decisionReason <|> existing.decisionReason
  correlationId := incoming.correlationId <|> existing.correlationId
  createdAt := min existing.createdAt incoming.createdAt
  updatedAt := max existing.updatedAt incoming.updatedAt
  expiresAt := incoming.expiresAt <|> existing.expiresAt

variable (existingItems : List FriendRequest)

/-- `coalesce_friend_request`: the row to store for a request, or `none` if it is to
be ignored. -/
def coalesceFriendRequest (request : FriendRequest) : Option FriendRequest :=
  if request.state = .pending then
    if existingItems.any fun item =>
        sameIdentityPair item request && blocksNewPendingRequest item.state then none
    else
      match existingItems.find? fun item =>
          item.requestId = request.requestId && sameRequestPair item request
            && item.state = .pending with
      | some existing => some (mergeFriendRequest existing request)
      | none => some request
  else
    match existingItems.find? fun item => item.requestId = request.requestId with
    | some existing => some (mergeFriendRequest existing request)
    | none =>
      match existingItems.find? fun item =>
          sameRequestPair item request && item.state = .pending with
      | some existing => some (mergeFriendRequest existing request)
      | none =>
        match existingItems.find? fun item =>
            sameRequestPair item request && item.state ≠ .pending with
        | some existing =>
          if existing.state = request.state then some (mergeFriendRequest existing request)
          else none
        | none => some request

variable (request : FriendRequest)

/-- The fields are there. -/
def validateFriendRequest : Except SocialError Unit := do
  refuseIf (blank request.requestId) "request_id is required"
  refuseIf (blank request.localPublicId) "local_public_id is required"
  refuseIf (blank request.remotePublicId) "remote_public_id is required"
  refuseIf (request.updatedAt < request.createdAt) "updated_at must be >= created_at"
  refuseIf (request.state ≠ .pending && request.decisionReason.isNone)
    "decision_reason is required for non-pending requests"

/-- The other pending requests of the pair, which a new pending one supersedes. -/
def supersedes (request item : FriendRequest) : Bool :=
  item.requestId ≠ request.requestId && sameRequestPair item request && item.state = .pending

/-- The row a newer request cancels. -/
def superseded (request existingPending : FriendRequest) : FriendRequest :=
  { existingPending with
    state := .cancelled
    decisionReason := some "superseded_by_new_request"
    updatedAt := max existingPending.updatedAt request.updatedAt }

/-- The rows `upsert_friend_request` stores once the transition is allowed. -/
def storeCoalesced (request : FriendRequest) : Social Unit :=
  match coalesceFriendRequest existingItems request with
  | none => pure ()
  | some coalesced => do
      onlyIf (request.state = .pending)
        (forEach (existingItems.filter (supersedes request)) fun existingPending =>
          write (.upsertFriendRequest (superseded request existingPending)))
      write (.upsertFriendRequest coalesced)

/-- Merges and stores a request. -/
def upsertFriendRequest : Social Unit := do
  ofExcept (validateFriendRequest request)
  let existingItems := (← read).listFriendRequests request.localPublicId
  match existingItems.find? fun item => item.requestId = request.requestId with
  | none => storeCoalesced existingItems request
  | some existing =>
    if existing.canTransitionTo request.state then storeCoalesced existingItems request
    -- a replayed request never reopens a decided one
    else if request.state = .pending then pure ()
    else
      let text :=
        s!"invalid friend request transition: {existing.state.debug} -> {request.state.debug}"
      ofExcept (.error (.conflict text))

variable (items : List FriendRequest)

/-- The identity pairs with a request that shuts out pending ones. -/
def blockingPairs : List (String × String) :=
  (items.filter fun item => blocksNewPendingRequest item.state).map
    fun item => (item.localPublicId, item.remotePublicId)

/-- The `filter` of `dedupe_friend_requests`: of the pending requests, the first of
each pair and direction whose pair is not shut out. -/
def keepFirstPending (blocking : List (String × String)) :
    List (String × String × FriendRequestDirection) → List FriendRequest → List FriendRequest
  | _, [] => []
  | seen, item :: items =>
    if item.state ≠ .pending then item :: keepFirstPending blocking seen items
    else if (item.localPublicId, item.remotePublicId) ∈ blocking then
      keepFirstPending blocking seen items
    else if (item.localPublicId, item.remotePublicId, item.direction) ∈ seen then
      keepFirstPending blocking seen items
    else
      item :: keepFirstPending blocking
        ((item.localPublicId, item.remotePublicId, item.direction) :: seen) items

/-- The order of `dedupe_friend_requests`: newest first. -/
def dedupeOrder (a b : FriendRequest) : Prop :=
  b.updatedAt < a.updatedAt ∨ (a.updatedAt = b.updatedAt
    ∧ (b.createdAt < a.createdAt ∨ (a.createdAt = b.createdAt ∧ a.requestId ≤ b.requestId)))

instance : DecidableRel dedupeOrder := fun _ _ => inferInstanceAs (Decidable (_ ∨ _))

/-- At most one pending request for a pair. -/
def dedupeFriendRequests : List FriendRequest :=
  keepFirstPending (blockingPairs items) [] (items.insertionSort dedupeOrder)

/-- The requests of an identity, deduplicated. -/
def listFriendRequests (store : Store) (localPublicId : String) :
    Except SocialError (List FriendRequest) := do
  refuseIf (blank localPublicId) "local_public_id is required"
  return dedupeFriendRequests (store.listFriendRequests localPublicId)

/-- A decision to be queued. -/
structure QueueFriendRequestDecisionInput where
  (localPublicId requestId remotePublicId remoteNodeId decisionReason : String)
  correlationId : Option String
  occurredAt : Int

variable (input : QueueFriendRequestDecisionInput)

/-- The row a queued decision asks for, from the listed request under its id. -/
def queuedDecision (existing : Option FriendRequest) : FriendRequest where
  requestId := input.requestId
  localPublicId := input.localPublicId
  remotePublicId := input.remotePublicId
  remoteNodeId := some input.remoteNodeId
  direction := .inbound
  state := .decisionPending
  decisionReason := some input.decisionReason
  correlationId := input.correlationId <|> existing.bind (·.correlationId)
  createdAt := (existing.map fun request => min request.createdAt input.occurredAt).getD
    input.occurredAt
  updatedAt := input.occurredAt
  expiresAt := existing.bind (·.expiresAt)

/-- `queue_friend_request_decision`; a listed request that is decided stays so. -/
def queueFriendRequestDecision : Social Unit := do
  let store ← read
  let requests ← ofExcept (listFriendRequests store input.localPublicId)
  let existing := requests.find? fun request => request.requestId = input.requestId
  if existing.any fun request =>
      request.state ≠ .pending && request.state ≠ .decisionPending then pure ()
  else upsertFriendRequest (queuedDecision input existing)

def clearFriendRequestRetry (requestId : String) : Social Unit :=
  write (.clearReliabilityTask "friend_request" requestId)

variable (counterpart : FriendRequestCounterpartRef)

def counterpartMatchKeys : List String :=
  ([counterpart.publicId, counterpart.remoteNodeId, counterpart.targetAgent].map trim).filter
    fun value => !isEmpty value

variable (counterpartKeys : List String)

/-- The request names the counterpart. -/
def requestMatchesCounterpart : Bool :=
  counterpartKeys.contains (trim request.remotePublicId)
    || request.remoteNodeId.any fun remoteNodeId => counterpartKeys.contains (trim remoteNodeId)

/-- Local actions use seconds; transport projections and legacy rows may use
milliseconds. -/
def asMillis (timestamp : Int) : Int :=
  if timestamp > 10000000000 then timestamp else saturate (timestamp * 1000)

variable (occurredAt : Int)

/-- The last instant an acceptance covers: a whole second, for a time in seconds. -/
def acceptedAt : Int :=
  if occurredAt > 10000000000 then occurredAt else saturate (asMillis occurredAt + 999)

/-- One raw record in `accept_related_friend_requests`. -/
def acceptRelated (request : FriendRequest) : Social Unit :=
  if !requestMatchesCounterpart request counterpartKeys
      || asMillis request.createdAt > acceptedAt occurredAt then pure ()
  else
    let superseded := request.state = .cancelled
      && request.decisionReason = some "superseded_by_new_request"
    do
      onlyIf (request.state = .pending || request.state = .decisionPending || superseded)
        (write (.upsertFriendRequest { request with
            state := .accepted
            decisionReason := some "accepted"
            updatedAt := max request.updatedAt occurredAt }))
      onlyIf (request.state = .pending || request.state = .decisionPending
          || request.state = .accepted || superseded)
        (clearFriendRequestRetry request.requestId)

variable (localPublicId : String)

/-- `accept_related_friend_requests`, on the raw records: the inbox projection hides
superseded duplicate requests. -/
def acceptRelatedFriendRequests
    (counterpart : FriendRequestCounterpartRef) (occurredAt : Int) : Social Unit := do
  let requests := (← read).listFriendRequests localPublicId
  forEach requests (acceptRelated (counterpartMatchKeys counterpart) occurredAt)

/-- The requests `settle_related_outbound_friend_requests` decides. -/
def settles (request : FriendRequest) : Bool :=
  request.direction = .outbound && request.state = .pending
    && requestMatchesCounterpart request counterpartKeys

variable (decisionReason : String)

/-- The request as it is settled. -/
def settled (occurredAt : Int) (request : FriendRequest) : FriendRequest :=
  { request with
    state
    decisionReason := some decisionReason
    updatedAt := max request.updatedAt occurredAt }

def settleOne (occurredAt : Int) (request : FriendRequest) : Social Unit := do
  upsertFriendRequest (settled state decisionReason occurredAt request)
  clearFriendRequestRetry request.requestId

/-- Settles the outbound requests to a counterpart. -/
def settleRelatedOutboundFriendRequests
    (counterpart : FriendRequestCounterpartRef) (state : FriendRequestState)
    (decisionReason : String) (occurredAt : Int) : Social Unit := do
  let store ← read
  let requests ← ofExcept (listFriendRequests store localPublicId)
  forEach (requests.filter (settles (counterpartMatchKeys counterpart)))
    (settleOne state decisionReason occurredAt)

end FriendRequestService

/-! ## Friendships -/

namespace FriendshipService

variable (friendship : Friendship)

/-- A friendship's fields are there. -/
def check : Except SocialError Unit := do
  refuseIf (blank friendship.friendshipId) "friendship_id is required"
  refuseIf (blank friendship.localPublicId || blank friendship.remotePublicId)
    "local_public_id and remote_public_id are required"
  refuseIf (friendship.updatedAt < friendship.createdAt) "updated_at must be >= created_at"

/-- The friendship the pair has refuses the next one. -/
def refuses (next existing : Friendship) : Bool :=
  !existing.canTransitionTo next.state && !existing.isReestablishedBy next

variable (store : Store)

/-- The transition check against the friendship the pair has. -/
def checkTransition (friendship : Friendship) : Except SocialError Unit :=
  match store.findFriendship friendship.localPublicId friendship.remotePublicId with
  | none => .ok ()
  | some existing =>
    conflictIf (refuses friendship existing)
      s!"invalid friendship transition: {existing.state.debug} -> {friendship.state.debug}"

/-- Stores a friendship that may follow the old one. -/
def upsertFriendship : Social Unit := do
  ofExcept (check friendship)
  ofExcept (checkTransition (← read) friendship)
  write (.upsertFriendship friendship)

def listFriendships (localPublicId : String) : Except SocialError (List Friendship) := do
  refuseIf (blank localPublicId) "local_public_id is required"
  return store.listFriendships localPublicId

end FriendshipService

/-! ## Blocks -/

namespace BlockService

variable (block : SocialBlock)

/-- A block's fields are there. -/
def check : Except SocialError Unit := do
  refuseIf (blank block.blockId) "block_id is required"
  refuseIf (blank block.ownerPublicId || blank block.blockedPublicId)
    "owner_public_id and blocked_public_id are required"
  refuseIf (block.updatedAt < block.createdAt) "updated_at must be >= created_at"

/-- Stores a block. -/
def upsertBlock : Social Unit := do
  ofExcept (check block)
  write (.upsertBlock block)

/-- Deletes a block. -/
def removeBlock (ownerPublicId blockedPublicId : String) : Social Unit := do
  ofExcept (refuseIf (blank ownerPublicId || blank blockedPublicId)
    "owner_public_id and blocked_public_id are required")
  write (.removeBlock ownerPublicId blockedPublicId)

end BlockService

/-! ## Threads, messages and receipts -/

namespace ThreadService

variable (thread : DirectThread)

/-- A thread's fields are there. -/
def check : Except SocialError Unit := do
  refuseIf (blank thread.threadId) "thread_id is required"
  refuseIf (blank thread.localPublicId || blank thread.remotePublicId)
    "local_public_id and remote_public_id are required"
  refuseIf (blank thread.transportThreadId) "transport_thread_id is required"
  refuseIf (thread.updatedAt < thread.createdAt) "updated_at must be >= created_at"
  refuseIf (thread.lastMessageAt.any fun lastMessageAt =>
      lastMessageAt < thread.createdAt || thread.updatedAt < lastMessageAt)
    "last_message_at must be within thread lifetime"

variable (reopenClosed : Bool)

/-- The thread the pair has refuses the next state. -/
def refuses (next : ThreadState) (existing : DirectThread) : Bool :=
  !existing.canTransitionTo next && !(reopenClosed && existing.canReopenTo next)

variable (store : Store)

/-- The transition check against the thread the pair has. -/
def checkTransition (thread : DirectThread) (reopenClosed : Bool) : Except SocialError Unit :=
  match store.findThread thread.localPublicId thread.remotePublicId with
  | none => .ok ()
  | some existing =>
    conflictIf (refuses reopenClosed thread.state existing)
      s!"invalid thread transition: {existing.state.debug} -> {thread.state.debug}"

/-- Stores a thread that may follow the old one. -/
def upsertThreadChecked : Social Unit := do
  ofExcept (check thread)
  ofExcept (checkTransition (← read) thread reopenClosed)
  write (.upsertThread thread)

def upsertThread : Social Unit := upsertThreadChecked thread false

/-- Upserts the thread of a friendship that is active after an accept, reopening the
thread that was closed when an earlier friendship was removed. -/
def upsertThreadForEstablishedFriendship : Social Unit :=
  upsertThreadChecked thread true

/-- The thread of a pair. -/
def findThread (localPublicId remotePublicId : String) :
    Except SocialError (Option DirectThread) := do
  refuseIf (blank localPublicId || blank remotePublicId)
    "local_public_id and remote_public_id are required"
  return store.findThread localPublicId remotePublicId

end ThreadService

namespace MessageService

variable (message : DirectMessage)

/-- A message's fields are there. -/
def check : Except SocialError Unit := do
  refuseIf (blank message.threadId) "thread_id is required"
  refuseIf (blank message.messageId) "message_id is required"
  refuseIf (blank message.localPublicId || blank message.remotePublicId)
    "local_public_id and remote_public_id are required"
  refuseIf (message.updatedAt < message.createdAt) "updated_at must be >= created_at"

/-- The transition check against the message stored under the same id. -/
def checkTransition (store : Store) (message : DirectMessage) : Except SocialError Unit :=
  match store.getMessage message.threadId message.messageId with
  | none => .ok ()
  | some existing =>
    conflictIf (!existing.deliveryState.canTransitionTo message.deliveryState
        || !existing.readState.canTransitionTo message.readState)
      "invalid message delivery/read transition"

/-- Stores a message that may follow the old one. -/
def upsertMessage : Social Unit := do
  ofExcept (check message)
  ofExcept (checkTransition (← read) message)
  write (.upsertMessage message)

end MessageService

namespace ReceiptService

/-- Stores a receipt. -/
def upsertMessageReceipt (receipt : MessageReceipt) : Social Unit := do
  ofExcept (refuseIf (blank receipt.messageId) "message_id is required")
  write (.upsertMessageReceipt receipt)

end ReceiptService

end WattSocial
