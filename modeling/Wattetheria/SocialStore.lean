import Wattetheria.JournaledPrograms
import Wattetheria.JsonValue
import Wattetheria.RowTables

/-!
# The social store

Friend requests, friendships, blocks and direct threads of the local
identities of a node, as `wattetheria-social` keeps them in one SQLite
database: the domain types with their transition rules, the tables with their
primary keys and `ON CONFLICT` clauses, and the repository queries.  Every repository
call is one statement without a transaction around it, so a service is a `Program` over
the store.
-/

namespace WattSocial

open WattText WattJson WattRows WattJournal

/-- `SocialError`, with the text it carries. -/
inductive SocialError where
  | invalidInput (text : String)
  | notFound (text : String)
  | conflict (text : String)
  | storage (text : String)
  | did (text : String)
  deriving DecidableEq

/-- `i64` arithmetic that stops at the ends of the range. -/
def saturate (n : Int) : Int := max (-2 ^ 63) (min (2 ^ 63 - 1) n)

/-! ## Friend requests -/

/-- Who asked. -/
inductive FriendRequestDirection where
  | inbound
  | outbound
  deriving DecidableEq

/-- The state of a request. -/
inductive FriendRequestState where
  | pending
  | decisionPending
  | accepted
  | rejected
  | blocked
  | cancelled
  | expired
  deriving DecidableEq

/-- The `Debug` text of a state. -/
def FriendRequestState.debug : FriendRequestState → String
  | .pending => "Pending"
  | .decisionPending => "DecisionPending"
  | .accepted => "Accepted"
  | .rejected => "Rejected"
  | .blocked => "Blocked"
  | .cancelled => "Cancelled"
  | .expired => "Expired"

/-- A friend request of a local identity. -/
structure FriendRequest where
  (requestId localPublicId remotePublicId : String)
  remoteNodeId : Option String
  direction : FriendRequestDirection
  state : FriendRequestState
  (decisionReason correlationId : Option String)
  (createdAt updatedAt : Int)
  expiresAt : Option Int
  deriving DecidableEq

/-- Which state may follow. -/
def FriendRequest.canTransitionTo (request : FriendRequest) (next : FriendRequestState) : Bool :=
  if request.state = next then true
  else
    match request.state with
    | .pending => next ∈ [.decisionPending, .accepted, .rejected, .blocked, .cancelled, .expired]
    | .decisionPending => next ∈ [.accepted, .rejected, .blocked, .cancelled, .expired]
    | .accepted | .rejected | .blocked | .cancelled | .expired => false

/-! ## Friendships -/

/-- The state of a friendship. -/
inductive FriendshipState where
  | active
  | removed
  | blocked
  deriving DecidableEq

def FriendshipState.debug : FriendshipState → String
  | .active => "Active"
  | .removed => "Removed"
  | .blocked => "Blocked"

/-- A friendship of a local identity. -/
structure Friendship where
  (friendshipId localPublicId remotePublicId : String)
  displayName : Option String
  state : FriendshipState
  (establishedFromRequestId threadId : Option String)
  (createdAt updatedAt : Int)
  deriving DecidableEq

namespace Friendship

variable (friendship : Friendship)

def isActive : Bool := friendship.state = .active

/-- Which state may follow. -/
def canTransitionTo (next : FriendshipState) : Bool :=
  match friendship.state, next with
  | .active, .active => true
  | .removed, .removed => true
  | .blocked, .blocked => true
  | .active, .removed | .active, .blocked => true
  | .removed, _ | .blocked, _ => false

/-- `Friendship::is_reestablished_by`: only another, newly accepted request makes a
removed friendship active again. -/
def isReestablishedBy (friendship next : Friendship) : Bool :=
  friendship.state = .removed && next.state = .active
    && next.establishedFromRequestId.any
      fun requestId => friendship.establishedFromRequestId ≠ some requestId

end Friendship

/-! ## Blocks and direct threads -/

/-- A block by a local identity. -/
structure SocialBlock where
  (blockId ownerPublicId blockedPublicId : String)
  (blockedNodeId reason : Option String)
  (createdAt updatedAt : Int)
  deriving DecidableEq

/-- The state of a thread. -/
inductive ThreadState where
  | pending
  | ready
  | closed
  | blocked
  deriving DecidableEq

def ThreadState.debug : ThreadState → String
  | .pending => "Pending"
  | .ready => "Ready"
  | .closed => "Closed"
  | .blocked => "Blocked"

/-- A thread of a local identity. -/
structure DirectThread where
  (threadId localPublicId remotePublicId transportThreadId : String)
  state : ThreadState
  lastMessageAt : Option Int
  (createdAt updatedAt : Int)

namespace DirectThread

variable (thread : DirectThread) (next : ThreadState)

/-- Which state may follow. -/
def canTransitionTo : Bool :=
  if thread.state = next then true
  else
    match thread.state with
    | .pending => next ∈ [.ready, .closed, .blocked]
    | .ready => next ∈ [.closed, .blocked]
    | .closed | .blocked => false

/-- `DirectThread::can_reopen_to`: blocked threads never reopen this way. -/
def canReopenTo : Bool :=
  thread.state = .closed && next = .ready

end DirectThread

/-! ## Remote identities, transport bindings, messages and receipts -/

/-- A known identity. -/
structure RemoteIdentityProfile where
  (publicId agentDid displayName : String)
  description : Option String
  (capabilities skills : List String)
  didDocumentJson : Option JsonValue
  active : Bool
  lastProfileFetchedAt : Option Int
  (createdAt updatedAt : Int)

/-- The transport. -/
inductive TransportKind where
  | wattswarm
  deriving DecidableEq

/-- The node of an identity. -/
structure RemoteTransportBinding where
  publicId : String
  agentDid : Option String
  transportKind : TransportKind
  (transportNodeId bindingSource : String)
  bindingConfidence : Int
  bindingProofJson : Option JsonValue
  bindingVerified : Bool
  bindingVerifiedAt : Option Int
  updatedAt : Int

/-- Who sent it. -/
inductive MessageDirection where
  | inbound
  | outbound
  deriving DecidableEq

/-- The kind of a message. -/
inductive MessageKind where
  | message
  | relationshipEstablished
  | sessionInit

/-- How far a message got. -/
inductive DeliveryState where
  | pending
  | delivered
  | acknowledged
  | failed
  deriving DecidableEq

/-- Which state may follow. -/
def DeliveryState.canTransitionTo (state next : DeliveryState) : Bool :=
  if state = next then true
  else
    match state with
    | .pending => next ∈ [.delivered, .acknowledged, .failed]
    | .delivered => next ∈ [.acknowledged, .failed]
    | .acknowledged | .failed => false

/-- Whether it was read. -/
inductive ReadState where
  | unread
  | read

/-- Which state may follow. -/
def ReadState.canTransitionTo : ReadState → ReadState → Bool
  | .unread, _ => true
  | .read, .read => true
  | .read, .unread => false

/-- A message of a thread. -/
structure DirectMessage where
  (threadId messageId : String)
  transportMessageId : Option String
  (localPublicId remotePublicId : String)
  direction : MessageDirection
  messageKind : MessageKind
  contentJson : JsonValue
  (encryptedBody contentEncoding : Option String)
  agentEnvelopeJson : Option JsonValue
  agentSignature : Option String
  deliveryState : DeliveryState
  readState : ReadState
  (createdAt updatedAt : Int)

/-- What a receipt confirms. -/
inductive ReceiptKind where
  | sent
  | delivered
  | acknowledged
  | read
  deriving DecidableEq

/-- A receipt of a message. -/
structure MessageReceipt where
  messageId : String
  receiptKind : ReceiptKind
  recordedAt : Int
  detail : Option String

/-!
## The tables

The `UPDATE` of every upsert names all columns but the key and `created_at`.
-/

instance : Row FriendRequest String where
  key := FriendRequest.requestId
  merge old new := { new with createdAt := old.createdAt }
  key_merge _ _ := rfl

instance : Row Friendship String where
  key := Friendship.friendshipId
  merge old new := { new with createdAt := old.createdAt }
  key_merge _ _ := rfl

instance : Row SocialBlock String where
  key := SocialBlock.blockId
  merge old new := { new with createdAt := old.createdAt }
  key_merge _ _ := rfl

instance : Row DirectThread String where
  key := DirectThread.threadId
  merge old new := { new with createdAt := old.createdAt }
  key_merge _ _ := rfl

instance : Row RemoteIdentityProfile String where
  key := RemoteIdentityProfile.publicId
  merge old new := { new with createdAt := old.createdAt }
  key_merge _ _ := rfl

-- a binding has no `created_at`, and a receipt is all key but its `detail`
instance : Row RemoteTransportBinding (String × String) where
  key binding := (binding.publicId, binding.transportNodeId)
  merge _ new := new
  key_merge _ _ := rfl

instance : Row DirectMessage (String × String) where
  key message := (message.threadId, message.messageId)
  merge old new := { new with createdAt := old.createdAt }
  key_merge _ _ := rfl

instance : Row MessageReceipt (String × ReceiptKind × Int) where
  key receipt := (receipt.messageId, receipt.receiptKind, receipt.recordedAt)
  merge _ new := new
  key_merge _ _ := rfl

/-- `SocialStore`: the tables the relationship services read and write.  Of the
reliability tasks only the key `(object_kind, object_id)` is used here. -/
structure Store where
  identities : Table RemoteIdentityProfile
  bindings : Table RemoteTransportBinding
  friendRequests : Table FriendRequest
  friendships : Table Friendship
  blocks : Table SocialBlock
  threads : Table DirectThread
  messages : Table DirectMessage
  receipts : Table MessageReceipt
  reliabilityTasks : List (String × String)

/-- `SocialStore::open_in_memory`, or a new database file. -/
def Store.empty : Store where
  identities := .empty
  bindings := .empty
  friendRequests := .empty
  friendships := .empty
  blocks := .empty
  threads := .empty
  messages := .empty
  receipts := .empty
  reliabilityTasks := []

/-- The statements of the repositories that change the database. -/
inductive Write where
  | upsertRemoteIdentity (identity : RemoteIdentityProfile)
  | upsertTransportBinding (binding : RemoteTransportBinding)
  | upsertFriendRequest (request : FriendRequest)
  | upsertFriendship (friendship : Friendship)
  | upsertBlock (block : SocialBlock)
  | removeBlock (ownerPublicId blockedPublicId : String)
  | upsertThread (thread : DirectThread)
  | upsertMessage (message : DirectMessage)
  | upsertMessageReceipt (receipt : MessageReceipt)
  | clearReliabilityTask (objectKind objectId : String)

/-- `WHERE owner_public_id = ?1 AND blocked_public_id = ?2`. -/
def SocialBlock.between (owner blocked : String) (block : SocialBlock) : Bool :=
  block.ownerPublicId = owner && block.blockedPublicId = blocked

/-- What a statement does. -/
def Store.apply (store : Store) : Write → Store
  | .upsertRemoteIdentity identity =>
    { store with identities := store.identities.upsert identity }
  | .upsertTransportBinding binding => { store with bindings := store.bindings.upsert binding }
  | .upsertFriendRequest request =>
    { store with friendRequests := store.friendRequests.upsert request }
  | .upsertFriendship friendship =>
    { store with friendships := store.friendships.upsert friendship }
  | .upsertBlock block => { store with blocks := store.blocks.upsert block }
  | .removeBlock owner blocked =>
    { store with blocks := store.blocks.delete (SocialBlock.between owner blocked) }
  | .upsertThread thread => { store with threads := store.threads.upsert thread }
  | .upsertMessage message => { store with messages := store.messages.upsert message }
  | .upsertMessageReceipt receipt => { store with receipts := store.receipts.upsert receipt }
  | .clearReliabilityTask objectKind objectId =>
    { store with
      reliabilityTasks := store.reliabilityTasks.filter (· ≠ (objectKind, objectId)) }

instance : Replay Write Store := ⟨Store.apply⟩

/-- A program over the store. -/
abbrev Social (α : Type) : Type := Program Store Write SocialError α

/-! ## Queries -/

/-- `ORDER BY updated_at DESC, id ASC`. -/
def newestFirst {ρ : Type} (updatedAt : ρ → Int) (id : ρ → String) (a b : ρ) : Prop :=
  updatedAt b < updatedAt a ∨ (updatedAt a = updatedAt b ∧ id a ≤ id b)

instance {ρ : Type} (updatedAt : ρ → Int) (id : ρ → String) :
    DecidableRel (newestFirst updatedAt id) := fun _ _ => inferInstanceAs (Decidable (_ ∨ _))

/-- SQLite's `trim(text) <> ''`, which only strips blanks. -/
def notBlank (text : String) : Bool := text.toList.any (· ≠ ' ')

namespace Store

variable (store : Store)

def getRemoteIdentity (publicId : String) : Option RemoteIdentityProfile :=
  store.identities.rows.find? fun identity => identity.publicId = publicId

variable (localPublicId : String)

/-- The rows of `list_friend_requests`, before their `ORDER BY`. -/
def ownFriendRequests : List FriendRequest :=
  store.friendRequests.rows.filter fun request =>
    request.localPublicId = localPublicId && notBlank request.requestId

/-- An identity's requests, newest first. -/
def listFriendRequests : List FriendRequest :=
  (store.ownFriendRequests localPublicId).insertionSort
    (newestFirst FriendRequest.updatedAt FriendRequest.requestId)

/-- An identity's friendships, newest first. -/
def listFriendships : List Friendship :=
  (store.friendships.rows.filter fun friendship =>
      friendship.localPublicId = localPublicId).insertionSort
    (newestFirst Friendship.updatedAt Friendship.friendshipId)

variable (localPublicId remotePublicId : String)

/-- A query without `ORDER BY` gives the first row in insertion order. -/
def findFriendship : Option Friendship :=
  store.friendships.rows.find? fun friendship =>
    friendship.localPublicId = localPublicId && friendship.remotePublicId = remotePublicId

def findBlock (ownerPublicId blockedPublicId : String) : Option SocialBlock :=
  store.blocks.rows.find? (SocialBlock.between ownerPublicId blockedPublicId)

def findThread : Option DirectThread :=
  store.threads.rows.find? fun thread =>
    thread.localPublicId = localPublicId && thread.remotePublicId = remotePublicId

def getMessage (threadId messageId : String) : Option DirectMessage :=
  store.messages.rows.find? fun message =>
    message.threadId = threadId && message.messageId = messageId

variable {store} {localPublicId : String} {friendship : Friendship} {remotePublicId : String}

lemma mem_listFriendRequests {request : FriendRequest} :
    request ∈ store.listFriendRequests localPublicId
      ↔ request ∈ store.friendRequests.rows ∧ request.localPublicId = localPublicId
        ∧ notBlank request.requestId = true := by
  rw [listFriendRequests, List.mem_insertionSort, ownFriendRequests, List.mem_filter,
    Bool.and_eq_true, decide_eq_true_eq]

lemma mem_listFriendships : friendship ∈ store.listFriendships localPublicId
      ↔ friendship ∈ store.friendships.rows ∧ friendship.localPublicId = localPublicId := by
  rw [listFriendships, List.mem_insertionSort, List.mem_filter, decide_eq_true_eq]

lemma findFriendship_some
    (h : store.findFriendship localPublicId remotePublicId = some friendship) :
    friendship ∈ store.friendships.rows ∧ friendship.localPublicId = localPublicId
      ∧ friendship.remotePublicId = remotePublicId := by
  have hpair := List.find?_some h
  rw [Bool.and_eq_true, decide_eq_true_eq, decide_eq_true_eq] at hpair
  exact ⟨List.mem_of_find?_eq_some h, hpair⟩

lemma findThread_some {thread : DirectThread}
    (h : store.findThread localPublicId remotePublicId = some thread) :
    thread ∈ store.threads.rows ∧ thread.localPublicId = localPublicId
      ∧ thread.remotePublicId = remotePublicId := by
  have hpair := List.find?_some h
  rw [Bool.and_eq_true, decide_eq_true_eq, decide_eq_true_eq] at hpair
  exact ⟨List.mem_of_find?_eq_some h, hpair⟩

lemma findBlock_isSome {ownerPublicId blockedPublicId : String} :
    (store.findBlock ownerPublicId blockedPublicId).isSome = true
      ↔ ∃ block ∈ store.blocks.rows, block.ownerPublicId = ownerPublicId
        ∧ block.blockedPublicId = blockedPublicId := by
  rw [findBlock, List.find?_isSome]
  simp [SocialBlock.between]

end Store

end WattSocial
