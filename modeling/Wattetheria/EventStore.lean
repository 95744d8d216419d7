import Wattetheria.RowTables
import Wattetheria.RustText

/-!
# The store of event subscriptions and deliveries

Three tables: the subscriptions, the occurrences of events, and the outbox with one row
for each occurrence and subscription it goes to.  A worker claims a row by writing a
lease token and a deadline into it and completes it with that token.  Every function is
one transaction under the lock of the connection, so calls follow one another.

Times are seconds.  Encrypted columns hold what decrypting them gives, and the texts of
`Uuid::new_v4` are arguments.
-/

namespace WattWebhooks

open WattText WattRows

/-! ## Rows -/

/-- Why a delivery failed. -/
inductive DeliveryErrorCategory where
  | httpRetryable
  | httpPermanent
  | transport
  | unsafeDestination
  | invalidSecret
  | invalidPayload
  | requestTooLarge

/-- The `status` column of the outbox. -/
inductive DeliveryStatus where
  | pending
  | retry
  | leased
  | delivered
  | deadLetter
  deriving DecidableEq

/-- Delivered or given up. -/
def DeliveryStatus.isTerminal : DeliveryStatus → Bool
  | .delivered | .deadLetter => true
  | .pending | .retry | .leased => false

/-- How an attempt ended. -/
inductive DeliveryResult where
  | delivered (httpStatus : Nat) (time : Int)
  | retry (httpStatus : Option Nat) (category : DeliveryErrorCategory) (nextAt time : Int)
  | deadLetter (httpStatus : Option Nat) (category : DeliveryErrorCategory) (time : Int)

/-- What a completion writes: status, HTTP status, category, next time, time. -/
structure DeliveryFields where
  status : DeliveryStatus
  httpStatus : Option Nat
  category : Option DeliveryErrorCategory
  (nextAt attemptAt : Int)

/-- `DeliveryResult::fields`: a retry becomes a dead letter once the attempts are used up. -/
def DeliveryResult.fields (result : DeliveryResult) (attempts maxAttempts : Nat) : DeliveryFields :=
  match result with
  | .delivered httpStatus time => ⟨.delivered, some httpStatus, none, 0, time⟩
  | .retry httpStatus category nextAt time =>
    ⟨if maxAttempts ≤ attempts then .deadLetter else .retry, httpStatus, some category, nextAt,
      time⟩
  | .deadLetter httpStatus category time => ⟨.deadLetter, httpStatus, some category, 0, time⟩

/-- A row of the subscriptions. -/
structure StoredSubscription where
  (id sourceKind eventType targetAgentId credentialFingerprint ownerId callbackUrl callbackSecret
    : String)
  oldCallbackSecret : Option String
  (oldSecretExpiresAt expiresAt : Option Int)
  active : Bool
  deriving DecidableEq

/-- A row of the occurrences. -/
structure StoredOccurrence where
  (id eventId ownerId kind : String)
  privateContentId : Option String
  expiresAt : Int

/-- A row of `mcp_event_outbox`. -/
structure OutboxRow where
  (id occurrenceId subscriptionId : String)
  payload : List UInt8
  status : DeliveryStatus
  attempts : Nat
  leaseToken : Option String
  leaseUntil : Option Int
  (availableAt expiresAt createdAt : Int)
  lastHttpStatus : Option Nat
  lastErrorCategory : Option DeliveryErrorCategory
  lastAttemptAt : Option Int

/-- `StoredOutbox`: a claimed row with its subscription. -/
structure StoredOutbox where
  (id eventId occurrenceId : String)
  subscription : StoredSubscription
  payload : List UInt8
  attempts : Nat
  leaseToken : Option String

instance : Row StoredSubscription String where
  key := StoredSubscription.id
  merge _ new := new
  key_merge _ _ := rfl

instance : Row StoredOccurrence String where
  key := StoredOccurrence.id
  merge _ new := new
  key_merge _ _ := rfl

instance : Row OutboxRow String where
  key := OutboxRow.id
  merge _ new := new
  key_merge _ _ := rfl

/-- `expires_at IS NULL OR expires_at > now`. -/
def unexpired (expiresAt : Option Int) (now : Int) : Bool :=
  expiresAt.all fun time => decide (now < time)

/-- `SqliteBackend`: the three tables. -/
structure EventDatabase where
  subscriptions : Table StoredSubscription
  occurrences : Table StoredOccurrence
  outbox : Table OutboxRow

/-- `require_transition`. -/
def transitionRejected (action : String) : String :=
  s!"MCP event state transition rejected: {action}"

namespace EventDatabase

/-- The tables after `open` of a new file. -/
def empty : EventDatabase := ⟨.empty, .empty, .empty⟩

/-! ## Subscriptions -/

variable (db : EventDatabase)

def getSubscription (id : String) : Option StoredSubscription :=
  db.subscriptions.rows.find? fun row => row.id == id

/-- `upsert_subscription`: the row of another owner or another agent is not replaced. -/
def upsertSubscription (row : StoredSubscription) : Except String Unit × EventDatabase :=
  if (db.getSubscription row.id).all fun old =>
      old.ownerId == row.ownerId && old.targetAgentId == row.targetAgentId then
    (.ok (), { db with subscriptions := db.subscriptions.upsert row })
  else (.error (transitionRejected "upsert subscription"), db)

/-- `UPDATE mcp_event_subscriptions SET active = 0 WHERE …`. -/
def deactivateWhere (which : StoredSubscription → Bool) : EventDatabase :=
  { db with
    subscriptions := db.subscriptions.update which (fun row => { row with active := false })
      fun _ => rfl }

/-- Ends one subscription of an owner. -/
def deactivateSubscription (id ownerId : String) : EventDatabase :=
  db.deactivateWhere fun row => row.id == id && row.ownerId == ownerId

variable (ownerId fingerprint : String)

/-- Ends those under other credentials. -/
def revokeCredentialsExcept : EventDatabase :=
  db.deactivateWhere fun row =>
    row.ownerId == ownerId && row.active && row.credentialFingerprint != fingerprint

/-- The subscriptions of an owner in force. -/
def activeSubscriptions (ownerId : String) (now : Int) : List StoredSubscription :=
  db.subscriptions.rows.filter fun row =>
    row.ownerId == ownerId && row.active && unexpired row.expiresAt now

/-! ## Publication -/

/-- The subscriptions an event goes to. -/
def subscribersOf (ownerId eventType : String) (now : Int) : List StoredSubscription :=
  db.subscriptions.rows.filter fun row =>
    row.active && unexpired row.expiresAt now && row.ownerId == ownerId
      && row.targetAgentId == ownerId && (row.eventType == "*" || row.eventType == eventType)

variable (occurrence : StoredOccurrence) (payload : List UInt8)

/-- A new row of the outbox. -/
def queuedRow (now : Int) (id subscriptionId : String) : OutboxRow where
  id
  occurrenceId := occurrence.id
  subscriptionId
  payload
  status := .pending
  attempts := 0
  leaseToken := none
  leaseUntil := none
  availableAt := 0
  expiresAt := occurrence.expiresAt
  createdAt := now
  lastHttpStatus := none
  lastErrorCategory := none
  lastAttemptAt := none

variable (row : OutboxRow)

/-- `INSERT INTO mcp_event_outbox` under its two uniqueness constraints. -/
def insertOutbox (outbox : Table OutboxRow) : Except String (Table OutboxRow) :=
  if outbox.rows.any fun old =>
      old.occurrenceId == row.occurrenceId && old.subscriptionId == row.subscriptionId then
    .error "UNIQUE constraint failed: mcp_event_outbox.occurrence_id, mcp_event_outbox.subscription_id"
  else okOr "UNIQUE constraint failed: mcp_event_outbox.id" (outbox.insertNew row)

/-- The loop of `publish` over the subscriptions; `rowIds` gives the id of each new row. -/
def queueAll (occurrence : StoredOccurrence) (payload : List UInt8) (now : Int)
    (rowIds : Nat → String) : Nat → List StoredSubscription → Table OutboxRow →
      Except String (Table OutboxRow)
  | _, [], outbox => .ok outbox
  | k, subscription :: rest, outbox => do
      let outbox ← insertOutbox (queuedRow occurrence payload now (rowIds k) subscription.id) outbox
      queueAll occurrence payload now rowIds (k + 1) rest outbox

/-- `INSERT INTO mcp_event_occurrences` of an event that is not there yet. -/
def insertOccurrence (occurrences : Table StoredOccurrence) :
    Except String (Table StoredOccurrence) :=
  if occurrences.rows.any fun old =>
      old.privateContentId.isSome && old.privateContentId == occurrence.privateContentId then
    .error "UNIQUE constraint failed: mcp_event_occurrences.private_content_id"
  else okOr "UNIQUE constraint failed: mcp_event_occurrences.id" (occurrences.insertNew occurrence)

/-- `publish` once the subscriptions are selected and the event is new. -/
def publishNew (rowIds : Nat → String) (now : Int) (subscriptions : List StoredSubscription) :
    Except String EventDatabase := do
  let occurrences ← insertOccurrence occurrence db.occurrences
  let outbox ← queueAll occurrence payload now rowIds 0 subscriptions db.outbox
  .ok { db with occurrences, outbox }

/-- `publish`: nothing is stored without a subscriber, nor for an event that is there. -/
def publish (eventType : String) (rowIds : Nat → String) (now : Int) :
    Except String Unit × EventDatabase :=
  let subscriptions := db.subscribersOf occurrence.ownerId eventType now
  if subscriptions.isEmpty then (.ok (), db)
  -- ON CONFLICT(event_id) DO NOTHING
  else if db.occurrences.rows.any fun old => old.eventId == occurrence.eventId then (.ok (), db)
  else
    match db.publishNew occurrence payload rowIds now subscriptions with
    | .ok published => (.ok (), published)
    | .error text => (.error text, db)

/-! ## Claims -/

/-- The conditions of `claim_outbox` on the row itself. -/
def rowOpen (now : Int) : Bool :=
  !row.status.isTerminal && decide (row.availableAt ≤ now)
    && row.leaseUntil.all (fun time => decide (time ≤ now)) && decide (now < row.expiresAt)

/-- The conditions of `claim_outbox` on the subscription. -/
def subscriptionOpen (subscription : StoredSubscription) (ownerId fingerprint : String)
    (sourceKind : Option String) (now : Int) : Bool :=
  subscription.active && unexpired subscription.expiresAt now && subscription.ownerId == ownerId
    && subscription.credentialFingerprint == fingerprint
    && sourceKind.all fun kind => subscription.sourceKind == kind

variable (sourceKind : Option String)

/-- A row joined with its subscription and its occurrence, if it may be claimed. -/
def claimable
    (now : Int) (row : OutboxRow) : Option (OutboxRow × StoredSubscription × StoredOccurrence) := do
  let subscription ← db.getSubscription row.subscriptionId
  let occurrence ← db.occurrences.rows.find? fun occurrence => occurrence.id == row.occurrenceId
  if rowOpen row now && subscriptionOpen subscription ownerId fingerprint sourceKind now then
    some (row, subscription, occurrence)
  else none

/-- `ORDER BY o.available_at, o.id`. -/
def claimsBefore (a b : OutboxRow × StoredSubscription × StoredOccurrence) : Prop :=
  a.1.availableAt < b.1.availableAt ∨ (a.1.availableAt = b.1.availableAt ∧ a.1.id ≤ b.1.id)

instance : DecidableRel claimsBefore := fun a b => by
  unfold claimsBefore
  infer_instance

/-- The `SELECT … LIMIT 1` of `claim_outbox`. -/
def selectOutbox (now : Int) : Option (OutboxRow × StoredSubscription × StoredOccurrence) :=
  ((db.outbox.rows.filterMap (db.claimable ownerId fingerprint sourceKind now)).insertionSort
    claimsBefore).head?

/-- The row as a worker claims it. -/
def leasedRow (token : String) (leaseUntil now : Int) : OutboxRow :=
  { row with
    status := .leased
    leaseToken := some token
    leaseUntil := some leaseUntil
    attempts := row.attempts + 1
    lastAttemptAt := some now }

/-- Leases the first row that is due. -/
def claimOutbox (now leaseUntil : Int)
    (token : String) (sourceKind : Option String) : Option StoredOutbox × EventDatabase :=
  match db.selectOutbox ownerId fingerprint sourceKind now with
  | none => (none, db)
  | some (row, subscription, occurrence) =>
    (some {
        id := row.id
        eventId := occurrence.eventId
        occurrenceId := row.occurrenceId
        subscription
        payload := row.payload
        attempts := row.attempts + 1
        leaseToken := some token },
      { db with
        outbox := db.outbox.update (fun old => old.id == row.id)
          (fun old => leasedRow old token leaseUntil now) fun _ => rfl })

/-! ## Completion, cancellation, cleanup -/

variable (id token : String)

/-- The row is leased under the token. -/
def holdsLease : Bool :=
  row.id == id && row.leaseToken == some token && row.status == .leased

variable (result : DeliveryResult) (maxAttempts : Nat)

/-- The row after an attempt. -/
def completedRow : OutboxRow :=
  let fields := result.fields row.attempts maxAttempts
  { row with
    status := fields.status
    availableAt := fields.nextAt
    lastHttpStatus := fields.httpStatus
    lastErrorCategory := fields.category
    lastAttemptAt := some fields.attemptAt
    leaseToken := none
    leaseUntil := none }

/-- Completes a row for the holder of its lease. -/
def completeDelivery : Except String Unit × EventDatabase :=
  if db.outbox.rows.any fun row => holdsLease row id token then
    (.ok (), { db with
      outbox := db.outbox.update (fun row => holdsLease row id token)
        (fun row => completedRow row result maxAttempts) fun _ => rfl })
  else (.error (transitionRejected "complete delivery"), db)

/-- `cancel_subscription_in_transaction`: the rows queued so far expire now. -/
def cancelSubscription (id ownerId : String) (now : Int) : EventDatabase :=
  let known := db.subscriptions.rows.any fun row => row.id == id && row.ownerId == ownerId
  { db.deactivateSubscription id ownerId with
    outbox := db.outbox.update (fun row => row.subscriptionId == id && known)
      (fun row => { row with expiresAt := min row.expiresAt now }) fun _ => rfl }

/-- Cancels all subscriptions of one kind. -/
def cancelSubscriptionsBySourceKind (sourceKind : String) (now : Int) :
    List String × EventDatabase :=
  let subscriptions := db.subscriptions.rows.filter fun row => row.sourceKind == sourceKind
  (subscriptions.map StoredSubscription.id,
    subscriptions.foldl (fun db row => db.cancelSubscription row.id row.ownerId now) db)

/-- `DELETE FROM mcp_event_occurrences WHERE …`, with the rows that refer to them. -/
def deleteOccurrences (gone : StoredOccurrence → Bool) : EventDatabase :=
  { db with
    occurrences := db.occurrences.delete gone
    outbox := db.outbox.delete fun row =>
      db.occurrences.rows.any fun occurrence => gone occurrence && occurrence.id == row.occurrenceId }

/-- `DELETE FROM mcp_event_subscriptions WHERE …`, with the rows that refer to them. -/
def deleteSubscriptions (gone : StoredSubscription → Bool) : EventDatabase :=
  { db with
    subscriptions := db.subscriptions.delete gone
    outbox := db.outbox.delete fun row =>
      db.subscriptions.rows.any fun subscription =>
        gone subscription && subscription.id == row.subscriptionId }

/-- Deletes what has expired. -/
def cleanup (now : Int) : EventDatabase :=
  let swept := { db with outbox := db.outbox.delete fun row => decide (row.expiresAt ≤ now) }
  (swept.deleteOccurrences fun row => decide (row.expiresAt ≤ now)).deleteSubscriptions
    fun row => row.expiresAt.any fun time => decide (time ≤ now)

end EventDatabase

/-! ## Calls -/

/-- A call of the store. -/
inductive StoreCall where
  | getSubscription (id : String)
  | upsertSubscription (row : StoredSubscription)
  | deactivateSubscription (id ownerId : String)
  | revokeCredentialsExcept (ownerId fingerprint : String)
  | publish (occurrence : StoredOccurrence) (payload : List UInt8) (eventType : String)
      (rowIds : Nat → String) (now : Int)
  | claimOutbox (ownerId fingerprint : String) (now leaseUntil : Int) (token : String)
      (sourceKind : Option String)
  | completeDelivery (id token : String) (result : DeliveryResult) (maxAttempts : Nat)
  | cancelSubscription (id ownerId : String) (now : Int)
  | cancelSubscriptionsBySourceKind (sourceKind : String) (now : Int)
  | cleanup (now : Int)

/-- What a call answers. -/
inductive StoreReply where
  | done
  | subscription (found : Option StoredSubscription)
  | claimed (item : Option StoredOutbox)
  | cancelled (ids : List String)

open EventDatabase in
/-- What a call returns and leaves. -/
def StoreCall.apply (db : EventDatabase) : StoreCall → Except String StoreReply × EventDatabase
  | .getSubscription id => (.ok (.subscription (db.getSubscription id)), db)
  | .upsertSubscription row =>
    ((db.upsertSubscription row).1.map fun _ => .done, (db.upsertSubscription row).2)
  | .deactivateSubscription id ownerId => (.ok .done, db.deactivateSubscription id ownerId)
  | .revokeCredentialsExcept ownerId fingerprint =>
    (.ok .done, db.revokeCredentialsExcept ownerId fingerprint)
  | .publish occurrence payload eventType rowIds now =>
    let published := db.publish occurrence payload eventType rowIds now
    (published.1.map fun _ => .done, published.2)
  | .claimOutbox ownerId fingerprint now leaseUntil token sourceKind =>
    let claimed := db.claimOutbox ownerId fingerprint now leaseUntil token sourceKind
    (.ok (.claimed claimed.1), claimed.2)
  | .completeDelivery id token result maxAttempts =>
    let completed := db.completeDelivery id token result maxAttempts
    (completed.1.map fun _ => .done, completed.2)
  | .cancelSubscription id ownerId now => (.ok .done, db.cancelSubscription id ownerId now)
  | .cancelSubscriptionsBySourceKind sourceKind now =>
    let cancelled := db.cancelSubscriptionsBySourceKind sourceKind now
    (.ok (.cancelled cancelled.1), cancelled.2)
  | .cleanup now => (.ok .done, db.cleanup now)

end WattWebhooks
