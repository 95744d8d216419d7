import Wattetheria.JsonValue
import Wattetheria.KeyedStore
import Wattetheria.PayloadSigning

/-!
# The oracle registry

Priced feeds of data: publishers push signed rows, subscribers with a price limit pull
them, and a settled pull pays the publishers of the rows it delivers for the first time
from the subscriber's balance.  Amounts and times are the 64-bit integers of the source,
whose sums wrap.  What the signer and the event log answer, and the clock reading, are
arguments; without an event log the answer is `.ok ()`.
-/

namespace WattOracle

open WattText WattJson WattKeyed WattSigning

/-! ## Data -/

/-- `OracleFeed`: one row of a feed. -/
structure OracleFeed where
  (feedId publisher : String)
  timestamp : Int64
  payload : JsonValue
  priceWatt : Int64
  signature : String

/-- What a publisher signs. -/
structure SignableFeed where
  (feedId publisher : String)
  timestamp : Int64
  payload : JsonValue
  priceWatt : Int64

/-- A subscription with its price limit. -/
structure OracleSubscription where
  (agentDid feedId : String)
  (maxPriceWatt subscribedAt : Int64)

/-- What a settled pull reports. -/
structure OracleSettlement where
  (agentDid feedId : String)
  delivered : Nat
  (chargedWatt balanceAfter : Int64)

/-- Feeds, subscriptions, balances and deliveries. -/
structure OracleRegistry where
  feeds : Std.ExtTreeMap String (List OracleFeed)
  subscriptions : List OracleSubscription
  balances : Std.ExtTreeMap String Int64
  delivered : Std.ExtTreeMap String (Finset String)

/-- The functions of the crates outside the repository. -/
structure Crates extends SigningCrates where
  /-- `canonical_bytes` of a signable feed -/
  canonicalFeed : SignableFeed → Except String (List UInt8)

variable (feed : OracleFeed)

def OracleFeed.signable : SignableFeed where
  feedId := feed.feedId
  publisher := feed.publisher
  timestamp := feed.timestamp
  payload := feed.payload
  priceWatt := feed.priceWatt

variable (crates : Crates)

/-- Verifies a row under its publisher's key. -/
def verifyFeedSignature (feed : OracleFeed) : Except String Bool :=
  verifyPayload crates.toSigningCrates (crates.canonicalFeed feed.signable) feed.signature
    feed.publisher

/-- `if !verify_feed_signature(feed)? { bail!(..) }`. -/
def ensureFeedSignature (feed : OracleFeed) : Except String Unit := do
  let verified ← verifyFeedSignature crates feed
  bailIf (!verified) "oracle feed signature verification failed"

namespace OracleRegistry

/-- `OracleRegistry::default`. -/
def empty : OracleRegistry := ⟨∅, [], ∅, ∅⟩

/-! ## Feeds -/

variable (registry : OracleRegistry)

def pushFeed (feed : OracleFeed) : OracleRegistry :=
  { registry with
    feeds := registry.feeds.insert feed.feedId (registry.feeds[feed.feedId]?.getD [] ++ [feed]) }

variable (feedId : String)

/-- `publish_with_signer`; the row stays when the event log fails. -/
def publish (payload : JsonValue)
    (priceWatt : Int64) (publisher : String) (now : Int64) (signed : Except String String)
    (logged : Except String Unit) : Except String OracleFeed × OracleRegistry :=
  match signed with
  | .error text => (.error text, registry)
  | .ok signature =>
    let feed : OracleFeed := {
      feedId
      publisher
      timestamp := now
      payload
      priceWatt
      signature }
    (logged.map fun _ => feed, registry.pushFeed feed)

variable (crates : Crates)

/-- `ingest_feed_with_signer`. -/
def ingestFeed (feed : OracleFeed)
    (logged : Except String Unit) : Except String Bool × OracleRegistry :=
  match ensureFeedSignature crates feed with
  | .error text => (.error text, registry)
  | .ok () =>
    if registry.feeds[feed.feedId]?.any fun rows =>
        rows.any fun row => row.signature == feed.signature then
      (.ok false, registry)
    else (logged.map fun _ => true, registry.pushFeed feed)

/-- The rows within the price limit. -/
def eligibleFeeds (maxPriceWatt : Int64) : List OracleFeed :=
  (registry.feeds[feedId]?.getD []).filter fun feed => decide (feed.priceWatt ≤ maxPriceWatt)

/-! ## Balances and subscriptions -/

variable (agentDid : String)

def balanceOf : Int64 :=
  registry.balances[agentDid]?.getD 0

/-- `balances.entry(agent).or_insert(0)` and an addition to it. -/
def addBalance (amount : Int64) : OracleRegistry :=
  { registry with
    balances := registry.balances.insert agentDid (registry.balanceOf agentDid + amount) }

/-- Adds to a balance. -/
def credit (registry : OracleRegistry) (agentDid : String) (amountWatt : Int64) :
    Except String Int64 × OracleRegistry :=
  if amountWatt ≤ 0 then (.error "credit amount must be positive", registry)
  else
    let credited := registry.addBalance agentDid amountWatt
    (.ok (credited.balanceOf agentDid), credited)

variable (agentDid feedId : String)

/-- `subscribe_with_signer`. -/
def subscribe (maxPriceWatt now : Int64)
    (logged : Except String Unit) : Except String OracleSubscription × OracleRegistry :=
  let subscription : OracleSubscription := {
    agentDid
    feedId
    maxPriceWatt
    subscribedAt := now }
  (logged.map fun _ => subscription,
    { registry with subscriptions := registry.subscriptions ++ [subscription] })

/-! ## Settled pulls -/

/-- What a settled pull is about to do: the rows it returns, those it delivers for the first
time, and what they cost. -/
structure Quote where
  (feeds newItems : List OracleFeed)
  totalCost : Int64

/-- The key of `delivered`. -/
def deliveryKey : String := s!"{agentDid}:{feedId}"

/-- `pull_for_subscriber_settled_with_signer` up to its first write. -/
def quote : Except String Quote := do
  let subscription ← okOr "subscription not found"
    (registry.subscriptions.find? fun subscription =>
      subscription.agentDid == agentDid && subscription.feedId == feedId)
  let feeds := (registry.eligibleFeeds feedId subscription.maxPriceWatt).insertionSort
    fun a b => a.timestamp ≤ b.timestamp
  let alreadyDelivered := registry.delivered[deliveryKey agentDid feedId]?.getD ∅
  feeds.forM (ensureFeedSignature crates)
  let newItems := feeds.filter fun feed => decide (feed.signature ∉ alreadyDelivered)
  -- a price may be negative, and so may the total
  let totalCost := newItems.foldl (fun total feed => total + feed.priceWatt) 0
  let subscriberBalance := registry.balanceOf agentDid
  bailIf (subscriberBalance < totalCost)
    s!"insufficient watt balance for oracle pull: required={totalCost.toInt}, available={subscriberBalance.toInt}"
  .ok ⟨feeds, newItems, totalCost⟩

/-- Marks a row as delivered. -/
def deliver (key : String) (registry : OracleRegistry) (feed : OracleFeed) : OracleRegistry :=
  { registry with
    delivered := registry.delivered.insert key
      (insert feed.signature (registry.delivered[key]?.getD ∅)) }.addBalance feed.publisher
        feed.priceWatt

/-- The writes of `pull_for_subscriber_settled_with_signer`: the subscriber is debited if the
total is positive, and every publisher is credited. -/
def settle (quote : Quote) : OracleRegistry :=
  let key := deliveryKey agentDid feedId
  let debited := if 0 < quote.totalCost then registry.addBalance agentDid (-quote.totalCost)
    else registry
  let opened := { debited with
    delivered := debited.delivered.insert key (debited.delivered[key]?.getD ∅) }
  quote.newItems.foldl (deliver key) opened

/-- `pull_for_subscriber_settled_with_signer`. -/
def pullForSubscriberSettled (logged : Except String Unit) :
    Except String (List OracleFeed × OracleSettlement) × OracleRegistry :=
  match registry.quote crates agentDid feedId with
  | .error text => (.error text, registry)
  | .ok quote =>
    let settled := registry.settle agentDid feedId quote
    let settlement : OracleSettlement := {
      agentDid
      feedId
      delivered := quote.newItems.length
      chargedWatt := quote.totalCost
      balanceAfter := settled.balanceOf agentDid }
    let rows := quote.feeds.insertionSort fun a b => b.timestamp ≤ a.timestamp
    (logged.map fun _ => (rows, settlement), settled)

end OracleRegistry

/-! ## The operations -/

/-- A call of a writing operation. -/
inductive OracleOp where
  | publish (feedId : String) (payload : JsonValue) (priceWatt : Int64) (publisher : String)
      (now : Int64) (signed : Except String String) (logged : Except String Unit)
  | ingestFeed (feed : OracleFeed) (logged : Except String Unit)
  | credit (agentDid : String) (amountWatt : Int64)
  | subscribe (agentDid feedId : String) (maxPriceWatt now : Int64) (logged : Except String Unit)
  | pullForSubscriberSettled (agentDid feedId : String) (logged : Except String Unit)

/-- The registry an operation leaves, whether it succeeds or not. -/
def step (registry : OracleRegistry) : OracleOp → OracleRegistry
  | .publish feedId payload priceWatt publisher now signed logged =>
    (registry.publish feedId payload priceWatt publisher now signed logged).2
  | .ingestFeed feed logged => (registry.ingestFeed crates feed logged).2
  | .credit agentDid amountWatt => (registry.credit agentDid amountWatt).2
  | .subscribe agentDid feedId maxPriceWatt now logged =>
    (registry.subscribe agentDid feedId maxPriceWatt now logged).2
  | .pullForSubscriberSettled agentDid feedId logged =>
    (registry.pullForSubscriberSettled crates agentDid feedId logged).2

end WattOracle
