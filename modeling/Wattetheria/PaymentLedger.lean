import Wattetheria.KeyedStore
import Wattetheria.X402Receipt

/-!
# The payment ledger

`PaymentLedger` keeps one `PaymentTransaction` per payment id.  Six local
operations rewrite the record they name and the remote merge combines a stored
record with the copy an agent message carries.

Each operation returns its result beside the ledger it leaves, since a failing
one may still write: `authorize` marks an overdue payment expired and then
fails.  `effect` is what an operation does to the one record it touches.
-/

namespace WattLedger

open WattText WattJson WattPayment WattX402 WattKeyed

/-- The ledger: payments by id. -/
structure PaymentLedger where
  payments : Std.ExtTreeMap String PaymentTransaction

namespace PaymentLedger

/-- `PaymentLedger::default`. -/
def empty : PaymentLedger := ⟨∅⟩

variable (ledger : PaymentLedger) (paymentId : String)

def get : Option PaymentTransaction :=
  ledger.payments[paymentId]?

def put (t : PaymentTransaction) : PaymentLedger :=
  ⟨ledger.payments.insert paymentId t⟩

variable (id : String)

@[simp] lemma get_empty : empty.get id = none := rfl

lemma get_put (t : PaymentTransaction) (id' : String) :
    (ledger.put id t).get id' = if id' = id then some t else ledger.get id' :=
  getElem?_insert ledger.payments id t id'

end PaymentLedger

/-! ## Requests -/

/-- What a payment is proposed with. -/
structure ProposePaymentRequest where
  (senderPublicId remoteNodeId recipientPublicId recipientDid amount currency rail : String)
  layer : SettlementLayer
  (network recipientAddress missionId taskId description : Option String)
  metadata : Option JsonValue
  expiresAt : Option Int

/-- What it is authorized with. -/
structure AuthorizePaymentRequest where
  (paymentId authorizationSignature : String)
  (authorizationPublicKey senderAddress : Option String)

/-- What it is settled with. -/
structure SettlePaymentRequest where
  paymentId : String
  settlementReceipt : JsonValue

/-- What it is rejected with. -/
structure RejectPaymentRequest where
  (paymentId rejectReason : String)

/-!
## What an operation does to one record

The bodies of the operations once `get_mut` has found the record: the result
beside what is left in the record.
-/

/-- The record `propose` writes. -/
def proposal (senderDid : String) (request : ProposePaymentRequest) (uuid : String)
    (now : Int) : PaymentTransaction where
  paymentId := s!"payment-{uuid}"
  senderDid
  recipientDid := request.recipientDid
  senderPublicId := request.senderPublicId
  recipientPublicId := request.recipientPublicId
  remoteNodeId := request.remoteNodeId
  amount := request.amount
  currency := request.currency
  rail := request.rail
  layer := request.layer
  network := request.network
  senderAddress := none
  recipientAddress := request.recipientAddress
  missionId := request.missionId
  taskId := request.taskId
  description := request.description
  metadata := request.metadata
  status := .proposed
  authorizationSignature := none
  authorizationPublicKey := none
  settlementReceipt := none
  rejectReason := none
  proposedAt := now
  authorizedAt := none
  settledAt := none
  expiresAt := request.expiresAt

/-- The record part of `authorize`.  The clock is read twice, for the expiry and
for the timestamp. -/
def authorizeRecord (request : AuthorizePaymentRequest) (checkedAt now : Int)
    (t : PaymentTransaction) : Except String Unit × PaymentTransaction :=
  if t.status ≠ .proposed then
    (.error s!"payment {request.paymentId} is not in proposed state (current: {t.status.debug})", t)
  else if t.expiresAt.any (fun expiresAt => expiresAt < checkedAt) then
    (.error s!"payment {request.paymentId} has expired", { t with status := .expired })
  else
    (.ok (), { t with
      status := .authorized
      authorizationSignature := some request.authorizationSignature
      authorizationPublicKey := request.authorizationPublicKey
      senderAddress := request.senderAddress
      authorizedAt := some now })

variable (refused : PaymentStatus → Bool) (text : PaymentStatus → String)
  (write : PaymentTransaction → PaymentTransaction)

/-- The shape `submit`, `reject` and `cancel` share: refuse some statuses with a
text, write the record otherwise. -/
def guarded (t : PaymentTransaction) : Except String Unit × PaymentTransaction :=
  if refused t.status then (.error (text t.status), t) else (.ok (), write t)

variable (paymentId : String)

/-- The record part of `submit`. -/
def submitRecord (settlementReceipt : Option JsonValue) :
    PaymentTransaction → Except String Unit × PaymentTransaction :=
  guarded (fun status => status ≠ .authorized)
    (fun status => s!"payment {paymentId} is not in authorized state (current: {status.debug})")
    (fun t => { t with status := .submitted, settlementReceipt })

variable (request : SettlePaymentRequest)

/-- The record part of `settle`. -/
def settleRecord (now : Int) (t : PaymentTransaction) : Except String Unit × PaymentTransaction :=
  if t.status ≠ .submitted ∧ t.status ≠ .authorized then
    (.error s!"payment {request.paymentId} is not in a settleable state (current: {t.status.debug})",
      t)
  else
    let checked : Except String Unit :=
      if eqIgnoreAsciiCase t.rail "x402" then
        validateX402SettlementReceipt t request.settlementReceipt
      else .ok ()
    match checked with
    | .error text => (.error text, t)
    | .ok () =>
      (.ok (), { t with
        status := .settled
        settlementReceipt := some request.settlementReceipt
        settledAt := some now })

/-- The record part of `reject`. -/
def rejectRecord (request : RejectPaymentRequest) :
    PaymentTransaction → Except String Unit × PaymentTransaction :=
  guarded (fun status => status = .settled ∨ status = .cancelled ∨ status = .rejected)
    (fun status => s!"payment {request.paymentId} cannot be rejected in state {status.debug}")
    (fun t => { t with status := .rejected, rejectReason := some request.rejectReason })

/-- The record part of `cancel`. -/
def cancelRecord : PaymentTransaction → Except String Unit × PaymentTransaction :=
  guarded (fun status => status ≠ .proposed ∧ status ≠ .authorized)
    (fun status => s!"payment {paymentId} cannot be cancelled in state {status.debug}")
    (fun t => { t with status := .cancelled })

/-- `merge_transaction`: the record it leaves in `current`.  Its result is
whether that record changed. -/
def mergeTransaction (current incoming : PaymentTransaction) : PaymentTransaction :=
  { current with
    status := if current.status.rank ≤ incoming.status.rank then incoming.status
      else current.status
    senderAddress := current.senderAddress.or incoming.senderAddress
    recipientAddress := current.recipientAddress.or incoming.recipientAddress
    authorizationSignature := current.authorizationSignature.or incoming.authorizationSignature
    authorizationPublicKey := current.authorizationPublicKey.or incoming.authorizationPublicKey
    settlementReceipt := current.settlementReceipt.or incoming.settlementReceipt
    rejectReason := current.rejectReason.or incoming.rejectReason
    authorizedAt := current.authorizedAt.or incoming.authorizedAt
    settledAt := current.settledAt.or incoming.settledAt
    expiresAt := current.expiresAt.or incoming.expiresAt }

/-! ## The operations -/

namespace PaymentLedger

variable (ledger : PaymentLedger)

/-- Writes a new payment. -/
def propose (senderDid : String) (request : ProposePaymentRequest)
    (uuid : String) (now : Int) : Except String PaymentTransaction × PaymentLedger :=
  let transaction := proposal senderDid request uuid now
  (.ok transaction, ledger.put transaction.paymentId transaction)

variable (paymentId : String)

/-- The frame of the operations that name a payment: find its record with
`get_mut`, run the body on it, return a clone of what the body left. -/
def withRecord (body : PaymentTransaction → Except String Unit × PaymentTransaction) :
    Except String PaymentTransaction × PaymentLedger :=
  match ledger.get paymentId with
  | none => (.error s!"payment not found: {paymentId}", ledger)
  | some t =>
    match body t with
    | (.ok (), t') => (.ok t', ledger.put paymentId t')
    | (.error text, t') => (.error text, ledger.put paymentId t')

/-- Signs a proposed payment, unless overdue. -/
def authorize (request : AuthorizePaymentRequest)
    (checkedAt now : Int) : Except String PaymentTransaction × PaymentLedger :=
  ledger.withRecord request.paymentId (authorizeRecord request checkedAt now)

/-- Marks an authorized payment submitted. -/
def submit (settlementReceipt : Option JsonValue) :
    Except String PaymentTransaction × PaymentLedger :=
  ledger.withRecord paymentId (submitRecord paymentId settlementReceipt)

/-- Settles a payment on its receipt. -/
def settle (request : SettlePaymentRequest) (now : Int) :
    Except String PaymentTransaction × PaymentLedger :=
  ledger.withRecord request.paymentId (settleRecord request now)

/-- Rejects a payment that is not final. -/
def reject (request : RejectPaymentRequest) : Except String PaymentTransaction × PaymentLedger :=
  ledger.withRecord request.paymentId (rejectRecord request)

/-- Cancels a payment not yet submitted. -/
def cancel : Except String PaymentTransaction × PaymentLedger :=
  ledger.withRecord paymentId (cancelRecord paymentId)

/-- `merge_remote_transaction`: the stored payment afterwards and whether the
merge changed it. -/
def mergeRemoteTransaction (transaction : PaymentTransaction) :
    (PaymentTransaction × Bool) × PaymentLedger :=
  match ledger.get transaction.paymentId with
  | some existing =>
    let merged := mergeTransaction existing transaction
    ((merged, merged ≠ existing), ledger.put transaction.paymentId merged)
  | none => ((transaction, true), ledger.put transaction.paymentId transaction)

/-- Validates a message and merges its copy. -/
def mergeRemoteAgentMessage (wallet : Wallet) (ledger : PaymentLedger)
    (message : PaymentAgentMessage) (sourceAgentDid : String) :
    Except String (PaymentTransaction × Bool) × PaymentLedger :=
  match validateAgentPaymentMessage wallet message sourceAgentDid with
  | .error text => (.error text, ledger)
  | .ok () =>
    let (result, ledger) := ledger.mergeRemoteTransaction message.payment
    (.ok result, ledger)

end PaymentLedger

/-- A call on the ledger, with the uuid and the clock readings it makes. -/
inductive LedgerOp where
  | propose (senderDid : String) (request : ProposePaymentRequest) (uuid : String) (now : Int)
  | authorize (request : AuthorizePaymentRequest) (checkedAt now : Int)
  | submit (paymentId : String) (settlementReceipt : Option JsonValue)
  | settle (request : SettlePaymentRequest) (now : Int)
  | reject (request : RejectPaymentRequest)
  | cancel (paymentId : String)
  | mergeRemoteAgentMessage (message : PaymentAgentMessage) (sourceAgentDid : String)

variable (wallet : Wallet) (ledger : PaymentLedger)

/-- The ledger one call leaves, whether it succeeds or fails. -/
def step : LedgerOp → PaymentLedger
  | .propose senderDid request uuid now => (ledger.propose senderDid request uuid now).2
  | .authorize request checkedAt now => (ledger.authorize request checkedAt now).2
  | .submit paymentId receipt => (ledger.submit paymentId receipt).2
  | .settle request now => (ledger.settle request now).2
  | .reject request => (ledger.reject request).2
  | .cancel paymentId => (ledger.cancel paymentId).2
  | .mergeRemoteAgentMessage message source =>
    (ledger.mergeRemoteAgentMessage wallet message source).2

/-! ## One record at a time -/

/-- The payment it touches. -/
def LedgerOp.target : LedgerOp → String
  | .propose senderDid request uuid now => (proposal senderDid request uuid now).paymentId
  | .authorize request _ _ => request.paymentId
  | .submit paymentId _ => paymentId
  | .settle request _ => request.paymentId
  | .reject request => request.paymentId
  | .cancel paymentId => paymentId
  | .mergeRemoteAgentMessage message _ => message.payment.paymentId

/-- What a merge leaves of the record stored under the message's id. -/
def mergeEffect (message : PaymentAgentMessage) (source : String)
    (stored : Option PaymentTransaction) : Option PaymentTransaction :=
  if validateAgentPaymentMessage wallet message source = .ok () then
    match stored with
    | some current => some (mergeTransaction current message.payment)
    | none => some message.payment
  else stored

variable {message : PaymentAgentMessage} {source : String} {α : Type}

lemma mergeEffect_refused {wallet : Wallet}
    (h : validateAgentPaymentMessage wallet message source ≠ .ok ())
    (stored : Option PaymentTransaction) : mergeEffect wallet message source stored = stored :=
  if_neg h

lemma mergeEffect_none {wallet : Wallet}
    (h : validateAgentPaymentMessage wallet message source = .ok ()) :
    mergeEffect wallet message source none = some message.payment :=
  if_pos h

lemma mergeEffect_some {wallet : Wallet}
    (h : validateAgentPaymentMessage wallet message source = .ok ()) (stored : PaymentTransaction) :
    mergeEffect wallet message source (some stored)
      = some (mergeTransaction stored message.payment) :=
  if_pos h

/-- What a call leaves of the record stored under its target. -/
def effect : LedgerOp → Option PaymentTransaction → Option PaymentTransaction
  | .propose senderDid request uuid now, _ => some (proposal senderDid request uuid now)
  | .authorize request checkedAt now, stored =>
    stored.map fun t => (authorizeRecord request checkedAt now t).2
  | .submit paymentId receipt, stored => stored.map fun t => (submitRecord paymentId receipt t).2
  | .settle request now, stored => stored.map fun t => (settleRecord request now t).2
  | .reject request, stored => stored.map fun t => (rejectRecord request t).2
  | .cancel paymentId, stored => stored.map fun t => (cancelRecord paymentId t).2
  | .mergeRemoteAgentMessage message source, stored => mergeEffect wallet message source stored

open PaymentLedger

lemma PaymentLedger.get_withRecord (id : String)
    (body : PaymentTransaction → Except String Unit × PaymentTransaction) (id' : String) :
    (ledger.withRecord id body).2.get id'
      = if id' = id then (ledger.get id).map (fun t => (body t).2) else ledger.get id' := by
  rw [withRecord]
  cases hget : ledger.get id with
  | none =>
    by_cases h : id' = id
    · rw [if_pos h, h]
      exact hget
    · rw [if_neg h]
  | some t =>
    -- both outcomes of the body write back what it left
    have hput : (ledger.put id (body t).2).get id'
        = if id' = id then some (body t).2 else ledger.get id' :=
      get_put ledger id (body t).2 id'
    rcases hbody : body t with ⟨result, t'⟩
    rw [hbody] at hput
    cases result with
    | error text => simpa [hbody] using hput
    | ok u => simpa [hbody] using hput

lemma PaymentLedger.get_mergeRemoteAgentMessage
    (message : PaymentAgentMessage) (source : String) (id' : String) :
    (ledger.mergeRemoteAgentMessage wallet message source).2.get id'
      = if id' = message.payment.paymentId
        then mergeEffect wallet message source (ledger.get message.payment.paymentId)
        else ledger.get id' := by
  rw [mergeRemoteAgentMessage]
  cases hvalid : validateAgentPaymentMessage wallet message source with
  | error text =>
    rw [mergeEffect_refused (by rw [hvalid]; exact nofun)]
    by_cases h : id' = message.payment.paymentId
    · rw [if_pos h, h]
    · rw [if_neg h]
  | ok u =>
    rw [mergeRemoteTransaction]
    cases ledger.get message.payment.paymentId with
    | none =>
      rw [mergeEffect_none hvalid]
      exact get_put ledger _ _ id'
    | some existing =>
      rw [mergeEffect_some hvalid]
      exact get_put ledger _ _ id'

/-- **FRAME**: a call rewrites the record of its target by `effect` and leaves
every other record alone. -/
lemma get_step (op : LedgerOp) (id : String) : (step wallet ledger op).get id
      = if id = op.target then effect wallet op (ledger.get op.target) else ledger.get id := by
  cases op with
  | propose senderDid request uuid now => exact get_put ledger _ _ id
  | authorize request checkedAt now => exact get_withRecord ledger _ _ id
  | submit paymentId receipt => exact get_withRecord ledger _ _ id
  | settle request now => exact get_withRecord ledger _ _ id
  | reject request => exact get_withRecord ledger _ _ id
  | cancel paymentId => exact get_withRecord ledger _ _ id
  | mergeRemoteAgentMessage message source =>
    exact get_mergeRemoteAgentMessage wallet ledger message source id

/-- The ledger as a keyed store. -/
def ledgerStore : KeyedStep PaymentLedger String PaymentTransaction LedgerOp where
  step := step wallet
  get := PaymentLedger.get
  target := LedgerOp.target
  effect := effect wallet
  get_target := by
    intro ledger op
    rw [get_step, if_pos rfl]
  get_frame := by
    intro ledger op id h
    rw [get_step, if_neg h]

/-! ## What the bodies leave -/

lemma guarded_snd (t : PaymentTransaction) :
    (guarded refused text write t).2 = if refused t.status then t else write t := by
  rw [guarded]
  split <;> rfl

/-- The condition under which `settle` goes through on a record. -/
def settles (t : PaymentTransaction) : Prop :=
  (t.status = .submitted ∨ t.status = .authorized)
    ∧ validateX402SettlementReceipt t request.settlementReceipt = .ok ()

instance (request : SettlePaymentRequest) (t : PaymentTransaction) :
    Decidable (settles request t) :=
  inferInstanceAs (Decidable (_ ∧ _))

/-- `settle` either goes through or fails and leaves the record.  It tests the rail
before it calls the receipt check, which tests it again: the outer test changes
nothing. -/
lemma settleRecord_cases (now : Int) (t : PaymentTransaction) :
    (settles request t ∧ settleRecord request now t
      = (.ok (), { t with status := .settled
                          settlementReceipt := some request.settlementReceipt
                          settledAt := some now }))
    ∨ (¬ settles request t ∧ ∃ text, settleRecord request now t = (.error text, t)) := by
  have hchecked : (if eqIgnoreAsciiCase t.rail "x402" = true
        then validateX402SettlementReceipt t request.settlementReceipt else .ok ())
      = validateX402SettlementReceipt t request.settlementReceipt := by
    by_cases h : eqIgnoreAsciiCase t.rail "x402" = true
    · rw [if_pos h]
    · rw [if_neg h, validateX402SettlementReceipt, if_pos (by simpa using h)]
  rw [settleRecord, hchecked]
  by_cases hs : t.status = .submitted ∨ t.status = .authorized
  · rw [if_neg (by rintro ⟨h1, h2⟩; exact hs.elim h1 h2)]
    cases hv : validateX402SettlementReceipt t request.settlementReceipt with
    | ok u => exact .inl ⟨⟨hs, hv⟩, rfl⟩
    | error text =>
      refine .inr ⟨fun h => ?_, text, rfl⟩
      rw [h.2] at hv
      cases hv
  · rw [if_pos (not_or.mp hs)]
    exact .inr ⟨fun h => hs h.1, _, rfl⟩

lemma settleRecord_snd (now : Int) (t : PaymentTransaction) : (settleRecord request now t).2
      = if settles request t then
          { t with status := .settled, settlementReceipt := some request.settlementReceipt,
                   settledAt := some now } else t := by
  rcases settleRecord_cases request now t with ⟨hs, h⟩ | ⟨hs, text, h⟩
  · rw [h, if_pos hs]
  · rw [h, if_neg hs]

/-- The condition under which `authorize` finds a proposed record overdue. -/
def overdue (checkedAt : Int) (t : PaymentTransaction) : Bool :=
  t.expiresAt.any (fun expiresAt => expiresAt < checkedAt)

lemma authorizeRecord_snd (request : AuthorizePaymentRequest) (checkedAt now : Int)
    (t : PaymentTransaction) : (authorizeRecord request checkedAt now t).2
      = if t.status ≠ .proposed then t
        else if overdue checkedAt t then { t with status := .expired }
        else { t with
          status := .authorized
          authorizationSignature := some request.authorizationSignature
          authorizationPublicKey := request.authorizationPublicKey
          senderAddress := request.senderAddress
          authorizedAt := some now } := by
  rw [authorizeRecord, overdue]
  split
  · rfl
  · split <;> rfl

/-- The optional field of a copy adds nothing to the stored one. -/
def addsNothing {α : Type} (stored incoming : Option α) : Prop :=
  stored.isSome = true ∨ incoming = none

instance {α : Type} (stored incoming : Option α) : Decidable (addsNothing stored incoming) :=
  decidable_of_iff (stored.isSome = true ∨ incoming.isNone = true) (by
    rw [addsNothing, Option.isNone_iff_eq_none])

lemma or_eq_left_iff (stored incoming : Option α) :
    stored.or incoming = stored ↔ addsNothing stored incoming := by
  rw [addsNothing]
  cases stored with
  | none => simp
  | some a => simp

/-- A stored optional field does not stand in the way of the copy's. -/
def yields {α : Type} (stored incoming : Option α) : Prop :=
  stored = none ∨ stored = incoming

lemma or_eq_right {stored incoming : Option α} (h : yields stored incoming) :
    stored.or incoming = incoming := by
  rcases h with h | h
  · rw [h, Option.none_or]
  · rw [h, Option.or_self]

/-- The merged status is the stored one exactly when the copy's rank is not
higher. -/
lemma merged_status_eq_iff (stored copy : PaymentTransaction) :
    (mergeTransaction stored copy).status = stored.status
      ↔ copy.status.rank ≤ stored.status.rank := by
  show (if stored.status.rank ≤ copy.status.rank then copy.status else stored.status)
    = stored.status ↔ _
  by_cases h : stored.status.rank ≤ copy.status.rank
  · rw [if_pos h]
    constructor
    · intro heq
      exact (congrArg PaymentStatus.rank heq).le
    · intro hle
      exact PaymentStatus.rank_injective (le_antisymm hle h)
  · rw [if_neg h]
    exact ⟨fun _ => (not_le.mp h).le, fun _ => rfl⟩

/-!
## A node that only receives

The ledger of a node that applies agent messages and nothing else.
-/

/-- One delivery: an agent message and the agent it came from. -/
abbrev Delivery := PaymentAgentMessage × String

/-- One message arrives. -/
def deliver (delivery : Delivery) : PaymentLedger :=
  (ledger.mergeRemoteAgentMessage wallet delivery.1 delivery.2).2

/-- The deliveries as a keyed store. -/
def inbox : KeyedStep PaymentLedger String PaymentTransaction Delivery where
  step := deliver wallet
  get := PaymentLedger.get
  target delivery := delivery.1.payment.paymentId
  effect delivery := mergeEffect wallet delivery.1 delivery.2
  get_target := by
    intro ledger delivery
    rw [deliver, get_mergeRemoteAgentMessage, if_pos rfl]
  get_frame := by
    intro ledger delivery id h
    rw [deliver, get_mergeRemoteAgentMessage, if_neg h]

/-!
## A concrete wallet and payment

A toy wallet under which concrete runs evaluate: the payload is its fields
separated by commas, a signature is the key followed by the signed bytes, and
an address is the key after `0x`.
-/

def toyBytes (cs : List Char) : List UInt8 := cs.map (fun c => UInt8.ofNat c.toNat)

def toyPayload (p : PaymentAuthorizationPayload) : List Char :=
  ([p.paymentId, p.senderDid, p.recipientDid, p.senderPublicId, p.recipientPublicId,
    p.remoteNodeId, p.amount, p.currency, p.rail, p.network.getD "", p.senderAddress.getD "",
    p.recipientAddress.getD "", p.missionId.getD "", p.taskId.getD "", p.description.getD ""].map
      fun field => field.toList ++ [',']).flatten
    ++ (if p.layer = .web3 then ['3'] else ['2'])
    ++ (p.expiresAt.map fun e => Nat.toDigits 10 e.toNat).getD []

def toyWallet : Wallet where
  toVec p := .ok (toyBytes (toyPayload p))
  decodeBase64 s := .ok (toyBytes s.toList)
  verifySecp256k1 publicKey bytes signature :=
    if signature = toyBytes publicKey.toList ++ bytes then .ok () else .error "invalid signature"
  evmAddress publicKey := .ok ("0x" ++ publicKey)

/-- The signature the toy wallet accepts for a transaction. -/
def toySign (publicKey : String) (t : PaymentTransaction) : String :=
  String.ofList (publicKey.toList ++ toyPayload (authorizationPayload t))

def toyProposal : ProposePaymentRequest where
  senderPublicId := "alice-public"
  remoteNodeId := "bob-node"
  recipientPublicId := "bob-public"
  recipientDid := "did:bob"
  amount := "2500000"
  currency := "USDC"
  rail := "x402"
  layer := .web3
  network := some "base"
  recipientAddress := some "0xb0b"
  missionId := none
  taskId := none
  description := none
  metadata := none
  expiresAt := none

def toyPayment : PaymentTransaction := proposal "did:alice" toyProposal "1" 100

/-- The same transaction authorized with the key `a11ce`. -/
def toyAuthorized : PaymentTransaction :=
  let addressed := { toyPayment with senderAddress := some "0xa11ce" }
  { addressed with
    status := .authorized
    authorizationSignature := some (toySign "a11ce" addressed)
    authorizationPublicKey := some "a11ce"
    authorizedAt := some 101 }

def toyReceipt : JsonValue :=
  .object [ ("amount", .string "2500000"), ("network", .string "eip155:8453"),
    ("payTo", .string "0xb0b"),
    ("payer", .string "0xA11CE"),
    ("success", .bool true),
    ("transaction", .string "0x89c91c789e57059b17285e7ba1716a1f5ff4c5dace0ea5a5135f26158d0421b9")]

/-- The calls that propose, authorize and settle it. -/
def toySettlement : List LedgerOp :=
  [.propose "did:alice" toyProposal "1" 100, .authorize
     { paymentId := "payment-1", authorizationSignature := toySign "a11ce" toyAuthorized,
       authorizationPublicKey := some "a11ce", senderAddress := some "0xa11ce" } 101 101,
   .settle { paymentId := "payment-1", settlementReceipt := toyReceipt } 102]

example : verifyPaymentAuthorizationSignature toyWallet toyAuthorized = .ok () := by decide
example : verifyPaymentAuthorizationSignature toyWallet { toyAuthorized with amount := "1" }
    = .error "verify payment authorization signature" := by decide

end WattLedger
