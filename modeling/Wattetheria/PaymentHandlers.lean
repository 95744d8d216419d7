import Wattetheria.PaymentRequests

/-!
# The payment routes and the stored ledger

The six routes that change payments, each from its first look at the ledger to the
persist call.  A node holds the ledger in memory and the one it stored last.  Every
route works under the ledger lock and stores the ledger after an operation that went
through (`PaymentNode.commit`); one that fails is answered with its error at once.

What comes from outside is part of a request: the answer a route gives before it looks
at the ledger, the replies of the wallet and of the chain, and what answers after the
update.  A persist call that is made succeeds.
-/

namespace WattPaymentNode

open WattText WattJson WattPayment WattX402 WattLedger WattRequests

/-- The ledger in memory and the last one stored. -/
structure PaymentNode where
  (memory stored : PaymentLedger)

/-- What a route answers. -/
abbrev Answer := Except String PaymentTransaction

/-- The end of `mutate_payment` and of its siblings: `persist_payment_ledger` after an
operation that went through. -/
def PaymentNode.commit (node : PaymentNode) : Answer × PaymentLedger → Answer × PaymentNode
  | (.error text, ledger) => (.error text, { node with memory := ledger })
  | (.ok payment, ledger) => (.ok payment, { memory := ledger, stored := ledger })

/-! ## The bodies of the routes -/

variable (agentDid : String)

/-- Refuses who is no party of the payment. -/
def ensurePaymentParticipant (payment : PaymentTransaction) : Except String Unit :=
  bailIf (payment.senderDid ≠ agentDid ∧ payment.recipientDid ≠ agentDid)
    "only payment participants can modify this payment state"

/-- The update of `propose_agent_payment`, once its target is resolved. -/
def proposeAgentPayment (localAgentId : String) (resolved : Except String ProposePaymentRequest)
    (uuid : String) (now : Int) (ledger : PaymentLedger) : Answer × PaymentLedger :=
  match resolved with
  | .error text => (.error text, ledger)
  | .ok request => ledger.propose localAgentId request uuid now

/-- An account of the local wallet. -/
structure PaymentAccount where
  (keyHandle address : Option String)

/-- What the local wallet answers, with the base64 encoder of its signatures. -/
structure LocalWallet extends Wallet where
  openLocalWallet : Except String Unit
  activePaymentAccount : Except String PaymentAccount
  signWithActivePaymentAccount : List UInt8 → Except String (List UInt8)
  activePublicKeyMultibase : Except String String
  encodeBase64 : List UInt8 → String

variable (wallet : LocalWallet) (paymentId : String) (senderAddress : Option String) (ledger : PaymentLedger)

/-- `update_outbound_payment_with_wallet_signature` up to `PaymentLedger::authorize`. -/
def walletSignature : Except String AuthorizePaymentRequest := do
  let current ← okOr s!"payment not found: {paymentId}" (ledger.get paymentId)
  ensureSenderControlsPayment agentDid current
  wallet.openLocalWallet
  let activeAccount ← wallet.activePaymentAccount
  bailIf activeAccount.keyHandle.isNone
    "active payment account is watch-only and cannot sign payments"
  let activeAddress ← okOr "active payment account is missing an address" activeAccount.address
  let senderAddress := senderAddress.getD activeAddress
  bailIf (!eqIgnoreAsciiCase senderAddress activeAddress)
    "sender_address must match the active signing payment account"
  -- the payload has the address the ledger is about to record
  let payload ← authorizationPayloadBytes wallet.toWallet
    { current with senderAddress := some senderAddress }
  let signature ← wallet.signWithActivePaymentAccount payload
  let publicKey ← wallet.activePublicKeyMultibase
  .ok {
    paymentId
    authorizationSignature := wallet.encodeBase64 signature
    authorizationPublicKey := some publicKey
    senderAddress := some senderAddress }

/-- `update_outbound_payment_with_wallet_signature`. -/
def authorizeAgentPayment (checkedAt now : Int) (ledger : PaymentLedger) : Answer × PaymentLedger :=
  match walletSignature agentDid wallet paymentId senderAddress ledger with
  | .error text => (.error text, ledger)
  | .ok request => ledger.authorize request checkedAt now

/-- The receipt `submit_agent_payment` records: the one of the caller, or the one of the
transfer it asks for. -/
def submittedReceipt (agentDid paymentId : String) (settlementReceipt : Option JsonValue)
    (reply : ChainReply) (ledger : PaymentLedger) : Except String (Option JsonValue) :=
  match settlementReceipt with
  | some receipt => .ok (some receipt)
  | none => do
      let current ← paymentSnapshotForSubmit agentDid ledger paymentId
      (submitX402Erc20Payment current reply).1

/-- The update of `submit_agent_payment`. -/
def submitAgentPayment (agentDid paymentId : String) (settlementReceipt : Option JsonValue)
    (reply : ChainReply) (ledger : PaymentLedger) : Answer × PaymentLedger :=
  match submittedReceipt agentDid paymentId settlementReceipt reply ledger with
  | .error text => (.error text, ledger)
  | .ok receipt => mutatePayment ledger paymentId (ensureSenderControlsPayment agentDid)
      fun payment => ledger.submit payment.paymentId receipt

/-- The payment a settlement is checked against. -/
def paymentSnapshotForSettle (paymentId : String) : Except String PaymentTransaction := do
  let current ← okOr s!"payment not found: {paymentId}" (ledger.get paymentId)
  ensurePaymentParticipant agentDid current
  bailIf (current.status ≠ .submitted ∧ current.status ≠ .authorized)
    s!"payment {paymentId} is not in a settleable state (current: {current.status.debug})"
  .ok current

/-- The update of `settle_agent_payment`; `verified` is what
`verify_x402_erc20_settlement_receipt` answers. -/
def settleAgentPayment (agentDid paymentId : String) (settlementReceipt : JsonValue)
    (verified : PaymentTransaction → Except String Unit) (now : Int) (ledger : PaymentLedger) :
    Answer × PaymentLedger :=
  match paymentSnapshotForSettle agentDid ledger paymentId >>= verified with
  | .error text => (.error text, ledger)
  | .ok () => mutatePayment ledger paymentId (ensurePaymentParticipant agentDid)
      fun payment => ledger.settle
        { paymentId := payment.paymentId, settlementReceipt } now

/-- The update of `reject_agent_payment`. -/
def rejectAgentPayment (agentDid paymentId rejectReason : String) (ledger : PaymentLedger) :
    Answer × PaymentLedger :=
  mutatePayment ledger paymentId (ensureRecipientControlsPayment agentDid)
    fun payment => ledger.reject { paymentId := payment.paymentId, rejectReason }

/-- The update of `cancel_agent_payment`. -/
def cancelAgentPayment (agentDid paymentId : String) (ledger : PaymentLedger) :
    Answer × PaymentLedger :=
  mutatePayment ledger paymentId (ensureSenderControlsPayment agentDid)
    fun payment => ledger.cancel payment.paymentId

/-! ## Requests -/

/-- What a request asks for. -/
inductive PaymentAction where
  | propose (localAgentId : String) (resolved : Except String ProposePaymentRequest)
      (uuid : String) (now : Int)
  | authorize (wallet : LocalWallet) (paymentId : String) (senderAddress : Option String)
      (checkedAt now : Int)
  | submit (paymentId : String) (settlementReceipt : Option JsonValue) (reply : ChainReply)
  | settle (paymentId : String) (settlementReceipt : JsonValue)
      (verified : PaymentTransaction → Except String Unit) (now : Int)
  | reject (paymentId rejectReason : String)
  | cancel (paymentId : String)

/-- What a route does to the ledger. -/
def PaymentAction.update : PaymentAction → Answer × PaymentLedger
  | .propose localAgentId resolved uuid now =>
    proposeAgentPayment localAgentId resolved uuid now ledger
  | .authorize wallet paymentId senderAddress checkedAt now =>
    authorizeAgentPayment agentDid wallet paymentId senderAddress checkedAt now ledger
  | .submit paymentId receipt reply => submitAgentPayment agentDid paymentId receipt reply ledger
  | .settle paymentId receipt verified now =>
    settleAgentPayment agentDid paymentId receipt verified now ledger
  | .reject paymentId reason => rejectAgentPayment agentDid paymentId reason ledger
  | .cancel paymentId => cancelAgentPayment agentDid paymentId ledger

/-- A request: the answer given before the ledger is looked at, if any, and what the work
after the update answers. -/
structure PaymentRequest where
  early : Option Answer
  action : PaymentAction
  finished : Except String Unit

/-- The answer of a route and the node it leaves. -/
def respond (node : PaymentNode) (request : PaymentRequest) : Answer × PaymentNode :=
  match request.early with
  | some answer => (answer, node)
  | none =>
    match node.commit (request.action.update agentDid node.memory) with
    | (.error text, node) => (.error text, node)
    | (.ok payment, node) => (request.finished.map fun _ => payment, node)

def handle (node : PaymentNode) (request : PaymentRequest) : PaymentNode :=
  (respond agentDid node request).2

end WattPaymentNode
