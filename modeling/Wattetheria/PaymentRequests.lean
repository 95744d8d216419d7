import Wattetheria.ThreadPool
import Wattetheria.PaymentLedger

/-!
# Payment requests at the sender's node

`submit_agent_payment`, `cancel_agent_payment` and `reject_agent_payment` as
handlers that interleave.  Each takes the ledger lock for one look or one
update at a time; a submission without a receipt takes it twice, and between
the two it asks the chain for an ERC-20 transfer with the lock released.

What the chain answers is part of the schedule: either nothing was broadcast, or the
transfer was broadcast exactly once, whatever came back.  What a response does after the
last update touches neither the ledger nor the chain.
-/

namespace WattRequests

open WattText WattJson WattPayment WattX402 WattLedger WattThreads

/-! ## The transfer a payment asks for -/

/-- One name for each network. -/
def canonicalNetwork (network : String) : String :=
  let name := toAsciiLowercase (trim network)
  if ["base", "base-mainnet", "eip155:8453", "8453"].contains name then "base"
  else if ["base-sepolia", "base_sepolia", "eip155:84532", "84532"].contains name then
    "base-sepolia"
  else name

def isEvmAddress (address : String) : Bool :=
  address.utf8ByteSize == 42 && ['0', 'x'].isPrefixOf address.toList
    && (address.toList.drop 2).all isAsciiHexdigit

/-- A stated address, or an error that names it. -/
def requiredPaymentAddress (address : Option String) (name : String) : Except String String := do
  let address ← okOr s!"x402 chain payment requires {name} address" address
  bailIf (!isEvmAddress address) s!"invalid {name} EVM address"
  .ok address

variable (payment : PaymentTransaction)

/-- The asset the payment's metadata names. -/
def metadataAsset : Option String :=
  ((((payment.metadata.bind fun metadata => metadata.get "x402_accept").bind
    fun accept => accept.get "asset").bind JsonValue.asStr).map trim).filter
      fun value => !isEmpty value

/-- The token contract of a stablecoin. -/
def defaultAsset (network currency : String) : Option String :=
  let currency := toAsciiUppercase (trim currency)
  if network = "base" ∧ currency = "USDC" then
    some "0x833589fCD6eDb6E08f4c7C32D4f71b54bdA02913"
  else if network = "base" ∧ currency = "USDT" then
    some "0xfde4C96c8593536E31F229EA8f37b2ADa2699bb2"
  else if network = "base-sepolia" ∧ currency = "USDC" then
    some "0x036CbD53842c5426634e7929541eC2318f3dCF7e"
  else none

/-- `ChainConfig`, without the RPC address. -/
structure ChainConfig where
  chainId : Nat
  (network asset : String)

/-- Which transfer a payment asks for. -/
def resolveChainConfig : Except String ChainConfig := do
  let network ← okOr "x402 chain payment requires network" (payment.network.map canonicalNetwork)
  let chain ← okOr s!"x402 chain payment does not support network {network}"
    (if network = "base" then some (8453, "eip155:8453")
     else if network = "base-sepolia" then some (84532, "eip155:84532")
     else none)
  let asset ← okOr s!"x402 chain payment has no ERC20 asset configured for {payment.currency} on {network}"
    ((metadataAsset payment).or (defaultAsset network payment.currency))
  let _ ← requiredPaymentAddress (some asset) "asset"
  .ok { chainId := chain.1, network := chain.2, asset }

/-- `Erc20TransferRequest`, without the RPC address and the secret. -/
structure Erc20TransferRequest where
  chainId : Nat
  (network payer token payee : String)
  amount : Nat

/-- The transfer `submit_x402_erc20_payment` asks for: none off the x402 rail or
the web3 layer. -/
def transferRequest : Except String (Option Erc20TransferRequest) :=
  if !eqIgnoreAsciiCase payment.rail "x402" || payment.layer ≠ .web3 then .ok none
  else do
    let config ← resolveChainConfig payment
    let senderAddress ← requiredPaymentAddress payment.senderAddress "sender"
    let recipientAddress ← requiredPaymentAddress payment.recipientAddress "recipient"
    let amount ← okOr "parse payment amount as token base units" (parseU128 payment.amount)
    bailIf (amount == 0) "payment amount must be greater than zero"
    .ok (some {
      chainId := config.chainId
      network := config.network
      payer := senderAddress
      token := config.asset
      payee := recipientAddress
      amount })

/-- The receipt `submit_erc20_transfer` returns. -/
def transferReceipt (request : Erc20TransferRequest) (txHash : String) : JsonValue :=
  .object [ ("amount", .string (toString request.amount)), ("asset", .string request.token),
    ("network", .string request.network),
    ("payTo", .string request.payee),
    ("payer", .string request.payer),
    ("rail", .string "x402"),
    ("success", .bool true),
    ("transaction", .string txHash)]

/-- What comes back from the wallet and the chain. -/
inductive ChainReply where
  /-- no key for the sender, or an RPC call before the transfer failed -/
  | failed (text : String)
  /-- the transfer was broadcast; its hash came back, or an error did -/
  | broadcast (hash : Except String String)

/-- `submit_x402_erc20_payment`: its result and the number of transfers it
broadcast. -/
def submitX402Erc20Payment (reply : ChainReply) : Except String (Option JsonValue) × Nat :=
  match transferRequest payment, reply with
  | .error text, _ => (.error text, 0)
  | .ok none, _ => (.ok none, 0)
  | .ok (some _), .failed text => (.error text, 0)
  | .ok (some request), .broadcast (.ok hash) => (.ok (some (transferReceipt request hash)), 1)
  | .ok (some _), .broadcast (.error text) => (.error text, 1)

/-! ## The handlers -/

variable (agentDid : String) (payment : PaymentTransaction)

/-- Refuses who is not the sender. -/
def ensureSenderControlsPayment : Except String Unit :=
  bailIf (payment.senderDid ≠ agentDid) "only the sender agent can modify this payment state"

/-- Refuses who is not the recipient. -/
def ensureRecipientControlsPayment : Except String Unit :=
  bailIf (payment.recipientDid ≠ agentDid)
    "only the recipient agent can modify this payment state"

variable (ledger : PaymentLedger) (paymentId : String)

/-- The look of a submission. -/
def paymentSnapshotForSubmit : Except String PaymentTransaction := do
  let current ← okOr s!"payment not found: {paymentId}" (ledger.get paymentId)
  ensureSenderControlsPayment agentDid current
  bailIf (current.status ≠ .authorized)
    s!"payment {paymentId} is not in authorized state (current: {current.status.debug})"
  .ok current

/-- `mutate_payment`: look the payment up, check who asks, run the operation, all
under one lock. -/
def mutatePayment (allowed : PaymentTransaction → Except String Unit)
    (mutate : PaymentTransaction → Except String PaymentTransaction × PaymentLedger) :
    Except String PaymentTransaction × PaymentLedger :=
  match ledger.get paymentId with
  | none => (.error s!"payment not found: {paymentId}", ledger)
  | some current =>
    match allowed current with
    | .error text => (.error text, ledger)
    | .ok () => mutate current

/-- A request about the payment. -/
inductive Request where
  | submit (settlementReceipt : Option JsonValue)
  | cancel
  | reject (rejectReason : String)

/-- Where the receipt of a submission comes from. -/
inductive Origin where
  /-- the caller supplied it; no snapshot was taken -/
  | supplied
  /-- a snapshot was taken and no transfer was needed -/
  | unsent
  /-- a snapshot was taken and a transfer was broadcast -/
  | broadcast
  deriving DecidableEq

/-- The steps of the handlers, each between two lock boundaries. -/
inductive Pc where
  | snapshot
  | chainCall (current : PaymentTransaction)
  | record (settlementReceipt : Option JsonValue) (origin : Origin)
  | cancel
  | reject (rejectReason : String)
  deriving DecidableEq

/-- What the handlers share, and the number of transfers broadcast so far. -/
structure Shared where
  ledger : PaymentLedger
  broadcasts : Nat

/-- Where a request begins. -/
def start : Request → Pc
  | .submit none => .snapshot
  | .submit (some receipt) => .record (some receipt) .supplied
  | .cancel => .cancel
  | .reject reason => .reject reason

/-- One step of a handler. -/
def exec (agentDid paymentId : String) (reply : ChainReply) (s : Shared) : Pc → Shared × Option Pc
  | .snapshot =>
    match paymentSnapshotForSubmit agentDid s.ledger paymentId with
    | .ok current => (s, some (.chainCall current))
    | .error _ => (s, none)
  | .chainCall current =>
    let s' := { s with broadcasts := s.broadcasts + (submitX402Erc20Payment current reply).2 }
    match submitX402Erc20Payment current reply with
    | (.ok receipt, 0) => (s', some (.record receipt .unsent))
    | (.ok receipt, _ + 1) => (s', some (.record receipt .broadcast))
    | (.error _, _) => (s', none)
  | .record receipt _ =>
    ({ s with ledger := (mutatePayment s.ledger paymentId (ensureSenderControlsPayment agentDid)
        fun payment => s.ledger.submit payment.paymentId receipt).2 }, none)
  | .cancel =>
    ({ s with ledger := (mutatePayment s.ledger paymentId (ensureSenderControlsPayment agentDid)
        fun payment => s.ledger.cancel payment.paymentId).2 }, none)
  | .reject reason =>
    ({ s with ledger := (mutatePayment s.ledger paymentId
        (ensureRecipientControlsPayment agentDid) fun payment =>
          s.ledger.reject
            { paymentId := payment.paymentId, rejectReason := reason }).2 }, none)

/-- The handlers as a program. -/
def requests (agentDid paymentId : String) : Program Shared Pc Request ChainReply Empty where
  start
  exec := fun _ => exec agentDid paymentId
  env := fun x => nomatch x

end WattRequests
