import Wattetheria.JsonValue

/-!
# Payment transactions and the messages that carry them

The data of the payment ledger, the signed authorization payload and the
check an incoming agent message passes before it is merged.  The wallet crate
(base64, JSON serialization of the payload, secp256k1 verification, address
derivation) is outside the repository: it is the parameter `Wallet`, a bundle
of fixed functions about which nothing is assumed.

Timestamps are `i64` seconds; nothing here adds to them, so they are `Int`.
-/

namespace WattPayment

open WattText WattJson

/-- The settlement rail layer. -/
inductive SettlementLayer where
  | web2
  | web3
  deriving DecidableEq

/-- Status of a payment transaction. -/
inductive PaymentStatus where
  | proposed
  | authorized
  | submitted
  | settled
  | rejected
  | expired
  | cancelled
  deriving DecidableEq

namespace PaymentStatus

/-- The order the merge compares statuses in. -/
def rank : PaymentStatus → Nat
  | .proposed => 0
  | .authorized => 1
  | .submitted => 2
  | .settled => 3
  | .rejected => 4
  | .expired => 5
  | .cancelled => 6

/-- The `{:?}` form used in error texts. -/
def debug : PaymentStatus → String
  | .proposed => "Proposed"
  | .authorized => "Authorized"
  | .submitted => "Submitted"
  | .settled => "Settled"
  | .rejected => "Rejected"
  | .expired => "Expired"
  | .cancelled => "Cancelled"

lemma rank_injective {a b : PaymentStatus} (h : a.rank = b.rank) : a = b := by
  cases a <;> cases b <;> first | rfl | cases h

end PaymentStatus

/-- A payment transaction between two agents. -/
structure PaymentTransaction where
  (paymentId senderDid recipientDid senderPublicId recipientPublicId remoteNodeId amount currency
    rail : String)
  layer : SettlementLayer
  (network senderAddress recipientAddress missionId taskId description : Option String)
  metadata : Option JsonValue
  status : PaymentStatus
  (authorizationSignature authorizationPublicKey : Option String)
  settlementReceipt : Option JsonValue
  rejectReason : Option String
  proposedAt : Int
  (authorizedAt settledAt expiresAt : Option Int)
  deriving DecidableEq

/-- What a payment message announces. -/
inductive PaymentMessageKind where
  | request
  | authorized
  | submitted
  | settled
  | rejected
  | cancelled
  deriving DecidableEq

namespace PaymentMessageKind

/-- The text of a kind. -/
def asStr : PaymentMessageKind → String
  | .request => "payment_request"
  | .authorized => "payment_authorized"
  | .submitted => "payment_submitted"
  | .settled => "payment_settled"
  | .rejected => "payment_rejected"
  | .cancelled => "payment_cancelled"

/-- The status a kind announces. -/
def expectedStatus : PaymentMessageKind → PaymentStatus
  | .request => .proposed
  | .authorized => .authorized
  | .submitted => .submitted
  | .settled => .settled
  | .rejected => .rejected
  | .cancelled => .cancelled

/-- `PaymentMessageKind::expected_actor_did`: the one party that may send this
kind; `none` for a settlement, which either party may report. -/
def expectedActorDid (kind : PaymentMessageKind) (payment : PaymentTransaction) : Option String :=
  match kind with
  | .request | .authorized | .submitted | .cancelled => some payment.senderDid
  | .rejected => some payment.recipientDid
  | .settled => none

/-- The kinds whose payload must carry a verified authorization signature. -/
def needsSignature : PaymentMessageKind → Bool
  | .authorized | .submitted | .settled => true
  | .request | .rejected | .cancelled => false

end PaymentMessageKind

/-- A payment message between two agents. -/
structure PaymentAgentMessage where
  kind : PaymentMessageKind
  payment : PaymentTransaction
  emittedAt : Int

def PaymentTransaction.agentMessage (payment : PaymentTransaction)
    (kind : PaymentMessageKind) (emittedAt : Int) : PaymentAgentMessage :=
  { kind, payment, emittedAt }

/-- The fields the sender signs. -/
structure PaymentAuthorizationPayload where
  (paymentId senderDid recipientDid senderPublicId recipientPublicId remoteNodeId amount currency
    rail : String)
  layer : SettlementLayer
  (network senderAddress recipientAddress missionId taskId description : Option String)
  expiresAt : Option Int

/-- The fields the sender signs. -/
def authorizationPayload (t : PaymentTransaction) : PaymentAuthorizationPayload where
  paymentId := t.paymentId
  senderDid := t.senderDid
  recipientDid := t.recipientDid
  senderPublicId := t.senderPublicId
  recipientPublicId := t.recipientPublicId
  remoteNodeId := t.remoteNodeId
  amount := t.amount
  currency := t.currency
  rail := t.rail
  layer := t.layer
  network := t.network
  senderAddress := t.senderAddress
  recipientAddress := t.recipientAddress
  missionId := t.missionId
  taskId := t.taskId
  description := t.description
  expiresAt := t.expiresAt

/-- The functions of the wallet, base64 and JSON crates the ledger calls. -/
structure Wallet where
  toVec : PaymentAuthorizationPayload → Except String (List UInt8)
  decodeBase64 : String → Except String (List UInt8)
  verifySecp256k1 : String → List UInt8 → List UInt8 → Except String Unit
  evmAddress : String → Except String String

variable (wallet : Wallet)

def authorizationPayloadBytes (t : PaymentTransaction) : Except String (List UInt8) :=
  withContext "serialize payment authorization payload" (wallet.toVec (authorizationPayload t))

/-- Verifies a payment over its own fields. -/
def verifyPaymentAuthorizationSignature (t : PaymentTransaction) : Except String Unit := do
  let signature ← okOr "payment authorization signature is required" t.authorizationSignature
  let publicKey ← okOr "payment authorization public key is required" t.authorizationPublicKey
  let signature ← withContext "decode payment authorization signature"
    (wallet.decodeBase64 signature)
  let bytes ← authorizationPayloadBytes wallet t
  withContext "verify payment authorization signature"
    (wallet.verifySecp256k1 publicKey bytes signature)
  let senderAddress ← okOr "payment authorization sender address is required" t.senderAddress
  let derivedAddress ← wallet.evmAddress publicKey
  bailIf (!eqIgnoreAsciiCase derivedAddress senderAddress)
    "payment authorization public key does not match sender address"

variable (message : PaymentAgentMessage)

/-- What a message must meet to be merged. -/
def validateAgentPaymentMessage (sourceAgentDid : String) : Except String Unit := do
  let payment := message.payment
  bailIf (payment.status ≠ message.kind.expectedStatus)
    s!"payment message kind {message.kind.asStr} does not match payment status {payment.status.debug}"
  match message.kind.expectedActorDid payment with
  | some expected =>
    bailIf (expected ≠ sourceAgentDid)
      s!"payment message kind {message.kind.asStr} must be sent by {expected}"
  | none =>
    bailIf (sourceAgentDid ≠ payment.senderDid && sourceAgentDid ≠ payment.recipientDid)
      "payment settlement message must be sent by a payment participant"
  if message.kind.needsSignature then verifyPaymentAuthorizationSignature wallet payment
  else .ok ()

/-! ## What an accepted message and a verified signature say -/

/-- `source` may send a message of this kind about `payment`: it is the party the
kind requires, and for a settlement either of the two. -/
def actorAllowed (kind : PaymentMessageKind) (payment : PaymentTransaction)
    (source : String) : Prop :=
  match kind.expectedActorDid payment with
  | some expected => expected = source
  | none => source = payment.senderDid ∨ source = payment.recipientDid

/-- Validation accepts exactly a message whose status fits its kind, sent by an
allowed actor of its own copy, with a verified signature where one is
needed. -/
lemma validateAgentPaymentMessage_ok_iff (source : String) :
    validateAgentPaymentMessage wallet message source = .ok () ↔
      message.payment.status = message.kind.expectedStatus
      ∧ actorAllowed message.kind message.payment source ∧ (message.kind.needsSignature = true →
          verifyPaymentAuthorizationSignature wallet message.payment = .ok ()) := by
  obtain ⟨kind, payment, emittedAt⟩ := message
  have hsig : (if kind.needsSignature = true
        then verifyPaymentAuthorizationSignature wallet payment else .ok ()) = .ok ()
      ↔ (kind.needsSignature = true →
          verifyPaymentAuthorizationSignature wallet payment = .ok ()) := by
    by_cases h : kind.needsSignature = true
    · rw [if_pos h]
      exact ⟨fun hv _ => hv, fun hv => hv h⟩
    · rw [if_neg h]
      exact ⟨fun _ h' => absurd h' h, fun _ => rfl⟩
  rw [validateAgentPaymentMessage, actorAllowed, bind_eq_ok]
  cases kind.expectedActorDid payment with
  | some expected => simp [bind_eq_ok, bailIf_eq_ok, hsig]
  | none =>
    simp only [bind_eq_ok, bailIf_eq_ok, hsig]
    simp [or_iff_not_imp_left]

lemma verifyPaymentAuthorizationSignature_congr {t u : PaymentTransaction}
    (hp : authorizationPayload t = authorizationPayload u)
    (hs : t.authorizationSignature = u.authorizationSignature)
    (hk : t.authorizationPublicKey = u.authorizationPublicKey) :
    verifyPaymentAuthorizationSignature wallet t
      = verifyPaymentAuthorizationSignature wallet u := by
  have ha : t.senderAddress = u.senderAddress :=
    congrArg PaymentAuthorizationPayload.senderAddress hp
  rw [verifyPaymentAuthorizationSignature, authorizationPayloadBytes, hp, hs, hk, ha]
  rfl

lemma verified_fields {t : PaymentTransaction}
    (h : verifyPaymentAuthorizationSignature wallet t = .ok ()) :
    t.authorizationSignature.isSome = true ∧ t.authorizationPublicKey.isSome = true
      ∧ t.senderAddress.isSome = true := by
  rw [verifyPaymentAuthorizationSignature] at h
  obtain ⟨signature, hs, h⟩ := bind_eq_ok.mp h
  obtain ⟨publicKey, hk, h⟩ := bind_eq_ok.mp h
  obtain ⟨_, _, h⟩ := bind_eq_ok.mp h
  obtain ⟨_, _, h⟩ := bind_eq_ok.mp h
  obtain ⟨_, _, h⟩ := bind_eq_ok.mp h
  obtain ⟨senderAddress, ha, -⟩ := bind_eq_ok.mp h
  rw [okOr_eq_ok] at hs hk ha
  rw [hs, hk, ha]
  exact ⟨rfl, rfl, rfl⟩

end WattPayment
