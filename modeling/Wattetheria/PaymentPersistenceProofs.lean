import Wattetheria.PaymentHandlers

/-!
# Memory and the stored ledger

A node stores its ledger after an operation that goes through and answers one that
fails at once, which loses nothing as long as a failing operation changes nothing
(`saved_handle`).  `authorize` marks an overdue payment expired and then fails, so the
expiry is in memory and not in the store (`expiry_not_stored`); `memory_stored_iff` says
that memory and store come apart in no other way.
-/

namespace WattPersistence

open WattText WattJson WattPayment WattX402 WattLedger WattRequests WattRuns WattKeyed
  WattPaymentNode

/-! ## Failing operations -/

variable (ledger : PaymentLedger)

/-- An operation that failed left the ledger as it was. -/
def Untouched (outcome : Answer × PaymentLedger) : Prop :=
  ∀ text, outcome.1 = .error text → outcome.2 = ledger

lemma untouched_refused (answer : Answer) : Untouched ledger (answer, ledger) := fun _ _ => rfl

lemma untouched_ok (ledger ledger' : PaymentLedger) (payment : PaymentTransaction) :
    Untouched ledger (.ok payment, ledger') := by
  intro text h
  cases h

variable {ledger : PaymentLedger} {t : PaymentTransaction} {id paymentId : String}

lemma put_get (h : ledger.get id = some t) : ledger.put id t = ledger :=
  congrArg PaymentLedger.mk (insert_self h)

lemma withRecord_some (h : ledger.get id = some t)
    (body : PaymentTransaction → Except String Unit × PaymentTransaction) :
    ledger.withRecord id body = ((body t).1.map fun _ => (body t).2, ledger.put id (body t).2) := by
  simp only [PaymentLedger.withRecord, h]
  rcases body t with ⟨result, t'⟩
  cases result with
  | error text => rfl
  | ok u => rfl

lemma untouched_withRecord {body : PaymentTransaction → Except String Unit × PaymentTransaction} :
    Untouched ledger (ledger.withRecord id body)
      ↔ ∀ t, ledger.get id = some t → ∀ text, (body t).1 = .error text → (body t).2 = t := by
  cases hget : ledger.get id with
  | none =>
    rw [PaymentLedger.withRecord, hget]
    refine iff_of_true (untouched_refused _ _) fun t h => ?_
    cases h
  | some t =>
    rw [withRecord_some hget]
    constructor
    · intro h t₀ ht₀ text htext
      cases ht₀
      have hledger : ledger.put id (body t).2 = ledger := h text (by rw [htext]; rfl)
      have hstored : (ledger.put id (body t).2).get id = some (body t).2 := by
        rw [PaymentLedger.get_put, if_pos rfl]
      rw [hledger, hget] at hstored
      exact (Option.some.inj hstored).symm
    · intro h text htext
      have ht : (body t).2 = t := by
        cases hresult : (body t).1 with
        | ok u =>
          rw [hresult] at htext
          cases htext
        | error text' => exact h t rfl text' hresult
      rw [ht]
      exact put_get hget

lemma guarded_error {refused : PaymentStatus → Bool} {text : PaymentStatus → String}
    {write : PaymentTransaction → PaymentTransaction} {text' : String}
    (h : (guarded refused text write t).1 = .error text') :
    (guarded refused text write t).2 = t := by
  unfold guarded at h ⊢
  by_cases hrefused : refused t.status
  · rw [if_pos hrefused]
  · rw [if_neg hrefused] at h
    cases h

/-- `submit`, `reject` and `cancel`. -/
lemma untouched_guarded (ledger : PaymentLedger) (id : String)
    (refused : PaymentStatus → Bool) (text : PaymentStatus → String)
    (write : PaymentTransaction → PaymentTransaction) :
    Untouched ledger (ledger.withRecord id (guarded refused text write)) :=
  untouched_withRecord.mpr fun _ _ _ h => guarded_error h

lemma untouched_settle (ledger : PaymentLedger) (request : SettlePaymentRequest) (now : Int) :
    Untouched ledger (ledger.settle request now) := by
  refine untouched_withRecord.mpr fun t _ text htext => ?_
  rcases settleRecord_cases request now t with ⟨-, h⟩ | ⟨-, text', h⟩
  · rw [h] at htext
    cases htext
  · rw [h]

/-- `authorize` touches the ledger exactly when it finds a proposed payment overdue. -/
lemma untouched_authorize (ledger : PaymentLedger) (request : AuthorizePaymentRequest)
    (checkedAt now : Int) : Untouched ledger (ledger.authorize request checkedAt now)
      ↔ ∀ t, ledger.get request.paymentId = some t → t.status = .proposed →
          overdue checkedAt t = false := by
  refine untouched_withRecord.trans (forall₂_congr fun t _ => ?_)
  unfold authorizeRecord
  by_cases hstatus : t.status = .proposed
  · rw [if_neg (not_not.mpr hstatus)]
    cases hoverdue : overdue checkedAt t with
    | true =>
      have hany : t.expiresAt.any (fun expiresAt => expiresAt < checkedAt) = true := hoverdue
      rw [if_pos hany]
      constructor
      · intro h
        have hexpired := congrArg PaymentTransaction.status (h _ rfl)
        rw [hstatus] at hexpired
        cases hexpired
      · intro h
        cases h hstatus
    | false =>
      have hany : ¬ t.expiresAt.any (fun expiresAt => expiresAt < checkedAt) = true := by
        rw [← overdue, hoverdue]
        exact Bool.false_ne_true
      rw [if_neg hany]
      refine iff_of_true (fun text htext => ?_) fun _ => rfl
      cases htext
  · rw [if_pos hstatus]
    exact iff_of_true (fun _ _ => rfl) fun h => absurd h hstatus

lemma untouched_mutatePayment {allowed : PaymentTransaction → Except String Unit}
    {mutate : PaymentTransaction → Answer × PaymentLedger}
    (h : ∀ payment, Untouched ledger (mutate payment)) :
    Untouched ledger (mutatePayment ledger paymentId allowed mutate) := by
  unfold mutatePayment
  cases ledger.get paymentId with
  | none => exact untouched_refused _ _
  | some current =>
    dsimp only
    cases allowed current with
    | error text => exact untouched_refused _ _
    | ok u => exact h current

/-! ## One request -/

variable (agentDid : String) (node : PaymentNode) (request : PaymentRequest)

/-- The request does not find a proposed payment overdue after all other checks of an
authorization. -/
def inTime : Prop :=
  request.early = none → match request.action with
    | .authorize wallet paymentId senderAddress checkedAt _ =>
      ∀ signed, walletSignature agentDid wallet paymentId senderAddress node.memory = .ok signed →
        ∀ t, node.memory.get paymentId = some t → t.status = .proposed → overdue checkedAt t = false
    | _ => True

lemma paymentId_walletSignature {agentDid : String} {wallet : LocalWallet}
    {senderAddress : Option String} {request : AuthorizePaymentRequest}
    (h : walletSignature agentDid wallet paymentId senderAddress ledger = .ok request) :
    request.paymentId = paymentId := by
  unfold walletSignature at h
  obtain ⟨current, -, h⟩ := bind_eq_ok.mp h
  obtain ⟨_, -, h⟩ := bind_eq_ok.mp h
  obtain ⟨_, -, h⟩ := bind_eq_ok.mp h
  obtain ⟨account, -, h⟩ := bind_eq_ok.mp h
  obtain ⟨_, -, h⟩ := bind_eq_ok.mp h
  obtain ⟨address, -, h⟩ := bind_eq_ok.mp h
  obtain ⟨_, -, h⟩ := bind_eq_ok.mp h
  obtain ⟨payload, -, h⟩ := bind_eq_ok.mp h
  obtain ⟨signature, -, h⟩ := bind_eq_ok.mp h
  obtain ⟨publicKey, -, h⟩ := bind_eq_ok.mp h
  cases h
  rfl

/-- A request that reaches the ledger leaves it as it was when it fails, exactly when no
authorization finds its payment overdue. -/
lemma untouched_update (action : PaymentAction) (finished : Except String Unit) :
    Untouched node.memory (action.update agentDid node.memory)
      ↔ inTime agentDid node ⟨none, action, finished⟩ := by
  cases action with
  | authorize wallet paymentId senderAddress checkedAt now =>
    show Untouched _ (authorizeAgentPayment agentDid wallet paymentId senderAddress checkedAt
      now node.memory) ↔ _
    unfold authorizeAgentPayment
    cases hsigned : walletSignature agentDid wallet paymentId senderAddress node.memory with
    | error text =>
      refine iff_of_true (untouched_refused _ _) fun _ signed hok => ?_
      cases hsigned.symm.trans hok
    | ok request =>
      -- the one operation that may write and then fail
      rw [untouched_authorize, paymentId_walletSignature hsigned]
      constructor
      · intro h _ signed _
        exact h
      · intro h
        exact h rfl request hsigned
  | propose localAgentId resolved uuid now =>
    refine iff_of_true ?_ fun _ => trivial
    cases resolved with
    | error text => exact untouched_refused _ _
    | ok request => exact untouched_ok _ _ _
  | submit paymentId receipt reply =>
    refine iff_of_true ?_ fun _ => trivial
    show Untouched _ (submitAgentPayment agentDid paymentId receipt reply node.memory)
    unfold submitAgentPayment
    cases submittedReceipt agentDid paymentId receipt reply node.memory with
    | error text => exact untouched_refused _ _
    | ok receipt =>
      exact untouched_mutatePayment fun _ => untouched_guarded _ _ _ _ _
  | settle paymentId receipt verified now =>
    refine iff_of_true ?_ fun _ => trivial
    show Untouched _ (settleAgentPayment agentDid paymentId receipt verified now node.memory)
    unfold settleAgentPayment
    cases paymentSnapshotForSettle agentDid node.memory paymentId >>= verified with
    | error text => exact untouched_refused _ _
    | ok u => exact untouched_mutatePayment fun _ => untouched_settle _ _ _
  | reject | cancel =>
    exact iff_of_true (untouched_mutatePayment fun _ => untouched_guarded _ _ _ _ _)
      fun _ => trivial

/-- What is in memory is what was stored last. -/
def Saved : Prop := node.memory = node.stored

lemma saved_commit {node : PaymentNode} (h : Saved node) (outcome : Answer × PaymentLedger) :
    Saved (node.commit outcome).2 ↔ Untouched node.memory outcome := by
  obtain ⟨answer, ledger⟩ := outcome
  cases answer with
  | ok payment => exact iff_of_true rfl (untouched_ok _ _ _)
  | error text =>
    constructor
    · intro hsaved _ _
      exact Eq.trans hsaved h.symm
    · intro huntouched
      exact Eq.trans (huntouched text rfl) h

lemma saved_handle
    (h : Saved node) : Saved (handle agentDid node request) ↔ inTime agentDid node request := by
  obtain ⟨early, action, finished⟩ := request
  cases early with
  | some answer => exact iff_of_true h fun hnone => nomatch hnone
  | none =>
    rw [← untouched_update, ← saved_commit h]
    have hnode : handle agentDid node ⟨none, action, finished⟩
        = (node.commit (action.update agentDid node.memory)).2 := by
      unfold handle respond
      rcases node.commit (action.update agentDid node.memory) with ⟨answer, node'⟩
      cases answer with
      | error text => rfl
      | ok payment => rfl
    rw [hnode]

/-! ## Whole runs -/

/-- **MEMORY AND STORE**: for every sequence of payment requests at a node started from its
stored ledger, the ledger in memory is the stored one whenever a request has returned,
if and only if no authorization that passes all other checks finds its proposed payment
overdue. -/
theorem memory_stored_iff (ledger : PaymentLedger) (requests : List PaymentRequest) :
    (∀ pre post, requests = pre ++ post → (run (handle agentDid) ⟨ledger, ledger⟩ pre).memory
          = (run (handle agentDid) ⟨ledger, ledger⟩ pre).stored)
      ↔ AllSteps (handle agentDid) (inTime agentDid) ⟨ledger, ledger⟩ requests :=
  always_iff_allSteps (P := Saved) (fun node request h _ => saved_handle agentDid node request h)
    rfl (allSteps_true _ _)

def toyLocalWallet : LocalWallet where
  toWallet := toyWallet
  openLocalWallet := .ok ()
  activePaymentAccount := .ok ⟨some "key", some "0xa11ce"⟩
  signWithActivePaymentAccount bytes := .ok bytes
  activePublicKeyMultibase := .ok "a11ce"
  encodeBase64 bytes := String.ofList (bytes.map fun byte => Char.ofNat byte.toNat)

/-- Alice proposes a payment that expires at 150 and authorizes it at 200. -/
def lateAuthorization : List PaymentRequest :=
  [⟨none, .propose "did:alice" (.ok { toyProposal with expiresAt := some 150 }) "1" 100, .ok ()⟩,
    ⟨none, .authorize toyLocalWallet "payment-1" none 200 200, .ok ()⟩]

/-- The payment is expired in memory and proposed in the store. -/
theorem expiry_not_stored :
    ((run (handle "did:alice") ⟨.empty, .empty⟩ lateAuthorization).memory.get "payment-1").map
        (fun payment => payment.status) = some .expired
      ∧ ((run (handle "did:alice") ⟨.empty, .empty⟩ lateAuthorization).stored.get
          "payment-1").map (fun payment => payment.status) = some .proposed := by
  decide +kernel

end WattPersistence
