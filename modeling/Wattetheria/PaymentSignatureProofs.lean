import Wattetheria.PaymentLedger

/-!
# Signatures of stored payments

A message announcing an authorized, submitted or settled payment carries a
copy whose signature verifies over the copy's own fields.  The merge keeps the
stored value of a field wherever there is one, so the record it leaves mixes
signed fields of two sources.

As long as a message neither adds a signed field to a payment that is already signed nor
brings a signature for terms other than the stored ones, every stored payment verifies
over its own fields (`stored_signatures_verify`).
-/

namespace WattSignature

open WattText WattPayment WattKeyed WattRuns WattLedger

/-- The statuses that claim a verified authorization. -/
def signedStatus : PaymentStatus → Bool
  | .authorized | .submitted | .settled => true
  | .proposed | .rejected | .expired | .cancelled => false

/-- The signed fields a merge never writes agree between the stored payment and a
copy. -/
structure SameTerms (stored copy : PaymentTransaction) : Prop where
  senderDid : stored.senderDid = copy.senderDid
  recipientDid : stored.recipientDid = copy.recipientDid
  senderPublicId : stored.senderPublicId = copy.senderPublicId
  recipientPublicId : stored.recipientPublicId = copy.recipientPublicId
  remoteNodeId : stored.remoteNodeId = copy.remoteNodeId
  amount : stored.amount = copy.amount
  currency : stored.currency = copy.currency
  rail : stored.rail = copy.rail
  layer : stored.layer = copy.layer
  network : stored.network = copy.network
  missionId : stored.missionId = copy.missionId
  taskId : stored.taskId = copy.taskId
  description : stored.description = copy.description

/-- The copy takes over as a whole: same terms, and none of the fields the merge
fills holds a different stored value. -/
structure TakesOver (stored copy : PaymentTransaction) : Prop where
  terms : SameTerms stored copy
  senderAddress : yields stored.senderAddress copy.senderAddress
  recipientAddress : yields stored.recipientAddress copy.recipientAddress
  signature : yields stored.authorizationSignature copy.authorizationSignature
  publicKey : yields stored.authorizationPublicKey copy.authorizationPublicKey
  expiresAt : yields stored.expiresAt copy.expiresAt

variable (wallet : Wallet)

/-- The deliveries that keep stored signatures good.  Of an accepted message about
a stored payment it asks:

* if the payment is signed and the message leaves it in a signed status, the
      copy adds neither a recipient address nor an expiry the payment lacks;
* if the payment is only proposed and the message announces a signed status,
      the copy takes over as a whole. -/
def keepsSignatures (ledger : PaymentLedger) (delivery : Delivery) : Prop :=
  validateAgentPaymentMessage wallet delivery.1 delivery.2 = .ok () →
  ∀ stored ∈ ledger.get delivery.1.payment.paymentId,
    let copy := delivery.1.payment
    (signedStatus stored.status = true → copy.status.rank ≤ PaymentStatus.settled.rank →
      addsNothing stored.recipientAddress copy.recipientAddress
        ∧ addsNothing stored.expiresAt copy.expiresAt)
    ∧ (stored.status = .proposed → signedStatus copy.status = true → TakesOver stored copy)

/-! ## One merge -/

/-- What a stored payment must satisfy: it is filed under its own id and, in a
signed status, verifies. -/
def Verified (id : String) (t : PaymentTransaction) : Prop :=
  t.paymentId = id
  ∧ (signedStatus t.status = true → verifyPaymentAuthorizationSignature wallet t = .ok ())

variable {wallet : Wallet} {stored copy : PaymentTransaction}

/-- A payment that verifies keeps verifying when the merge adds no signed field:
its signature, key and sender address are there and stay. -/
lemma verify_merge_of_stored (hverify : verifyPaymentAuthorizationSignature wallet stored = .ok ())
    (hrecipient : addsNothing stored.recipientAddress copy.recipientAddress)
    (hexpires : addsNothing stored.expiresAt copy.expiresAt) :
    verifyPaymentAuthorizationSignature wallet (mergeTransaction stored copy) = .ok () := by
  obtain ⟨hsignature, hkey, haddress⟩ := verified_fields wallet hverify
  have hs := (or_eq_left_iff _ copy.authorizationSignature).mpr (.inl hsignature)
  have hk := (or_eq_left_iff _ copy.authorizationPublicKey).mpr (.inl hkey)
  have ha := (or_eq_left_iff _ copy.senderAddress).mpr (.inl haddress)
  have hr := (or_eq_left_iff _ _).mpr hrecipient
  have he := (or_eq_left_iff _ _).mpr hexpires
  have hpayload : authorizationPayload (mergeTransaction stored copy)
      = authorizationPayload stored := by
    simp only [authorizationPayload, mergeTransaction, ha, hr, he]
  rw [← hverify]
  exact verifyPaymentAuthorizationSignature_congr wallet hpayload hs hk

/-- A copy that takes over leaves a record that verifies exactly like the copy. -/
lemma verify_merge_of_copy (hid : stored.paymentId = copy.paymentId)
    (htakes : TakesOver stored copy) :
    verifyPaymentAuthorizationSignature wallet (mergeTransaction stored copy)
      = verifyPaymentAuthorizationSignature wallet copy := by
  have hpayload : authorizationPayload (mergeTransaction stored copy)
      = authorizationPayload copy := by
    obtain ⟨t1, t2, t3, t4, t5, t6, t7, t8, t9, t10, t11, t12, t13⟩ := htakes.terms
    simp only [authorizationPayload, mergeTransaction, hid, t1, t2, t3, t4, t5, t6, t7, t8, t9,
      t10, t11, t12, t13, or_eq_right htakes.senderAddress,
      or_eq_right htakes.recipientAddress, or_eq_right htakes.expiresAt]
  exact verifyPaymentAuthorizationSignature_congr wallet hpayload
    (or_eq_right htakes.signature) (or_eq_right htakes.publicKey)

lemma copy_verified {message : PaymentAgentMessage} {source : String}
    (hvalid : validateAgentPaymentMessage wallet message source = .ok ())
    (hsigned : signedStatus message.payment.status = true) :
    verifyPaymentAuthorizationSignature wallet message.payment = .ok () := by
  obtain ⟨hstatus, -, hverify⟩ := (validateAgentPaymentMessage_ok_iff _ _ _).mp hvalid
  apply hverify
  rw [hstatus] at hsigned
  cases hkind : message.kind <;> rw [hkind] at hsigned <;> first | rfl | cases hsigned

/-- A merged record is signed only if the stored one was and the copy does not
outrank a settlement, or the stored one was proposed and the copy is signed. -/
lemma signed_merge_cases (h : signedStatus (mergeTransaction stored copy).status = true) :
    (signedStatus stored.status = true ∧ copy.status.rank ≤ PaymentStatus.settled.rank)
      ∨ (stored.status = .proposed ∧ signedStatus copy.status = true) := by
  have h' : signedStatus (if stored.status.rank ≤ copy.status.rank then copy.status
      else stored.status) = true := h
  cases hs : stored.status <;> cases hc : copy.status <;>
    simp [hs, hc, signedStatus, PaymentStatus.rank] at h' ⊢

lemma verified_mergeEffect {ledger : PaymentLedger} {delivery : Delivery}
    (hledger : (inbox wallet).Forall (Verified wallet) ledger)
    (hkeeps : keepsSignatures wallet ledger delivery) {t : PaymentTransaction}
    (ht : mergeEffect wallet delivery.1 delivery.2
      (ledger.get delivery.1.payment.paymentId) = some t) :
    Verified wallet delivery.1.payment.paymentId t := by
  by_cases hvalid : validateAgentPaymentMessage wallet delivery.1 delivery.2 = .ok ()
  · cases hget : ledger.get delivery.1.payment.paymentId with
    | none =>
      rw [hget, mergeEffect_none hvalid] at ht
      cases ht
      exact ⟨rfl, copy_verified hvalid⟩
    | some stored =>
      rw [hget, mergeEffect_some hvalid] at ht
      cases ht
      obtain ⟨hid, hverify⟩ := hledger _ stored hget
      obtain ⟨hsigned, hproposed⟩ := hkeeps hvalid stored hget
      refine ⟨hid, fun hs => ?_⟩
      rcases signed_merge_cases hs with ⟨hstored, hrank⟩ | ⟨hstored, hcopy⟩
      · obtain ⟨hrecipient, hexpires⟩ := hsigned hstored hrank
        exact verify_merge_of_stored (hverify hstored) hrecipient hexpires
      · rw [verify_merge_of_copy hid (hproposed hstored hcopy)]
        exact copy_verified hvalid hcopy
  · rw [mergeEffect_refused hvalid] at ht
    exact hledger _ t ht

/-! ## Runs -/

/-- **STORED SIGNATURES**: along every run of deliveries that keep signatures, each
stored authorized, submitted or settled payment verifies over its own stored
fields, in every state the run passes through. -/
theorem stored_signatures_verify (wallet : Wallet) (deliveries : List Delivery)
    (h : AllSteps (deliver wallet) (keepsSignatures wallet) .empty deliveries) :
    Always (deliver wallet)
      (fun ledger => ∀ id t, ledger.get id = some t → signedStatus t.status = true →
        verifyPaymentAuthorizationSignature wallet t = .ok ()) .empty deliveries := by
  have hempty : (inbox wallet).Forall (Verified wallet) .empty := fun id t ht => nomatch ht
  have hstep : ∀ ledger delivery, (inbox wallet).Forall (Verified wallet) ledger →
      keepsSignatures wallet ledger delivery →
      (inbox wallet).Forall (Verified wallet) (deliver wallet ledger delivery) := by
    intro ledger delivery hledger hkeeps
    exact ((inbox wallet).forall_step hledger delivery).mpr
      fun t ht => verified_mergeEffect hledger hkeeps ht
  intro pre post hops id t ht hsigned
  exact (always_of_inv hstep hempty h pre post hops id t ht).2 hsigned

def toyRequest : Delivery :=
  ({ kind := .request, payment := toyPayment, emittedAt := 100 }, "did:alice")

def honestDeliveries : List Delivery :=
  [toyRequest, ({ kind := .authorized, payment := toyAuthorized, emittedAt := 101 }, "did:alice")]

/-- The honest exchange keeps signatures, and the stored payment is authorized and
verifies. -/
theorem stored_signatures_verify_honest :
    AllSteps (deliver toyWallet) (keepsSignatures toyWallet) .empty honestDeliveries
    ∧ (run (deliver toyWallet) .empty honestDeliveries).get "payment-1" = some toyAuthorized
    ∧ verifyPaymentAuthorizationSignature toyWallet toyAuthorized = .ok () := by
  have hrequest : (deliver toyWallet .empty toyRequest).get "payment-1" = some toyPayment := by
    decide
  have hlast : (run (deliver toyWallet) .empty honestDeliveries).get "payment-1"
      = some toyAuthorized := by decide +kernel
  have hkeeps :
      AllSteps (deliver toyWallet) (keepsSignatures toyWallet) .empty honestDeliveries := by
    refine ⟨fun _ stored hstored => (nomatch hstored), fun _ stored hstored => ?_, trivial⟩
    obtain rfl := Option.mem_unique hrequest hstored
    refine ⟨fun hsigned => (nomatch hsigned), fun _ _ => ?_⟩
    exact ⟨⟨rfl, rfl, rfl, rfl, rfl, rfl, rfl, rfl, rfl, rfl, rfl, rfl, rfl⟩,
      .inl rfl, .inr rfl, .inl rfl, .inl rfl, .inr rfl⟩
  refine ⟨hkeeps, hlast, ?_⟩
  exact stored_signatures_verify toyWallet honestDeliveries hkeeps honestDeliveries []
    (List.append_nil _).symm "payment-1" toyAuthorized hlast rfl

/-- The same request, then an authorization signed for another amount. -/
def cheapAuthorization : List Delivery :=
  let cheap := { toyAuthorized with amount := "1" }
  [toyRequest,
   ({ kind := .authorized, emittedAt := 101,
      payment := { cheap with authorizationSignature := some (toySign "a11ce" cheap) } },
    "did:alice")]

/-- The stored payment is authorized for 2500000 with a signature over 1, which
does not verify. -/
theorem cheapAuthorization_stored_unverified :
    (run (deliver toyWallet) .empty cheapAuthorization).get "payment-1" = some { toyAuthorized with
          authorizationSignature := some (toySign "a11ce" { toyAuthorized with amount := "1" }) }
    ∧ toyAuthorized.amount = "2500000" ∧ signedStatus toyAuthorized.status = true
    ∧ verifyPaymentAuthorizationSignature toyWallet
        { toyAuthorized with
          authorizationSignature := some (toySign "a11ce" { toyAuthorized with amount := "1" }) }
      = .error "verify payment authorization signature" := by
  decide +kernel

end WattSignature
