import Wattetheria.PaymentLedger

/-!
# Who may change a stored payment

A remote message is validated against the copy of the payment it carries: the
sender or recipient named in the copy must be its author.  The merge then
writes to the payment stored under the copy's id, whose parties nobody
compares with the copy's.  `merge_by_stored_actor_iff` says when the author of every
change is a party of the stored payment.
-/

namespace WattMerge

open WattText WattPayment WattRuns WattLedger PaymentTransaction

/-! ## A merge that changes nothing -/

variable (stored copy : PaymentTransaction) {kind : PaymentMessageKind} {source : String}

/-- The copy has no higher rank and fills no empty field of the stored payment. -/
def nothingNew : Prop :=
  copy.status.rank ≤ stored.status.rank
  ∧ addsNothing stored.senderAddress copy.senderAddress
  ∧ addsNothing stored.recipientAddress copy.recipientAddress
  ∧ addsNothing stored.authorizationSignature copy.authorizationSignature
  ∧ addsNothing stored.authorizationPublicKey copy.authorizationPublicKey
  ∧ addsNothing stored.settlementReceipt copy.settlementReceipt
  ∧ addsNothing stored.rejectReason copy.rejectReason
  ∧ addsNothing stored.authorizedAt copy.authorizedAt
  ∧ addsNothing stored.settledAt copy.settledAt
  ∧ addsNothing stored.expiresAt copy.expiresAt

instance (stored copy : PaymentTransaction) : Decidable (nothingNew stored copy) :=
  inferInstanceAs (Decidable (_ ∧ _))

/-- A merge leaves the stored payment as it is exactly when the copy brings
nothing new. -/
lemma mergeTransaction_eq_self_iff :
    mergeTransaction stored copy = stored ↔ nothingNew stored copy := by
  rw [nothingNew]
  simp only [← or_eq_left_iff, ← merged_status_eq_iff]
  constructor
  · intro h
    -- every field of the two sides agrees; the statement lists the ten that can move
    refine ⟨congrArg status h, congrArg senderAddress h, congrArg recipientAddress h,
      congrArg authorizationSignature h,
      congrArg authorizationPublicKey h,
      congrArg settlementReceipt h,
      congrArg rejectReason h, congrArg authorizedAt h,
      congrArg settledAt h, congrArg expiresAt h⟩
  · rintro ⟨hstatus, h1, h2, h3, h4, h5, h6, h7, h8, h9⟩
    have hstatus' : (if stored.status.rank ≤ copy.status.rank then copy.status
        else stored.status) = stored.status := hstatus
    rw [mergeTransaction, hstatus', h1, h2, h3, h4, h5, h6, h7, h8, h9]

/-! ## The author of a change -/

/-- `source` is one of the two parties of a payment. -/
def isParty (payment : PaymentTransaction) (source : String) : Prop :=
  source = payment.senderDid ∨ source = payment.recipientDid

instance (payment : PaymentTransaction) (source : String) : Decidable (isParty payment source) :=
  inferInstanceAs (Decidable (_ ∨ _))

lemma isParty_of_actorAllowed {payment : PaymentTransaction}
    (h : actorAllowed kind payment source) : isParty payment source := by
  cases kind with
  | request => exact .inl (Eq.symm h)
  | authorized => exact .inl (Eq.symm h)
  | submitted => exact .inl (Eq.symm h)
  | cancelled => exact .inl (Eq.symm h)
  | rejected => exact .inr (Eq.symm h)
  | settled => exact h

/-- The stored payment and the copy name the same author for a message of this
kind: the same sender, the same recipient for a rejection, and for a
settlement a stored party equal to the copy's party that sent it. -/
def sameAuthor (kind : PaymentMessageKind) (stored copy : PaymentTransaction)
    (source : String) : Prop :=
  match kind with
  | .request | .authorized | .submitted | .cancelled => stored.senderDid = copy.senderDid
  | .rejected => stored.recipientDid = copy.recipientDid
  | .settled =>
    (source = copy.senderDid ∨ source = copy.recipientDid) ∧
      (source = stored.senderDid ∨ source = stored.recipientDid)

/-- For a message its own copy allows, the stored payment allows it exactly when
both name the same author. -/
lemma actorAllowed_stored_iff {stored copy : PaymentTransaction}
    (hcopy : actorAllowed kind copy source) :
    actorAllowed kind stored source ↔ sameAuthor kind stored copy source := by
  cases kind with
  | settled => exact ⟨fun h => ⟨hcopy, h⟩, fun h => h.2⟩
  | request | authorized | submitted | cancelled | rejected =>
    have hauthor : _ = source := hcopy
    rw [← hauthor]
    exact Iff.rfl

variable (wallet : Wallet)

/-- A message that cannot change the stored payment in another's name: it is
refused, it brings nothing new, or copy and stored payment name the same
author. -/
def harmless (message : PaymentAgentMessage) (source : String)
    (stored : PaymentTransaction) : Prop :=
  validateAgentPaymentMessage wallet message source ≠ .ok ()
  ∨ nothingNew stored message.payment
  ∨ sameAuthor message.kind stored message.payment source

/-- **WHO CHANGES A STORED PAYMENT**: a merge changes stored payments only on
behalf of the actor their own parties require, and so never on behalf of a
third agent, if and only if the message is harmless for the payment stored
under its id. -/
theorem merge_by_stored_actor_iff (ledger : PaymentLedger)
    (message : PaymentAgentMessage) (source : String) : (∀ id p, ledger.get id = some p →
        (ledger.mergeRemoteAgentMessage wallet message source).2.get id ≠ some p →
        actorAllowed message.kind p source ∧ isParty p source)
      ↔ ∀ p, ledger.get message.payment.paymentId = some p → harmless wallet message source p := by
  -- what the call leaves under its own id
  have heffect : ∀ p, ledger.get message.payment.paymentId = some p →
      (ledger.mergeRemoteAgentMessage wallet message source).2.get message.payment.paymentId
        = mergeEffect wallet message source (some p) := by
    intro p hp
    rw [PaymentLedger.get_mergeRemoteAgentMessage, if_pos rfl, hp]
  constructor
  · intro h p hp
    by_cases hvalid : validateAgentPaymentMessage wallet message source = .ok ()
    · by_cases hnew : nothingNew p message.payment
      · exact .inr (.inl hnew)
      · -- the merge changes `p`, so its author is the stored one
        have hchanged : (ledger.mergeRemoteAgentMessage wallet message source).2.get
            message.payment.paymentId ≠ some p := by
          rw [heffect p hp, mergeEffect_some hvalid]
          intro heq
          exact hnew ((mergeTransaction_eq_self_iff _ _).mp (Option.some.inj heq))
        have hcopy := ((validateAgentPaymentMessage_ok_iff _ _ _).mp hvalid).2.1
        exact .inr (.inr ((actorAllowed_stored_iff hcopy).mp (h _ p hp hchanged).1))
    · exact .inl hvalid
  · intro h id p hp hchanged
    by_cases hid : id = message.payment.paymentId
    · subst hid
      rw [heffect p hp] at hchanged
      by_cases hvalid : validateAgentPaymentMessage wallet message source = .ok ()
      · rw [mergeEffect_some hvalid] at hchanged
        rcases h p hp with hrefused | hnew | hauthor
        · exact absurd hvalid hrefused
        · rw [(mergeTransaction_eq_self_iff _ _).mpr hnew] at hchanged
          exact absurd rfl hchanged
        · have hcopy := ((validateAgentPaymentMessage_ok_iff _ _ _).mp hvalid).2.1
          have hstored := (actorAllowed_stored_iff hcopy).mpr hauthor
          exact ⟨hstored, isParty_of_actorAllowed hstored⟩
      · rw [mergeEffect_refused hvalid] at hchanged
        exact absurd rfl hchanged
    · rw [PaymentLedger.get_mergeRemoteAgentMessage, if_neg hid] at hchanged
      exact absurd hp hchanged

/-- A ledger holding one proposal of `did:alice`. -/
def proposedLedger : PaymentLedger := PaymentLedger.empty.put "payment-1" toyPayment

/-- A cancellation whose copy names `did:mallory` as the sender. -/
def forgedCancellation : PaymentAgentMessage where
  kind := .cancelled
  payment := { toyPayment with senderDid := "did:mallory", status := .cancelled }
  emittedAt := 200

/-- The forged cancellation cancels the stored payment, of which its author is not
a party. -/
theorem forgedCancellation_cancels : proposedLedger.get "payment-1" = some toyPayment
    ∧ (proposedLedger.mergeRemoteAgentMessage toyWallet forgedCancellation "did:mallory").2.get
        "payment-1" = some { toyPayment with status := .cancelled }
    ∧ ¬ isParty toyPayment "did:mallory" := by
  decide

end WattMerge
