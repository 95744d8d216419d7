import Wattetheria.PaymentLedger

/-!
# Settlement receipts

Each settled x402 payment carries a receipt that proves it: `settle` checks the receipt
before it writes; the remote merge writes a settled status without looking at it
(`settled_receipts_valid_iff`).

No transaction hash settles two payments: no operation compares payments with each
other, so this is up to the receipts the callers present (`settled_hashes_unique_iff`).
-/

namespace WattReceipt

open WattText WattJson WattPayment WattX402 WattKeyed WattRuns WattLedger Option

/-! ## Every settled payment carries its receipt -/

/-- A settled x402 payment carries a receipt that proves it. -/
def Receipted (t : PaymentTransaction) : Prop :=
  onX402 t → t.status = .settled → ∃ receipt, t.settlementReceipt = some receipt
      ∧ validateX402SettlementReceipt t receipt = .ok ()

variable {t : PaymentTransaction} {write : PaymentTransaction → PaymentTransaction}

lemma receipted_of_ne (h : t.status ≠ .settled) : Receipted t :=
  fun _ hs => absurd hs h

lemma receipted_authorize (h : Receipted t) (request : AuthorizePaymentRequest)
    (checkedAt now : Int) : Receipted (authorizeRecord request checkedAt now t).2 := by
  rw [authorizeRecord_snd]
  split
  · exact h
  · split
    · exact receipted_of_ne (by simp)
    · exact receipted_of_ne (by simp)

lemma receipted_guarded (h : Receipted t) (refused : PaymentStatus → Bool)
    (text : PaymentStatus → String)
    (hwrite : (write t).status ≠ .settled) : Receipted (guarded refused text write t).2 := by
  rw [guarded_snd]
  split
  · exact h
  · exact receipted_of_ne hwrite

/-- `settle` stores the receipt it has checked, and what it writes is not what the
check reads. -/
lemma receipted_settle (h : Receipted t) (request : SettlePaymentRequest) (now : Int) :
    Receipted (settleRecord request now t).2 := by
  rw [settleRecord_snd]
  by_cases hs : settles request t
  · rw [if_pos hs]
    intro _ _
    refine ⟨request.settlementReceipt, rfl, ?_⟩
    rw [← hs.2]
    exact validateX402SettlementReceipt_congr _ rfl rfl rfl rfl rfl
  · rw [if_neg hs]
    exact h

variable (stored copy : PaymentTransaction)

/-- The stored payment with its missing addresses taken from a copy. -/
def withAddresses : PaymentTransaction :=
  { stored with
    senderAddress := stored.senderAddress.or copy.senderAddress
    recipientAddress := stored.recipientAddress.or copy.recipientAddress }

/-- What a merged message must bring for the settled payments to stay receipted.

* About an unknown payment: a settled copy carries a receipt that proves the
      copy.
* About an open x402 payment: a settled copy finds a receipt in the stored
      payment or else brings one, and that receipt proves the stored payment with
      its missing addresses filled in.
* About a settled x402 payment that stays settled: a recipient address it
      lacks fits the payee of the receipt it has. -/
def bringsReceipt (stored : Option PaymentTransaction) (copy : PaymentTransaction) : Prop :=
  match stored with
  | none => Receipted copy
  | some stored =>
    onX402 stored →
      (stored.status.rank < PaymentStatus.settled.rank → copy.status = .settled →
        ∃ receipt, stored.settlementReceipt.or copy.settlementReceipt = some receipt
          ∧ validateX402SettlementReceipt (withAddresses stored copy) receipt = .ok ())
      ∧ (stored.status = .settled → copy.status.rank ≤ PaymentStatus.settled.rank →
        stored.recipientAddress = none →
        ∀ expected ∈ copy.recipientAddress, ∀ receipt ∈ stored.settlementReceipt,
          ∀ payTo ∈ receiptString receipt payToKeys, eqIgnoreAsciiCase payTo expected = true)

/-- The merged status is settled exactly when one of the two is settled and the
other ranks no higher. -/
lemma merged_settled_iff : (mergeTransaction stored copy).status = .settled
      ↔ (stored.status.rank < PaymentStatus.settled.rank ∧ copy.status = .settled)
        ∨ (stored.status = .settled ∧ copy.status.rank ≤ PaymentStatus.settled.rank) := by
  show (if stored.status.rank ≤ copy.status.rank then copy.status else stored.status)
    = .settled ↔ _
  cases stored.status <;> cases copy.status <;> simp [PaymentStatus.rank]

variable {stored : PaymentTransaction}

/-- Taking a recipient address from a copy keeps a receipt valid exactly when the
address fits the payee of the receipt. -/
lemma validate_withAddresses_iff {copy : PaymentTransaction} {receipt : JsonValue}
    (hx : onX402 stored) (hvalid : validateX402SettlementReceipt stored receipt = .ok ()) :
    validateX402SettlementReceipt (withAddresses stored copy) receipt = .ok ()
      ↔ (stored.recipientAddress = none → ∀ expected ∈ copy.recipientAddress,
          ∀ payTo ∈ receiptString receipt payToKeys, eqIgnoreAsciiCase payTo expected = true) := by
  have hproves := (validateX402SettlementReceipt_ok_iff _ _).mp hvalid hx
  rw [validateX402SettlementReceipt_ok_iff]
  constructor
  · intro h hnone expected hexpected payTo hpayTo
    apply (h hx).payTo payTo hpayTo expected
    show stored.recipientAddress.or copy.recipientAddress = some expected
    rw [hnone, none_or]
    exact hexpected
  · intro h _
    obtain ⟨payer, sender, hpayer, hsender, hmatch⟩ := hproves.payer
    refine { hproves with
      payer := ⟨payer, sender, hpayer, ?_, hmatch⟩
      payTo := ?_ }
    · show stored.senderAddress.or copy.senderAddress = some sender
      rw [hsender, some_or]
    · intro payTo hpayTo expected hexpected
      have hor : stored.recipientAddress.or copy.recipientAddress = some expected := hexpected
      cases hstored : stored.recipientAddress with
      | none =>
        rw [hstored, none_or] at hor
        exact h hstored expected hor payTo hpayTo
      | some address =>
        rw [hstored, some_or] at hor
        exact hproves.payTo payTo hpayTo expected (hstored.trans hor)

/-- The merge keeps a payment receipted exactly when the message brings what it
must. -/
lemma receipted_merge_iff {copy : PaymentTransaction} (h : Receipted stored) :
    Receipted (mergeTransaction stored copy) ↔ bringsReceipt (some stored) copy := by
  have hreads : ∀ receipt, validateX402SettlementReceipt (mergeTransaction stored copy) receipt
      = validateX402SettlementReceipt (withAddresses stored copy) receipt :=
    fun receipt => validateX402SettlementReceipt_congr receipt rfl rfl rfl rfl rfl
  constructor
  · intro hmerged hx
    constructor
    · intro hrank hcopy
      obtain ⟨receipt, hreceipt, hvalid⟩ :=
        hmerged hx ((merged_settled_iff _ _).mpr (.inl ⟨hrank, hcopy⟩))
      exact ⟨receipt, hreceipt, by rw [← hreads]; exact hvalid⟩
    · intro hsettled hrank hnone expected hexpected receipt hreceipt
      obtain ⟨receipt', hreceipt', hvalid'⟩ := h hx hsettled
      obtain rfl := mem_unique hreceipt' hreceipt
      -- the merge keeps the stored receipt, so it is the one that still validates
      have hkept : stored.settlementReceipt.or copy.settlementReceipt = some receipt' := by
        rw [hreceipt', some_or]
      obtain ⟨receipt'', hreceipt'', hvalid''⟩ :=
        hmerged hx ((merged_settled_iff _ _).mpr (.inr ⟨hsettled, hrank⟩))
      obtain rfl := mem_unique hkept hreceipt''
      rw [hreads] at hvalid''
      exact (validate_withAddresses_iff hx hvalid').mp hvalid'' hnone expected hexpected
  · intro hbrings hmerged hsettled
    have hx : onX402 stored := hmerged
    obtain ⟨hopen, hstays⟩ := hbrings hx
    rcases (merged_settled_iff _ _).mp hsettled with ⟨hrank, hcopy⟩ | ⟨hstored, hrank⟩
    · obtain ⟨receipt, hreceipt, hvalid⟩ := hopen hrank hcopy
      exact ⟨receipt, hreceipt, by rw [hreads]; exact hvalid⟩
    · obtain ⟨receipt, hreceipt, hvalid⟩ := h hx hstored
      refine ⟨receipt, ?_, ?_⟩
      · show stored.settlementReceipt.or copy.settlementReceipt = some receipt
        rw [hreceipt, some_or]
      · rw [hreads, validate_withAddresses_iff hx hvalid]
        intro hnone expected hexpected
        exact hstays hstored hrank hnone expected hexpected receipt hreceipt

variable (wallet : Wallet)

/-- The steps that keep settled payments receipted: every local one, and a merge
whose message is refused or brings a receipt. -/
def receiptsStay (ledger : PaymentLedger) : LedgerOp → Prop
  | .mergeRemoteAgentMessage message source =>
    validateAgentPaymentMessage wallet message source = .ok () →
      bringsReceipt (ledger.get message.payment.paymentId) message.payment
  | .propose .. | .authorize .. | .submit .. | .settle .. | .reject .. | .cancel .. => True

variable {ledger : PaymentLedger}

/-- What the step leaves under its target is receipted exactly when the step keeps
receipts. -/
lemma receipted_effect_iff
    (hledger : (ledgerStore wallet).Forall (fun _ t => Receipted t) ledger) (op : LedgerOp) :
    (∀ t, effect wallet op (ledger.get op.target) = some t → Receipted t)
      ↔ receiptsStay wallet ledger op := by
  -- a local operation maps the stored record through a body that keeps it receipted
  have hlocal : ∀ (id : String) (body : PaymentTransaction → PaymentTransaction),
      (∀ t, Receipted t → Receipted (body t)) →
      ∀ t, (ledger.get id).map body = some t → Receipted t := by
    intro id body hbody t ht
    obtain ⟨stored, hstored, rfl⟩ := map_eq_some_iff.mp ht
    exact hbody stored (hledger id stored hstored)
  cases op with
  | propose senderDid request uuid now =>
    refine ⟨fun _ => trivial, fun _ t ht => ?_⟩
    cases ht
    exact receipted_of_ne (by simp [proposal])
  | authorize request checkedAt now =>
    exact ⟨fun _ => trivial, fun _ => hlocal _ _ fun t h => receipted_authorize h _ _ _⟩
  | submit | reject | cancel =>
    exact ⟨fun _ => trivial, fun _ => hlocal _ _ fun t h => receipted_guarded h _ _ (by simp)⟩
  | settle request now =>
    exact ⟨fun _ => trivial, fun _ => hlocal _ _ fun t h => receipted_settle h _ _⟩
  | mergeRemoteAgentMessage message source =>
    show (∀ t, mergeEffect wallet message source (ledger.get message.payment.paymentId) = some t
        → Receipted t) ↔ (_ → _)
    by_cases hvalid : validateAgentPaymentMessage wallet message source = .ok ()
    · rw [imp_iff_right hvalid]
      cases hget : ledger.get message.payment.paymentId with
      | none =>
        rw [mergeEffect_none hvalid]
        exact ⟨fun h => h _ rfl, fun h t ht => some.inj ht ▸ h⟩
      | some stored =>
        rw [mergeEffect_some hvalid, ← receipted_merge_iff (hledger _ stored hget)]
        exact ⟨fun h => h _ rfl, fun h t ht => some.inj ht ▸ h⟩
    · rw [mergeEffect_refused hvalid]
      exact ⟨fun _ h => absurd h hvalid, fun _ t ht => hledger _ t ht⟩

variable (ops : List LedgerOp) {hash : String} {op : LedgerOp}

/-- **SETTLED PAYMENTS CARRY THEIR RECEIPT**: in every state of a run from the
empty ledger each settled x402 payment carries a receipt that validates against
that payment, if and only if every message the run merges brings a receipt
where it must. -/
theorem settled_receipts_valid_iff : Always (step wallet)
        (fun ledger => ∀ id t, ledger.get id = some t → onX402 t → t.status = .settled →
          ∃ receipt, t.settlementReceipt = some receipt
            ∧ validateX402SettlementReceipt t receipt = .ok ()) .empty ops
      ↔ AllSteps (step wallet) (receiptsStay wallet) .empty ops := by
  have hempty : (ledgerStore wallet).Forall (fun _ t => Receipted t) .empty :=
    fun id t ht => nomatch ht
  refine always_iff_allSteps (W := fun _ _ => True)
    (P := (ledgerStore wallet).Forall fun _ t => Receipted t) ?_ hempty (allSteps_true _ _)
  intro ledger op hledger _
  exact ((ledgerStore wallet).forall_step hledger op).trans (receipted_effect_iff wallet hledger op)

/-- An authorized payment and a settlement message that carries no receipt. -/
def settledWithoutReceipt : List LedgerOp :=
  toySettlement.take 2 ++
    [.mergeRemoteAgentMessage
      { kind := .settled, payment := { toyAuthorized with status := .settled }, emittedAt := 200 }
      "did:bob"]

/-- The recipient alone settles the payment, without any receipt. -/
theorem settledWithoutReceipt_stored :
    ((run (step toyWallet) .empty settledWithoutReceipt).get "payment-1").map
        (fun t => (t.status, t.settlementReceipt, decide (onX402 t)))
      = some (.settled, none, true) := by
  decide +kernel

/-! ## No transfer settles two payments -/

def isLocal : LedgerOp → Bool
  | .mergeRemoteAgentMessage .. => false
  | .propose .. | .authorize .. | .submit .. | .settle .. | .reject .. | .cancel .. => true

/-- The transaction hash in the receipt of a settled x402 payment. -/
def settledHash (t : PaymentTransaction) : Option String :=
  if onX402 t ∧ t.status = .settled then
    t.settlementReceipt.bind fun receipt => receiptString receipt transactionKeys
  else none

lemma settledHash_of_ne (h : t.status ≠ .settled) : settledHash t = none :=
  if_neg fun hs => h hs.2

/-- The hash that settled the payment stored under an id. -/
def hashAt (ledger : PaymentLedger) (id : String) : Option String :=
  (ledger.get id).bind settledHash

/-- No other settled payment carries this hash, whatever the case of its hex
digits. -/
def unusedHash (ledger : PaymentLedger) (id hash : String) : Prop :=
  ∀ id', id' ≠ id → ∀ hash' ∈ hashAt ledger id', eqIgnoreAsciiCase hash hash' = false

/-- No two payments of the ledger are settled by the same hash. -/
def UniqueHashes (ledger : PaymentLedger) : Prop :=
  ∀ id, ∀ hash ∈ hashAt ledger id, unusedHash ledger id hash

/-- The settlements that present a hash of their own: when `settle` would go
through on an x402 payment, the hash in its receipt is not that of another
settled payment. -/
def presentsUnusedHash (ledger : PaymentLedger) : LedgerOp → Prop
  | .settle request _ =>
    ∀ t, ledger.get request.paymentId = some t → settles request t → onX402 t →
      ∀ hash ∈ receiptString request.settlementReceipt transactionKeys,
        unusedHash ledger request.paymentId hash
  | .propose .. | .authorize .. | .submit .. | .reject .. | .cancel ..
  | .mergeRemoteAgentMessage .. => True

lemma hashAt_step_of_ne (ledger : PaymentLedger) (op : LedgerOp)
    {id : String} (h : id ≠ op.target) : hashAt (step wallet ledger op) id = hashAt ledger id := by
  show ((step wallet ledger op).get id).bind settledHash = (ledger.get id).bind settledHash
  rw [get_step, if_neg h]

lemma hashAt_step_self (ledger : PaymentLedger) (op : LedgerOp) :
    hashAt (step wallet ledger op) op.target
      = (effect wallet op (ledger.get op.target)).bind settledHash := by
  rw [hashAt, get_step, if_pos rfl]

lemma hashAt_settle {request : SettlePaymentRequest}
    (hstored : ledger.get request.paymentId = some stored) (hs : settles request stored)
    (hx : onX402 stored) (now : Int) :
    hashAt (step wallet ledger (.settle request now)) request.paymentId
      = receiptString request.settlementReceipt transactionKeys := by
  refine (hashAt_step_self wallet ledger (.settle request now)).trans ?_
  show ((ledger.get request.paymentId).map fun t => (settleRecord request now t).2).bind
    settledHash = _
  rw [hstored, map_some, bind_some, settleRecord_snd, if_pos hs]
  exact if_pos ⟨hx, rfl⟩

/-- The body leaves a record alone, or not settled. -/
def NeverSettles (body : PaymentTransaction → PaymentTransaction) : Prop :=
  ∀ t, body t = t ∨ (body t).status ≠ .settled

lemma neverSettles_guarded {refused : PaymentStatus → Bool} {text : PaymentStatus → String}
    (h : ∀ t, (write t).status ≠ .settled) :
    NeverSettles fun t => (guarded refused text write t).2 := by
  intro t
  show (guarded refused text write t).2 = t ∨ (guarded refused text write t).2.status ≠ .settled
  rw [guarded_snd]
  split
  · exact .inl rfl
  · exact .inr (h t)

lemma neverSettles_authorize (request : AuthorizePaymentRequest) (checkedAt now : Int) :
    NeverSettles fun t => (authorizeRecord request checkedAt now t).2 := by
  intro t
  show (authorizeRecord request checkedAt now t).2 = t
    ∨ (authorizeRecord request checkedAt now t).2.status ≠ .settled
  rw [authorizeRecord_snd]
  split
  · exact .inl rfl
  · split
    · exact .inr (by simp)
    · exact .inr (by simp)

lemma NeverSettles.settledHash {body : PaymentTransaction → PaymentTransaction}
    (hbody : NeverSettles body) {held : Option PaymentTransaction}
    (h : (held.map body).bind settledHash = some hash) : held.bind settledHash = some hash := by
  cases held with
  | none => exact h
  | some t =>
    rcases hbody t with hsame | hne
    · rw [map_some, hsame] at h
      exact h
    · rw [map_some, bind_some, settledHash_of_ne hne] at h
      cases h

/-- After a local call its target carries the hash it carried before or none,
unless the call is a settlement that goes through. -/
lemma hashAt_step_target {wallet : Wallet} (hlocal : isLocal op = true)
    (hhash : hashAt (step wallet ledger op) op.target = some hash) :
    hashAt ledger op.target = some hash
    ∨ ∃ request now stored, op = .settle request now ∧ ledger.get op.target = some stored
        ∧ settles request stored ∧ onX402 stored
        ∧ receiptString request.settlementReceipt transactionKeys = some hash := by
  rw [hashAt_step_self] at hhash
  cases op with
  | propose senderDid request uuid now =>
    rw [effect, bind_some, settledHash_of_ne (by simp [proposal])] at hhash
    cases hhash
  | authorize request checkedAt now =>
    exact .inl ((neverSettles_authorize request checkedAt now).settledHash hhash)
  | submit | reject | cancel =>
    exact .inl ((neverSettles_guarded fun t => by simp).settledHash hhash)
  | settle request now =>
    obtain ⟨t, ht, hhash⟩ := bind_eq_some_iff.mp hhash
    obtain ⟨stored, hstored, rfl⟩ := map_eq_some_iff.mp ht
    rw [settleRecord_snd] at hhash
    by_cases hs : settles request stored
    · rw [if_pos hs, settledHash] at hhash
      refine .inr ⟨request, now, stored, rfl, hstored, hs, ?_⟩
      split at hhash
      · rename_i hx
        exact ⟨hx.1, hhash⟩
      · cases hhash
    · rw [if_neg hs] at hhash
      exact .inl (bind_eq_some_iff.mpr ⟨stored, hstored, hhash⟩)
  | mergeRemoteAgentMessage message source => cases hlocal

/-- A local call keeps the hashes unique exactly when a settlement it makes
presents an unused one. -/
lemma uniqueHashes_step_iff (hunique : UniqueHashes ledger) (hlocal : isLocal op = true) :
    UniqueHashes (step wallet ledger op) ↔ presentsUnusedHash ledger op := by
  constructor
  · intro hnext
    cases op with
    | settle request now =>
      intro stored hstored hs hx hash hhash id' hid' hash' hhash'
      apply hnext request.paymentId hash (by rw [hashAt_settle wallet hstored hs hx]; exact hhash)
        id' hid' hash'
      rw [hashAt_step_of_ne wallet ledger (.settle request now) hid']
      exact hhash'
    | propose | authorize | submit | reject | cancel | mergeRemoteAgentMessage => exact trivial
  · intro hpresents
    -- the hash the call leaves under its target is unused in the old ledger
    have htarget : ∀ hash ∈ hashAt (step wallet ledger op) op.target,
        unusedHash ledger op.target hash := by
      intro hash hhash
      rcases hashAt_step_target hlocal hhash with h | ⟨request, now, stored, rfl, hstored, hs, hx, h⟩
      · exact hunique op.target hash h
      · exact hpresents stored hstored hs hx hash h
    intro id hash hhash id' hid' hash' hhash'
    by_cases hid : id = op.target
    · subst hid
      rw [hashAt_step_of_ne wallet ledger op hid'] at hhash'
      exact htarget hash hhash id' hid' hash' hhash'
    · rw [hashAt_step_of_ne wallet ledger op hid] at hhash
      by_cases hid'' : id' = op.target
      · subst hid''
        rw [eqIgnoreAsciiCase_comm]
        exact htarget hash' hhash' id hid hash hhash
      · rw [hashAt_step_of_ne wallet ledger op hid''] at hhash'
        exact hunique id hash hhash id' hid' hash' hhash'

/-- **ONE HASH, ONE PAYMENT**: along a run of local calls no two settled x402
payments ever carry the same transaction hash, if and only if every settlement
of an x402 payment that goes through presents a hash that no other settled
payment carries. -/
theorem settled_hashes_unique_iff (hlocal : ∀ op ∈ ops, isLocal op = true) :
    Always (step wallet) UniqueHashes .empty ops
      ↔ AllSteps (step wallet) presentsUnusedHash .empty ops := by
  have hempty : UniqueHashes .empty := fun id hash hhash => nomatch hhash
  exact always_iff_allSteps (W := fun _ op => isLocal op = true)
    (fun ledger op hunique hop => uniqueHashes_step_iff wallet hunique hop) hempty
    (allSteps_of_forall hlocal _)

/-- The calls that settle a second payment of the same amount by the same
receipt. -/
def doubleSettlement : List LedgerOp :=
  toySettlement ++
    [.propose "did:alice" toyProposal "2" 103, .authorize
       { paymentId := "payment-2", authorizationSignature := "any",
         authorizationPublicKey := some "a11ce", senderAddress := some "0xa11ce" } 104 104,
     .settle { paymentId := "payment-2", settlementReceipt := toyReceipt } 105]

/-- The same calls, with the receipt of another transaction for the second payment. -/
def settledApart : List LedgerOp :=
  doubleSettlement.take 5 ++ [.settle
    { paymentId := "payment-2"
      settlementReceipt := toyReceipt.modify "transaction" fun _ =>
        .string "0x19c91c789e57059b17285e7ba1716a1f5ff4c5dace0ea5a5135f26158d0421b9" } 105]

/-- Two payments settled by two transactions. -/
theorem settled_hashes_unique_settledApart : (∀ op ∈ settledApart, isLocal op = true)
    ∧ (hashAt (run (step toyWallet) .empty settledApart) "payment-1").isSome
    ∧ (hashAt (run (step toyWallet) .empty settledApart) "payment-2").isSome
    ∧ Always (step toyWallet) UniqueHashes .empty settledApart := by
  have hlocal : ∀ op ∈ settledApart, isLocal op = true := by decide +kernel
  refine ⟨hlocal, by decide +kernel, by decide +kernel,
    (settled_hashes_unique_iff toyWallet settledApart hlocal).mpr ⟨trivial, trivial, ?_, trivial,
      trivial, ?_, trivial⟩⟩
  · intro stored _ _ _ hash _ id' hid' hash' hhash'
    -- the two calls before it touch the same payment, so no other is stored
    rw [hashAt_step_of_ne toyWallet _ _ hid', hashAt_step_of_ne toyWallet _ _ hid'] at hhash'
    cases hhash'
  · intro stored _ _ _ hash hhash id' hid' hash' hhash'
    by_cases hfirst : id' = "payment-1"
    · subst hfirst
      have hheld : hashAt (run (step toyWallet) .empty (settledApart.take 5)) "payment-1"
          = some "0x89c91c789e57059b17285e7ba1716a1f5ff4c5dace0ea5a5135f26158d0421b9" := by
        decide +kernel
      obtain rfl := mem_unique hheld hhash'
      obtain rfl := mem_unique (by decide +kernel : _ = some
        "0x19c91c789e57059b17285e7ba1716a1f5ff4c5dace0ea5a5135f26158d0421b9") hhash
      decide +kernel
    · rw [hashAt_step_of_ne toyWallet _ _ hid', hashAt_step_of_ne toyWallet _ _ hid',
        hashAt_step_of_ne toyWallet _ _ hfirst, hashAt_step_of_ne toyWallet _ _ hfirst,
        hashAt_step_of_ne toyWallet _ _ hfirst] at hhash'
      cases hhash'

/-- Two settled payments with one transaction hash. -/
theorem doubleSettlement_shares_hash : (∀ op ∈ doubleSettlement, isLocal op = true)
    ∧ hashAt (run (step toyWallet) .empty doubleSettlement) "payment-1"
        = some "0x89c91c789e57059b17285e7ba1716a1f5ff4c5dace0ea5a5135f26158d0421b9"
    ∧ hashAt (run (step toyWallet) .empty doubleSettlement) "payment-2"
        = some "0x89c91c789e57059b17285e7ba1716a1f5ff4c5dace0ea5a5135f26158d0421b9"
    ∧ ¬ UniqueHashes (run (step toyWallet) .empty doubleSettlement) := by
  have hfirst : hashAt (run (step toyWallet) .empty doubleSettlement) "payment-1"
      = some "0x89c91c789e57059b17285e7ba1716a1f5ff4c5dace0ea5a5135f26158d0421b9" := by
    decide +kernel
  have hsecond : hashAt (run (step toyWallet) .empty doubleSettlement) "payment-2"
      = some "0x89c91c789e57059b17285e7ba1716a1f5ff4c5dace0ea5a5135f26158d0421b9" := by
    decide +kernel
  refine ⟨by decide, hfirst, hsecond, fun hunique => ?_⟩
  have hdiffer := hunique "payment-1" _ hfirst "payment-2" (by decide) _ hsecond
  rw [eqIgnoreAsciiCase_refl] at hdiffer
  cases hdiffer

end WattReceipt
