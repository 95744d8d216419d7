import Wattetheria.PaymentLedger

/-!
# Terminal payment statuses

Settled, rejected, expired and cancelled are meant to be final.  The local operations
guard most of that with status checks, the remote merge compares numeric ranks instead:
these put rejected, expired and cancelled above settled, so a later message overwrites a
settlement; and `reject` does not refuse an expired payment.  `terminal_kept_iff` says that
these are the only steps that end a final status.
-/

namespace WattTerminal

open WattText WattPayment WattX402 WattKeyed WattRuns WattLedger

/-- The statuses from which a payment should not move. -/
def terminal : PaymentStatus → Bool
  | .settled | .rejected | .expired | .cancelled => true
  | .proposed | .authorized | .submitted => false

/-- A later record keeps the status of an earlier one that was terminal. -/
def terminalFixed (before after : PaymentTransaction) : Prop :=
  terminal before.status = true → after.status = before.status

variable (t : PaymentTransaction)

lemma terminalFixed_refl : terminalFixed t t := fun _ => rfl

lemma terminalFixed_trans {a b c : PaymentTransaction} (hab : terminalFixed a b)
    (hbc : terminalFixed b c) : terminalFixed a c := by
  intro ha
  have hb : b.status = a.status := hab ha
  rw [← hb]
  exact hbc (by rw [hb]; exact ha)

variable (wallet : Wallet) (ledger : PaymentLedger)

/-- The steps that leave terminal statuses alone: a proposal does not draw the id
of a payment that is already terminal, a rejection does not hit an expired
payment, and an accepted message about a terminal payment does not announce a
status of a higher rank. -/
def sparesTerminal : LedgerOp → Prop
  | .propose senderDid request uuid now =>
    ∀ t, ledger.get (proposal senderDid request uuid now).paymentId = some t →
      terminal t.status = false
  | .reject request =>
    ∀ t, ledger.get request.paymentId = some t → t.status ≠ .expired
  | .mergeRemoteAgentMessage message source =>
    validateAgentPaymentMessage wallet message source = .ok () →
      ∀ t, ledger.get message.payment.paymentId = some t → terminal t.status = true →
        message.payment.status.rank ≤ t.status.rank
  | .authorize .. | .submit .. | .settle .. | .cancel .. => True

/-! ## Each operation on a terminal record -/

lemma terminalFixed_authorize (request : AuthorizePaymentRequest) (checkedAt now : Int)
    (t : PaymentTransaction) : terminalFixed t (authorizeRecord request checkedAt now t).2 := by
  intro ht
  have hne : t.status ≠ .proposed := by intro h; rw [h] at ht; cases ht
  rw [authorizeRecord_snd, if_pos hne]

variable (paymentId : String)

lemma terminalFixed_submit (receipt : Option WattJson.JsonValue)
    (t : PaymentTransaction) : terminalFixed t (submitRecord paymentId receipt t).2 := by
  intro ht
  have hne : t.status ≠ .authorized := by intro h; rw [h] at ht; cases ht
  rw [submitRecord, guarded_snd, if_pos (decide_eq_true hne)]

lemma terminalFixed_settle (request : SettlePaymentRequest) (now : Int)
    (t : PaymentTransaction) : terminalFixed t (settleRecord request now t).2 := by
  intro ht
  have hne : ¬ settles request t := by
    rintro ⟨h | h, -⟩ <;> rw [h] at ht <;> cases ht
  rw [settleRecord_snd, if_neg hne]

lemma terminalFixed_cancel (t : PaymentTransaction) :
    terminalFixed t (cancelRecord paymentId t).2 := by
  intro ht
  have hne : t.status ≠ .proposed ∧ t.status ≠ .authorized := by
    constructor <;> intro h <;> rw [h] at ht <;> cases ht
  rw [cancelRecord, guarded_snd, if_pos (decide_eq_true hne)]

/-- `reject` moves a terminal record exactly when it is expired. -/
lemma terminalFixed_reject_iff (request : RejectPaymentRequest) (t : PaymentTransaction) :
    terminalFixed t (rejectRecord request t).2 ↔ t.status ≠ .expired := by
  rw [terminalFixed, rejectRecord, guarded_snd]
  cases hs : t.status <;> simp [terminal, hs]

/-- The merge moves a terminal record exactly when the incoming rank is higher:
a different status of the same rank does not exist. -/
lemma terminalFixed_merge_iff (current incoming : PaymentTransaction) :
    terminalFixed current (mergeTransaction current incoming)
      ↔ (terminal current.status = true → incoming.status.rank ≤ current.status.rank) := by
  refine imp_congr_right fun _ => ?_
  exact merged_status_eq_iff current incoming

lemma effect_terminalFixed_iff (op : LedgerOp) : (∀ t, ledger.get op.target = some t →
        ∃ t', effect wallet op (some t) = some t' ∧ terminalFixed t t')
      ↔ sparesTerminal wallet ledger op := by
  cases op with
  | propose senderDid request uuid now =>
    refine forall₂_congr fun t _ => ?_
    constructor
    · rintro ⟨t', ht', hfix⟩
      cases ht'
      by_contra hterm
      have hterm' : terminal t.status = true := by simpa using hterm
      -- a proposal over a terminal record would have to keep its status
      have hprop : PaymentStatus.proposed = t.status := hfix hterm'
      rw [← hprop] at hterm'
      cases hterm'
    · intro hterm
      exact ⟨_, rfl, fun h => by rw [hterm] at h; cases h⟩
  | authorize request checkedAt now =>
    exact ⟨fun _ => trivial, fun _ t _ => ⟨_, rfl, terminalFixed_authorize _ _ _ t⟩⟩
  | submit paymentId receipt =>
    exact ⟨fun _ => trivial, fun _ t _ => ⟨_, rfl, terminalFixed_submit _ _ t⟩⟩
  | settle request now =>
    exact ⟨fun _ => trivial, fun _ t _ => ⟨_, rfl, terminalFixed_settle _ _ t⟩⟩
  | cancel paymentId =>
    exact ⟨fun _ => trivial, fun _ t _ => ⟨_, rfl, terminalFixed_cancel _ t⟩⟩
  | reject request =>
    refine forall₂_congr fun t _ => ?_
    rw [← terminalFixed_reject_iff request t]
    constructor
    · rintro ⟨t', ht', hfix⟩
      cases ht'
      exact hfix
    · intro hfix
      exact ⟨_, rfl, hfix⟩
  | mergeRemoteAgentMessage message source =>
    by_cases hvalid : validateAgentPaymentMessage wallet message source = .ok ()
    · simp only [effect, mergeEffect, sparesTerminal, hvalid, true_imp_iff,
        ← terminalFixed_merge_iff]
      exact forall₂_congr fun t _ => by simp
    · simp only [effect, mergeEffect, sparesTerminal, hvalid, false_imp_iff, iff_true]
      intro t _
      exact ⟨t, rfl, terminalFixed_refl t⟩

/-! ## Runs -/

/-- **TERMINAL STATUSES OVER A RUN**: between any earlier and any later state of a
run from the empty ledger no payment disappears and no terminal status
changes, if and only if every step of the run spares terminal payments. -/
theorem terminal_kept_iff (ops : List LedgerOp) :
    AlwaysRelated (step wallet) ((ledgerStore wallet).Kept terminalFixed) .empty ops
      ↔ AllSteps (step wallet) (sparesTerminal wallet) .empty ops := by
  have hkept := (ledgerStore wallet).alwaysKept_iff terminalFixed_refl
    (R := terminalFixed) terminalFixed_trans .empty ops
  refine hkept.trans ?_
  exact allSteps_congr (W := fun _ _ => True)
    (fun ledger op _ => effect_terminalFixed_iff wallet ledger op) (allSteps_true _ _)

/-- A settled payment, then the recipient's rejection of it. -/
def lateRejection : List LedgerOp :=
  toySettlement ++
    [.mergeRemoteAgentMessage
      { kind := .rejected, emittedAt := 200,
        payment := { toyAuthorized with status := .rejected, rejectReason := some "late" } }
      "did:bob"]

/-- The settlement stands after three calls and is gone after the fourth. -/
theorem lateRejection_overwrites_settled :
    ((run (step toyWallet) .empty toySettlement).get "payment-1").map (·.status) = some .settled
    ∧ ((run (step toyWallet) .empty lateRejection).get "payment-1").map (·.status) = some .rejected
    ∧ ¬ AlwaysRelated (step toyWallet) ((ledgerStore toyWallet).Kept terminalFixed) .empty
        lateRejection := by
  have hbefore : ((run (step toyWallet) .empty toySettlement).get "payment-1").map (·.status)
      = some .settled := by decide
  have hafter : ((run (step toyWallet) .empty lateRejection).get "payment-1").map (·.status)
      = some .rejected := by decide
  refine ⟨hbefore, hafter, ?_⟩
  intro hkept
  obtain ⟨t, ht, hs⟩ := Option.map_eq_some_iff.mp hbefore
  obtain ⟨t', ht', hfix⟩ := hkept toySettlement (lateRejection.drop 3) [] rfl "payment-1" t ht
  have hafter' : (some t').map (·.status) = some PaymentStatus.rejected := by
    rw [← ht', ← hafter]
    rfl
  have heq : t'.status = t.status := hfix (by rw [hs]; rfl)
  rw [Option.map_some, heq, hs] at hafter'
  cases hafter'

end WattTerminal
