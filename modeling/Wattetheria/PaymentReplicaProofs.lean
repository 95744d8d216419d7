import Wattetheria.MergeFold
import Wattetheria.PaymentLedger

/-!
# Replicas of one payment

One node runs local operations on a payment and announces every successful one
as an agent message; another node, which does not know the payment, merges the
messages in whatever order and however often they arrive.

The merge is associative, and a local operation leaves a record above the one it found,
except that `settle` overwrites the receipt that `submit` stored.  Where it does not, the
two nodes end with the same record (`replica_agrees`).
-/

namespace WattReplica

open WattText WattJson WattPayment WattX402 WattKeyed WattRuns WattLedger WattMergeFold List Option

/-! ## The merge as an associative operation -/

/-- The status of higher rank. -/
def laterStatus (a b : PaymentStatus) : PaymentStatus := if a.rank ≤ b.rank then b else a

lemma laterStatus_assoc (a b c : PaymentStatus) :
    laterStatus (laterStatus a b) c = laterStatus a (laterStatus b c) := by
  cases a <;> cases b <;> cases c <;> rfl

instance : Std.Associative mergeTransaction where
  assoc a b c := by
    simp only [mergeTransaction, Option.or_assoc]
    congr 1
    exact laterStatus_assoc a.status b.status c.status

lemma or_eq_left {α : Type} {earlier later : Option α} (h : yields earlier later) :
    later.or earlier = later := by
  rcases h with h | h
  · rw [h, Option.or_none]
  · rw [h, Option.or_self]

variable {t u : PaymentTransaction}

/-- A record lies below one that differs from it only in a status of no lower rank
and in optional fields that were empty or keep their value. -/
lemma below_of_update (hrank : t.status.rank ≤ u.status.rank)
    (haddress : yields t.senderAddress u.senderAddress)
    (hsignature : yields t.authorizationSignature u.authorizationSignature)
    (hkey : yields t.authorizationPublicKey u.authorizationPublicKey)
    (hreceipt : yields t.settlementReceipt u.settlementReceipt)
    (hreason : yields t.rejectReason u.rejectReason)
    (hauthorized : yields t.authorizedAt u.authorizedAt)
    (hsettled : yields t.settledAt u.settledAt) (hrest : u = { t with
      status := u.status
      senderAddress := u.senderAddress
      authorizationSignature := u.authorizationSignature
      authorizationPublicKey := u.authorizationPublicKey
      settlementReceipt := u.settlementReceipt
      rejectReason := u.rejectReason
      authorizedAt := u.authorizedAt
      settledAt := u.settledAt }) : Below mergeTransaction t u := by
  have hother : u.recipientAddress = t.recipientAddress ∧ u.expiresAt = t.expiresAt := by
    rw [hrest]
    exact ⟨rfl, rfl⟩
  constructor
  · -- the stored record takes every value of the later one
    rw [mergeTransaction, if_pos hrank, or_eq_right haddress, or_eq_right hsignature,
      or_eq_right hkey, or_eq_right hreceipt, or_eq_right hreason, or_eq_right hauthorized,
      or_eq_right hsettled, hother.1, hother.2, Option.or_self, Option.or_self]
    exact hrest.symm
  · -- the later record has nothing to take
    have hstatus : (if u.status.rank ≤ t.status.rank then t.status else u.status) = u.status :=
      (merged_status_eq_iff u t).mpr hrank
    rw [mergeTransaction, hstatus, or_eq_left haddress, or_eq_left hsignature, or_eq_left hkey,
      or_eq_left hreceipt, or_eq_left hreason, or_eq_left hauthorized, or_eq_left hsettled,
      hother.1, hother.2, Option.or_self, Option.or_self, ← hother.1, ← hother.2]

/-! ## What the first node announces -/

variable (ledger : PaymentLedger)

/-- The transaction a call returns when it succeeds. -/
def returned : LedgerOp → Option PaymentTransaction
  | .propose senderDid request uuid now =>
    (ledger.propose senderDid request uuid now).1.toOption
  | .authorize request checkedAt now => (ledger.authorize request checkedAt now).1.toOption
  | .submit paymentId receipt => (ledger.submit paymentId receipt).1.toOption
  | .settle request now => (ledger.settle request now).1.toOption
  | .reject request => (ledger.reject request).1.toOption
  | .cancel paymentId => (ledger.cancel paymentId).1.toOption
  | .mergeRemoteAgentMessage .. => none

/-- The message a local operation is announced by. -/
def announcedAs : LedgerOp → PaymentMessageKind
  | .propose .. => .request
  | .authorize .. => .authorized
  | .submit .. => .submitted
  | .settle .. => .settled
  | .reject .. => .rejected
  | .cancel .. => .cancelled
  | .mergeRemoteAgentMessage message _ => message.kind

/-- The messages a run sends: the kind and the transaction of every successful
call, in order. -/
def sent (wallet : Wallet) :
    PaymentLedger → List LedgerOp → List (PaymentMessageKind × PaymentTransaction)
  | _, [] => []
  | ledger, op :: ops =>
    ((returned ledger op).map fun t => (announcedAs op, t)).toList
      ++ sent wallet (step wallet ledger op) ops

variable (wallet : Wallet) (ops : List LedgerOp)

lemma sent_snoc (op : LedgerOp) : sent wallet ledger (ops ++ [op]) = sent wallet ledger ops
      ++ ((returned (run (step wallet) ledger ops) op).map fun t => (announcedAs op, t)).toList := by
  induction ops generalizing ledger with
  | nil => exact append_nil _
  | cons op' ops ih =>
    show _ ++ sent wallet (step wallet ledger op') (ops ++ [op]) = _
    rw [ih, ← append_assoc]
    rfl

/-- The calls on an existing payment. -/
def onPayment (id : String) : LedgerOp → Prop
  | .authorize request _ _ => request.paymentId = id
  | .submit paymentId _ => paymentId = id
  | .settle request _ => request.paymentId = id
  | .reject request => request.paymentId = id
  | .cancel paymentId => paymentId = id
  | .propose .. | .mergeRemoteAgentMessage .. => False

instance (id : String) (op : LedgerOp) : Decidable (onPayment id op) :=
  match op with
  | .authorize .. | .submit .. | .settle .. | .reject .. | .cancel .. =>
    inferInstanceAs (Decidable (_ = id))
  | .propose .. | .mergeRemoteAgentMessage .. => inferInstanceAs (Decidable False)

/-- What a call on a payment can do to its record: the record it finds, the call,
the transaction it returns if any, and the record it leaves. -/
inductive Moves (t : PaymentTransaction) :
    LedgerOp → Option PaymentTransaction → PaymentTransaction → Prop where
  | refused (op : LedgerOp) : Moves t op none t
  | expired (request : AuthorizePaymentRequest) (checkedAt now : Int) (h : t.status = .proposed) :
      Moves t (.authorize request checkedAt now) none { t with status := .expired }
  | authorized (request : AuthorizePaymentRequest) (checkedAt now : Int) (u : PaymentTransaction)
      (h : t.status = .proposed)
      (hu : u = { t with
        status := .authorized
        authorizationSignature := some request.authorizationSignature
        authorizationPublicKey := request.authorizationPublicKey
        senderAddress := request.senderAddress
        authorizedAt := some now }) :
      Moves t (.authorize request checkedAt now) (some u) u
  | submitted (paymentId : String) (receipt : Option JsonValue) (u : PaymentTransaction)
      (h : t.status = .authorized)
      (hu : u = { t with status := .submitted, settlementReceipt := receipt }) :
      Moves t (.submit paymentId receipt) (some u) u
  | settled (request : SettlePaymentRequest) (now : Int) (u : PaymentTransaction)
      (h : settles request t)
      (hu : u = { t with
        status := .settled
        settlementReceipt := some request.settlementReceipt
        settledAt := some now }) :
      Moves t (.settle request now) (some u) u
  | rejected (request : RejectPaymentRequest) (u : PaymentTransaction)
      (h : t.status ≠ .settled ∧ t.status ≠ .cancelled ∧ t.status ≠ .rejected)
      (hu : u = { t with status := .rejected, rejectReason := some request.rejectReason }) :
      Moves t (.reject request) (some u) u
  | cancelled (paymentId : String) (u : PaymentTransaction)
      (h : t.status = .proposed ∨ t.status = .authorized)
      (hu : u = { t with status := .cancelled }) :
      Moves t (.cancel paymentId) (some u) u

variable {ledger : PaymentLedger} {id : String} {op : LedgerOp} {result : Option PaymentTransaction}
  {messages : List (PaymentMessageKind × PaymentTransaction)} {last : PaymentTransaction}
  {kind : PaymentMessageKind}

lemma withRecord_moves (hget : ledger.get id = some t)
    {body : PaymentTransaction → Except String Unit × PaymentTransaction}
    (h : Moves t op ((body t).1.toOption.map fun _ => (body t).2) (body t).2) :
    ∃ u, (ledger.withRecord id body).2.get id = some u
      ∧ Moves t op (ledger.withRecord id body).1.toOption u := by
  refine ⟨(body t).2, ?_, ?_⟩
  · rw [PaymentLedger.get_withRecord, if_pos rfl, hget, map_some]
  · have hresult : (ledger.withRecord id body).1.toOption
        = (body t).1.toOption.map fun _ => (body t).2 := by
      rw [PaymentLedger.withRecord, hget]
      rcases hbody : body t with ⟨result, u⟩
      cases result with
      | error text => simp [hbody, Except.toOption]
      | ok _ => simp [hbody, Except.toOption]
    rw [hresult]
    exact h

lemma guarded_moves {refused : PaymentStatus → Bool} {text : PaymentStatus → String}
    {write : PaymentTransaction → PaymentTransaction}
    (h : refused t.status = false → Moves t op (some (write t)) (write t)) :
    Moves t op ((guarded refused text write t).1.toOption.map
      fun _ => (guarded refused text write t).2) (guarded refused text write t).2 := by
  cases hr : refused t.status with
  | true =>
    rw [guarded, if_pos hr]
    exact .refused op
  | false =>
    rw [guarded, if_neg (by rw [hr]; decide)]
    exact h hr

lemma authorize_moves (request : AuthorizePaymentRequest) (checkedAt now : Int)
    (t : PaymentTransaction) : Moves t (.authorize request checkedAt now)
      ((authorizeRecord request checkedAt now t).1.toOption.map
        fun _ => (authorizeRecord request checkedAt now t).2)
      (authorizeRecord request checkedAt now t).2 := by
  rw [authorizeRecord]
  by_cases hs : t.status = .proposed
  · rw [if_neg (not_not.mpr hs)]
    by_cases hover : overdue checkedAt t = true
    · rw [if_pos (show (t.expiresAt.any _) = true from hover)]
      exact .expired request checkedAt now hs
    · rw [if_neg (show ¬ (t.expiresAt.any _) = true from hover)]
      exact .authorized request checkedAt now _ hs rfl
  · rw [if_pos hs]
    exact .refused _

lemma settle_moves (request : SettlePaymentRequest) (now : Int) (t : PaymentTransaction) :
    Moves t (.settle request now)
      ((settleRecord request now t).1.toOption.map fun _ => (settleRecord request now t).2)
      (settleRecord request now t).2 := by
  rcases settleRecord_cases request now t with ⟨hs, h⟩ | ⟨-, text, h⟩
  · rw [h]
    exact .settled request now _ hs rfl
  · rw [h]
    exact .refused _

/-- **INVERSION**: a call on a stored payment is one of the moves, and the record
it leaves is the one the move says. -/
lemma moves_of_call (hget : ledger.get id = some t) (hop : onPayment id op) :
    ∃ u, (step wallet ledger op).get id = some u ∧ Moves t op (returned ledger op) u := by
  cases op with
  | propose senderDid request uuid now => exact hop.elim
  | mergeRemoteAgentMessage message source => exact hop.elim
  | authorize request checkedAt now =>
    obtain rfl : request.paymentId = id := hop
    exact withRecord_moves hget (authorize_moves request checkedAt now t)
  | submit paymentId receipt =>
    obtain rfl : paymentId = id := hop
    refine withRecord_moves hget (guarded_moves fun hs => ?_)
    exact .submitted paymentId receipt _ (by simpa using hs) rfl
  | settle request now =>
    obtain rfl : request.paymentId = id := hop
    exact withRecord_moves hget (settle_moves request now t)
  | reject request =>
    obtain rfl : request.paymentId = id := hop
    refine withRecord_moves hget (guarded_moves fun hs => ?_)
    exact .rejected request _ (by simpa using hs) rfl
  | cancel paymentId =>
    obtain rfl : paymentId = id := hop
    refine withRecord_moves hget (guarded_moves fun hs => ?_)
    exact .cancelled paymentId _ (by simpa [or_iff_not_imp_left] using hs) rfl

/-! ## The announced records form a chain -/

/-- Which fields are still empty in which status, along a run of local calls. -/
structure Staged (t : PaymentTransaction) : Prop where
  unauthorized : t.status = .proposed ∨ t.status = .expired →
    t.senderAddress = none ∧ t.authorizationSignature = none
      ∧ t.authorizationPublicKey = none ∧ t.authorizedAt = none
  unsubmitted : t.status = .proposed ∨ t.status = .expired ∨ t.status = .authorized →
    t.settlementReceipt = none
  unfinished : t.status ≠ .settled → t.status ≠ .rejected → t.status ≠ .cancelled →
    t.settledAt = none ∧ t.rejectReason = none

lemma staged_proposal (senderDid : String) (request : ProposePaymentRequest) (uuid : String)
    (now : Int) : Staged (proposal senderDid request uuid now) where
  unauthorized _ := ⟨rfl, rfl, rfl, rfl⟩
  unsubmitted _ := rfl
  unfinished _ _ _ := ⟨rfl, rfl⟩

lemma Staged.moves (h : Staged t) (hmoves : Moves t op result u) : Staged u := by
  cases hmoves with
  | refused => exact h
  | expired request checkedAt now hs =>
    exact ⟨fun _ => h.unauthorized (.inl hs), fun _ => h.unsubmitted (.inl hs),
      fun _ _ _ => h.unfinished (by simp [hs]) (by simp [hs]) (by simp [hs])⟩
  | authorized request checkedAt now _ hs hu =>
    subst hu
    exact ⟨by simp, fun _ => h.unsubmitted (.inl hs),
      fun _ _ _ => h.unfinished (by simp [hs]) (by simp [hs]) (by simp [hs])⟩
  | submitted paymentId receipt _ hs hu =>
    subst hu
    exact ⟨by simp, by simp, fun _ _ _ => h.unfinished (by simp [hs]) (by simp [hs]) (by simp [hs])⟩
  | settled request now _ hs hu => subst hu; exact ⟨by simp, by simp, by simp⟩
  | rejected request _ hs hu => subst hu; exact ⟨by simp, by simp, by simp⟩
  | cancelled paymentId _ hs hu => subst hu; exact ⟨by simp, by simp, by simp⟩

/-- The settlements that do not replace a receipt: a payment submitted with a
receipt is settled by the same one. -/
def keepsReceipt (ledger : PaymentLedger) : LedgerOp → Prop
  | .settle request _ =>
    ∀ t ∈ ledger.get request.paymentId, settles request t →
      ∀ receipt ∈ t.settlementReceipt, receipt = request.settlementReceipt
  | .propose .. | .authorize .. | .submit .. | .reject .. | .cancel ..
  | .mergeRemoteAgentMessage .. => True

instance (ledger : PaymentLedger) (op : LedgerOp) : Decidable (keepsReceipt ledger op) :=
  match op with
  | .settle request _ =>
    inferInstanceAs (Decidable (∀ t ∈ ledger.get request.paymentId, settles request t →
      ∀ receipt ∈ t.settlementReceipt, receipt = request.settlementReceipt))
  | .propose .. | .authorize .. | .submit .. | .reject .. | .cancel ..
  | .mergeRemoteAgentMessage .. => inferInstanceAs (Decidable True)

lemma below_refl (t : PaymentTransaction) : Below mergeTransaction t t :=
  below_of_update le_rfl (.inr rfl) (.inr rfl) (.inr rfl) (.inr rfl) (.inr rfl) (.inr rfl)
    (.inr rfl) rfl

lemma below_of_moves (h : Staged t) (hmoves : Moves t op (some u) u)
    (hexpired : t.status ≠ .expired)
    (hreceipt : ∀ request now, op = .settle request now → settles request t →
      ∀ receipt ∈ t.settlementReceipt, receipt = request.settlementReceipt) :
    Below mergeTransaction t u := by
  cases hmoves with
  | authorized request checkedAt now _ hs hu =>
    subst hu
    have hrank : t.status.rank ≤ PaymentStatus.authorized.rank := by rw [hs]; decide
    obtain ⟨haddress, hsignature, hkey, hat⟩ := h.unauthorized (.inl hs)
    exact below_of_update hrank (.inl haddress) (.inl hsignature) (.inl hkey)
      (.inr rfl) (.inr rfl) (.inl hat) (.inr rfl) rfl
  | submitted paymentId receipt _ hs hu =>
    subst hu
    have hrank : t.status.rank ≤ PaymentStatus.submitted.rank := by rw [hs]; decide
    have hnone := h.unsubmitted (.inr (.inr hs))
    exact below_of_update hrank (.inr rfl) (.inr rfl) (.inr rfl) (.inl hnone)
      (.inr rfl) (.inr rfl) (.inr rfl) rfl
  | settled request now _ hs hu =>
    subst hu
    have hrank : t.status.rank ≤ PaymentStatus.settled.rank := by
      rcases hs.1 with h' | h' <;> rw [h'] <;> decide
    have hopen : t.settledAt = none ∧ t.rejectReason = none := by
      rcases hs.1 with h' | h' <;>
        exact h.unfinished (by simp [h']) (by simp [h']) (by simp [h'])
    -- the one field that may hold an announced value already
    have hsame : yields t.settlementReceipt (some request.settlementReceipt) := by
      cases hr : t.settlementReceipt with
      | none => exact .inl rfl
      | some receipt => exact .inr (by rw [hreceipt request now rfl hs receipt hr])
    exact below_of_update hrank (.inr rfl) (.inr rfl) (.inr rfl) hsame (.inr rfl) (.inr rfl)
      (.inl hopen.1) rfl
  | rejected request _ hs hu =>
    subst hu
    obtain ⟨h1, h2, h3⟩ := hs
    have hrank : t.status.rank ≤ PaymentStatus.rejected.rank := by
      cases hstatus : t.status <;> first | decide | contradiction
    exact below_of_update hrank (.inr rfl) (.inr rfl) (.inr rfl) (.inr rfl)
      (.inl (h.unfinished h1 h3 h2).2) (.inr rfl) (.inr rfl) rfl
  | cancelled paymentId _ hs hu =>
    subst hu
    have hrank : t.status.rank ≤ PaymentStatus.cancelled.rank := by
      rcases hs with h' | h' <;> rw [h'] <;> decide
    exact below_of_update hrank (.inr rfl) (.inr rfl) (.inr rfl) (.inr rfl) (.inr rfl)
      (.inr rfl) (.inr rfl) rfl

lemma paymentId_of_moves (hmoves : Moves t op result u) : u.paymentId = t.paymentId := by
  cases hmoves with
  | refused | expired => rfl
  | authorized _ _ _ _ _ hu | submitted _ _ _ _ hu | settled _ _ _ _ hu | rejected _ _ _ hu
  | cancelled _ _ _ hu => rw [hu]

lemma left_of_moves {w : PaymentTransaction} (hmoves : Moves t op (some w) u) :
    w = u ∧ u.status ≠ .expired := by
  cases hmoves with
  | authorized _ _ _ _ _ hu | submitted _ _ _ _ hu | settled _ _ _ _ hu | rejected _ _ _ hu
  | cancelled _ _ _ hu => exact ⟨rfl, by rw [hu]; simp⟩

/-- The state of the first node and the messages it has sent are in step: the last
message carries the record, or the record was proposed there and has expired
since, and every message lies below the last. -/
structure InStep (id : String) (ledger : PaymentLedger)
    (messages : List (PaymentMessageKind × PaymentTransaction))
    (t : PaymentTransaction) (kind : PaymentMessageKind) (last : PaymentTransaction) : Prop where
  stored : ledger.get id = some t
  staged : Staged t
  lastStaged : Staged last
  lastLive : last.status ≠ .expired
  lastSent : messages.getLast? = some (kind, last)
  current : t = last ∨ (last.status = .proposed ∧ t = { last with status := .expired })
  chain : ∀ message ∈ messages, message.2.paymentId = id ∧ Below mergeTransaction message.2 last

lemma below_of_inStep (hin : InStep id ledger messages t kind last) (hop : onPayment id op)
    (hkeeps : keepsReceipt ledger op) (hmoves : Moves t op (some u) u) :
    Below mergeTransaction last u := by
  have hreceipt : ∀ request now, op = .settle request now → settles request t →
      ∀ receipt ∈ t.settlementReceipt, receipt = request.settlementReceipt := by
    rintro request now rfl hs receipt hr
    obtain rfl : request.paymentId = id := hop
    exact hkeeps t hin.stored hs receipt hr
  rcases hin.current with rfl | ⟨hproposed, rfl⟩
  · exact below_of_moves hin.staged hmoves hin.lastLive hreceipt
  · -- an expired record can only be rejected, as the proposed one could have been
    cases hmoves with
    | authorized _ _ _ _ hs => cases hs
    | submitted _ _ _ hs => cases hs
    | settled _ _ _ hs => exact hs.1.elim (fun h => nomatch h) (fun h => nomatch h)
    | cancelled _ _ hs => exact hs.elim (fun h => nomatch h) (fun h => nomatch h)
    | rejected request _ _ hu =>
      refine below_of_moves hin.lastStaged (.rejected request u ?_ hu) hin.lastLive
        (fun _ _ h => nomatch h)
      rw [hproposed]
      exact ⟨by decide, by decide, by decide⟩

lemma inStep_call (hin : InStep id ledger messages t kind last) (hop : onPayment id op)
    (hkeeps : keepsReceipt ledger op) : ∃ t' kind' last', InStep id (step wallet ledger op)
      (messages ++ ((returned ledger op).map fun w => (announcedAs op, w)).toList)
      t' kind' last' := by
  obtain ⟨u, hu, hmoves⟩ := moves_of_call wallet hin.stored hop
  cases hreturned : returned ledger op with
  | none =>
    rw [hreturned] at hmoves
    rw [map_none, toList_none, append_nil]
    refine ⟨u, kind, last,
      { hin with stored := hu, staged := hin.staged.moves hmoves, current := ?_ }⟩
    cases hmoves with
    | refused => exact hin.current
    | expired _ _ _ hs =>
      rcases hin.current with rfl | ⟨-, rfl⟩
      · exact .inr ⟨hs, rfl⟩
      · cases hs
  | some w =>
    rw [hreturned] at hmoves
    obtain ⟨rfl, hlive⟩ := left_of_moves hmoves
    have hbelow := below_of_inStep hin hop hkeeps hmoves
    have hmember : (kind, last) ∈ messages := mem_of_getLast? hin.lastSent
    have hid : w.paymentId = id := by
      rw [paymentId_of_moves hmoves]
      rcases hin.current with rfl | ⟨-, rfl⟩ <;> exact (hin.chain _ hmember).1
    refine ⟨w, announcedAs op, w, hu, hin.staged.moves hmoves, hin.staged.moves hmoves, hlive,
      List.getLast?_concat .., .inl rfl, ?_⟩
    intro message hmessage
    rcases mem_append.mp hmessage with h | h
    · exact ⟨(hin.chain _ h).1, (hin.chain _ h).2.trans hbelow⟩
    · cases mem_singleton.mp h
      exact ⟨hid, below_refl w⟩

lemma inStep_run {first : LedgerOp} (hfirst : ∃ t kind last,
      InStep id (step wallet ledger first) (sent wallet ledger [first]) t kind last)
    {ops : List LedgerOp} (hops : ∀ op ∈ ops, onPayment id op)
    (hkeeps : AllSteps (step wallet) keepsReceipt ledger (first :: ops)) :
    ∃ t kind last, InStep id (run (step wallet) ledger (first :: ops))
      (sent wallet ledger (first :: ops)) t kind last := by
  induction ops using List.reverseRecOn with
  | nil => exact hfirst
  | append_singleton ops op ih =>
    rw [← cons_append, allSteps_append] at hkeeps
    obtain ⟨t, kind, last, hin⟩ :=
      ih (fun op' hop' => hops op' (mem_append_left _ hop')) hkeeps.1
    rw [← cons_append, run_append, sent_snoc]
    exact inStep_call wallet hin (hops op (mem_append_right _ (mem_singleton_self op))) hkeeps.2.1

/-! ## What the second node stores -/

lemma foldl_mergeEffect (source : String)
    (deliveries : List PaymentAgentMessage) (held : Option PaymentTransaction) :
    (deliveries.map fun m => (m, source)).foldl
        (fun held delivery => mergeEffect wallet delivery.1 delivery.2 held) held
      = ((deliveries.filter fun m => validateAgentPaymentMessage wallet m source = .ok ()).map
          fun m => m.payment).foldl (absorb mergeTransaction) held := by
  induction deliveries generalizing held with
  | nil => rfl
  | cons m rest ih =>
    rw [map_cons, foldl_cons, ih]
    by_cases hvalid : validateAgentPaymentMessage wallet m source = .ok ()
    · rw [filter_cons_of_pos (by simpa using hvalid), map_cons, foldl_cons]
      cases held with
      | none => rw [mergeEffect_none hvalid]; rfl
      | some stored => rw [mergeEffect_some hvalid]; rfl
    · rw [filter_cons_of_neg (by simpa using hvalid), mergeEffect_refused hvalid]

/-- **REPLICA AGREEMENT**: a node proposes a payment and runs local calls on it; a
second node, which does not know the payment, receives the announcements in any
order, each at least once.  If no settlement replaces an announced receipt, the
payment is not left expired and the second node accepts the last announcement,
then both nodes end with the same record. -/
theorem replica_agrees (ledgerA ledgerB : PaymentLedger)
    (senderDid : String) (request : ProposePaymentRequest) (uuid : String) (now : Int)
    (ops : List LedgerOp) (source : String) (deliveries : List PaymentAgentMessage)
    (hops : ∀ op ∈ ops, onPayment (proposal senderDid request uuid now).paymentId op)
    (hkeeps : AllSteps (step wallet) keepsReceipt ledgerA
      (.propose senderDid request uuid now :: ops))
    (hlive : ∀ t ∈ (run (step wallet) ledgerA (.propose senderDid request uuid now :: ops)).get
      (proposal senderDid request uuid now).paymentId, t.status ≠ .expired)
    (hnew : ledgerB.get (proposal senderDid request uuid now).paymentId = none)
    (hfrom : ∀ m ∈ deliveries, (m.kind, m.payment) ∈
      sent wallet ledgerA (.propose senderDid request uuid now :: ops))
    (hall : ∀ s ∈ sent wallet ledgerA (.propose senderDid request uuid now :: ops),
      ∃ m ∈ deliveries, (m.kind, m.payment) = s) (hlast : ∀ m ∈ deliveries, (m.kind, m.payment) ∈
      (sent wallet ledgerA (.propose senderDid request uuid now :: ops)).getLast? →
        validateAgentPaymentMessage wallet m source = .ok ()) :
    ∃ t, (run (step wallet) ledgerA (.propose senderDid request uuid now :: ops)).get
        (proposal senderDid request uuid now).paymentId = some t
      ∧ (run (deliver wallet) ledgerB (deliveries.map fun m => (m, source))).get
        (proposal senderDid request uuid now).paymentId = some t := by
  generalize hfirst : LedgerOp.propose senderDid request uuid now = first at *
  generalize hid : (proposal senderDid request uuid now).paymentId = id at *
  -- the first node: the run and its messages stay in step from the proposal on
  have hbase : ∃ t kind last,
      InStep id (step wallet ledgerA first) (sent wallet ledgerA [first]) t kind last := by
    subst hfirst hid
    have hstaged := staged_proposal senderDid request uuid now
    refine ⟨_, .request, _, ?_, hstaged, hstaged, by simp [proposal], rfl, .inl rfl, ?_⟩
    · exact (PaymentLedger.get_put ..).trans (if_pos rfl)
    · intro message hmessage
      cases mem_singleton.mp hmessage
      exact ⟨rfl, below_refl _⟩
  obtain ⟨t, kind, last, hin⟩ := inStep_run wallet hbase hops hkeeps
  have ht : t = last := by
    rcases hin.current with h | ⟨-, h⟩
    · exact h
    · exact absurd (by rw [h]) (hlive t hin.stored)
  subst ht
  refine ⟨t, hin.stored, ?_⟩
  -- the second node: a fold over accepted copies, all below the last one
  have htarget : ∀ d ∈ deliveries.map (fun m => (m, source)), (inbox wallet).target d = id := by
    intro d hd
    obtain ⟨m, hm, rfl⟩ := mem_map.mp hd
    exact (hin.chain _ (hfrom m hm)).1
  refine ((inbox wallet).get_run htarget ledgerB).trans ?_
  show (deliveries.map fun m => (m, source)).foldl
    (fun held delivery => mergeEffect wallet delivery.1 delivery.2 held) (ledgerB.get id) = some t
  rw [hnew, foldl_mergeEffect]
  refine foldl_absorb_eq_top ?_ ?_ (fun _ h => nomatch h)
  · intro v hv
    obtain ⟨m, hm, rfl⟩ := mem_map.mp hv
    exact (hin.chain _ (hfrom m (mem_filter.mp hm).1)).2
  · obtain ⟨m, hm, heq⟩ := hall (kind, t) (mem_of_getLast? hin.lastSent)
    have hvalid := hlast m hm (by rw [heq]; exact hin.lastSent)
    refine mem_map.mpr ⟨m, mem_filter.mpr ⟨hm, by simpa using hvalid⟩, ?_⟩
    exact congrArg Prod.snd heq

/-- The calls of `did:alice` that submit the toy payment with a receipt and settle
it with another. -/
def toyCalls (submitted settled : JsonValue) : List LedgerOp :=
  [.authorize
     { paymentId := "payment-1", authorizationSignature := toySign "a11ce" toyAuthorized,
       authorizationPublicKey := some "a11ce", senderAddress := some "0xa11ce" } 101 101,
   .submit "payment-1" (some submitted),
   .settle { paymentId := "payment-1", settlementReceipt := settled } 102]

/-- Its messages in an order of their own, the last one twice. -/
def toyDeliveries : List PaymentAgentMessage :=
  let submitted :=
    { toyAuthorized with status := .submitted, settlementReceipt := some toyReceipt }
  let settled := { submitted with status := .settled, settledAt := some 102 }
  [settled.agentMessage .settled 1, toyPayment.agentMessage .request 2,
   submitted.agentMessage .submitted 3, settled.agentMessage .settled 4,
   toyAuthorized.agentMessage .authorized 5]

/-- Settling with the submitted receipt, the two nodes agree whatever the order. -/
theorem replica_agrees_toyDeliveries : ∃ t, (run (step toyWallet) .empty
          (.propose "did:alice" toyProposal "1" 100 :: toyCalls toyReceipt toyReceipt)).get
          "payment-1" = some t
      ∧ (run (deliver toyWallet) .empty (toyDeliveries.map fun m => (m, "did:alice"))).get
          "payment-1" = some t :=
  replica_agrees toyWallet .empty .empty "did:alice" toyProposal "1" 100
    (toyCalls toyReceipt toyReceipt) "did:alice" toyDeliveries (by decide) (by decide +kernel)
    (by decide +kernel) rfl (by decide +kernel) (by decide +kernel) (by decide +kernel)

/-- What a node that receives the announcements of a run from `did:alice`, in
order, stores of the toy payment. -/
def relayed : Option PaymentTransaction :=
  (run (deliver toyWallet) .empty ((sent toyWallet .empty ops).map fun s =>
    (s.2.agentMessage s.1 0, "did:alice"))).get "payment-1"

/-- Three runs after which the nodes differ: a settlement with another receipt than
the submitted one, a proposal that expires, and a rejection by the sender. -/
theorem replicas_differ : (((run (step toyWallet) .empty
          (.propose "did:alice" toyProposal "1" 100 :: toyCalls .null toyReceipt)).get
          "payment-1").bind (·.settlementReceipt) = some toyReceipt
      ∧ (relayed (.propose "did:alice" toyProposal "1" 100 :: toyCalls .null toyReceipt)).bind
          (·.settlementReceipt) = some .null)
    ∧ (let overdue := LedgerOp.propose "did:alice" { toyProposal with expiresAt := some 50 } "1" 40
       ((run (step toyWallet) .empty (overdue :: toyCalls .null .null)).get "payment-1").map
          (·.status) = some .expired
        ∧ (relayed (overdue :: toyCalls .null .null)).map (·.status) = some .proposed)
    ∧ (let rejection := LedgerOp.reject { paymentId := "payment-1", rejectReason := "no" }
       ((run (step toyWallet) .empty [.propose "did:alice" toyProposal "1" 100, rejection]).get
          "payment-1").map (·.status) = some .rejected
        ∧ (relayed [.propose "did:alice" toyProposal "1" 100, rejection]).map (·.status)
            = some .proposed) := by
  decide +kernel

end WattReplica
