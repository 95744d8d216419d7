import Wattetheria.PaymentRequests

/-!
# At most one transfer per payment

A submission looks at the payment under the lock, asks the chain for the
transfer without it, and records the submission under the lock again.  What it
saw may be gone by then: two submissions that both look before either records
broadcast two transfers, and a cancellation or rejection in between leaves a
transfer for a payment that is closed.  `single_transfer` says that in the schedules
without these, and without a lost broadcast, at most one transfer is broadcast and none
for a payment that is closed.
-/

namespace WattRace

open WattText WattJson WattPayment WattLedger WattThreads WattRuns WattRequests Option

/-- A submission that has broadcast and not yet recorded. -/
def sent : Pc → Bool
  | .record _ .broadcast => true
  | .snapshot | .chainCall _ | .record _ .supplied | .record _ .unsent | .cancel | .reject _ => false

/-- A submission that has looked and not broadcast. -/
def unsent : Pc → Bool
  | .chainCall _ | .record _ .unsent => true
  | .snapshot | .record _ .supplied | .record _ .broadcast | .cancel | .reject _ => false

/-- Between the look and the record. -/
def pending (p : Pc) : Bool := sent p || unsent p

/-- What a run must avoid for the race to be harmless. -/
def orderly (agentDid paymentId : String) (pool : Pool Shared Pc) :
    Event Request ChainReply Empty → Prop
  | .exec i reply =>
    ∀ p, pool.threads i = some p → ∀ t, pool.shared.ledger.get paymentId = some t → match p with
      -- no look that succeeds while another submission is pending
      | .snapshot => t.senderDid = agentDid → t.status = .authorized →
          ∀ j q, pool.threads j = some q → pending q = false
      -- no broadcast whose answer is lost
      | .chainCall current => ∀ request text, transferRequest current = .ok (some request) →
          reply ≠ .broadcast (.error text)
      | .record .. => True
      -- no cancellation that goes through while a submission is pending
      | .cancel => t.senderDid = agentDid → t.status = .proposed ∨ t.status = .authorized →
          ∀ j q, pool.threads j = some q → pending q = false
      -- no rejection that goes through then, or on a submitted payment
      | .reject _ => t.recipientDid = agentDid →
          t.status ≠ .settled ∧ t.status ≠ .cancelled ∧ t.status ≠ .rejected →
          t.status ≠ .submitted ∧ ∀ j q, pool.threads j = some q → pending q = false
  | .stop i => ∀ p, pool.threads i = some p → sent p = false
  | .spawn .. | .env _ => True

/-! ## What one update does -/

variable {ledger : PaymentLedger}

/-- The body of an operation under `mutate_payment`, on the stored payment. -/
lemma get_mutatePayment {id : String} {t : PaymentTransaction}
    (hget : ledger.get id = some t) (hid : t.paymentId = id)
    (allowed : PaymentTransaction → Except String Unit)
    (body : String → PaymentTransaction → Except String Unit × PaymentTransaction) :
    (mutatePayment ledger id allowed
        fun payment => ledger.withRecord payment.paymentId (body payment.paymentId)).2.get id
      = some (if allowed t = .ok () then (body id t).2 else t) := by
  rw [mutatePayment, hget]
  cases hallowed : allowed t with
  | error text => simpa [hallowed] using hget
  | ok u => simp [hallowed, hid, PaymentLedger.get_withRecord, hget]

variable (agentDid : String) (t : PaymentTransaction)

lemma ensureSenderControlsPayment_ok_iff :
    ensureSenderControlsPayment agentDid t = .ok () ↔ t.senderDid = agentDid := by
  rw [ensureSenderControlsPayment, bailIf_eq_ok]
  simp

lemma ensureRecipientControlsPayment_ok_iff :
    ensureRecipientControlsPayment agentDid t = .ok () ↔ t.recipientDid = agentDid := by
  rw [ensureRecipientControlsPayment, bailIf_eq_ok]
  simp

lemma snapshot_ok {agentDid : String} {id : String}
    {t current : PaymentTransaction} (hget : ledger.get id = some t)
    (h : paymentSnapshotForSubmit agentDid ledger id = .ok current) :
    t.senderDid = agentDid ∧ t.status = .authorized := by
  obtain ⟨found, hfound, h⟩ := bind_eq_ok.mp h
  obtain ⟨_, hsender, h⟩ := bind_eq_ok.mp h
  obtain ⟨_, hstatus, -⟩ := bind_eq_ok.mp h
  rw [okOr_eq_ok, hget] at hfound
  cases hfound
  rw [bailIf_eq_ok] at hstatus
  exact ⟨(ensureSenderControlsPayment_ok_iff agentDid t).mp hsender, by simpa using hstatus⟩

/-- What a chain call can do: fail or need no transfer, with nothing broadcast;
broadcast one transfer and return its receipt; or broadcast one and fail. -/
lemma chainCall_cases (payment : PaymentTransaction) (reply : ChainReply) :
    (∃ result, submitX402Erc20Payment payment reply = (result, 0))
    ∨ (∃ receipt, submitX402Erc20Payment payment reply = (.ok receipt, 1))
    ∨ ∃ request text, transferRequest payment = .ok (some request)
        ∧ reply = .broadcast (.error text) := by
  cases hrequest : transferRequest payment with
  | error text => exact .inl ⟨.error text, by simp only [submitX402Erc20Payment, hrequest]⟩
  | ok request =>
    cases request with
    | none => exact .inl ⟨.ok none, by simp only [submitX402Erc20Payment, hrequest]⟩
    | some request =>
      cases reply with
      | failed text =>
        exact .inl ⟨.error text, by simp only [submitX402Erc20Payment, hrequest]⟩
      | broadcast hash =>
        cases hash with
        | ok hash =>
          exact .inr (.inl ⟨some (transferReceipt request hash),
            by simp only [submitX402Erc20Payment, hrequest]⟩)
        | error text => exact .inr (.inr ⟨request, text, rfl, rfl⟩)

/-! ## The invariant -/

/-- The stored payment, the pending submissions and the broadcasts agree: at most
one submission is pending, and only on an authorized or submitted payment of
this sender; nothing is broadcast before it calls the chain; and once something
is, the payment is submitted, or authorized with that submission pending. -/
structure RaceInv (agentDid paymentId : String) (pool : Pool Shared Pc)
    (t : PaymentTransaction) : Prop where
  stored : pool.shared.ledger.get paymentId = some t
  keyed : t.paymentId = paymentId
  single : ∀ i j p q, pool.threads i = some p → pool.threads j = some q →
    pending p = true → pending q = true → i = j
  owned : ∀ i p, pool.threads i = some p → pending p = true →
    t.senderDid = agentDid ∧ (t.status = .authorized ∨ t.status = .submitted)
  quiet : ∀ i p, pool.threads i = some p → unsent p = true → pool.shared.broadcasts = 0
  counted : pool.shared.broadcasts = 0 ∨ (pool.shared.broadcasts = 1
    ∧ (t.status = .submitted
      ∨ (t.status = .authorized ∧ ∃ i p, pool.threads i = some p ∧ sent p = true)))

section Steps

variable {agentDid paymentId : String} {pool : Pool Shared Pc} {t : PaymentTransaction} {p : Pc}

lemma pending_of_sent (h : sent p = true) : pending p = true := by
  rw [pending, h, Bool.true_or]

lemma pending_of_unsent (h : unsent p = true) : pending p = true := by
  rw [pending, h, Bool.or_true]

/-- With no submission pending and the payment not submitted, nothing has been
broadcast. -/
lemma RaceInv.silent (h : RaceInv agentDid paymentId pool t)
    (hnone : ∀ j q, pool.threads j = some q → pending q = false) (hs : t.status ≠ .submitted) :
    pool.shared.broadcasts = 0 := by
  rcases h.counted with h0 | ⟨-, h1 | ⟨-, i, p, hp, hsent⟩⟩
  · exact h0
  · exact absurd h1 hs
  · have hpending := pending_of_sent hsent
    rw [hnone i p hp] at hpending
    cases hpending

variable {i : Nat}

lemma threads_of_ended {s : Shared} {j : Nat} {q : Pc}
    (hq : (Pool.put ⟨s, pool.threads⟩ i none).threads j = some q) :
    j ≠ i ∧ pool.threads j = some q := by
  by_cases hj : j = i
  · subst hj
    rw [put_threads_self] at hq
    cases hq
  · rw [put_threads_of_ne _ hj] at hq
    exact ⟨hj, hq⟩

variable (h : RaceInv agentDid paymentId pool t)

include h

/-- A handler's last step writes the ledger: it leaves the payment alone (and if it
has broadcast, finds it submitted), or submits an authorized payment, or no
submission is pending and the payment is not submitted. -/
lemma RaceInv.write {ledger' : PaymentLedger}
    {t' : PaymentTransaction} (hget : ledger'.get paymentId = some t')
    (hid : t'.paymentId = t.paymentId) (hsender : t'.senderDid = t.senderDid)
    (hmove : (t' = t ∧ ∀ p, pool.threads i = some p → sent p = true → t.status = .submitted)
      ∨ (t.status = .authorized ∧ t'.status = .submitted)
      ∨ ((∀ j q, pool.threads j = some q → pending q = false) ∧ t.status ≠ .submitted)) :
    RaceInv agentDid paymentId
      (Pool.put ⟨{ pool.shared with ledger := ledger' }, pool.threads⟩ i none) t' where
  stored := hget
  keyed := hid.trans h.keyed
  single j k q r hq hr :=
    h.single j k q r (threads_of_ended hq).2 (threads_of_ended hr).2
  owned j q hq hpending := by
    have hq' := (threads_of_ended hq).2
    rcases hmove with ⟨rfl, -⟩ | ⟨-, hsubmitted⟩ | ⟨hnone, -⟩
    · exact h.owned j q hq' hpending
    · exact ⟨hsender.trans (h.owned j q hq' hpending).1, .inr hsubmitted⟩
    · rw [hnone j q hq'] at hpending
      cases hpending
  quiet j q hq := h.quiet j q (threads_of_ended hq).2
  counted := by
    rcases hmove with ⟨rfl, hsent⟩ | ⟨-, hsubmitted⟩ | ⟨hnone, hs⟩
    · rcases h.counted with h0 | ⟨h1, hs | ⟨ha, k, q, hq, hk⟩⟩
      · exact .inl h0
      · exact .inr ⟨h1, .inl hs⟩
      · -- the submission that broadcast is another one, or has found it submitted
        by_cases hki : k = i
        · subst hki
          exact .inr ⟨h1, .inl (hsent q hq hk)⟩
        · exact .inr ⟨h1, .inr ⟨ha, k, q, (put_threads_of_ne _ hki _).trans hq, hk⟩⟩
    · rcases h.counted with h0 | ⟨h1, -⟩
      · exact .inl h0
      · exact .inr ⟨h1, .inl hsubmitted⟩
    · exact .inl (h.silent hnone hs)

/-- The last step of a handler that runs a guarded operation under
`mutate_payment`. -/
lemma RaceInv.mutate {allowed : PaymentTransaction → Except String Unit}
    {refused : PaymentStatus → Bool}
    (text : String → PaymentStatus → String) (write : PaymentTransaction → PaymentTransaction)
    (hid : (write t).paymentId = t.paymentId) (hsender : (write t).senderDid = t.senderDid)
    (hthrough : allowed t = .ok () → refused t.status = false →
      (t.status = .authorized ∧ (write t).status = .submitted)
      ∨ ((∀ j q, pool.threads j = some q → pending q = false) ∧ t.status ≠ .submitted))
    (hstays : ¬ (allowed t = .ok () ∧ refused t.status = false) →
      ∀ p, pool.threads i = some p → sent p = true → t.status = .submitted) :
    ∃ t', RaceInv agentDid paymentId
      (Pool.put ⟨{ pool.shared with ledger := (mutatePayment pool.shared.ledger paymentId allowed
        fun payment => pool.shared.ledger.withRecord payment.paymentId
          (guarded refused (text payment.paymentId) write)).2 }, pool.threads⟩ i none) t' := by
  have hget := get_mutatePayment h.stored h.keyed allowed fun id => guarded refused (text id) write
  rw [guarded_snd] at hget
  by_cases hgoes : allowed t = .ok () ∧ refused t.status = false
  · rw [if_pos hgoes.1, if_neg (by rw [hgoes.2]; decide)] at hget
    exact ⟨write t, h.write hget hid hsender (.inr (hthrough hgoes.1 hgoes.2))⟩
  · have hsame : (if allowed t = .ok () then if refused t.status then t else write t else t) = t := by
      by_cases hallowed : allowed t = .ok ()
      · rw [if_pos hallowed, if_pos (by simpa [hallowed] using hgoes)]
      · rw [if_neg hallowed]
    rw [hsame] at hget
    exact ⟨t, h.write hget rfl rfl (.inl ⟨rfl, hstays hgoes⟩)⟩

lemma RaceInv.leave (hsent : ∀ p, pool.threads i = some p → sent p = false) :
    RaceInv agentDid paymentId (pool.put i none) t := by
  refine h.write h.stored rfl rfl (.inl ⟨rfl, fun p hp hs => ?_⟩)
  rw [hsent p hp] at hs
  cases hs

/-- A handler that moves on to a step that is not pending, or becomes the only
pending one before its broadcast. -/
lemma RaceInv.advance {next : Pc}
    (hold : ∀ p, pool.threads i = some p → sent p = false) (hnext : sent next = false)
    (honly : unsent next = true → t.senderDid = agentDid
      ∧ (t.status = .authorized ∨ t.status = .submitted) ∧ pool.shared.broadcasts = 0
      ∧ ∀ j q, j ≠ i → pool.threads j = some q → pending q = false) :
    RaceInv agentDid paymentId (pool.put i (some next)) t := by
  have hpending : pending next = unsent next := by rw [pending, hnext, Bool.false_or]
  -- every handler is the one that moved or was there before
  have hthreads : ∀ j q, (pool.put i (some next)).threads j = some q →
      (j = i ∧ q = next) ∨ (j ≠ i ∧ pool.threads j = some q) := by
    intro j q hq
    by_cases hj : j = i
    · subst hj
      rw [put_threads_self] at hq
      exact .inl ⟨rfl, (some.inj hq).symm⟩
    · rw [put_threads_of_ne _ hj] at hq
      exact .inr ⟨hj, hq⟩
  refine ⟨h.stored, h.keyed, ?_, ?_, ?_, ?_⟩
  · intro j k q r hq hr hqp hrp
    rcases hthreads j q hq with ⟨rfl, rfl⟩ | ⟨hj, hq'⟩ <;>
      rcases hthreads k r hr with ⟨rfl, rfl⟩ | ⟨hk, hr'⟩
    · rfl
    · rw [(honly (hpending ▸ hqp)).2.2.2 k r hk hr'] at hrp
      cases hrp
    · rw [(honly (hpending ▸ hrp)).2.2.2 j q hj hq'] at hqp
      cases hqp
    · exact h.single j k q r hq' hr' hqp hrp
  · intro j q hq hqp
    rcases hthreads j q hq with ⟨rfl, rfl⟩ | ⟨-, hq'⟩
    · obtain ⟨hsender, hstatus, -⟩ := honly (hpending ▸ hqp)
      exact ⟨hsender, hstatus⟩
    · exact h.owned j q hq' hqp
  · intro j q hq hqu
    rcases hthreads j q hq with ⟨rfl, rfl⟩ | ⟨-, hq'⟩
    · exact (honly hqu).2.2.1
    · exact h.quiet j q hq' hqu
  · rcases h.counted with h0 | ⟨h1, hs | ⟨ha, k, q, hq, hk⟩⟩
    · exact .inl h0
    · exact .inr ⟨h1, .inl hs⟩
    · have hki : k ≠ i := by
        rintro rfl
        rw [hold q hq] at hk
        cases hk
      exact .inr ⟨h1, .inr ⟨ha, k, q, (put_threads_of_ne _ hki _).trans hq, hk⟩⟩

lemma RaceInv.broadcast
    (hp : pool.threads i = some p) (hunsent : unsent p = true) (receipt : Option JsonValue) :
    RaceInv agentDid paymentId
      (Pool.put ⟨{ pool.shared with broadcasts := pool.shared.broadcasts + 1 }, pool.threads⟩ i
        (some (.record receipt .broadcast))) t := by
  have hpending := pending_of_unsent hunsent
  obtain ⟨hsender, hstatus⟩ := h.owned i p hp hpending
  have hzero := h.quiet i p hp hunsent
  -- no other submission is pending, so only this one is in the new pool
  have honly : ∀ j q, (Pool.put ⟨{ pool.shared with
      broadcasts := pool.shared.broadcasts + 1 }, pool.threads⟩ i
        (some (.record receipt .broadcast))).threads j = some q →
      pending q = true → j = i ∧ q = .record receipt .broadcast := by
    intro j q hq hqp
    by_cases hj : j = i
    · subst hj
      rw [put_threads_self] at hq
      exact ⟨rfl, (some.inj hq).symm⟩
    · rw [put_threads_of_ne _ hj] at hq
      exact absurd (h.single j i q p hq hp hqp hpending) hj
  refine ⟨h.stored, h.keyed, ?_, ?_, ?_, ?_⟩
  · intro j k q r hq hr hqp hrp
    rw [(honly j q hq hqp).1, (honly k r hr hrp).1]
  · exact fun _ _ _ _ => ⟨hsender, hstatus⟩
  · intro j q hq hqu
    rw [(honly j q hq (pending_of_unsent hqu)).2] at hqu
    cases hqu
  · refine .inr ⟨by show pool.shared.broadcasts + 1 = 1; rw [hzero], ?_⟩
    rcases hstatus with ha | hs
    · exact .inr ⟨ha, i, _, put_threads_self .., rfl⟩
    · exact .inl hs

omit h in
lemma sent_of_at (hp : pool.threads i = some p) (hsent : sent p = false) :
    ∀ q, pool.threads i = some q → sent q = false := by
  intro q hq
  obtain rfl := mem_unique hq hp
  exact hsent

/-- The pool after handler `i` takes the step `p`. -/
abbrev executed (agentDid paymentId : String) (reply : ChainReply) (pool : Pool Shared Pc) (i : Nat)
    (p : Pc) : Pool Shared Pc :=
  Pool.put ⟨(exec agentDid paymentId reply pool.shared p).1, pool.threads⟩ i
    (exec agentDid paymentId reply pool.shared p).2

lemma RaceInv.record (i : Nat) (reply : ChainReply)
    (receipt : Option JsonValue) (origin : Origin) : ∃ t', RaceInv agentDid paymentId
      (executed agentDid paymentId reply pool i (.record receipt origin)) t' := by
  refine h.mutate
    (fun id status => s!"payment {id} is not in authorized state (current: {status.debug})")
    (fun t => { t with status := .submitted, settlementReceipt := receipt }) rfl rfl ?_ ?_
  · intro _ hs
    exact .inl ⟨by simpa using hs, rfl⟩
  · -- a submission that has broadcast is the sender's, so only the status can refuse it
    intro hrefused q hq hsent
    obtain ⟨hsender, ha | hs⟩ := h.owned i q hq (pending_of_sent hsent)
    · refine absurd ⟨?_, by simp [ha]⟩ hrefused
      exact (ensureSenderControlsPayment_ok_iff agentDid t).mpr hsender
    · exact hs

variable {reply : ChainReply} (horderly : orderly agentDid paymentId pool (.exec i reply))

include horderly

lemma RaceInv.snapshot (hp : pool.threads i = some .snapshot) :
    RaceInv agentDid paymentId (executed agentDid paymentId reply pool i .snapshot) t := by
  have hold := sent_of_at hp rfl
  cases hsnapshot : paymentSnapshotForSubmit agentDid pool.shared.ledger paymentId with
  | error text =>
    simp only [executed, exec, hsnapshot]
    exact h.leave hold
  | ok current =>
    simp only [executed, exec, hsnapshot]
    obtain ⟨hsender, hstatus⟩ := snapshot_ok h.stored hsnapshot
    have hnone := horderly _ hp t h.stored hsender hstatus
    have hzero := h.silent hnone (by rw [hstatus]; decide)
    exact h.advance hold rfl fun _ => ⟨hsender, .inl hstatus, hzero, fun j q _ hq => hnone j q hq⟩

lemma RaceInv.chainCall {current : PaymentTransaction}
    (hp : pool.threads i = some (.chainCall current)) : RaceInv agentDid paymentId
      (executed agentDid paymentId reply pool i (.chainCall current)) t := by
  have hunsent : unsent (.chainCall current) = true := rfl
  have hpending := pending_of_unsent hunsent
  rcases chainCall_cases current reply with ⟨result, hcall⟩ | ⟨receipt, hcall⟩
    | ⟨request, text, hrequest, hreply⟩
  · have hold := sent_of_at hp rfl
    cases result with
    | error text =>
      simp only [executed, exec, hcall]
      exact h.leave hold
    | ok receipt =>
      simp only [executed, exec, hcall]
      obtain ⟨hsender, hstatus⟩ := h.owned i _ hp hpending
      refine h.advance hold rfl
        fun _ => ⟨hsender, hstatus, h.quiet i _ hp hunsent, fun j q hj hq => ?_⟩
      by_contra hq'
      exact hj (h.single j i q _ hq hp (by simpa using hq') hpending)
  · simp only [executed, exec, hcall]
    exact h.broadcast hp hunsent receipt
  · exact absurd hreply (horderly _ hp t h.stored request text hrequest)

lemma RaceInv.cancel (hp : pool.threads i = some .cancel) :
    ∃ t', RaceInv agentDid paymentId (executed agentDid paymentId reply pool i .cancel) t' := by
  refine h.mutate (fun id status => s!"payment {id} cannot be cancelled in state {status.debug}")
    (fun t => { t with status := .cancelled }) rfl rfl ?_ ?_
  · intro hallowed hs
    have hstatus : t.status = .proposed ∨ t.status = .authorized := by
      simpa [or_iff_not_imp_left] using hs
    have hsender := (ensureSenderControlsPayment_ok_iff agentDid t).mp hallowed
    refine .inr ⟨horderly _ hp t h.stored hsender hstatus, ?_⟩
    rcases hstatus with h' | h' <;> rw [h'] <;> decide
  · intro _ q hq hsent
    rw [sent_of_at hp rfl q hq] at hsent
    cases hsent

lemma RaceInv.reject {reason : String} (hp : pool.threads i = some (.reject reason)) :
    ∃ t', RaceInv agentDid paymentId
      (executed agentDid paymentId reply pool i (.reject reason)) t' := by
  refine h.mutate (fun id status => s!"payment {id} cannot be rejected in state {status.debug}")
    (fun t => { t with status := .rejected, rejectReason := some reason }) rfl rfl ?_ ?_
  · intro hallowed hs
    have hrecipient := (ensureRecipientControlsPayment_ok_iff agentDid t).mp hallowed
    obtain ⟨hs', hnone⟩ := horderly _ hp t h.stored hrecipient (by simpa using hs)
    exact .inr ⟨hnone, hs'⟩
  · intro _ q hq hsent
    rw [sent_of_at hp rfl q hq] at hsent
    cases hsent

/-- **ONE STEP OF A HANDLER** keeps the invariant in an orderly run. -/
lemma raceInv_exec (hp : pool.threads i = some p) :
    ∃ t', RaceInv agentDid paymentId (executed agentDid paymentId reply pool i p) t' := by
  cases p with
  | snapshot => exact ⟨t, h.snapshot horderly hp⟩
  | chainCall current => exact ⟨t, h.chainCall horderly hp⟩
  | record receipt origin => exact h.record i reply receipt origin
  | cancel => exact h.cancel horderly hp
  | reject reason => exact h.reject horderly hp

omit horderly in
lemma raceInv_step {ev : Event Request ChainReply Empty}
    (horderly : orderly agentDid paymentId pool ev) :
    ∃ t', RaceInv agentDid paymentId ((requests agentDid paymentId).step pool ev) t' := by
  have hsteps := step_cases (requests agentDid paymentId) pool ev
  revert hsteps
  generalize (requests agentDid paymentId).step pool ev = next
  intro hsteps
  cases hsteps with
  | same => exact ⟨t, h⟩
  | spawn i q hfree =>
    have hfresh : ∀ p, pool.threads i = some p → sent p = false := by
      intro p hp
      rw [hfree] at hp
      cases hp
    have hstart : sent (start q) = false ∧ unsent (start q) = false := by
      cases q with
      | submit receipt => cases receipt <;> exact ⟨rfl, rfl⟩
      | cancel => exact ⟨rfl, rfl⟩
      | reject reason => exact ⟨rfl, rfl⟩
    refine ⟨t, h.advance hfresh hstart.1 fun hunsent => ?_⟩
    exact nomatch hstart.2.symm.trans hunsent
  | exec i reply p hp => exact raceInv_exec h horderly hp
  | stop i => exact ⟨t, h.leave horderly⟩
  | env x => cases x

end Steps

/-! ## Runs -/

/-- **AT MOST ONE TRANSFER**: however submissions, cancellations and rejections of a
stored payment interleave, as long as the run is orderly at most one transfer is
broadcast, and none for a payment that is cancelled or rejected. -/
theorem single_transfer (ledger : PaymentLedger) (t : PaymentTransaction)
    (hstored : ledger.get t.paymentId = some t) (events : List (Event Request ChainReply Empty))
    (horderly : AllSteps (requests agentDid t.paymentId).step (orderly agentDid t.paymentId)
      (Pool.idle ⟨ledger, 0⟩) events) : Always (requests agentDid t.paymentId).step
      (fun pool => pool.shared.broadcasts ≤ 1 ∧ ∀ u, pool.shared.ledger.get t.paymentId = some u →
          u.status = .cancelled ∨ u.status = .rejected → pool.shared.broadcasts = 0)
      (Pool.idle ⟨ledger, 0⟩) events := by
  have hidle : RaceInv agentDid t.paymentId (Pool.idle ⟨ledger, 0⟩) t :=
    ⟨hstored, rfl, fun _ _ _ _ h => (nomatch h), fun _ _ h => (nomatch h),
      fun _ _ h => (nomatch h), .inl rfl⟩
  have hrun := always_of_inv (P := fun pool => ∃ u, RaceInv agentDid t.paymentId pool u)
    (fun pool ev h hev => raceInv_step h.choose_spec hev) ⟨t, hidle⟩ horderly
  intro pre post hevents
  obtain ⟨u, hinv⟩ := hrun pre post hevents
  rcases hinv.counted with h0 | ⟨h1, hopen⟩
  · exact ⟨by rw [h0]; decide, fun _ _ _ => h0⟩
  · refine ⟨h1.le, fun v hv hclosed => ?_⟩
    obtain rfl := mem_unique hinv.stored hv
    -- a broadcast leaves the payment submitted or authorized
    rcases hopen with hs | ⟨ha, -⟩ <;> rcases hclosed with h' | h'
    · rw [hs] at h'; cases h'
    · rw [hs] at h'; cases h'
    · rw [ha] at h'; cases h'
    · rw [ha] at h'; cases h'

/-- An authorized payment with well-formed chain addresses. -/
def chainPayment : PaymentTransaction :=
  { toyAuthorized with
    senderAddress := some "0x1111111111111111111111111111111111111111"
    recipientAddress := some "0x2222222222222222222222222222222222222222" }

def chainPool : Pool Shared Pc := Pool.idle ⟨PaymentLedger.empty.put "payment-1" chainPayment, 0⟩

def mined : ChainReply :=
  .broadcast (.ok "0x89c91c789e57059b17285e7ba1716a1f5ff4c5dace0ea5a5135f26158d0421b9")

/-- A submission, and after its record a second one and a cancellation. -/
def orderlyRequests : List (Event Request ChainReply Empty) :=
  [.spawn 0 (.submit none), .exec 0 mined, .exec 0 mined, .exec 0 mined,
   .spawn 1 (.submit none), .exec 1 mined, .spawn 2 .cancel, .exec 2 mined]

/-- The pool after the first `n` of these events. -/
def orderlyPool (n : Nat) : Pool Shared Pc :=
  run (requests "did:alice" "payment-1").step chainPool (orderlyRequests.take n)

/-- The first submission broadcasts the one transfer; what comes later finds the payment
submitted. -/
theorem single_transfer_orderlyRequests : (orderlyPool 8).shared.broadcasts = 1
    ∧ Always (requests "did:alice" "payment-1").step (fun pool => pool.shared.broadcasts ≤ 1
          ∧ ∀ u, pool.shared.ledger.get "payment-1" = some u →
            u.status = .cancelled ∨ u.status = .rejected → pool.shared.broadcasts = 0)
        chainPool orderlyRequests := by
  refine ⟨by decide +kernel, single_transfer "did:alice" _ chainPayment (by decide +kernel)
    orderlyRequests ⟨trivial, ?_, ?_, ?_, trivial, ?_, trivial, ?_, trivial⟩⟩
  · intro p hp u _
    obtain rfl : p = .snapshot := (some.inj hp).symm
    intro _ _ j q hq
    by_cases hj : j = 0
    · subst hj
      obtain rfl : q = .snapshot := (some.inj hq).symm
      rfl
    · exact nomatch (put_threads_of_ne (Pool.idle _) hj _).symm.trans hq
  · intro p hp u _
    have hcall : (orderlyPool 2).threads 0 = some (.chainCall chainPayment) := by decide +kernel
    obtain rfl := mem_unique hcall hp
    exact fun _ _ _ h => nomatch h
  · intro p hp u _
    have hsent : ((orderlyPool 3).threads 0).any sent = true := by decide +kernel
    rw [show (orderlyPool 3).threads 0 = some p from hp] at hsent
    cases p with
    | record => exact trivial
    | snapshot | chainCall | cancel | reject => cases hsent
  · intro p hp u hu
    have hlook : (orderlyPool 5).threads 1 = some .snapshot := by decide +kernel
    have hstatus : ((orderlyPool 5).shared.ledger.get "payment-1").map (·.status)
        = some .submitted := by decide +kernel
    obtain rfl := mem_unique hlook hp
    rw [show (orderlyPool 5).shared.ledger.get "payment-1" = some u from hu] at hstatus
    exact fun _ hopen => nomatch hopen.symm.trans (some.inj hstatus)
  · intro p hp u hu
    have hcancel : (orderlyPool 7).threads 2 = some .cancel := by decide +kernel
    have hstatus : ((orderlyPool 7).shared.ledger.get "payment-1").map (·.status)
        = some .submitted := by decide +kernel
    obtain rfl := mem_unique hcancel hp
    rw [show (orderlyPool 7).shared.ledger.get "payment-1" = some u from hu] at hstatus
    rintro _ (hopen | hopen)
    · exact nomatch hopen.symm.trans (some.inj hstatus)
    · exact nomatch hopen.symm.trans (some.inj hstatus)

/-- Two submissions that both look before either records. -/
def doubleSubmission : List (Event Request ChainReply Empty) :=
  [.spawn 0 (.submit none), .spawn 1 (.submit none), .exec 0 mined, .exec 1 mined,
   .exec 0 mined, .exec 1 mined]

/-- A cancellation between the look and the broadcast of a submission. -/
def cancelledSubmission : List (Event Request ChainReply Empty) :=
  [.spawn 0 (.submit none), .exec 0 mined, .spawn 1 .cancel, .exec 1 mined, .exec 0 mined]

/-- Two transfers for one payment, and a transfer for a cancelled payment. -/
theorem transfers_race :
    (run (requests "did:alice" "payment-1").step chainPool doubleSubmission).shared.broadcasts = 2
    ∧ (run (requests "did:alice" "payment-1").step chainPool
        cancelledSubmission).shared.broadcasts = 1
    ∧ ((run (requests "did:alice" "payment-1").step chainPool
        cancelledSubmission).shared.ledger.get "payment-1").map (·.status) = some .cancelled := by
  decide +kernel

end WattRace
