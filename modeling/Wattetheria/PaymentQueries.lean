import Wattetheria.PaymentLedger

/-!
# Queries on the payment ledger

`summary` counts the payments by status and adds up what was settled; `query` lists the
payments a filter accepts, the last proposed first, and `list_agent_payments` what of them a
caller may see.  The limit of a query is applied before the caller is looked at.
-/

namespace WattLedger

open WattText WattPayment Option

/-! ## The summary -/

variable (ledger : PaymentLedger)

/-- `PaymentLedger::all`: the payments in the order of their ids. -/
def PaymentLedger.all : List PaymentTransaction :=
  ledger.payments.toList.map Prod.snd

/-- Counts by status, and amounts settled. -/
structure PaymentSummary where
  totalProposed : Nat := 0
  totalAuthorized : Nat := 0
  totalSettled : Nat := 0
  totalRejected : Nat := 0
  totalCancelled : Nat := 0
  totalExpired : Nat := 0
  totalAmountSettled : Std.ExtTreeMap String String := ∅

/-- One turn of the loop of `summary`; the sum of two `u128` wraps. -/
def PaymentSummary.add (summary : PaymentSummary) (payment : PaymentTransaction) : PaymentSummary :=
  match payment.status with
  | .proposed => { summary with totalProposed := summary.totalProposed + 1 }
  | .authorized => { summary with totalAuthorized := summary.totalAuthorized + 1 }
  | .submitted => summary
  | .settled =>
    let entry := summary.totalAmountSettled.getD payment.currency "0"
    let total := match parseU128 entry, parseU128 payment.amount with
      | some current, some add => toString ((current + add) % 2 ^ 128)
      | _, _ => entry
    { summary with
      totalSettled := summary.totalSettled + 1
      totalAmountSettled := summary.totalAmountSettled.insert payment.currency total }
  | .rejected => { summary with totalRejected := summary.totalRejected + 1 }
  | .expired => { summary with totalExpired := summary.totalExpired + 1 }
  | .cancelled => { summary with totalCancelled := summary.totalCancelled + 1 }

/-- The summary of all payments. -/
def PaymentLedger.summary : PaymentSummary :=
  ledger.all.foldl PaymentSummary.add {}

/-- The payments counted. -/
def PaymentSummary.counted (summary : PaymentSummary) : Nat :=
  summary.totalProposed + summary.totalAuthorized + summary.totalSettled + summary.totalRejected
    + summary.totalCancelled + summary.totalExpired

variable (currency : String) (payments : List PaymentTransaction)

/-- The amounts of the settled payments in a currency. -/
def settledAmounts : List String :=
  (payments.filter fun t => t.status = .settled && t.currency = currency).map (·.amount)

/-- The sum of amounts, if all of them are numbers. -/
def exactSum : List String → Option Nat
  | [] => some 0
  | amount :: amounts => do
    let n ← parseU128 amount
    let rest ← exactSum amounts
    some (n + rest)

lemma sum_of_exactSum : ∀ {amounts : List String} {n : Nat}, exactSum amounts = some n →
    (amounts.filterMap parseU128).sum = n
  | [], _, h => some.inj h
  | amount :: amounts, n, h => by
    obtain ⟨first, hfirst, h⟩ := bind_eq_some_iff.mp h
    obtain ⟨rest, hrest, h⟩ := bind_eq_some_iff.mp h
    rw [List.filterMap_cons_some hfirst, List.sum_cons, sum_of_exactSum hrest]
    exact some.inj h

lemma counted_foldl (summary : PaymentSummary) : (payments.foldl PaymentSummary.add summary).counted
      = summary.counted + payments.countP fun t => t.status ≠ .submitted := by
  induction payments generalizing summary with
  | nil => rfl
  | cons t payments ih =>
    rw [List.foldl_cons, ih, List.countP_cons]
    unfold PaymentSummary.add PaymentSummary.counted
    cases hstatus : t.status <;> simp <;> omega

/-- **EVERY TURN** leaves the total of a currency what was settled so far, as far as its
amounts are numbers, modulo `2 ^ 128`. -/
lemma total_foldl : (payments.foldl PaymentSummary.add {}).totalAmountSettled.getD currency "0"
      = toString (((settledAmounts currency payments).filterMap parseU128).sum % 2 ^ 128) := by
  induction payments using List.reverseRecOn with
  | nil =>
    show (∅ : Std.ExtTreeMap String String).getD currency "0" = toString (0 % 2 ^ 128)
    rw [Std.ExtTreeMap.getD_empty]
    decide +kernel
  | append_singleton payments t ih =>
    rw [List.foldl_append, List.foldl_cons, List.foldl_nil, settledAmounts, List.filter_append,
      List.map_append, List.filterMap_append, List.sum_append]
    by_cases hsettled : t.status = .settled
    · simp only [PaymentSummary.add, hsettled, Std.ExtTreeMap.getD_insert]
      by_cases hcurrency : t.currency = currency
      · have hlt := Nat.mod_lt
          ((settledAmounts currency payments).filterMap parseU128).sum (Nat.two_pow_pos 128)
        rw [hcurrency, ih, parseU128_toString hlt]
        cases hamount : parseU128 t.amount with
        | none => simp [hsettled, hcurrency, hamount, settledAmounts]
        | some add => simp [hsettled, hcurrency, hamount, settledAmounts, Nat.mod_add_mod]
      · simp [hcurrency, ih, settledAmounts]
    · have hsame : ((payments.foldl PaymentSummary.add {}).add t).totalAmountSettled
          = (payments.foldl PaymentSummary.add {}).totalAmountSettled := by
        unfold PaymentSummary.add
        split <;> first | rfl | contradiction
      rw [hsame, ih]
      simp [hsettled, settledAmounts]

/-- **THE SUMMARY** has every payment in one bucket and every total exact, exactly when no
payment is `Submitted` and, currency by currency, the settled amounts are numbers with a
sum below `2 ^ 128`. -/
theorem summary_exact_iff : (ledger.summary.counted = ledger.all.length
        ∧ ∀ currency, ∃ n, exactSum (settledAmounts currency ledger.all) = some n
          ∧ ledger.summary.totalAmountSettled.getD currency "0" = toString n)
      ↔ (∀ t ∈ ledger.all, t.status ≠ .submitted)
        ∧ ∀ currency, ∃ n < 2 ^ 128, exactSum (settledAmounts currency ledger.all) = some n := by
  unfold PaymentLedger.summary
  refine and_congr ?_ (forall_congr' fun currency => exists_congr fun n => ?_)
  · rw [counted_foldl, show PaymentSummary.counted {} = 0 from rfl, Nat.zero_add,
      List.countP_eq_length]
    simp
  · rw [total_foldl, and_comm]
    refine and_congr_left fun hexact => ?_
    rw [sum_of_exactSum hexact]
    constructor
    · intro h
      rw [← Nat.repr_injective h]
      exact Nat.mod_lt _ (Nat.two_pow_pos 128)
    · intro hlt
      rw [Nat.mod_eq_of_lt hlt]

def twoPayments (status : PaymentStatus) (amount : String) : PaymentLedger :=
  (PaymentLedger.empty.put "a" { toyPayment with status, amount }).put "b"
    { toyPayment with status, amount }

/-- Submitted payments are in no bucket, amounts that are no numbers are not added, and a sum
of `2 ^ 128` wraps to 0. -/
theorem summary_leaves_out :
    (twoPayments .submitted "5").all.length = 2 ∧ (twoPayments .submitted "5").summary.counted = 0
      ∧ (∀ amount ∈ ["2.5", "170141183460469231731687303715884105728"],
          (twoPayments .settled amount).summary.totalAmountSettled.getD "USDC" "" = "0") := by
  decide +kernel

/-! ## Pages -/

/-- A filter. -/
structure PaymentQuery where
  status : Option PaymentStatus
  (senderDid recipientDid senderPublicId recipientPublicId remoteNodeId missionId taskId rail
    : Option String)
  since : Option Int
  limit : Option Nat

/-- The filter of `query`. -/
def PaymentQuery.accepts (query : PaymentQuery) (payment : PaymentTransaction) : Bool :=
  query.status.all (payment.status = ·) && query.senderDid.all (payment.senderDid = ·)
    && query.recipientDid.all (payment.recipientDid = ·)
    && query.senderPublicId.all (payment.senderPublicId = ·)
    && query.recipientPublicId.all (payment.recipientPublicId = ·)
    && query.remoteNodeId.all (payment.remoteNodeId = ·)
    && query.missionId.all (payment.missionId = some ·)
    && query.taskId.all (payment.taskId = some ·) && query.rail.all (payment.rail = ·)
    && query.since.all fun since => !decide (payment.proposedAt < since)

/-- What a query accepts, the last proposed first; the sort is stable. -/
def PaymentLedger.ordered (query : PaymentQuery) : List PaymentTransaction :=
  (ledger.all.filter query.accepts).insertionSort fun a b => b.proposedAt ≤ a.proposedAt

def PaymentLedger.cut (query : PaymentQuery) : Nat :=
  query.limit.getD (ledger.ordered query).length

/-- The payments a filter accepts. -/
def PaymentLedger.query (query : PaymentQuery) : List PaymentTransaction :=
  (ledger.ordered query).take (ledger.cut query)

/-- A caller's filter. -/
structure AgentPaymentsQuery where
  (counterpartPublicId displayName recipientAddress : Option String)
  status : Option PaymentStatus
  (role rail : Option String)
  limit : Option Nat

namespace AgentPaymentsQuery

variable (query : AgentPaymentsQuery) (publicId : String)

/-- What `list_agent_payments` asks the ledger for. -/
def toLedger : PaymentQuery where
  status := query.status
  senderDid := none
  recipientDid := none
  senderPublicId := if query.role = some "outbound" then some publicId else none
  recipientPublicId := if query.role = some "inbound" then some publicId else none
  remoteNodeId := none
  missionId := none
  taskId := none
  rail := query.rail
  since := none
  limit := query.limit

variable (payment : PaymentTransaction)

/-- The caller is a party. -/
def visible : Bool :=
  payment.senderPublicId = publicId || payment.recipientPublicId = publicId

def isWith (counterpart : String) : Bool :=
  payment.senderPublicId = counterpart || payment.recipientPublicId = counterpart

def paysTo (address : String) : Bool :=
  payment.recipientAddress.any (eqIgnoreAsciiCase · address)

variable (named : PaymentTransaction → String → Bool)

/-- `named` is what `payment_display_name_matches` answers. -/
def nameMatches (payment : PaymentTransaction) : Bool :=
  ((query.displayName.map trim).filter fun name => !isEmpty name).all (named payment)

/-- The filter of `list_agent_payments`; the address is not looked at beside a counterpart. -/
def keeps : Bool :=
  visible publicId payment && match query.counterpartPublicId, query.recipientAddress with
    | some counterpart, _ => isWith payment counterpart
    | none, some address => paysTo payment address
    | none, none => true

/-- The payment is visible to the caller and meets every filter. -/
def wants (payment : PaymentTransaction) : Bool :=
  visible publicId payment && query.counterpartPublicId.all (isWith payment)
    && query.recipientAddress.all (paysTo payment) && query.nameMatches named payment

end AgentPaymentsQuery

variable (publicId : String)

/-- The items of `list_agent_payments`. -/
def PaymentLedger.listAgentPayments
    (query : AgentPaymentsQuery) (named : PaymentTransaction → String → Bool) :
    List PaymentTransaction :=
  ((ledger.query (query.toLedger publicId)).filter (query.keeps publicId)).filter
    (query.nameMatches named)

def lastUpdate (t : PaymentTransaction) : Int :=
  max t.proposedAt (max (t.authorizedAt.getD t.proposedAt) (t.settledAt.getD t.proposedAt))

section Newest

variable {α : Type} {time : α → Int} {limit : Option Nat} {items page : List α}

/-- The page holds the newest of the items, as many as the limit allows. -/
def Newest (time : α → Int) (limit : Option Nat) (items page : List α) : Prop :=
  ∃ rest, (page ++ rest).Perm items ∧ (∀ k ∈ limit, page.length ≤ k)
    ∧ (rest ≠ [] → limit = some page.length) ∧ ∀ a ∈ rest, ∀ b ∈ page, time a ≤ time b

lemma Newest.congr {items' : List α} (h : items.Perm items') :
    Newest time limit items page ↔ Newest time limit items' page :=
  exists_congr fun _ => and_congr_left' ⟨fun hp => hp.trans h, fun hp => hp.trans h.symm⟩

/-- **CUTTING BEFORE FILTERING** gives the newest items exactly when the first ones pass the
wider filter only with the narrower, and a wanted item is cut off only after wanted items
that are no older. -/
lemma newest_cut_iff {wants keeps : α → Bool} (hkeeps : ∀ a, wants a = true → keeps a = true) :
    Newest time limit (items.filter wants) ((items.take (limit.getD items.length)).filter keeps)
      ↔ (∀ b ∈ items.take (limit.getD items.length), keeps b = true → wants b = true)
        ∧ ∀ a ∈ items.drop (limit.getD items.length), wants a = true →
          ∀ b ∈ items.take (limit.getD items.length), wants b = true ∧ time a ≤ time b := by
  generalize hn : limit.getD items.length = n
  have hsplit : items.filter wants = (items.take n).filter wants ++ (items.drop n).filter wants := by
    rw [← List.filter_append, List.take_append_drop]
  -- with the same verdict on the first items, what is cut off is the rest
  have hsame : (∀ b ∈ items.take n, keeps b = true → wants b = true) →
      (items.take n).filter keeps = (items.take n).filter wants := fun h =>
    List.filter_congr fun b hb => Bool.eq_iff_iff.mpr ⟨h b hb, hkeeps b⟩
  constructor
  · rintro ⟨rest, hperm, -, hfull, htime⟩
    have hfirst : ∀ b ∈ items.take n, keeps b = true → wants b = true := fun b hb hkept =>
      (List.mem_filter.mp (hperm.subset
        (List.mem_append_left _ (List.mem_filter.mpr ⟨hb, hkept⟩)))).2
    refine ⟨hfirst, fun a ha hwanted b hb => ?_⟩
    rw [hsame hfirst] at hperm hfull htime
    rw [hsplit, List.perm_append_left_iff] at hperm
    have hrest : a ∈ rest := hperm.symm.subset (List.mem_filter.mpr ⟨ha, hwanted⟩)
    have hlimit := hfull (List.ne_nil_of_mem hrest)
    rw [hlimit, getD_some] at hn
    have hall : ((items.take n).filter wants).length = (items.take n).length :=
      le_antisymm (List.length_filter_le ..) ((List.length_take_le ..).trans hn.ge)
    have hb' := List.length_filter_eq_length_iff.mp hall b hb
    exact ⟨hb', htime a hrest b (List.mem_filter.mpr ⟨hb, hb'⟩)⟩
  · rintro ⟨hfirst, hcut⟩
    rw [hsame hfirst]
    refine ⟨(items.drop n).filter wants, hsplit ▸ .refl _, fun k hk => ?_, fun hrest => ?_, ?_⟩
    · rw [mem_def.mp hk, getD_some] at hn
      exact (List.length_filter_le ..).trans (hn ▸ List.length_take_le ..)
    · obtain ⟨a, ha⟩ := List.exists_mem_of_ne_nil _ hrest
      obtain ⟨ha, hwanted⟩ := List.mem_filter.mp ha
      have hlt : n < items.length := by
        by_contra hle
        rw [List.drop_eq_nil_of_le (not_lt.mp hle)] at ha
        cases ha
      rw [List.filter_eq_self.mpr fun b hb => (hcut a ha hwanted b hb).1,
        List.length_take_of_le hlt.le]
      cases limit with
      | none => exact absurd hn hlt.ne'
      | some k => exact congrArg some hn
    · intro a ha b hb
      obtain ⟨ha, hwanted⟩ := List.mem_filter.mp ha
      exact (hcut a ha hwanted b (List.mem_filter.mp hb).1).2

end Newest

lemma AgentPaymentsQuery.keeps_of_wants {query : AgentPaymentsQuery} {publicId : String}
    {named : PaymentTransaction → String → Bool} {payment : PaymentTransaction}
    (h : query.wants publicId named payment = true) :
    (query.nameMatches named payment && query.keeps publicId payment) = true := by
  unfold wants at h
  unfold keeps
  cases hcounterpart : query.counterpartPublicId <;> cases haddress : query.recipientAddress <;>
    simp_all

/-- **A PAGE OF PAYMENTS** holds the caller's latest payments that meet the filters, exactly when
none of the first payments of the query passes without meeting them, and a payment that
meets them is cut off only after payments that do too and were updated no earlier. -/
theorem listed_newest_iff (query : AgentPaymentsQuery)
    (named : PaymentTransaction → String → Bool) : Newest lastUpdate query.limit
        ((ledger.all.filter (query.toLedger publicId).accepts).filter (query.wants publicId named))
        (ledger.listAgentPayments publicId query named)
      ↔ (∀ b ∈ ledger.query (query.toLedger publicId),
          (query.nameMatches named b && query.keeps publicId b) = true →
            query.wants publicId named b = true)
        ∧ ∀ a ∈ (ledger.ordered (query.toLedger publicId)).drop
            (ledger.cut (query.toLedger publicId)), query.wants publicId named a = true →
          ∀ b ∈ ledger.query (query.toLedger publicId), query.wants publicId named b = true
            ∧ lastUpdate a ≤ lastUpdate b := by
  have hordered := List.perm_insertionSort (fun a b => b.proposedAt ≤ a.proposedAt)
    (ledger.all.filter (query.toLedger publicId).accepts)
  rw [Newest.congr (hordered.symm.filter _), PaymentLedger.listAgentPayments, List.filter_filter]
  exact newest_cut_iff fun _ => AgentPaymentsQuery.keeps_of_wants

/-- A payment of Alice's, and a later one between two others. -/
def strangersLater : PaymentLedger :=
  (PaymentLedger.empty.put "a" toyPayment).put "b"
    { toyPayment with senderPublicId := "carol", recipientPublicId := "dave", proposedAt := 200 }

def firstPage : AgentPaymentsQuery := ⟨none, none, none, none, none, none, some 1⟩

/-- The payment of others fills the page, and Alice's own is not listed. -/
theorem own_payment_pushed_out : ¬ Newest lastUpdate firstPage.limit
      ((strangersLater.all.filter (firstPage.toLedger toyPayment.senderPublicId).accepts).filter
        (firstPage.wants toyPayment.senderPublicId fun _ _ => true))
      (strangersLater.listAgentPayments toyPayment.senderPublicId firstPage fun _ _ => true) := by
  rw [show strangersLater.listAgentPayments _ _ _ = [] by decide +kernel,
    show List.filter _ _ = [toyPayment] by decide +kernel]
  rintro ⟨rest, hperm, -, hfull, -⟩
  have hrest : rest ≠ [] := by
    rintro rfl
    cases hperm.length_eq
  cases hfull hrest

end WattLedger
