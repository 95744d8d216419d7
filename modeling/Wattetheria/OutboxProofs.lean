import Wattetheria.EventStoreProofs
import Wattetheria.StepRuns

/-!
# Safety of the webhook outbox

Any number of workers call the store while time passes.  Beside the tables the state
here keeps the leases that workers hold.  A call may use a reading of the clock that is
older than the moment it runs, since it waits for the connection after reading it.

* there is one row for each occurrence and subscription (`pairs_step`);
* at most one unexpired lease is held on a row (`held_step`);
* a row that was delivered or given up stays as it is until it is deleted, except that a
  cancellation of its subscription may bring its expiry forward (`terminal_kept`).
-/

namespace WattOutbox

open WattRuns WattRows WattWebhooks EventDatabase List Table

/-! ## Workers and their leases -/

/-- A lease a worker holds. -/
structure Lease where
  (row token : String)
  deadline : Int

/-- The tables, the time and the leases held. -/
structure Outbox where
  db : EventDatabase
  clock : Int
  leases : List Lease

/-- Time passes, or somebody calls the store. -/
inductive OutboxOp where
  | wait (seconds : Nat)
  | call (call : StoreCall)

variable (db : EventDatabase)

/-- The lease a call grants. -/
def granted : StoreCall → Option Lease
  | .claimOutbox ownerId fingerprint now leaseUntil token kind =>
    (db.claimOutbox ownerId fingerprint now leaseUntil token kind).1.map fun item =>
      ⟨item.id, token, leaseUntil⟩
  | _ => none

variable (lease : Lease)

/-- The leases a call ends: those of the row it completes under the token. -/
def ends : StoreCall → Bool
  | .completeDelivery id token _ _ =>
    (db.outbox.rows.any fun row => holdsLease row id token)
      && lease.row == id && lease.token == token
  | _ => false

def hasRow : Bool :=
  db.outbox.rows.any fun row => row.id == lease.row

variable (s : Outbox)

/-- Time passes or a call is made. -/
def step : OutboxOp → Outbox
  | .wait seconds => { s with clock := s.clock + seconds }
  | .call call =>
    let db := (call.apply s.db).2
    { s with
      db
      leases := ((granted s.db call).toList
        ++ s.leases.filter fun lease => !ends s.db lease call).filter (hasRow db) }

variable (clock : Int)

def start : Outbox := ⟨.empty, clock, []⟩

/-- The clock reading of a call. -/
def reading : StoreCall → Option Int
  | .publish _ _ _ _ now | .claimOutbox _ _ now _ _ _ | .cancelSubscription _ _ now
  | .cancelSubscriptionsBySourceKind _ now | .cleanup now => some now
  | .getSubscription _ | .upsertSubscription _ | .deactivateSubscription _ _
  | .revokeCredentialsExcept _ _ | .completeDelivery _ _ _ _ => none

/-- A call uses a reading of the clock. -/
def readsClock : OutboxOp → Prop
  | .wait _ => True
  | .call call => ∀ now ∈ reading call, now ≤ s.clock

/-! ## One row for each occurrence and subscription -/

/-- The outbox holds no pair of an occurrence and a subscription twice. -/
def NodupPairs (outbox : Table OutboxRow) : Prop :=
  (outbox.rows.map fun row => (row.occurrenceId, row.subscriptionId)).Nodup

/-- So does that of a database. -/
def Pairs : Prop := NodupPairs db.outbox

variable {outbox : Table OutboxRow} {outbox' : Table OutboxRow}

lemma nodup_insertOutbox {row : OutboxRow}
    (h : NodupPairs outbox) (hinsert : insertOutbox row outbox = .ok outbox') :
    NodupPairs outbox' := by
  obtain ⟨hrows, -, hpair⟩ := insertOutbox_ok hinsert
  rw [NodupPairs, hrows, map_append, map_singleton]
  refine nodup_append_comm.mp (nodup_cons.mpr ⟨?_, h⟩)
  intro hmem
  obtain ⟨old, hold, heq⟩ := mem_map.mp hmem
  exact hpair old hold heq

lemma nodup_queueAll {occurrence : StoredOccurrence} {payload : List UInt8} {now : Int}
    {rowIds : Nat → String} {subscriptions : List StoredSubscription} {k : Nat}
    (h : NodupPairs outbox)
    (hqueue : queueAll occurrence payload now rowIds k subscriptions outbox = .ok outbox') :
    NodupPairs outbox' := by
  induction subscriptions generalizing k outbox with
  | nil =>
    cases hqueue
    exact h
  | cons subscription rest ih =>
    obtain ⟨next, hnext, hrest⟩ := WattText.bind_eq_ok.mp hqueue
    exact ih (nodup_insertOutbox h hnext) hrest

lemma pairs_update {which : OutboxRow → Bool} {change : OutboxRow → OutboxRow}
    (hkey : ∀ row, Row.key (change row) = Row.key row)
    (hpair : ∀ row, ((change row).occurrenceId, (change row).subscriptionId)
      = (row.occurrenceId, row.subscriptionId)) (h : NodupPairs outbox) :
    NodupPairs (outbox.update which change hkey) := by
  show ((outbox.rows.map _).map _).Nodup
  rw [map_map]
  refine (map_congr_left fun row _ => ?_).subst h
  show _ = (fun row : OutboxRow => (row.occurrenceId, row.subscriptionId))
    (if which row then change row else row)
  split
  · exact (hpair row).symm
  · rfl

variable {db : EventDatabase}

lemma pairs_cancelSubscription (id ownerId : String) (now : Int) (h : Pairs db) :
    Pairs (db.cancelSubscription id ownerId now) :=
  pairs_update (by intro _; rfl) (by intro _; rfl) h

lemma pairs_delete {gone : OutboxRow → Bool} (h : NodupPairs outbox) :
    NodupPairs (outbox.delete gone) :=
  h.sublist (filter_sublist.map _)

lemma pairs_apply (db : EventDatabase) (call : StoreCall) (h : Pairs db) :
    Pairs (call.apply db).2 := by
  have hdoes := does_apply db call
  generalize (call.apply db).2 = db' at hdoes
  cases hdoes with
  | nothing | subscribed | deactivated => exact h
  | published _ _ _ _ _ _ hpub => exact nodup_queueAll h hpub.queued
  | leased | completed => exact pairs_update (by intro _; rfl) (by intro _; rfl) h
  | cancelled id ownerId now => exact pairs_cancelSubscription id ownerId now h
  | revoked kind now =>
    exact List.foldlRecOn (motive := Pairs) _ _ h fun mid hmid row _ =>
      pairs_cancelSubscription row.id row.ownerId now hmid
  | cleaned now => exact pairs_delete (pairs_delete (pairs_delete h))

/-! ## One unexpired lease for each row -/

/-- The lease is the one written in the row. -/
def Matches (row : OutboxRow) (lease : Lease) : Prop :=
  row.id = lease.row ∧ row.leaseToken = some lease.token ∧ row.leaseUntil = some lease.deadline

/-- The leases that have not expired. -/
def running : List Lease :=
  s.leases.filter fun lease => decide (s.clock < lease.deadline)

/-- Every running lease is written in its row, and no row has two. -/
structure Held (s : Outbox) : Prop where
  written : ∀ lease ∈ running s, ∃ row ∈ s.db.outbox.rows, Matches row lease
  single : ((running s).map Lease.row).Nodup

lemma held_wait {s : Outbox} (seconds : Nat) (h : Held s) : Held (step s (.wait seconds)) := by
  have hsub : (running (step s (.wait seconds))).Sublist (running s) := by
    refine monotone_filter_right _ fun lease hlease => ?_
    have hlt : s.clock + seconds < lease.deadline := of_decide_eq_true hlease
    exact decide_eq_true (by omega)
  exact ⟨fun lease hlease => h.written lease (hsub.subset hlease), h.single.sublist (hsub.map _)⟩

variable {call : StoreCall} {lease : Lease}

/-- A running lease of another time stays written in its row, unless the call ends it or
deletes its row. -/
lemma matches_apply {clock : Int} {row row' : OutboxRow}
    (hreads : ∀ now ∈ reading call, now ≤ clock) (hrun : clock < lease.deadline)
    (hrow : row ∈ db.outbox.rows) (hmatch : Matches row lease)
    (hends : ends db lease call = false) (hrow' : row' ∈ (call.apply db).2.outbox.rows)
    (hid : row'.id = lease.row) : Matches row' lease := by
  obtain ⟨hlease, htoken, huntil⟩ := hmatch
  have hsame : ∀ old ∈ db.outbox.rows, old.id = lease.row → old = row := fun old hold heq =>
    eq_of_key hold hrow (heq.trans hlease.symm)
  cases comes_of_mem db call hrow' with
  | kept _ _ h =>
    obtain rfl := hsame row' h hid
    exact ⟨hid, htoken, huntil⟩
  | queued occurrence payload eventType rowIds now n subscription hsub hfresh =>
    exact absurd (hlease.trans hid.symm) (hfresh row hrow)
  | leased ownerId fingerprint now leaseUntil token kind old item hclaims =>
    -- an open row has no running lease
    obtain rfl := hsame old hclaims.mem hid
    have hopen := (rowOpen_iff.mp hclaims.rowOpen).2.2.1 lease.deadline huntil
    have hnow := hreads now rfl
    omega
  | completed id token result maxAttempts old h hholds =>
    obtain rfl := hsame old h hid
    have hany : (db.outbox.rows.any fun row => holdsLease row id token) = true :=
      any_eq_true.mpr ⟨old, h, hholds⟩
    unfold holdsLease at hholds
    simp only [Bool.and_eq_true, beq_iff_eq] at hholds
    obtain ⟨⟨hold, hheld⟩, -⟩ := hholds
    have hended : ends db lease (.completeDelivery id token result maxAttempts) = true := by
      have htok : lease.token = token := Option.mem_unique htoken hheld
      show ((db.outbox.rows.any fun row => holdsLease row id token)
        && lease.row == id && lease.token == token) = true
      rw [hany, ← hlease, hold, htok]
      simp
    rw [hended] at hends
    cases hends
  | shortened _ now old h =>
    obtain rfl := hsame old h hid
    exact ⟨hid, htoken, huntil⟩

lemma mem_granted (h : lease ∈ granted db call) : ∃ ownerId fingerprint now kind row item,
      call = .claimOutbox ownerId fingerprint now lease.deadline lease.token kind
        ∧ Claims db ownerId fingerprint now lease.token kind row item ∧ row.id = lease.row
        ∧ leasedRow row lease.token lease.deadline now ∈ (call.apply db).2.outbox.rows := by
  cases call with
  | claimOutbox ownerId fingerprint now leaseUntil token kind =>
    have h : (db.claimOutbox ownerId fingerprint now leaseUntil token kind).1.map
        (fun item => (⟨item.id, token, leaseUntil⟩ : Lease)) = some lease := h
    obtain ⟨found, hfound, hlease⟩ := Option.map_eq_some_iff.mp h
    subst hlease
    rcases claimOutbox_cases db ownerId fingerprint now leaseUntil token kind with
      hnone | ⟨row, item, hclaims, hsome⟩
    · rw [hnone] at hfound
      cases hfound
    · rw [hsome] at hfound
      obtain rfl := Option.some.inj hfound
      refine ⟨ownerId, fingerprint, now, kind, row, item, rfl, hclaims, hclaims.id.symm, ?_⟩
      show leasedRow row token leaseUntil now
        ∈ (db.claimOutbox ownerId fingerprint now leaseUntil token kind).2.outbox.rows
      rw [hsome]
      exact mem_update.mpr
        ⟨row, hclaims.mem, by rw [if_pos (beq_self_eq_true row.id)]⟩
  | _ => cases h

/-- The running leases after a call: the one it grants and running leases of before. -/
lemma mem_running_call {s : Outbox} (h : lease ∈ running (step s (.call call))) :
    (∃ row ∈ (call.apply s.db).2.outbox.rows, row.id = lease.row)
      ∧ (lease ∈ granted s.db call ∨ lease ∈ running s ∧ ends s.db lease call = false) := by
  obtain ⟨hmem, hrun⟩ := mem_filter.mp h
  obtain ⟨hmem, hhas⟩ := mem_filter.mp hmem
  refine ⟨?_, ?_⟩
  · obtain ⟨row, hrow, hid⟩ := any_eq_true.mp hhas
    exact ⟨row, hrow, beq_iff_eq.mp hid⟩
  · rcases mem_append.mp hmem with hmem | hmem
    · exact .inl (Option.mem_toList.mp hmem)
    · obtain ⟨hmem, hends⟩ := mem_filter.mp hmem
      exact .inr ⟨mem_filter.mpr ⟨hmem, hrun⟩, by simpa using hends⟩

lemma not_running_of_granted {s : Outbox} (h : Held s)
    (hreads : ∀ now ∈ reading call, now ≤ s.clock) (hgrant : lease ∈ granted s.db call) :
    lease.row ∉ (running s).map Lease.row := by
  intro hmem
  obtain ⟨other, hother, hrow⟩ := mem_map.mp hmem
  obtain ⟨row, hmem, hmatch⟩ := h.written other hother
  obtain ⟨ownerId, fingerprint, now, kind, picked, item, rfl, hclaims, hid, -⟩ :=
    mem_granted hgrant
  have hsame : picked = row :=
    eq_of_key hclaims.mem hmem (hid.trans (hrow.symm.trans hmatch.1.symm))
  subst hsame
  have hopen := (rowOpen_iff.mp hclaims.rowOpen).2.2.1 other.deadline hmatch.2.2
  have hnow := hreads now rfl
  have hlt : s.clock < other.deadline := of_decide_eq_true (mem_filter.mp hother).2
  omega

lemma held_call {s : Outbox} (h : Held s) (hreads : ∀ now ∈ reading call, now ≤ s.clock) :
    Held (step s (.call call)) := by
  refine ⟨fun lease hlease => ?_, ?_⟩
  · obtain ⟨⟨row', hrow', hid⟩, hgrant | ⟨hold, hends⟩⟩ := mem_running_call hlease
    · obtain ⟨ownerId, fingerprint, now, kind, row, item, rfl, hclaims, hrow, hleased⟩ :=
        mem_granted hgrant
      exact ⟨_, hleased, hrow, rfl, rfl⟩
    · obtain ⟨row, hrow, hmatch⟩ := h.written lease hold
      have hrun : s.clock < lease.deadline := of_decide_eq_true (mem_filter.mp hold).2
      exact ⟨row', hrow', matches_apply hreads hrun hrow hmatch hends hrow' hid⟩
  · -- the granted lease is on a row without a running one
    have hall : (((granted s.db call).toList ++ running s).map Lease.row).Nodup := by
      cases hgrant : granted s.db call with
      | none => exact h.single
      | some lease =>
        exact nodup_cons.mpr ⟨not_running_of_granted h hreads (by rw [hgrant]; rfl), h.single⟩
    refine hall.sublist (List.Sublist.map _ ?_)
    unfold running step
    rw [filter_filter, filter_append, filter_filter]
    refine List.Sublist.append filter_sublist ?_
    exact monotone_filter_right _ fun lease hlease => by
      simp only [Bool.and_eq_true] at hlease
      exact hlease.1.1

variable (op : OutboxOp)

lemma held_step (h : Held s) (hreads : readsClock s op) : Held (step s op) := by
  cases op with
  | wait seconds => exact held_wait seconds h
  | call call => exact held_call h hreads

lemma pairs_step (h : Pairs s.db) : Pairs (step s op).db := by
  cases op with
  | wait seconds => exact h
  | call call => exact pairs_apply s.db call h

/-! ## Rows that are done -/

/-- What an operation may do to a row that was delivered or given up. -/
def TerminalKept : Prop :=
  ∀ row ∈ s.db.outbox.rows, row.status.isTerminal = true →
    (∀ call lease, op = .call call → lease ∈ granted s.db call → lease.row ≠ row.id)
      ∧ ∀ row' ∈ (step s op).db.outbox.rows, row'.id = row.id →
          row' = row ∨ ∃ call now, op = .call call ∧ call.Cancels s.db row.subscriptionId now
            ∧ row' = { row with expiresAt := min row.expiresAt now }

lemma terminal_kept : TerminalKept s op := by
  intro row hrow hterminal
  refine ⟨?_, ?_⟩
  · rintro call lease rfl hgrant hid
    obtain ⟨ownerId, fingerprint, now, kind, picked, item, rfl, hclaims, hpicked, -⟩ :=
      mem_granted hgrant
    have hsame : picked = row := eq_of_key hclaims.mem hrow (hpicked.trans hid)
    have hopen := (rowOpen_iff.mp hclaims.rowOpen).1
    rw [hsame, hterminal] at hopen
    cases hopen
  · intro row' hrow' hid
    have hsame : ∀ old ∈ s.db.outbox.rows, old.id = row.id → old = row := fun old hold heq =>
      eq_of_key hold hrow heq
    cases op with
    | wait seconds => exact .inl (hsame row' hrow' hid)
    | call call =>
      cases comes_of_mem s.db call hrow' with
      | kept _ _ h => exact .inl (hsame row' h hid)
      | queued occurrence payload eventType rowIds now n subscription hsub hfresh =>
        exact absurd hid.symm (hfresh row hrow)
      | leased ownerId fingerprint now leaseUntil token kind old item hclaims =>
        obtain rfl := hsame old hclaims.mem hid
        have hopen := (rowOpen_iff.mp hclaims.rowOpen).1
        rw [hterminal] at hopen
        cases hopen
      | completed id token result maxAttempts old h hholds =>
        obtain rfl := hsame old h hid
        unfold holdsLease at hholds
        simp only [Bool.and_eq_true, beq_iff_eq] at hholds
        rw [hholds.2] at hterminal
        cases hterminal
      | shortened _ now old h hcancel =>
        obtain rfl := hsame old h hid
        exact .inr ⟨call, now, rfl, hcancel, rfl⟩

/-! ## Completion -/

/-- A row that `complete_delivery` changes is leased under the token it was given. -/
def CompletesOwn : Prop :=
  ∀ id token result maxAttempts, op = .call (.completeDelivery id token result maxAttempts) →
    ∀ row ∈ s.db.outbox.rows, row ∉ (step s op).db.outbox.rows →
      row.id = id ∧ row.status = .leased ∧ row.leaseToken = some token

lemma completes_own : CompletesOwn s op := by
  rintro id token result maxAttempts rfl row hrow hgone
  have hgone : row ∉ (s.db.completeDelivery id token result maxAttempts).2.outbox.rows := hgone
  unfold completeDelivery at hgone
  split at hgone
  · by_cases hholds : holdsLease row id token = true
    · unfold holdsLease at hholds
      simp only [Bool.and_eq_true, beq_iff_eq] at hholds
      exact ⟨hholds.1.1, hholds.2, hholds.1.2⟩
    · refine absurd ?_ hgone
      exact mem_update.mpr ⟨row, hrow, by rw [if_neg hholds]⟩
  · exact absurd hrow hgone

/-! ## Every run -/

/-- **OUTBOX SAFETY**: for every run of calls by any number of workers, each with a reading
of a clock that never goes back: in every state there is at most one row for each
occurrence and subscription and at most one unexpired lease for each row, and in every
step a row that was delivered or given up is not claimed and stays as it is until it is
deleted, up to a cancellation of its subscription that brings its expiry forward, and a
completion changes only a row leased under its token. -/
theorem outbox_safe (ops : List OutboxOp) (hreads : AllSteps step readsClock (start clock) ops) :
    Always step (fun s => Pairs s.db ∧ ((running s).map Lease.row).Nodup) (start clock) ops
      ∧ AllSteps step (fun s op => TerminalKept s op ∧ CompletesOwn s op) (start clock) ops := by
  refine ⟨?_, ?_⟩
  · have hinv : Always step (fun s => Pairs s.db ∧ Held s) (start clock) ops :=
      always_of_inv (fun s op h hop => ⟨pairs_step s op h.1, held_step s op h.2 hop⟩)
        ⟨nodup_nil, fun lease hlease => (nomatch hlease), nodup_nil⟩ hreads
    intro pre post hops
    exact ⟨(hinv pre post hops).1, (hinv pre post hops).2.single⟩
  · exact (allSteps_true (start clock) ops).mono fun s op _ =>
      ⟨terminal_kept s op, completes_own s op⟩

def sampleSubscription : StoredSubscription where
  id := "sub_1"
  sourceKind := "mcp_subscription"
  eventType := "*"
  targetAgentId := "owner"
  credentialFingerprint := "token"
  ownerId := "owner"
  callbackUrl := "https://callback.example/hook"
  callbackSecret := "whsec_1"
  oldCallbackSecret := none
  oldSecretExpiresAt := none
  expiresAt := none
  active := true

def sampleOccurrence : StoredOccurrence where
  id := "occ_1"
  eventId := "evt_1"
  ownerId := "owner"
  kind := "wattetheria.agent.dm"
  privateContentId := none
  expiresAt := 5000

/-- An event is queued, claimed and delivered; then the subscription is cancelled. -/
def deliveredThenCancelled : List OutboxOp :=
  [.call (.upsertSubscription sampleSubscription),
    .call (.publish sampleOccurrence [] "dm" (fun _ => "row_1") 100),
    .call (.claimOutbox "owner" "token" 100 130 "lease_1" (some "mcp_subscription")),
    .call (.completeDelivery "row_1" "lease_1" (.delivered 200 101) 20),
    .wait 7,
    .call (.cancelSubscription "sub_1" "owner" 107)]

theorem outbox_safe_delivered_then_cancelled :
    AllSteps step readsClock (start 100) deliveredThenCancelled
      ∧ AllSteps step (fun s op => TerminalKept s op ∧ CompletesOwn s op) (start 100)
          deliveredThenCancelled := by
  have hreads : AllSteps step readsClock (start 100) deliveredThenCancelled := by
    refine ⟨fun now h => (nomatch h), ?_, ?_, fun now h => (nomatch h), trivial, ?_, trivial⟩
    all_goals
      intro now h
      cases h
      decide
  exact ⟨hreads, (outbox_safe 100 deliveredThenCancelled hreads).2⟩

/-- The row is delivered, and the cancellation changes it all the same: it now expires at
107. -/
theorem delivered_row_changed :
    ((run step (start 100) (deliveredThenCancelled.take 5)).db.outbox.rows.map fun row =>
        (row.id, row.status, row.expiresAt)) = [("row_1", .delivered, 5000)]
      ∧ ((run step (start 100) deliveredThenCancelled).db.outbox.rows.map fun row =>
        (row.id, row.status, row.expiresAt)) = [("row_1", .delivered, 107)] := by
  decide +kernel

end WattOutbox
