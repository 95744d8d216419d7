import Wattetheria.EventStore

/-!
# What a call of the event store does

`Comes` lists where a row of the outbox comes from after a call: it was there, `publish`
queued it, a claim leased it, a completion released it or a cancellation shortened it.
`comes_of_mem` says that there is no other way, and every invariant of the outbox is a
case analysis of it.
-/

namespace WattWebhooks

open WattText WattRows Table List

namespace EventDatabase

/-! ## Lookup -/

variable {db : EventDatabase} {id : String}

lemma getSubscription_eq_some {row : StoredSubscription} :
    db.getSubscription id = some row ↔ row ∈ db.subscriptions.rows ∧ row.id = id := by
  unfold getSubscription
  constructor
  · intro h
    exact ⟨mem_of_find?_eq_some h, by simpa using List.find?_some h⟩
  · rintro ⟨hrow, rfl⟩
    cases hfind : db.subscriptions.rows.find? fun old => old.id == row.id with
    | none => exact absurd (List.find?_eq_none.mp hfind row hrow) (by simp)
    | some found =>
      have hid : found.id = row.id := by simpa using List.find?_some hfind
      rw [eq_of_key (mem_of_find?_eq_some hfind) hrow hid]

variable {now : Int} {expiresAt : Option Int}

lemma unexpired_iff : unexpired expiresAt now = true ↔ ∀ time ∈ expiresAt, now < time := by
  unfold unexpired
  cases expiresAt <;> simp

lemma unexpired_mono {now' : Int} (h : now' ≤ now)
    (hnow : unexpired expiresAt now = true) : unexpired expiresAt now' = true := by
  rw [unexpired_iff] at hnow ⊢
  exact fun time htime => lt_of_le_of_lt h (hnow time htime)

/-! ## Publication -/

variable {row : OutboxRow} {outbox outbox' : Table OutboxRow}

lemma insertOutbox_ok (h : insertOutbox row outbox = .ok outbox') :
    outbox'.rows = outbox.rows ++ [row] ∧ (∀ old ∈ outbox.rows, old.id ≠ row.id)
      ∧ ∀ old ∈ outbox.rows,
          (old.occurrenceId, old.subscriptionId) ≠ (row.occurrenceId, row.subscriptionId) := by
  unfold insertOutbox at h
  split at h
  · cases h
  · next hpair =>
      obtain ⟨hrows, hfresh⟩ := insertNew_eq_some (okOr_eq_ok.mp h)
      refine ⟨hrows, hfresh, fun old hold heq => hpair ?_⟩
      obtain ⟨hocc, hsub⟩ := Prod.mk.inj heq
      exact any_eq_true.mpr ⟨old, hold, by simp [hocc, hsub]⟩

/-- The rows a publication adds: one for each subscription, in order. -/
def queuedRows (occurrence : StoredOccurrence) (payload : List UInt8) (now : Int)
    (rowIds : Nat → String) : Nat → List StoredSubscription → List OutboxRow
  | _, [] => []
  | k, subscription :: rest =>
    queuedRow occurrence payload now (rowIds k) subscription.id
      :: queuedRows occurrence payload now rowIds (k + 1) rest

variable {occurrence : StoredOccurrence} {payload : List UInt8} {rowIds : Nat → String}
  {subscriptions : List StoredSubscription} {k : Nat}

lemma queueAll_rows
    (h : queueAll occurrence payload now rowIds k subscriptions outbox = .ok outbox') :
    outbox'.rows = outbox.rows ++ queuedRows occurrence payload now rowIds k subscriptions := by
  induction subscriptions generalizing k outbox with
  | nil =>
    cases h
    exact (append_nil _).symm
  | cons subscription rest ih =>
    obtain ⟨next, hnext, hrest⟩ := bind_eq_ok.mp h
    rw [ih hrest, (insertOutbox_ok hnext).1, append_assoc]
    rfl

lemma mem_queuedRows (h : row ∈ queuedRows occurrence payload now rowIds k subscriptions) :
    ∃ n subscription, k ≤ n ∧ subscription ∈ subscriptions
      ∧ row = queuedRow occurrence payload now (rowIds n) subscription.id := by
  induction subscriptions generalizing k with
  | nil => cases h
  | cons subscription rest ih =>
    rcases mem_cons.mp h with rfl | h
    · exact ⟨k, subscription, le_refl k, mem_cons_self .., rfl⟩
    · obtain ⟨n, other, hn, hother, hrow⟩ := ih h
      exact ⟨n, other, by omega, mem_cons_of_mem _ hother, hrow⟩

variable {subscription : StoredSubscription}

lemma exists_queuedRow (h : subscription ∈ subscriptions) (k : Nat) :
    ∃ row ∈ queuedRows occurrence payload now rowIds k subscriptions,
      row.occurrenceId = occurrence.id ∧ row.subscriptionId = subscription.id := by
  induction subscriptions generalizing k with
  | nil => cases h
  | cons first rest ih =>
    rcases mem_cons.mp h with rfl | h
    · exact ⟨_, mem_cons_self .., rfl, rfl⟩
    · obtain ⟨row, hrow, hpair⟩ := ih h (k + 1)
      exact ⟨row, mem_cons_of_mem _ hrow, hpair⟩

/-- A publication that queues an occurrence. -/
structure Publishes (db : EventDatabase) (occurrence : StoredOccurrence) (payload : List UInt8)
    (eventType : String) (rowIds : Nat → String) (now : Int) (db' : EventDatabase) : Prop where
  occurrences : db'.occurrences.rows = db.occurrences.rows ++ [occurrence]
  subscriptions : db'.subscriptions = db.subscriptions
  outbox : db'.outbox.rows = db.outbox.rows
    ++ queuedRows occurrence payload now rowIds 0 (db.subscribersOf occurrence.ownerId eventType now)
  queued : queueAll occurrence payload now rowIds 0 (db.subscribersOf occurrence.ownerId eventType now)
    db.outbox = .ok db'.outbox
  fresh : ∀ old ∈ db.occurrences.rows, old.eventId ≠ occurrence.eventId

/-- **PUBLICATION**: it fails, finds no subscriber or the event recorded and changes nothing,
or it queues the occurrence. -/
lemma publish_cases (db : EventDatabase) (occurrence : StoredOccurrence) (payload : List UInt8)
    (eventType : String) (rowIds : Nat → String) (now : Int) :
    (∃ text, db.publish occurrence payload eventType rowIds now = (.error text, db))
      ∨ (db.publish occurrence payload eventType rowIds now = (.ok (), db)
          ∧ (db.subscribersOf occurrence.ownerId eventType now = []
            ∨ ∃ old ∈ db.occurrences.rows, old.eventId = occurrence.eventId))
      ∨ ∃ db', db.publish occurrence payload eventType rowIds now = (.ok (), db')
          ∧ Publishes db occurrence payload eventType rowIds now db' := by
  unfold publish
  dsimp only
  by_cases hnone : (db.subscribersOf occurrence.ownerId eventType now).isEmpty
  · rw [if_pos hnone]
    exact .inr (.inl ⟨rfl, .inl (isEmpty_iff.mp hnone)⟩)
  rw [if_neg hnone]
  by_cases hknown : db.occurrences.rows.any fun old => old.eventId == occurrence.eventId
  · rw [if_pos hknown]
    obtain ⟨old, hold, heq⟩ := any_eq_true.mp hknown
    exact .inr (.inl ⟨rfl, .inr ⟨old, hold, by simpa using heq⟩⟩)
  rw [if_neg hknown]
  cases hnew : db.publishNew occurrence payload rowIds now
      (db.subscribersOf occurrence.ownerId eventType now) with
  | error text => exact .inl ⟨text, rfl⟩
  | ok published =>
    refine .inr (.inr ⟨published, rfl, ?_⟩)
    unfold publishNew at hnew
    obtain ⟨occurrences, hocc, hnew⟩ := bind_eq_ok.mp hnew
    obtain ⟨outbox, hout, hnew⟩ := bind_eq_ok.mp hnew
    cases hnew
    unfold insertOccurrence at hocc
    split at hocc
    · cases hocc
    · exact {
        occurrences := (insertNew_eq_some (okOr_eq_ok.mp hocc)).1
        subscriptions := rfl
        outbox := queueAll_rows hout
        queued := hout
        fresh := fun old hold heq => hknown (any_eq_true.mpr ⟨old, hold, by simp [heq]⟩) }

lemma queueAll_fresh
    (h : queueAll occurrence payload now rowIds k subscriptions outbox = .ok outbox') :
    ∀ row ∈ queuedRows occurrence payload now rowIds k subscriptions,
      ∀ old ∈ outbox.rows, old.id ≠ row.id := by
  have hnodup := outbox'.nodup
  rw [queueAll_rows h, map_append] at hnodup
  intro row hrow old hold heq
  exact (nodup_append.mp hnodup).2.2 _ (mem_map_of_mem hold) _ (mem_map_of_mem hrow) heq

/-! ## Claims -/

variable {ownerId fingerprint : String} {kind : Option String} {token : String}
  {other : OutboxRow}

lemma claimable_eq_some {picked : OutboxRow × StoredSubscription × StoredOccurrence}
    (h : db.claimable ownerId fingerprint kind now row = some picked) :
    picked.1 = row ∧ db.getSubscription row.subscriptionId = some picked.2.1
      ∧ rowOpen row now = true
      ∧ subscriptionOpen picked.2.1 ownerId fingerprint kind now = true := by
  unfold claimable at h
  obtain ⟨subscription, hsub, h⟩ := Option.bind_eq_some_iff.mp h
  obtain ⟨occurrence, -, h⟩ := Option.bind_eq_some_iff.mp h
  split at h
  · next hopen =>
      cases h
      rw [Bool.and_eq_true] at hopen
      exact ⟨rfl, hsub, hopen.1, hopen.2⟩
  · cases h

/-- **CLAIM**: what is selected is an open row of an open subscription. -/
lemma selectOutbox_eq_some
    (h : db.selectOutbox ownerId fingerprint kind now = some (row, subscription, occurrence)) :
    row ∈ db.outbox.rows ∧ db.getSubscription row.subscriptionId = some subscription
      ∧ rowOpen row now = true
      ∧ subscriptionOpen subscription ownerId fingerprint kind now = true := by
  unfold selectOutbox at h
  have hmem := (perm_insertionSort claimsBefore _).mem_iff.mp (mem_of_head? h)
  obtain ⟨found, hfound, hclaim⟩ := mem_filterMap.mp hmem
  obtain ⟨rfl, hsub, hrow, hopen⟩ := claimable_eq_some hclaim
  exact ⟨hfound, hsub, hrow, hopen⟩

lemma rowOpen_iff : rowOpen row now = true ↔ row.status.isTerminal = false ∧ row.availableAt ≤ now
      ∧ (∀ time ∈ row.leaseUntil, time ≤ now) ∧ now < row.expiresAt := by
  unfold rowOpen
  cases row.leaseUntil <;> simp [and_assoc]

lemma subscriptionOpen_iff : subscriptionOpen subscription ownerId fingerprint kind now = true
      ↔ subscription.active = true ∧ unexpired subscription.expiresAt now = true
        ∧ subscription.ownerId = ownerId ∧ subscription.credentialFingerprint = fingerprint
        ∧ ∀ given ∈ kind, subscription.sourceKind = given := by
  unfold subscriptionOpen
  cases kind <;> simp [and_assoc]

lemma holdsLease_iff : holdsLease row id token = true
      ↔ row.id = id ∧ row.leaseToken = some token ∧ row.status = .leased := by
  simp [holdsLease, and_assoc]

/-- What a claim takes: an open row of an open subscription. -/
structure Claims (db : EventDatabase) (ownerId fingerprint : String) (now : Int) (token : String)
    (kind : Option String) (row : OutboxRow) (item : StoredOutbox) : Prop where
  mem : row ∈ db.outbox.rows
  subscription : db.getSubscription row.subscriptionId = some item.subscription
  rowOpen : rowOpen row now = true
  subscriptionOpen :
    EventDatabase.subscriptionOpen item.subscription ownerId fingerprint kind now = true
  id : item.id = row.id
  payload : item.payload = row.payload
  attempts : item.attempts = row.attempts + 1
  token : item.leaseToken = some token
  selected : ∃ rest, db.selectOutbox ownerId fingerprint kind now = some (row, rest)

/-- A claim answers nothing and changes nothing, or leases the row it answers. -/
lemma claimOutbox_cases (db : EventDatabase) (ownerId fingerprint : String)
    (now leaseUntil : Int) (token : String) (kind : Option String) :
    db.claimOutbox ownerId fingerprint now leaseUntil token kind = (none, db)
      ∨ ∃ row item, Claims db ownerId fingerprint now token kind row item
          ∧ db.claimOutbox ownerId fingerprint now leaseUntil token kind
            = (some item, { db with
                outbox := db.outbox.update (fun old => old.id == row.id)
                  (fun old => leasedRow old token leaseUntil now) fun _ => rfl }) := by
  unfold claimOutbox
  cases hselect : db.selectOutbox ownerId fingerprint kind now with
  | none => exact .inl rfl
  | some picked =>
    obtain ⟨row, subscription, occurrence⟩ := picked
    obtain ⟨hmem, hsub, hrow, hopen⟩ := selectOutbox_eq_some hselect
    exact .inr ⟨row, _, ⟨hmem, hsub, hrow, hopen, rfl, rfl, rfl, rfl, _, hselect⟩, rfl⟩

/-! ## Cancellation -/

lemma mem_outbox_cancelSubscription (h : row ∈ (db.cancelSubscription id ownerId now).outbox.rows) :
    row ∈ db.outbox.rows ∨ ∃ old ∈ db.outbox.rows, old.subscriptionId = id
      ∧ row = { old with expiresAt := min old.expiresAt now } := by
  obtain ⟨old, hold, heq⟩ := mem_update.mp h
  split at heq
  · next hwhich =>
      rw [Bool.and_eq_true, beq_iff_eq] at hwhich
      exact .inr ⟨old, hold, hwhich.1, heq⟩
  · exact .inl (heq ▸ hold)

lemma mem_outbox_foldl_cancel (subscriptions : List StoredSubscription) :
    ∀ {db : EventDatabase} {row : OutboxRow},
      row ∈ (subscriptions.foldl (fun db s => db.cancelSubscription s.id s.ownerId now) db).outbox.rows →
        row ∈ db.outbox.rows ∨ ∃ old ∈ db.outbox.rows,
          (∃ s ∈ subscriptions, old.subscriptionId = s.id)
            ∧ row = { old with expiresAt := min old.expiresAt now } := by
  induction subscriptions with
  | nil => intro db row h; exact .inl h
  | cons s rest ih =>
    intro db row h
    rcases ih h with hrow | ⟨old, hold, ⟨s', hs', hid'⟩, hrow⟩
    · rcases mem_outbox_cancelSubscription hrow with hrow | ⟨old, hold, hid, hrow⟩
      · exact .inl hrow
      · exact .inr ⟨old, hold, ⟨s, mem_cons_self .., hid⟩, hrow⟩
    · rcases mem_outbox_cancelSubscription hold with hold | ⟨older, hold, hid, heq⟩
      · exact .inr ⟨old, hold, ⟨s', mem_cons_of_mem _ hs', hid'⟩, hrow⟩
      · -- a row of two cancelled subscriptions expires at the same time
        refine .inr ⟨older, hold, ⟨s, mem_cons_self .., hid⟩, ?_⟩
        rw [hrow, heq]
        simp

end EventDatabase

open EventDatabase

/-! ## What a call does -/

/-- The store after a call. -/
inductive Does (db : EventDatabase) : StoreCall → EventDatabase → Prop where
  | nothing (call : StoreCall) : Does db call db
  | subscribed (row : StoredSubscription) (hok : (db.upsertSubscription row).1 = .ok ()) :
      Does db (.upsertSubscription row) { db with subscriptions := db.subscriptions.upsert row }
  | deactivated (call : StoreCall) (which : StoredSubscription → Bool) :
      Does db call (db.deactivateWhere which)
  | published (occurrence : StoredOccurrence) (payload : List UInt8) (eventType : String)
      (rowIds : Nat → String) (now : Int) (db' : EventDatabase)
      (h : Publishes db occurrence payload eventType rowIds now db') :
      Does db (.publish occurrence payload eventType rowIds now) db'
  | leased (ownerId fingerprint : String) (now leaseUntil : Int) (token : String)
      (kind : Option String) (row : OutboxRow) (item : StoredOutbox)
      (h : Claims db ownerId fingerprint now token kind row item)
      (hitem : (db.claimOutbox ownerId fingerprint now leaseUntil token kind).1 = some item) :
      Does db (.claimOutbox ownerId fingerprint now leaseUntil token kind)
        { db with
          outbox := db.outbox.update (fun old => old.id == row.id)
            (fun old => leasedRow old token leaseUntil now) fun _ => rfl }
  | completed (id token : String) (result : DeliveryResult) (maxAttempts : Nat) :
      Does db (.completeDelivery id token result maxAttempts)
        { db with
          outbox := db.outbox.update (fun row => holdsLease row id token)
            (fun row => completedRow row result maxAttempts) fun _ => rfl }
  | cancelled (id ownerId : String) (now : Int) :
      Does db (.cancelSubscription id ownerId now) (db.cancelSubscription id ownerId now)
  | revoked (kind : String) (now : Int) :
      Does db (.cancelSubscriptionsBySourceKind kind now)
        ((db.subscriptions.rows.filter (·.sourceKind == kind)).foldl
          (fun db row => db.cancelSubscription row.id row.ownerId now) db)
  | cleaned (now : Int) : Does db (.cleanup now) (db.cleanup now)

variable (db : EventDatabase) (call : StoreCall)

lemma does_apply : Does db call (call.apply db).2 := by
  cases call with
  | getSubscription => exact .nothing _
  | upsertSubscription row =>
    have hsubscribed := @Does.subscribed db row
    show Does db _ (db.upsertSubscription row).2
    unfold upsertSubscription at hsubscribed ⊢
    split
    · next hallowed => exact hsubscribed (by rw [if_pos hallowed])
    · exact .nothing _
  | deactivateSubscription | revokeCredentialsExcept => exact .deactivated _ _
  | publish occurrence payload eventType rowIds now =>
    show Does db _ (db.publish occurrence payload eventType rowIds now).2
    rcases publish_cases db occurrence payload eventType rowIds now with
      ⟨text, hsame⟩ | ⟨hsame, -⟩ | ⟨db', hdb', hpub⟩
    · rw [hsame]
      exact .nothing _
    · rw [hsame]
      exact .nothing _
    · rw [hdb']
      exact .published occurrence payload eventType rowIds now db' hpub
  | claimOutbox ownerId fingerprint now leaseUntil token kind =>
    show Does db _ (db.claimOutbox ownerId fingerprint now leaseUntil token kind).2
    rcases claimOutbox_cases db ownerId fingerprint now leaseUntil token kind with
      hnone | ⟨row, item, hclaims, hsome⟩
    · rw [hnone]
      exact .nothing _
    · have hitem := congrArg Prod.fst hsome
      rw [hsome]
      exact .leased ownerId fingerprint now leaseUntil token kind row item hclaims hitem
  | completeDelivery id token result maxAttempts =>
    show Does db _ (db.completeDelivery id token result maxAttempts).2
    unfold completeDelivery
    split
    · exact .completed id token result maxAttempts
    · exact .nothing _
  | cancelSubscription id ownerId now => exact .cancelled id ownerId now
  | cancelSubscriptionsBySourceKind kind now => exact .revoked kind now
  | cleanup now => exact .cleaned now

/-! ## Where a row comes from -/

/-- The subscriptions a call cancels. -/
def StoreCall.Cancels (id : String) (now : Int) : StoreCall → Prop
  | .cancelSubscription id' _ now' => id' = id ∧ now' = now
  | .cancelSubscriptionsBySourceKind kind now' =>
    now' = now ∧ ∃ row ∈ db.subscriptions.rows, row.sourceKind = kind ∧ row.id = id
  | _ => False

/-- Where a row of the outbox comes from. -/
inductive Comes (db : EventDatabase) : StoreCall → OutboxRow → Prop where
  | kept (call : StoreCall) (row : OutboxRow) (h : row ∈ db.outbox.rows) : Comes db call row
  | queued (occurrence : StoredOccurrence) (payload : List UInt8) (eventType : String)
      (rowIds : Nat → String) (now : Int) (n : Nat) (subscription : StoredSubscription)
      (hsub : subscription ∈ db.subscribersOf occurrence.ownerId eventType now)
      (hfresh : ∀ old ∈ db.outbox.rows, old.id ≠ rowIds n) :
      Comes db (.publish occurrence payload eventType rowIds now)
        (queuedRow occurrence payload now (rowIds n) subscription.id)
  | leased (ownerId fingerprint : String) (now leaseUntil : Int) (token : String)
      (kind : Option String) (row : OutboxRow) (item : StoredOutbox)
      (h : Claims db ownerId fingerprint now token kind row item)
      (hitem : (db.claimOutbox ownerId fingerprint now leaseUntil token kind).1 = some item) :
      Comes db (.claimOutbox ownerId fingerprint now leaseUntil token kind)
        (leasedRow row token leaseUntil now)
  | completed (id token : String) (result : DeliveryResult) (maxAttempts : Nat) (row : OutboxRow)
      (h : row ∈ db.outbox.rows) (hlease : holdsLease row id token = true) :
      Comes db (.completeDelivery id token result maxAttempts) (completedRow row result maxAttempts)
  | shortened (call : StoreCall) (now : Int) (row : OutboxRow) (h : row ∈ db.outbox.rows)
      (hcancel : call.Cancels db row.subscriptionId now) :
      Comes db call { row with expiresAt := min row.expiresAt now }

/-- **THE ROWS AFTER A CALL**: each of them comes from somewhere. -/
lemma comes_of_mem {row : OutboxRow}
    (h : row ∈ (call.apply db).2.outbox.rows) : Comes db call row := by
  have hdoes := does_apply db call
  generalize (call.apply db).2 = db' at h hdoes
  cases hdoes with
  | nothing | subscribed | deactivated => exact .kept _ row h
  | published occurrence payload eventType rowIds now _ hpub =>
    rw [hpub.outbox] at h
    rcases mem_append.mp h with h | h
    · exact .kept _ row h
    · have hfresh := queueAll_fresh hpub.queued row h
      obtain ⟨n, subscription, -, hsub, rfl⟩ := mem_queuedRows h
      exact .queued occurrence payload eventType rowIds now n subscription hsub hfresh
  | leased ownerId fingerprint now leaseUntil token kind picked item hclaims hitem =>
    obtain ⟨old, hold, heq⟩ := mem_update.mp h
    split at heq
    · next hid =>
        obtain rfl : old = picked := eq_of_key hold hclaims.mem (beq_iff_eq.mp hid)
        rw [heq]
        exact .leased ownerId fingerprint now leaseUntil token kind old item hclaims hitem
    · exact .kept _ row (heq ▸ hold)
  | completed id token result maxAttempts =>
    obtain ⟨old, hold, heq⟩ := mem_update.mp h
    split at heq
    · next hlease =>
        rw [heq]
        exact .completed id token result maxAttempts old hold hlease
    · exact .kept _ row (heq ▸ hold)
  | cancelled id ownerId now =>
    rcases mem_outbox_cancelSubscription h with h | ⟨old, hold, hid, rfl⟩
    · exact .kept _ row h
    · exact .shortened _ now old hold ⟨hid.symm, rfl⟩
  | revoked kind now =>
    rcases mem_outbox_foldl_cancel _ h with h | ⟨old, hold, ⟨s, hs, hid⟩, rfl⟩
    · exact .kept _ row h
    · obtain ⟨hs, hkind⟩ := mem_filter.mp hs
      exact .shortened _ now old hold ⟨rfl, s, hs, by simpa using hkind, hid.symm⟩
  | cleaned now =>
    have hswept := (mem_delete.mp (mem_delete.mp h).1).1
    exact .kept _ row (mem_delete.mp hswept).1

/-! ## The subscriptions after a call -/

variable {db : EventDatabase} {row : StoredSubscription} {which : StoredSubscription → Bool}

lemma mem_deactivateWhere :
    row ∈ (db.deactivateWhere which).subscriptions.rows ↔ ∃ old ∈ db.subscriptions.rows,
      row = if which old then { old with active := false } else old :=
  mem_update

/-- A row that was there, active as before or not any more. -/
def Survives (db : EventDatabase) (row : StoredSubscription) : Prop :=
  ∃ old ∈ db.subscriptions.rows, row = old ∨ row = { old with active := false }

lemma survives_of_deactivateWhere
    (h : row ∈ (db.deactivateWhere which).subscriptions.rows) : Survives db row := by
  obtain ⟨old, hold, heq⟩ := mem_deactivateWhere.mp h
  refine ⟨old, hold, ?_⟩
  split at heq
  · exact .inr heq
  · exact .inl heq

variable {now : Int} (subscriptions : List StoredSubscription)

lemma survives_foldl_cancel :
    ∀ row ∈ (subscriptions.foldl (fun db s => db.cancelSubscription s.id s.ownerId now)
      db).subscriptions.rows, Survives db row := by
  refine List.foldlRecOn
    (motive := fun mid : EventDatabase => ∀ row ∈ mid.subscriptions.rows, Survives db row) _ _
    (fun row h => ⟨row, h, .inl rfl⟩) fun mid hmid _ _ row h => ?_
  obtain ⟨old, hold, rfl | rfl⟩ := survives_of_deactivateWhere h
  · exact hmid row hold
  · obtain ⟨older, holder, rfl | rfl⟩ := hmid old hold
    · exact ⟨old, holder, .inr rfl⟩
    · exact ⟨older, holder, .inr rfl⟩

/-- **THE SUBSCRIPTIONS AFTER A CALL**: those there were, and the one written. -/
lemma subscription_of_mem (db : EventDatabase) (call : StoreCall)
    (h : row ∈ (call.apply db).2.subscriptions.rows) : Survives db row
      ∨ (call = .upsertSubscription row ∧ (db.upsertSubscription row).1 = .ok ()) := by
  have hdoes := does_apply db call
  generalize (call.apply db).2 = db' at h hdoes
  cases hdoes with
  | nothing | leased | completed => exact .inl ⟨row, h, .inl rfl⟩
  | subscribed new hok =>
    have hlanded : landed new db.subscriptions = new := by
      unfold landed
      split <;> rfl
    rcases mem_upsert.mp h with rfl | ⟨hold, -⟩
    · rw [hlanded]
      exact .inr ⟨rfl, hok⟩
    · exact .inl ⟨row, hold, .inl rfl⟩
  | deactivated | cancelled => exact .inl (survives_of_deactivateWhere h)
  | published _ _ _ _ _ _ hpub => exact .inl ⟨row, hpub.subscriptions ▸ h, .inl rfl⟩
  | revoked => exact .inl (survives_foldl_cancel _ row h)
  | cleaned now => exact .inl ⟨row, (mem_delete.mp h).1, .inl rfl⟩

lemma eq_of_mem_upsertSubscription {sub : StoredSubscription} (hid : sub.id = row.id)
    (hok : (db.upsertSubscription row).1 = .ok ())
    (hsub : sub ∈ (db.upsertSubscription row).2.subscriptions.rows) : sub = row := by
  unfold upsertSubscription at hok hsub
  split at hok
  · next hmine =>
    rw [if_pos hmine] at hsub
    rcases mem_upsert.mp hsub with rfl | ⟨-, hne⟩
    · unfold landed
      split <;> rfl
    · exact absurd hid hne
  · cases hok

/-! ## Cancelled subscriptions -/

/-- No delivery goes to the subscription. -/
def Inactive (db : EventDatabase) (id : String) : Prop :=
  ∀ row ∈ db.subscriptions.rows, row.id = id → row.active = false

variable {id : String}

lemma Inactive.of_survives {db' : EventDatabase} (h : Inactive db id)
    (hrows : ∀ row ∈ db'.subscriptions.rows, row.id = id → Survives db row) : Inactive db' id := by
  intro row hrow hid
  obtain ⟨old, hold, hsame⟩ := hrows row hrow hid
  rcases hsame with rfl | rfl
  · exact h row hold hid
  · rfl

lemma Inactive.apply (h : Inactive db id) (call : StoreCall)
    (hcall : ∀ row, call = .upsertSubscription row → (db.upsertSubscription row).1 = .ok () →
      row.id ≠ id) : Inactive (call.apply db).2 id := by
  refine h.of_survives fun row hrow hid => ?_
  rcases subscription_of_mem db call hrow with hold | ⟨heq, hok⟩
  · exact hold
  · exact absurd hid (hcall row heq hok)

variable {ownerId : String}

lemma inactive_cancelSubscription
    (howner : ∀ row ∈ db.subscriptions.rows, row.id = id → row.ownerId = ownerId) :
    Inactive (db.cancelSubscription id ownerId now) id := by
  intro row hrow hid
  obtain ⟨old, hold, heq⟩ := mem_deactivateWhere.mp hrow
  split at heq
  · rw [heq]
  · next hwhich =>
      subst heq
      exact absurd (by simp [hid, howner row hold hid]) hwhich

variable {s : StoredSubscription}

lemma inactive_foldl_cancel : ∀ {db : EventDatabase}, s ∈ subscriptions →
      (∀ row ∈ db.subscriptions.rows, row.id = s.id → row.ownerId = s.ownerId) →
      Inactive (subscriptions.foldl (fun db s => db.cancelSubscription s.id s.ownerId now) db)
        s.id := by
  induction subscriptions with
  | nil => intro db hs; cases hs
  | cons head rest ih =>
    intro db hs howner
    rcases mem_cons.mp hs with rfl | hs
    · exact (inactive_cancelSubscription howner).of_survives fun row hrow _ =>
        survives_foldl_cancel rest row hrow
    · refine ih hs fun row hrow hid => ?_
      obtain ⟨old, hold, hsame⟩ := survives_of_deactivateWhere hrow
      rcases hsame with rfl | rfl
      · exact howner row hold hid
      · exact howner old hold hid

/-- **CANCELLATION, SUBSCRIPTIONS**: what a call cancels is inactive after it. -/
lemma inactive_of_cancels {call : StoreCall} (h : call.Cancels db id now)
    (howner : ∀ id ownerId now, call = .cancelSubscription id ownerId now →
      ∀ row ∈ db.subscriptions.rows, row.ownerId = ownerId) : Inactive (call.apply db).2 id := by
  cases call with
  | cancelSubscription id' ownerId now' =>
    obtain ⟨rfl, rfl⟩ := h
    exact inactive_cancelSubscription fun row hrow _ => howner _ _ _ rfl row hrow
  | cancelSubscriptionsBySourceKind kind now' =>
    obtain ⟨-, row, hrow, hkind, rfl⟩ := h
    refine inactive_foldl_cancel _ (mem_filter.mpr ⟨hrow, by simpa using hkind⟩) ?_
    intro other hother hid
    rw [eq_of_key hother hrow hid]
  | _ => exact h.elim

/-- A subscription of the owner under the id. -/
def Owned (db : EventDatabase) (id ownerId : String) : Prop :=
  ∃ row ∈ db.subscriptions.rows, row.id = id ∧ row.ownerId = ownerId

lemma Owned.deactivateWhere (h : Owned db id ownerId) (which : StoredSubscription → Bool) :
    Owned (db.deactivateWhere which) id ownerId := by
  obtain ⟨row, hrow, hid, howner⟩ := h
  refine ⟨_, mem_deactivateWhere.mpr ⟨row, hrow, rfl⟩, ?_⟩
  split
  · exact ⟨hid, howner⟩
  · exact ⟨hid, howner⟩

lemma expires_cancelSubscription {row : OutboxRow} (hknown : Owned db id ownerId)
    (h : row ∈ (db.cancelSubscription id ownerId now).outbox.rows) (hid : row.subscriptionId = id) :
    row.expiresAt ≤ now := by
  obtain ⟨old, hold, heq⟩ := mem_update.mp h
  obtain ⟨s, hs, hsid, hsowner⟩ := hknown
  have hany : (db.subscriptions.rows.any fun row => row.id == id && row.ownerId == ownerId)
      = true := any_eq_true.mpr ⟨s, hs, by simp [hsid, hsowner]⟩
  rw [hany] at heq
  split at heq
  · rw [heq]
    exact min_le_right ..
  · next hwhich =>
      subst heq
      exact absurd (by simp [hid]) hwhich

lemma expires_foldl_cancel : ∀ {db : EventDatabase} {row : OutboxRow},
      s ∈ subscriptions → Owned db s.id s.ownerId → row.subscriptionId = s.id →
      row ∈ (subscriptions.foldl (fun db s => db.cancelSubscription s.id s.ownerId now)
        db).outbox.rows → row.expiresAt ≤ now := by
  induction subscriptions with
  | nil => intro db row hs; cases hs
  | cons head rest ih =>
    intro db row hs hknown hid h
    rcases mem_cons.mp hs with rfl | hs
    · rcases mem_outbox_foldl_cancel rest h with hrow | ⟨old, -, -, heq⟩
      · exact expires_cancelSubscription hknown hrow hid
      · rw [heq]
        exact min_le_right ..
    · have hknown : Owned (db.cancelSubscription head.id head.ownerId now) s.id s.ownerId :=
        hknown.deactivateWhere _
      exact ih hs hknown hid h

/-- **CANCELLATION, OUTBOX**: what is queued for a cancelled subscription expires then. -/
lemma expires_of_cancels {call : StoreCall} {row : OutboxRow} (h : call.Cancels db id now)
    (hknown : ∀ id ownerId now, call = .cancelSubscription id ownerId now → Owned db id ownerId)
    (hrow : row ∈ (call.apply db).2.outbox.rows) (hid : row.subscriptionId = id) :
    row.expiresAt ≤ now := by
  cases call with
  | cancelSubscription id' ownerId now' =>
    obtain ⟨rfl, rfl⟩ := h
    exact expires_cancelSubscription (hknown _ _ _ rfl) hrow hid
  | cancelSubscriptionsBySourceKind kind now' =>
    obtain ⟨rfl, s, hs, hkind, rfl⟩ := h
    exact expires_foldl_cancel _ (mem_filter.mpr ⟨hs, by simpa using hkind⟩)
      ⟨s, hs, rfl, rfl⟩ hid hrow
  | _ => exact h.elim

/-! ## References -/

/-- Every row of the outbox refers to a subscription. -/
def Refers (db : EventDatabase) : Prop :=
  ∀ row ∈ db.outbox.rows, ∃ s ∈ db.subscriptions.rows, s.id = row.subscriptionId

lemma exists_subscription_apply {call : StoreCall} (hcall : ∀ now, call ≠ .cleanup now)
    (hs : s ∈ db.subscriptions.rows) :
    ∃ s' ∈ (call.apply db).2.subscriptions.rows, s'.id = s.id := by
  have hdeactivate : ∀ (db : EventDatabase) which, (∃ s' ∈ db.subscriptions.rows, s'.id = s.id) →
      ∃ s' ∈ (db.deactivateWhere which).subscriptions.rows, s'.id = s.id := by
    rintro db which ⟨s', hs', hid⟩
    refine ⟨_, mem_deactivateWhere.mpr ⟨s', hs', rfl⟩, ?_⟩
    split <;> exact hid
  have hdoes := does_apply db call
  generalize (call.apply db).2 = db' at hdoes ⊢
  cases hdoes with
  | nothing | leased | completed => exact ⟨s, hs, rfl⟩
  | subscribed new => exact exists_key_upsert new hs
  | deactivated | cancelled => exact hdeactivate db _ ⟨s, hs, rfl⟩
  | published _ _ _ _ _ _ hpub => exact ⟨s, by rw [hpub.subscriptions]; exact hs, rfl⟩
  | revoked kind now =>
    exact List.foldlRecOn
      (motive := fun mid : EventDatabase => ∃ s' ∈ mid.subscriptions.rows, s'.id = s.id) _ _
      ⟨s, hs, rfl⟩ fun mid hmid _ _ => hdeactivate mid _ hmid
  | cleaned now => exact absurd rfl (hcall now)

lemma mem_subscribersOf {eventType : String} (h : s ∈ db.subscribersOf ownerId eventType now) :
    s ∈ db.subscriptions.rows := (mem_filter.mp h).1

/-- **REFERENCES** hold after every call. -/
lemma Refers.apply (h : Refers db) (call : StoreCall) : Refers (call.apply db).2 := by
  intro row hrow
  by_cases hcleanup : ∃ now, call = .cleanup now
  · obtain ⟨now, rfl⟩ := hcleanup
    -- a row that is left refers to no deleted subscription
    obtain ⟨hrow, hkept⟩ := mem_delete.mp hrow
    obtain ⟨hrow, -⟩ := mem_delete.mp hrow
    obtain ⟨s, hs, hid⟩ := h row (mem_delete.mp hrow).1
    refine ⟨s, mem_delete.mpr ⟨hs, ?_⟩, hid⟩
    have hnot := any_eq_false.mp hkept s hs
    simpa [hid] using hnot
  have hcall : ∀ now, call ≠ .cleanup now := fun now heq => hcleanup ⟨now, heq⟩
  have hreferred : ∃ s ∈ db.subscriptions.rows, s.id = row.subscriptionId := by
    cases comes_of_mem db call hrow with
    | kept _ _ hold => exact h row hold
    | queued occurrence payload eventType rowIds now n s hs hfresh =>
      exact ⟨s, mem_subscribersOf hs, rfl⟩
    | leased ownerId fingerprint now leaseUntil token kind old item hclaims hitem =>
      exact h old hclaims.mem
    | completed id token result maxAttempts old hold hlease => exact h old hold
    | shortened _ now old hold hcancel => exact h old hold
  obtain ⟨s, hs, hid⟩ := hreferred
  obtain ⟨s', hs', hid'⟩ := exists_subscription_apply hcall hs
  exact ⟨s', hs', hid'.trans hid⟩

end WattWebhooks
