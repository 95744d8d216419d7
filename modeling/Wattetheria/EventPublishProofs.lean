import Wattetheria.EventHandlerProofs
import Wattetheria.KeyedStore

/-!
# No dropped events

`publish` asks the map in memory whether anybody listens before it goes to the store.
`subscribe` writes the store and then the map under the lock of the map; `pending` says of
the log that a subscription is written and not in the map yet, and `Inv` that the map
misses nothing else.  An event is recorded once, and `Tracked` says that its record has a
row for a subscription as long as that is held.

The environment webhook is written without the lock, and a dropped `subscribe` may leave
its write behind: `orderly` names the schedules in which neither comes in the way.
-/

namespace WattPublish

open WattText WattRows WattRuns WattThreads WattAsync WattTasks WattWebhooks Handler EventDatabase
open Table Option List

variable {cfg : Config} {s s' : Service} {log entries : List Entry} {id event : String}
  {call : StoreCall} {i : Nat}

/-! ## Rows of an event -/

section Rows

variable {db : EventDatabase} {occurrence : StoredOccurrence}

/-- The store knows the event. -/
def Recorded (event : String) (db : EventDatabase) : Prop :=
  ∃ occurrence ∈ db.occurrences.rows, occurrence.eventId = event

/-- The event is queued for the subscription. -/
def Queued (event subscription : String) (db : EventDatabase) : Prop :=
  ∃ occurrence ∈ db.occurrences.rows, occurrence.eventId = event
    ∧ ∃ row ∈ db.outbox.rows, row.occurrenceId = occurrence.id ∧ row.subscriptionId = subscription

/-- What is recorded of the event has a row for the subscription, which lives as long. -/
def Tracked (event subscription : String) (db : EventDatabase) : Prop :=
  ∀ occurrence ∈ db.occurrences.rows, occurrence.eventId = event →
    ∃ row ∈ db.outbox.rows, row.occurrenceId = occurrence.id ∧ row.subscriptionId = subscription
      ∧ row.expiresAt = occurrence.expiresAt

lemma tracked_of_not_recorded (h : ¬ Recorded event db) : Tracked event id db :=
  fun occurrence hocc hevent => absurd ⟨occurrence, hocc, hevent⟩ h

lemma Tracked.queued (h : Tracked event id db) (hrecorded : Recorded event db) :
    Queued event id db := by
  obtain ⟨occurrence, hocc, hevent⟩ := hrecorded
  obtain ⟨row, hrow, hid, hsub, -⟩ := h occurrence hocc hevent
  exact ⟨occurrence, hocc, hevent, row, hrow, hid, hsub⟩

lemma occurrence_of_mem (db : EventDatabase) (call : StoreCall)
    (h : occurrence ∈ (call.apply db).2.occurrences.rows) :
    occurrence ∈ db.occurrences.rows ∨ ∃ payload eventType rowIds now,
      call = .publish occurrence payload eventType rowIds now
        ∧ Publishes db occurrence payload eventType rowIds now (call.apply db).2 := by
  have hdoes := does_apply db call
  generalize (call.apply db).2 = db' at h hdoes ⊢
  cases hdoes with
  | nothing | subscribed | deactivated | leased | completed | cancelled => exact .inl h
  | published published payload eventType rowIds now _ hpub =>
    rw [hpub.occurrences] at h
    rcases mem_append.mp h with h | h
    · exact .inl h
    · cases mem_singleton.mp h
      exact .inr ⟨payload, eventType, rowIds, now, rfl, hpub⟩
  | revoked sourceKind now =>
    have hsame := List.foldlRecOn (motive := fun mid : EventDatabase => mid.occurrences = db.occurrences)
      (db.subscriptions.rows.filter (·.sourceKind == sourceKind))
      (fun db row => db.cancelSubscription row.id row.ownerId now) rfl fun _ hmid _ _ => hmid
    rw [hsame] at h
    exact .inl h
  | cleaned now => exact .inl (mem_delete.mp h).1

/-- The row keeps what it is for, and how long it lives. -/
def Keeps (row : OutboxRow) (db : EventDatabase) : Prop :=
  ∃ row' ∈ db.outbox.rows, row'.occurrenceId = row.occurrenceId
    ∧ row'.subscriptionId = row.subscriptionId ∧ row'.expiresAt = row.expiresAt

lemma Keeps.cancel {row : OutboxRow} {id' ownerId : String} {now : Int} (h : Keeps row db)
    (hid' : id' ≠ row.subscriptionId) : Keeps row (db.cancelSubscription id' ownerId now) := by
  obtain ⟨row', hrow', hocc, hid, hexp⟩ := h
  refine ⟨row', mem_update.mpr ⟨row', hrow', ?_⟩, hocc, hid, hexp⟩
  rw [if_neg]
  simp [hid, hid'.symm]

lemma keeps_apply {row : OutboxRow} (hrow : row ∈ db.outbox.rows)
    (hcleanup : ∀ now, call ≠ .cleanup now)
    (hcancels : ∀ now, ¬ call.Cancels db row.subscriptionId now) : Keeps row (call.apply db).2 := by
  have hkept : Keeps row db := ⟨row, hrow, rfl, rfl, rfl⟩
  have hdoes := does_apply db call
  generalize (call.apply db).2 = db' at hdoes
  cases hdoes with
  | nothing | subscribed | deactivated => exact hkept
  | published _ _ _ _ _ _ hpub =>
    refine ⟨row, ?_, rfl, rfl, rfl⟩
    rw [hpub.outbox]
    exact mem_append_left _ hrow
  | leased | completed =>
    refine ⟨_, mem_update.mpr ⟨row, hrow, rfl⟩, ?_⟩
    split <;> exact ⟨rfl, rfl, rfl⟩
  | cancelled id ownerId now => exact hkept.cancel fun heq => hcancels now ⟨heq, rfl⟩
  | revoked sourceKind now =>
    refine List.foldlRecOn _ _ hkept fun mid hmid sub hsub => hmid.cancel fun hid => ?_
    obtain ⟨hsub, hkind⟩ := mem_filter.mp hsub
    exact hcancels now ⟨rfl, sub, hsub, by simpa using hkind, hid⟩
  | cleaned now => exact absurd rfl (hcleanup now)

/-- A row that stays is not among the rows that go. -/
lemma not_gone {ρ : Type} [Row ρ String] {t : Table ρ} {gone : ρ → Bool} {r : ρ} {k : String}
    (hr : r ∈ t.rows) (hlives : gone r = false) (hk : k = Row.key r) :
    (t.rows.any fun other => gone other && Row.key other == k) = false := by
  refine any_eq_false.mpr fun other hother hgone => ?_
  rw [Bool.and_eq_true, beq_iff_eq] at hgone
  rw [eq_of_key hother hr (hgone.2.trans hk), hlives] at hgone
  exact Bool.false_ne_true hgone.1

/-- A cleanup that leaves the occurrence and the subscription leaves the row. -/
lemma tracked_cleanup {now : Int} (h : Tracked event id db)
    (hsub : ∃ sub ∈ (db.cleanup now).subscriptions.rows, sub.id = id) :
    Tracked event id (db.cleanup now) := by
  intro occurrence hocc hevent
  obtain ⟨hocc, hlives⟩ := mem_delete.mp hocc
  obtain ⟨row, hrow, hid, hrowSub, hexp⟩ := h occurrence hocc hevent
  obtain ⟨sub, hsub, rfl⟩ := hsub
  obtain ⟨hsub, hkept⟩ := mem_delete.mp hsub
  refine ⟨row, mem_delete.mpr ⟨mem_delete.mpr ⟨mem_delete.mpr ⟨hrow, ?_⟩, ?_⟩, ?_⟩,
    hid, hrowSub, hexp⟩
  · rw [hexp]
    exact hlives
  · exact not_gone hocc hlives hid
  · exact not_gone hsub hkept hrowSub

/-- **A PUBLICATION** queues the event for everybody it goes to. -/
lemma row_of_publishes {payload : List UInt8} {eventType : String}
    {rowIds : Nat → String} {now : Int} {db' : EventDatabase} {sub : StoredSubscription}
    (h : Publishes db occurrence payload eventType rowIds now db')
    (hsub : sub ∈ db.subscribersOf occurrence.ownerId eventType now) :
    ∃ row ∈ db'.outbox.rows, row.occurrenceId = occurrence.id ∧ row.subscriptionId = sub.id
      ∧ row.expiresAt = occurrence.expiresAt := by
  obtain ⟨row, hrow, hid, hrowSub⟩ : ∃ row ∈ queuedRows occurrence payload now rowIds 0
      (db.subscribersOf occurrence.ownerId eventType now),
      row.occurrenceId = occurrence.id ∧ row.subscriptionId = sub.id := exists_queuedRow hsub 0
  refine ⟨row, ?_, hid, hrowSub, ?_⟩
  · rw [h.outbox]
    exact mem_append_right _ hrow
  · obtain ⟨n, sub', -, -, rfl⟩ := mem_queuedRows hrow
    rfl

/-- **ONE CALL** keeps track of an event for a subscription that stays. -/
lemma Tracked.apply (h : Tracked event id db)
    (hsub : ∃ sub ∈ (call.apply db).2.subscriptions.rows, sub.id = id)
    (hcancels : ∀ now, ¬ call.Cancels db id now)
    (hpublish : ∀ occurrence payload eventType rowIds now,
      call = .publish occurrence payload eventType rowIds now →
        ∃ sub ∈ db.subscribersOf occurrence.ownerId eventType now, sub.id = id) :
    Tracked event id (call.apply db).2 := by
  by_cases hcleanup : ∃ now, call = .cleanup now
  · obtain ⟨now, rfl⟩ := hcleanup
    exact tracked_cleanup h hsub
  have hcleanup : ∀ now, call ≠ .cleanup now := fun now heq => hcleanup ⟨now, heq⟩
  intro occurrence hocc hevent
  rcases occurrence_of_mem db call hocc with hocc | ⟨payload, eventType, rowIds, now, rfl, hpub⟩
  · obtain ⟨row, hrow, hid, rfl, hexp⟩ := h occurrence hocc hevent
    obtain ⟨row', hrow', hid', hsub', hexp'⟩ := keeps_apply hrow hcleanup hcancels
    exact ⟨row', hrow', hid'.trans hid, hsub', hexp'.trans hexp⟩
  · obtain ⟨sub, hgoes, rfl⟩ := hpublish _ _ _ _ _ rfl
    exact row_of_publishes hpub hgoes

end Rows

/-! ## Written and not in the map -/

/-- Whether the subscription is pending, one entry further. -/
def pendingAfter (id : String) (before : Bool) : Entry → Bool
  | .subscribed row => before || row.id == id
  | .mapped id' => before && id' != id
  | .restarted => false
  | _ => before

/-- The subscription is written and not in the map yet. -/
def pending (id : String) (log : List Entry) : Bool := log.foldl (pendingAfter id) false

lemma pending_snoc (id : String) (log : List Entry) (x : Entry) :
    pending id (log ++ [x]) = pendingAfter id (pending id log) x := by
  unfold pending
  rw [foldl_append]
  rfl

lemma pending_of_append (hnot : ∀ row, .subscribed row ∈ entries → row.id ≠ id)
    (h : pending id (log ++ entries) = true) : pending id log = true := by
  induction entries using List.reverseRecOn with
  | nil => simpa using h
  | append_singleton entries x ih =>
    rw [← append_assoc, pending_snoc] at h
    have hrest : ∀ row, .subscribed row ∈ entries → row.id ≠ id := fun row hmem =>
      hnot row (mem_append_left _ hmem)
    cases x with
    | subscribed row =>
      have hid := hnot row (mem_concat_self)
      simp only [pendingAfter, Bool.or_eq_true, beq_iff_eq, hid, or_false] at h
      exact ih hrest h
    | mapped id' =>
      simp only [pendingAfter, Bool.and_eq_true] at h
      exact ih hrest h.1
    | restarted => cases h
    | _ => exact ih hrest h

lemma pending_append (hmapped : .mapped id ∉ entries) (hrestarted : .restarted ∉ entries)
    (h : pending id log = true) : pending id (log ++ entries) = true := by
  induction entries using List.reverseRecOn with
  | nil => simpa using h
  | append_singleton entries x ih =>
    have hbefore := ih (fun hmem => hmapped (mem_append_left _ hmem))
      fun hmem => hrestarted (mem_append_left _ hmem)
    rw [← append_assoc, pending_snoc]
    cases x with
    | subscribed row => simp [pendingAfter, hbefore]
    | mapped id' =>
      have hne : id' ≠ id := by
        rintro rfl
        exact hmapped (mem_concat_self)
      simp [pendingAfter, hbefore, hne]
    | restarted => exact absurd (mem_concat_self) hrestarted
    | _ => exact hbefore

/-! ## The invariant -/

/-- The id is not the one of the environment webhook. -/
abbrev Caller (cfg : Config) (id : String) : Prop := id ≠ envWebhookSubscriptionId cfg

/-- The map misses nothing but what is pending, and what is pending is pending under the
lock of the map. -/
structure Inv (cfg : Config) (s : Service) : Prop where
  known : ∀ sub ∈ s.db.subscriptions.rows, Known cfg sub
  covered : ∀ sub ∈ s.db.subscriptions.rows, sub.active = true →
    unexpired sub.expiresAt s.timestamp = true →
      s.subscriptions[sub.id]? = some sub.diagnostic ∨ pending sub.id s.log = true
  lock : ∀ id, Caller cfg id → pending id s.log = true → s.subscriptionsLock ≠ none

/-- Handler `i` has nothing pending under its lock. -/
def Settled (cfg : Config) (i : Nat) (s : Service) : Prop :=
  s.subscriptionsLock = some i → ∀ id, Caller cfg id → pending id s.log = false

/-- What the store holds under the id of a row is that row, as far as the map is concerned. -/
def Same (row : StoredSubscription) (db : EventDatabase) : Prop :=
  ∀ sub ∈ db.subscriptions.rows, sub.id = row.id → sub.diagnostic = row.diagnostic

/-- What handler `i` knows at its next step. -/
def Knows (cfg : Config) (i : Nat) (s : Service) : Tag → Prop
  | .calling (.publish _ _ _ _ now) _ | .looking _ _ now => now ≤ s.timestamp
  | .mapping row now => now ≤ s.timestamp ∧ Same row s.db
      ∧ ∀ id, Caller cfg id → pending id s.log = true → id = row.id
  | .unmapping ids => ∀ id ∈ ids, Inactive s.db id
  | .envMapping row => row.diagnostic = envDiagnostic cfg
  | .envUnmapping id => Inactive s.db id
  | .returning => Settled cfg i s
  | _ => True

/-- Which steps the schedule takes: a subscription is written for a caller that is still
there, and nobody looks at the map while an active environment webhook is pending. -/
def Allowed (cfg : Config) (i : Nat) (s : Service) : Tag → Prop
  | .calling (.upsertSubscription row) _ =>
    row.id = envWebhookSubscriptionId cfg ∨ s.subscriptionsLock = some i
  | .looking .. => pending (envWebhookSubscriptionId cfg) s.log = true →
      Inactive s.db (envWebhookSubscriptionId cfg)
  | _ => True

variable {sub : StoredSubscription}

lemma unexpired_of_clock (hclock : s.clock ≤ s'.clock)
    (h : unexpired sub.expiresAt s'.timestamp = true) :
    unexpired sub.expiresAt s.timestamp = true :=
  unexpired_mono (timestamp_mono hclock) h

/-- Entries that neither write a subscription nor map it. -/
def Silent (entries : List Entry) : Prop :=
  (∀ row, .subscribed row ∉ entries) ∧ (∀ id, .mapped id ∉ entries) ∧ .restarted ∉ entries

lemma silent_nil : Silent [] := ⟨by simp, by simp, by simp⟩

lemma Inv.frame (h : Inv cfg s) (hsubs : s'.db.subscriptions = s.db.subscriptions)
    (hmap : s'.subscriptions = s.subscriptions) (hclock : s.clock ≤ s'.clock)
    (hlog : s'.log = s.log ++ entries) (hsilent : Silent entries)
    (hlock : ∀ id, Caller cfg id → pending id s.log = true → s'.subscriptionsLock ≠ none) :
    Inv cfg s' := by
  obtain ⟨hwritten, hmapped, hrestarted⟩ := hsilent
  refine ⟨hsubs ▸ h.known, ?_, ?_⟩
  · intro sub hsub hactive hexpires
    rw [hmap, hlog]
    rcases h.covered sub (hsubs ▸ hsub) hactive (unexpired_of_clock hclock hexpires) with
      hcovered | hpending
    · exact .inl hcovered
    · exact .inr (pending_append (hmapped _) hrestarted hpending)
  · intro id hid hpending
    rw [hlog] at hpending
    exact hlock id hid (pending_of_append (fun row hmem => absurd hmem (hwritten row)) hpending)

variable {crates : Crates} {row : StoredSubscription} {n : Nat}

lemma draw_eq_upsert (h : call.draw crates n = .upsertSubscription row) :
    call = .upsertSubscription row := by
  cases call with
  | upsertSubscription => exact h
  | _ => cases h

variable {db : EventDatabase} {waiting : Bool}

lemma subscribed_of_mem (h : .subscribed row ∈ (call.draw crates n).entries waiting db) :
    call = .upsertSubscription row := by
  have hwrites := writes_of_mem h
  generalize hdrawn : call.draw crates n = drawn at hwrites
  cases hwrites with
  | subscribed _ hok => exact draw_eq_upsert hdrawn

lemma not_mapped (call : StoreCall) (waiting : Bool) (db : EventDatabase) :
    (∀ id, .mapped id ∉ call.entries waiting db) ∧ .restarted ∉ call.entries waiting db := by
  refine ⟨fun id h => ?_, fun h => ?_⟩
  · cases writes_of_mem h
  · cases writes_of_mem h

/-- An active subscription after a call was there, or was written by the call. -/
lemma active_of_mem (h : sub ∈ ((call.draw crates n).apply db).2.subscriptions.rows)
    (hactive : sub.active = true) :
    sub ∈ db.subscriptions.rows ∨ (call = .upsertSubscription sub
      ∧ (db.upsertSubscription sub).1 = .ok ()) := by
  rcases subscription_of_mem db _ h with ⟨old, hold, rfl | rfl⟩ | ⟨heq, hok⟩
  · exact .inl hold
  · cases hactive
  · exact .inr ⟨draw_eq_upsert heq, hok⟩

/-- **ONE CALL** keeps the map and the store together: what it writes is pending. -/
lemma Inv.called (h : Inv cfg s) (hproper : Proper cfg call)
    (hallowed : ∀ row, call = .upsertSubscription row →
      row.id = envWebhookSubscriptionId cfg ∨ s.subscriptionsLock = some i)
    (hcalled : Called cfg call i s s') (hmap : s'.subscriptions = s.subscriptions)
    (hlock : s'.subscriptionsLock = s.subscriptionsLock) (hclock : s'.clock = s.clock) :
    Inv cfg s' := by
  obtain ⟨-, hdb, hlog⟩ := hcalled
  refine ⟨?_, ?_, ?_⟩
  · intro sub hsub
    rw [hdb] at hsub
    rcases subscription_of_mem s.db _ hsub with hold | ⟨heq, -⟩
    · exact Known.of_survives h.known hold
    · rw [draw_eq_upsert heq] at hproper
      exact hproper
  · intro sub hsub hactive hexpires
    rw [hmap, hlog]
    rw [hdb] at hsub
    rcases active_of_mem hsub hactive with hsub | ⟨rfl, hok⟩
    · rcases h.covered sub hsub hactive (unexpired_of_clock hclock.ge hexpires) with hcovered | hpending
      · exact .inl hcovered
      · exact .inr (pending_append ((not_mapped ..).1 _) (not_mapped ..).2 hpending)
    · refine .inr ?_
      show pending sub.id (s.log ++ (StoreCall.upsertSubscription sub).entries _ s.db) = true
      rw [entries_upsertSubscription hok, pending_snoc]
      simp [pendingAfter]
  · intro id hid hpending
    rw [hlog] at hpending
    rw [hlock]
    by_cases hwritten : ∃ row, call = .upsertSubscription row ∧ row.id = id
    · obtain ⟨row, hcall, rfl⟩ := hwritten
      rcases hallowed row hcall with henv | howns
      · exact absurd henv hid
      · rw [howns]
        simp
    · refine h.lock id hid (pending_of_append (fun row hmem hrow => ?_) hpending)
      exact hwritten ⟨row, subscribed_of_mem hmem, hrow⟩

lemma Inv.remap (h : Inv cfg s) (hdb : s'.db = s.db) (hclock : s'.clock = s.clock)
    (hlock : s'.subscriptionsLock = s.subscriptionsLock) (hlog : s'.log = s.log ++ entries)
    (hwritten : ∀ row, .subscribed row ∉ entries)
    (hcovered : ∀ sub ∈ s.db.subscriptions.rows, sub.active = true →
      unexpired sub.expiresAt s.timestamp = true →
      s.subscriptions[sub.id]? = some sub.diagnostic ∨ pending sub.id s.log = true →
        s'.subscriptions[sub.id]? = some sub.diagnostic ∨ pending sub.id s'.log = true) :
    Inv cfg s' := by
  refine ⟨hdb ▸ h.known, ?_, ?_⟩
  · intro sub hsub hactive hexpires
    rw [hdb] at hsub
    have hexpires := unexpired_of_clock hclock.ge hexpires
    exact hcovered sub hsub hactive hexpires (h.covered sub hsub hactive hexpires)
  · intro id hid hpending
    rw [hlog] at hpending
    rw [hlock]
    exact h.lock id hid (pending_of_append (fun row hmem => absurd hmem (hwritten row)) hpending)

variable {now : Int}

/-- A subscription is put in the map as the store has it, and nothing live falls out. -/
lemma Inv.insert {map : Std.ExtTreeMap String SubscriptionDiagnostic} (h : Inv cfg s)
    (hdb : s'.db = s.db) (hclock : s'.clock = s.clock)
    (hlock : s'.subscriptionsLock = s.subscriptionsLock)
    (hmap : s'.subscriptions = map.insert row.id row.diagnostic)
    (hlog : s'.log = s.log ++ [.mapped row.id]) (hsame : Same row s.db)
    (hkept : ∀ sub : StoredSubscription, unexpired sub.expiresAt s.timestamp = true →
      s.subscriptions[sub.id]? = some sub.diagnostic → map[sub.id]? = some sub.diagnostic) :
    Inv cfg s' := by
  refine h.remap hdb hclock hlock hlog (by simp) fun sub hsub hactive hexpires hcovered => ?_
  rw [hmap, hlog, WattKeyed.getElem?_insert]
  by_cases hid : sub.id = row.id
  · rw [if_pos hid, hsame sub hsub hid]
    exact .inl rfl
  · rw [if_neg hid]
    exact hcovered.imp (hkept sub hexpires) (pending_append (by simpa using hid) (by simp))

lemma Inv.mapping (h : Inv cfg s) (hknows : Knows cfg i s (.mapping row now)) (e : Outcome) :
    Inv cfg (effect cfg (.mapping row now) i e s) := by
  refine h.insert rfl rfl rfl rfl rfl hknows.2.1 fun sub hexpires hmap => ?_
  -- what has not expired since `now` is not dropped from the map
  have hkept : unexpired sub.diagnostic.expiresAt now = true := unexpired_mono hknows.1 hexpires
  rw [Std.ExtTreeMap.getElem?_filter', hmap]
  exact filter_eq_some_iff.mpr ⟨rfl, hkept⟩

lemma getElem?_foldl_erase (ids : List String) (map : Std.ExtTreeMap String SubscriptionDiagnostic)
    (h : id ∉ ids) : (ids.foldl (·.erase ·) map)[id]? = map[id]? := by
  induction ids generalizing map with
  | nil => rfl
  | cons first rest ih =>
    obtain ⟨hfirst, hrest⟩ := not_or.mp (fun hmem => h (mem_cons.mpr hmem))
    rw [foldl_cons, ih _ hrest, WattKeyed.getElem?_erase, if_neg hfirst]

variable {ids : List String}

lemma Inv.unmapping (h : Inv cfg s) (hknows : Knows cfg i s (.unmapping ids)) (e : Outcome) :
    Inv cfg (effect cfg (.unmapping ids) i e s) := by
  refine h.remap rfl rfl rfl (append_nil _).symm (by simp)
    fun sub hsub hactive hexpires hcovered => ?_
  have hid : sub.id ∉ ids := by
    intro hmem
    rw [hknows sub.id hmem sub hsub rfl] at hactive
    cases hactive
  show (ids.foldl (·.erase ·) s.subscriptions)[sub.id]? = _ ∨ pending sub.id s.log = true
  rw [getElem?_foldl_erase ids s.subscriptions hid]
  exact hcovered

lemma Inv.envMapping (h : Inv cfg s) (hknows : Knows cfg i s (.envMapping row)) (e : Outcome) :
    Inv cfg (effect cfg (.envMapping row) i e s) := by
  have hrow : row.id = envWebhookSubscriptionId cfg := congrArg SubscriptionDiagnostic.id hknows
  refine h.insert rfl rfl rfl rfl rfl (fun sub hsub hid => ?_) fun _ _ hmap => hmap
  rw [(h.known sub hsub).env (hid.trans hrow), hknows]

lemma Inv.envUnmapping (h : Inv cfg s) (hknows : Knows cfg i s (.envUnmapping id)) (e : Outcome) :
    Inv cfg (effect cfg (.envUnmapping id) i e s) := by
  have hone : Knows cfg i s (.unmapping [id]) := by
    intro other hmem
    cases mem_singleton.mp hmem
    exact hknows
  exact h.unmapping hone e

/-! ## Steps -/

/-- Steps that leave the map and its lock. -/
def Elsewhere : Tag → Prop
  | .lockSubscriptions | .mapping .. | .unmapping _ | .envMapping _ | .envUnmapping _
  | .returning => False
  | _ => True

variable {tag : Tag} {e : Outcome}

lemma elsewhere_effect (cfg : Config) (i : Nat) (s : Service) (h : Elsewhere tag) (e : Outcome) :
    (effect cfg tag i e s).subscriptions = s.subscriptions
      ∧ (effect cfg tag i e s).subscriptionsLock = s.subscriptionsLock := by
  cases tag with
  | lockSubscriptions | mapping | unmapping | envMapping | envUnmapping | returning => exact h.elim
  | calling | looking | post | challenge =>
    unfold effect
    dsimp only
    split <;> exact ⟨rfl, rfl⟩
  | _ => exact ⟨rfl, rfl⟩

lemma silent_entries {tag : Tag} (htag : Elsewhere tag)
    (hstored : ∀ x ∈ tag.entries cfg i e s, ¬ x.stored) : Silent (tag.entries cfg i e s) := by
  have hunmapped : ∀ x ∈ tag.entries cfg i e s, (∀ id, x ≠ .mapped id) ∧ x ≠ .restarted := by
    intro x hx
    cases tag with
    | lockSubscriptions | mapping | unmapping | envMapping | envUnmapping | returning =>
      exact htag.elim
    | calling call gate =>
      unfold Tag.entries at hx
      dsimp only at hx
      split at hx
      · cases hx
      · exact ⟨fun id heq => (not_mapped ..).1 id (heq ▸ hx), fun heq => (not_mapped ..).2 (heq ▸ hx)⟩
    | looking | post =>
      unfold Tag.entries at hx
      dsimp only at hx
      split at hx <;> simp_all
    | _ => cases hx
  exact ⟨fun row hmem => hstored _ hmem trivial, fun id hmem => (hunmapped _ hmem).1 id rfl,
    fun hmem => (hunmapped _ hmem).2 rfl⟩

lemma lock_release (h : Inv cfg s) (hsettled : Settled cfg i s) :
    ∀ id, Caller cfg id → pending id s.log = true → s.subscriptionsLock.filter (· ≠ i) ≠ none := by
  intro id hid hpending hnone
  have hheld := h.lock id hid hpending
  cases hlock : s.subscriptionsLock with
  | none => exact hheld hlock
  | some j =>
    rw [hlock, filter_eq_none_iff] at hnone
    have hj : j = i := by simpa using hnone
    rw [hsettled (hj ▸ hlock) id hid] at hpending
    cases hpending

/-- **ONE STEP** keeps the invariant. -/
lemma Inv.step (h : Inv cfg s) (hproper : ProperTag cfg tag) (hknows : Knows cfg i s tag)
    (hallowed : Allowed cfg i s tag) (e : Outcome) : Inv cfg (effect cfg tag i e s) := by
  by_cases htag : Elsewhere tag
  · obtain ⟨hmap, hlock⟩ := elsewhere_effect cfg i s htag e
    rcases effect_cases cfg tag i e s with ⟨hdb, -, hstored⟩ | ⟨call, gate, rfl, -, hcalled⟩
    · refine h.frame (by rw [hdb]) hmap (clock_effect ..).ge (effect_log ..)
        (silent_entries htag hstored) fun id hid hpending => ?_
      rw [hlock]
      exact h.lock id hid hpending
    · refine h.called (hproper call gate rfl) (fun row heq => ?_) hcalled hmap hlock
        (clock_effect ..)
      rw [heq] at hallowed
      exact hallowed
  · cases tag with
    | lockSubscriptions =>
      exact h.frame rfl rfl le_rfl (append_nil _).symm silent_nil fun _ _ _ => by
        show some i ≠ none
        simp
    | mapping row now => exact h.mapping hknows e
    | unmapping ids => exact h.unmapping hknows e
    | envMapping row => exact h.envMapping hknows e
    | envUnmapping id => exact h.envUnmapping hknows e
    | returning =>
      exact h.frame rfl rfl le_rfl (append_nil _).symm silent_nil (lock_release h hknows)
    | _ => exact absurd trivial htag

/-! ## Answers -/

/-- The store holds a subscription that events of the type go to. -/
structure Held (cfg : Config) (eventType : String) (s : Service) (sub : StoredSubscription) :
    Prop where
  mem : sub ∈ s.db.subscriptions.rows
  active : sub.active = true
  unexpired : unexpired sub.expiresAt s.timestamp = true
  owner : sub.ownerId = cfg.ownerId
  target : sub.targetAgentId = cfg.ownerId
  matching : sub.eventType = "*" ∨ sub.eventType = eventType

/-- The store holds such a subscription under an id. -/
def Holds (cfg : Config) (eventType id : String) (s : Service) : Prop :=
  ∃ sub, Held cfg eventType s sub ∧ sub.id = id

/-- The step between two states answers a call of `publish` with Ok. -/
def Answers (event eventType : String) (s s' : Service) : Prop :=
  ∃ entries now, s'.log = s.log ++ entries ∧ .answered event eventType now ∈ entries

/-- What every step does for the events: an answer finds the event queued, and an event stays
queued for whoever is held. -/
structure Good (cfg : Config) (s s' : Service) : Prop where
  answers : ∀ event eventType id, Answers event eventType s s' → Holds cfg eventType id s →
    Tracked event id s.db → Queued event id s'.db
  tracked : ∀ event eventType id, Holds cfg eventType id s → Holds cfg eventType id s' →
    Tracked event id s.db → Tracked event id s'.db

lemma good_of_same (hlog : s'.log = s.log ++ entries)
    (hnone : ∀ event eventType now, .answered event eventType now ∉ entries) (hdb : s'.db = s.db) :
    Good cfg s s' := by
  refine ⟨?_, fun event eventType id _ _ h => hdb ▸ h⟩
  rintro event eventType id ⟨more, now, hmore, hmem⟩
  rw [append_cancel_left (hlog.symm.trans hmore)] at hnone
  exact absurd hmem (hnone event eventType now)

variable {eventType : String} {ownerId : String} {occurrence : StoredOccurrence}
  {payload : List UInt8} {rowIds : Nat → String}

lemma Held.mem_subscribersOf (h : Held cfg eventType s sub)
    (hinv : Inv cfg s) (hnow : now ≤ s.timestamp) (howner : ownerId = cfg.ownerId)
    (other : String) : sub ∈ s.db.subscribersOf ownerId other now := by
  have hwide := (hinv.known sub h.mem).2.1
  refine mem_filter.mpr ⟨h.mem, ?_⟩
  rw [howner]
  simp [h.active, unexpired_mono hnow h.unexpired, h.owner, h.target, hwide]

/-- **THE STORE**: a call that answers has queued the event. -/
lemma queued_of_publish {held : String} (hinv : Inv cfg s) (hsub : Held cfg held s sub)
    (hnow : now ≤ s.timestamp) (howner : occurrence.ownerId = cfg.ownerId)
    (hok : (s.db.publish occurrence payload eventType rowIds now).1 = .ok ())
    (htracked : Tracked occurrence.eventId sub.id s.db) :
    Queued occurrence.eventId sub.id (s.db.publish occurrence payload eventType rowIds now).2 := by
  have hgoes := hsub.mem_subscribersOf hinv hnow howner eventType
  rcases publish_cases s.db occurrence payload eventType rowIds now with
    ⟨text, hsame⟩ | ⟨hsame, hnone | hrecorded⟩ | ⟨db', hdb', hpub⟩
  · rw [hsame] at hok
    cases hok
  · rw [hnone] at hgoes
    cases hgoes
  · rw [hsame]
    exact htracked.queued hrecorded
  · rw [hdb']
    obtain ⟨row, hrow, hid, hrowSub, -⟩ := row_of_publishes hpub hgoes
    refine ⟨occurrence, ?_, rfl, row, hrow, hid, hrowSub⟩
    rw [hpub.occurrences]
    exact mem_concat_self

/-- **THE MAP**: whoever is held is found in the map. -/
lemma interested_of_held {event : String} (hinv : Inv cfg s) (hsub : Held cfg eventType s sub)
    (hnow : now ≤ s.timestamp) (hallowed : Allowed cfg i s (.looking event eventType now))
    (hready : (Tag.looking event eventType now).ready s = true) :
    interested cfg s eventType now = true := by
  have hmap : s.subscriptions[sub.id]? = some sub.diagnostic := by
    rcases hinv.covered sub hsub.mem hsub.active hsub.unexpired with hmap | hpending
    · exact hmap
    · by_cases henv : sub.id = envWebhookSubscriptionId cfg
      · have hinactive := hallowed (henv ▸ hpending) sub hsub.mem henv
        rw [hsub.active] at hinactive
        cases hinactive
      · exact absurd (isNone_iff_eq_none.mp hready) (hinv.lock sub.id henv hpending)
  unfold interested
  refine any_eq_true.mpr ⟨(sub.id, sub.diagnostic), ?_, ?_⟩
  · exact Std.ExtTreeMap.mem_toList_iff_getElem?_eq_some.mpr hmap
  · have hwide := (hinv.known sub hsub.mem).2.1
    simp [StoredSubscription.diagnostic, hsub.target, hwide, unexpired_mono hnow hsub.unexpired]

lemma not_cancels_of_held (hinv : Inv cfg s) (hproper : Proper cfg call)
    (hdb : s'.db = ((call.draw cfg.crates s.draws).apply s.db).2)
    (hsub : Held cfg eventType s' sub) (now : Int) :
    ¬ (call.draw cfg.crates s.draws).Cancels s.db sub.id now := by
  intro hcancels
  have hinactive := inactive_of_cancels hcancels fun id ownerId now heq other hother => by
    cases call with
    | cancelSubscription =>
      cases heq
      rw [hproper.1]
      exact (hinv.known other hother).1
    | _ => cases heq
  have hactive := hinactive sub (hdb ▸ hsub.mem) rfl
  rw [hsub.active] at hactive
  cases hactive

lemma answered_of_mem {drawn : StoreCall}
    (h : .answered event eventType now ∈ drawn.entries waiting db) :
    ∃ occurrence payload rowIds, drawn = .publish occurrence payload eventType rowIds now
      ∧ occurrence.eventId = event
      ∧ (db.publish occurrence payload eventType rowIds now).1 = .ok () := by
  cases writes_of_mem h with
  | answered occurrence payload _ rowIds _ hok => exact ⟨occurrence, payload, rowIds, rfl, rfl, hok⟩

variable {gate : Bool}

lemma publish_of_draw (h : call.draw crates n = .publish occurrence payload eventType rowIds now)
    (hproper : Proper cfg call) (hknows : Knows cfg i s (.calling call gate)) :
    occurrence.ownerId = cfg.ownerId ∧ now ≤ s.timestamp := by
  cases call with
  | publish =>
    cases h
    exact ⟨hproper, hknows⟩
  | _ => cases h

lemma good_called (hinv : Inv cfg s) (hproper : Proper cfg call)
    (hknows : Knows cfg i s (.calling call gate)) (hcalled : Called cfg call i s s') :
    Good cfg s s' := by
  obtain ⟨-, hdb, hlog⟩ := hcalled
  refine ⟨?_, ?_⟩
  · rintro event eventType id ⟨entries, now, hentries, hmem⟩ ⟨sub, hsub, rfl⟩ htracked
    rw [← append_cancel_left (hlog.symm.trans hentries)] at hmem
    obtain ⟨occurrence, payload, rowIds, hdrawn, rfl, hok⟩ := answered_of_mem hmem
    obtain ⟨howner, hnow⟩ := publish_of_draw hdrawn hproper hknows
    rw [hdb, hdrawn]
    exact queued_of_publish hinv hsub hnow howner hok htracked
  · rintro event eventType id ⟨sub, hsub, rfl⟩ ⟨sub', hsub', hid⟩ htracked
    rw [hdb]
    refine htracked.apply ⟨sub', hdb ▸ hsub'.mem, hid⟩ (fun now => ?_) ?_
    · rw [← hid]
      exact not_cancels_of_held hinv hproper hdb hsub' now
    · intro occurrence payload other rowIds now hdrawn
      obtain ⟨howner, hnow⟩ := publish_of_draw hdrawn hproper hknows
      exact ⟨sub, hsub.mem_subscribersOf hinv hnow howner other, rfl⟩

/-- **ONE STEP** does right by the events. -/
lemma good_step (hinv : Inv cfg s) (hproper : ProperTag cfg tag) (hknows : Knows cfg i s tag)
    (hallowed : Allowed cfg i s tag) (hready : tag.ready s = true) (e : Outcome) :
    Good cfg s (effect cfg tag i e s) := by
  cases tag with
  | calling call gate =>
    rcases calling_cases cfg call gate i e s with ⟨-, hdb, hlog⟩ | ⟨-, hcalled⟩
    · exact good_of_same (hlog.trans (append_nil _).symm) (by simp) hdb
    · exact good_called hinv (hproper call gate rfl) hknows hcalled
  | looking event eventType now =>
    have hdb : (effect cfg (.looking event eventType now) i e s).db = s.db :=
      (effect_db cfg (by simp) i e s).1
    refine ⟨?_, fun _ _ _ _ _ h => hdb ▸ h⟩
    rintro event' eventType' id ⟨entries, now', hentries, hmem⟩ ⟨sub, hsub, rfl⟩ -
    rw [← append_cancel_left ((effect_log ..).symm.trans hentries), Tag.entries] at hmem
    split at hmem
    · cases hmem
    · next hnobody =>
        cases mem_singleton.mp hmem
        exact absurd (interested_of_held hinv hsub hknows hallowed hready) hnobody
  | mapping | envMapping => exact good_of_same rfl (by simp) rfl
  | post item =>
    refine good_of_same (effect_log ..) (fun _ _ _ => ?_) (effect_db cfg (by simp) i e s).1
    unfold Tag.entries
    dsimp only
    cases e.request <;> simp
  | _ => exact good_of_same (effect_log ..) (by simp [Tag.entries]) (effect_db cfg (by simp) i e s).1

/-! ## The discipline -/

/-- Where a removal of the environment webhook stands between the store and the map. -/
def leavesEnv : Tag → Bool
  | .resumed (.deactivateSubscription ..) | .envUnmapping _ => true
  | _ => false

/-- What a handler relies on: under its lock nobody else writes a subscription, and while it
removes the environment webhook nobody writes that. -/
structure Relies (cfg : Config) (j : Nat) (tag : Tag) (s s' : Service) : Prop where
  clock : s.clock ≤ s'.clock
  lock : s'.subscriptionsLock = some j ↔ s.subscriptionsLock = some j
  settled : s.subscriptionsLock = some j → ∀ id, Caller cfg id → pending id s'.log = true →
    pending id s.log = true
  inactive : s.subscriptionsLock = some j → ∀ id, Caller cfg id → Inactive s.db id →
    Inactive s'.db id
  same : s.subscriptionsLock = some j → ∀ row : StoredSubscription, Caller cfg row.id →
    Same row s.db → Same row s'.db
  env : leavesEnv tag = true → Inactive s.db (envWebhookSubscriptionId cfg) →
    Inactive s'.db (envWebhookSubscriptionId cfg)

section Relies

variable {j : Nat} {tag : Tag}

lemma Relies.of_same (hlocks : OtherLocks j s s') (hdb : s'.db = s.db) (hlog : s'.log = s.log) :
    Relies cfg j tag s s' where
  clock := hlocks.clock.ge
  lock := hlocks.subscriptionsLock
  settled _ _ _ h := hlog ▸ h
  inactive _ _ _ h := hdb ▸ h
  same _ _ _ h := hdb ▸ h
  env _ h := hdb ▸ h

lemma Relies.trans {s1 s2 s3 : Service} (h : Relies cfg j tag s1 s2)
    (h' : Relies cfg j tag s2 s3) : Relies cfg j tag s1 s3 where
  clock := h.clock.trans h'.clock
  lock := h'.lock.trans h.lock
  settled hlock id hid hpending :=
    h.settled hlock id hid (h'.settled (h.lock.mpr hlock) id hid hpending)
  inactive hlock id hid hinactive :=
    h'.inactive (h.lock.mpr hlock) id hid (h.inactive hlock id hid hinactive)
  same hlock row hrow hsame := h'.same (h.lock.mpr hlock) row hrow (h.same hlock row hrow hsame)
  env htag hinactive := h'.env htag (h.env htag hinactive)

lemma Settled.rely (h : Settled cfg i s) (hrely : Relies cfg i tag s s') : Settled cfg i s' := by
  intro hlock id hid
  have hlock := hrely.lock.mp hlock
  cases hpending : pending id s'.log with
  | false => rfl
  | true => exact (hrely.settled hlock id hid hpending).symm.trans (h hlock id hid)

/-- The subscriptions after a step of a handler that has no lock, or of the environment. -/
lemma survives_step (hallowed : Allowed cfg i s tag) (hi : s.subscriptionsLock ≠ some i)
    (e : Outcome) {sub : StoredSubscription}
    (hsub : sub ∈ (effect cfg tag i e s).db.subscriptions.rows) :
    Survives s.db sub ∨ ∃ gate, tag = .calling (.upsertSubscription sub) gate
      ∧ sub.id = envWebhookSubscriptionId cfg := by
  rcases effect_cases cfg tag i e s with ⟨hdb, -⟩ | ⟨call, gate, rfl, -, hcalled⟩
  · exact .inl ⟨sub, hdb ▸ hsub, .inl rfl⟩
  · rw [hcalled.db] at hsub
    rcases subscription_of_mem s.db _ hsub with hold | ⟨heq, -⟩
    · exact .inl hold
    · rw [draw_eq_upsert heq] at hallowed ⊢
      rcases hallowed with henv | hlock
      · exact .inr ⟨gate, rfl, henv⟩
      · exact absurd hlock hi

lemma subscribed_of_mem_tag {row : StoredSubscription} {e : Outcome}
    (h : .subscribed row ∈ tag.entries cfg i e s) :
    ∃ gate, tag = .calling (.upsertSubscription row) gate := by
  rcases effect_cases cfg tag i e s with ⟨-, -, hstored⟩ | ⟨call, gate, rfl, herror, -⟩
  · exact absurd trivial (hstored _ h)
  · rw [Tag.entries, herror] at h
    exact ⟨gate, by rw [subscribed_of_mem h]⟩

/-- **ONE STEP** for the others. -/
lemma relies_step {tag' : Tag} (hallowed : Allowed cfg i s tag) (hready : tag.ready s = true)
    (hj : j ≠ i) (e : Outcome)
    (hfree : ∀ row gate, tag = .calling (.upsertSubscription row) gate →
      row.id = envWebhookSubscriptionId cfg → leavesEnv tag' = false) :
    Relies cfg j tag' s (effect cfg tag i e s) := by
  have hlocks := effect_otherLocks cfg hj hready e
  have hnot : s.subscriptionsLock = some j → s.subscriptionsLock ≠ some i := by
    intro hlock hi
    exact hj (mem_unique hlock hi)
  refine ⟨hlocks.clock.ge, hlocks.subscriptionsLock, ?_, ?_, ?_, ?_⟩
  · intro hlock id hid hpending
    rw [effect_log] at hpending
    refine pending_of_append (fun row hmem => ?_) hpending
    obtain ⟨gate, rfl⟩ := subscribed_of_mem_tag hmem
    rcases hallowed with henv | howns
    · exact fun hrow => hid (hrow.symm.trans henv)
    · exact absurd howns (hnot hlock)
  · intro hlock id hid hinactive
    refine hinactive.of_survives fun sub hsub hsubId => ?_
    rcases survives_step hallowed (hnot hlock) e hsub with hold | ⟨-, -, henv⟩
    · exact hold
    · exact absurd (hsubId.symm.trans henv) hid
  · intro hlock row hrow hsame sub hsub hsubId
    rcases survives_step hallowed (hnot hlock) e hsub with ⟨old, hold, rfl | rfl⟩ | ⟨-, -, henv⟩
    · exact hsame sub hold hsubId
    · exact hsame old hold hsubId
    · exact absurd (hsubId.symm.trans henv) hrow
  · intro hleaves hinactive
    have hwrites : ∀ row gate, tag = .calling (.upsertSubscription row) gate →
        Caller cfg row.id := by
      intro row gate heq henv
      rw [hfree row gate heq henv] at hleaves
      cases hleaves
    rcases effect_cases cfg tag i e s with ⟨hdb, -⟩ | ⟨call, gate, rfl, -, hcalled⟩
    · exact hdb ▸ hinactive
    · rw [hcalled.db]
      refine hinactive.apply _ fun row heq _ => ?_
      exact hwrites row gate (by rw [draw_eq_upsert heq])

end Relies

/-- Where a handler may be dropped: not between the store and the map. -/
def Droppable (cfg : Config) : Tag → Prop
  | .resumed (.upsertSubscription row) => row.id = envWebhookSubscriptionId cfg
  | .mapping .. => False
  | _ => True

lemma Inv.drop (h : Inv cfg s) (hsettled : Settled cfg i s) : Inv cfg (dropHandler i tag s) := by
  have hlock := lock_release h hsettled
  unfold dropHandler
  split <;>
    exact h.frame rfl rfl le_rfl (append_nil _).symm silent_nil hlock

section Opening

variable {rows : List StoredSubscription} {sub : StoredSubscription}
  (map : Std.ExtTreeMap String SubscriptionDiagnostic)

lemma getElem?_foldl_insert_of_not_mem (h : sub.id ∉ rows.map StoredSubscription.id) :
    (rows.foldl (fun map (row : StoredSubscription) => map.insert row.id row.diagnostic) map)[sub.id]?
      = map[sub.id]? := by
  induction rows generalizing map with
  | nil => rfl
  | cons row rest ih =>
    rw [map_cons, mem_cons, not_or] at h
    rw [foldl_cons, ih _ h.2, WattKeyed.getElem?_insert, if_neg h.1]

lemma getElem?_foldl_insert (hnodup : (rows.map StoredSubscription.id).Nodup) (h : sub ∈ rows) :
    (rows.foldl (fun map (row : StoredSubscription) => map.insert row.id row.diagnostic) map)[sub.id]?
      = some sub.diagnostic := by
  induction rows generalizing map with
  | nil => cases h
  | cons row rest ih =>
    obtain ⟨hrow, hrest⟩ := nodup_cons.mp hnodup
    rcases mem_cons.mp h with rfl | h
    · rw [foldl_cons, getElem?_foldl_insert_of_not_mem _ hrow, WattKeyed.getElem?_insert,
        if_pos rfl]
    · exact ih _ hrest h

end Opening

lemma Inv.happen (h : Inv cfg s) (x : Happening) : Inv cfg (happen cfg x s) := by
  cases x with
  | wait millis =>
    exact h.frame rfl rfl (clock_le_wait s millis) (append_nil _).symm silent_nil h.lock
  | restart fingerprint =>
    have hknown : ∀ sub ∈ (openService cfg fingerprint s).db.subscriptions.rows, Known cfg sub :=
      fun sub hsub => Known.of_survives h.known (survives_of_deactivateWhere hsub)
    refine ⟨hknown, fun sub hsub hactive hexpires => .inl ?_, fun id _ hpending => ?_⟩
    · -- the map is read from the store
      refine getElem?_foldl_insert ∅ ?_ (mem_filter.mpr ⟨hsub, ?_⟩)
      · exact (openService cfg fingerprint s).db.subscriptions.nodup.sublist
          (filter_sublist.map StoredSubscription.id)
      · have hexpires : unexpired sub.expiresAt s.timestamp = true := hexpires
        simp [hactive, hexpires, (hknown sub hsub).1]
    · have hpending : pending id (s.log ++ [.restarted]) = true := hpending
      rw [pending_snoc] at hpending
      cases hpending

lemma good_happen (x : Happening) : Good cfg s (happen cfg x s) := by
  cases x with
  | wait millis => exact good_of_same (append_nil _).symm (by simp) rfl
  | restart fingerprint =>
    refine ⟨?_, fun _ _ _ _ _ h => h⟩
    rintro event eventType id ⟨entries, now, hentries, hmem⟩ - -
    have hlog : (openService cfg fingerprint s).log = s.log ++ [.restarted] := rfl
    rw [← append_cancel_left (hlog.symm.trans hentries)] at hmem
    simp at hmem

/-- What the handlers keep, and at which steps. -/
def publishDiscipline (cfg : Config) : Discipline (eventServer cfg) where
  inv := Inv cfg
  pre i tag s := Droppable cfg tag → Settled cfg i s
  away j s := s.subscriptionsLock ≠ some j
  rely := Relies cfg
  hold _ _ s s' := s.clock ≤ s'.clock
  ok i tag _ s := Allowed cfg i s tag
  okDrop := Droppable cfg
  free tag tag' := ∀ row gate, tag = .calling (.upsertSubscription row) gate →
    row.id = envWebhookSubscriptionId cfg → leavesEnv tag' = false
  good := Good cfg
  rely_refl j tag s := .of_same (.refl j s) rfl rfl
  rely_trans _ _ := Relies.trans
  hold_refl _ _ _ := le_rfl
  hold_trans _ _ := le_trans
  good_refl s := good_of_same (append_nil _).symm (by simp) rfl
  drop_inv i tag s h hpre hdrop := by
    obtain ⟨hdb, -, hlog⟩ := dropHandler_same i tag s
    exact ⟨h.drop (hpre hdrop), good_of_same (hlog.trans (append_nil _).symm) (by simp) hdb⟩
  drop_away := dropHandler_away
  drop_others i j tag tag' s hj := by
    obtain ⟨hdb, -, hlog⟩ := dropHandler_same i tag s
    have hlocks := dropHandler_otherLocks hj tag s
    exact ⟨.of_same hlocks hdb hlog, hlocks.clock.ge⟩
  env_inv x s h := ⟨h.happen x, good_happen x⟩
  env_away := happen_unlocked cfg
  env_others x s hx _ j tag := by
    cases x with
    | wait millis =>
      have hclock := clock_le_wait s millis
      exact ⟨⟨hclock, Iff.rfl, fun _ _ _ h => h, fun _ _ _ h => h, fun _ _ _ h => h, fun _ h => h⟩,
        hclock⟩
    | restart fingerprint => cases hx

/-- **ONE STEP** keeps the discipline. -/
lemma keeps_step (h : Inv cfg s) (hproper : ProperTag cfg tag)
    (hknows : Knows cfg i s tag) (hready : tag.ready s = true)
    (hok : (publishDiscipline cfg).ok i tag e s) :
    (publishDiscipline cfg).Keeps i tag s (effect cfg tag i e s) where
  inv := h.step hproper hknows hok e
  good := good_step h hproper hknows hok hready e
  others j tag' hj hfree := by
    have hlocks := effect_otherLocks cfg hj hready e
    exact ⟨relies_step hok hready hj e hfree, hlocks.clock.ge⟩
  away j hj := effect_unlocked cfg hready e hj

/-! ## Handlers -/

/-- What a handler knows: nothing is pending under its lock, the clock is past a reading,
and the lock is its own. -/
structure Calm (cfg : Config) (i : Nat) (now : Int) (locks : Prop) (s : Service) : Prop where
  settled : Settled cfg i s
  now : now ≤ s.timestamp
  locks : locks → s.subscriptionsLock = some i

section Calm

variable {now : Int} {locks : Prop} {tag : Tag}

lemma Calm.rely (h : Calm cfg i now locks s) (hrely : Relies cfg i tag s s') :
    Calm cfg i now locks s' :=
  ⟨h.settled.rely hrely, h.now.trans (timestamp_mono hrely.clock),
    fun hlocks => hrely.lock.mpr (h.locks hlocks)⟩

/-- Steps that write no subscription but the environment's. -/
def Mild (cfg : Config) (tag : Tag) : Prop :=
  ∀ row gate, tag = .calling (.upsertSubscription row) gate → row.id = envWebhookSubscriptionId cfg

lemma settled_step (hinv : Inv cfg s) (hmild : Mild cfg tag) (hready : tag.ready s = true)
    (h : Settled cfg i s) (e : Outcome) : Settled cfg i (effect cfg tag i e s) := by
  have hbefore : ∀ id, Caller cfg id → pending id (effect cfg tag i e s).log = true →
      pending id s.log = true := by
    intro id hid hpending
    rw [effect_log] at hpending
    refine pending_of_append (fun row hmem hrow => hid ?_) hpending
    obtain ⟨gate, heq⟩ := subscribed_of_mem_tag hmem
    exact hrow.symm.trans (hmild row gate heq)
  intro hlock id hid
  cases hpending : pending id (effect cfg tag i e s).log with
  | false => rfl
  | true =>
    have hpending := hbefore id hid hpending
    -- the lock was this handler's before, or it is taken here and was nobody's
    by_cases hheld : s.subscriptionsLock = some i
    · exact hpending.symm.trans (h hheld id hid)
    · cases tag with
      | lockSubscriptions =>
        exact absurd (isNone_iff_eq_none.mp hready) (hinv.lock id hid hpending)
      | returning => exact absurd hlock (release_unlocked i s)
      | mapping | unmapping | envMapping | envUnmapping => exact absurd hlock hheld
      | _ =>
        rw [(elsewhere_effect cfg i s (by exact trivial) e).2] at hlock
        exact absurd hlock hheld

/-- Steps that need no more than a calm handler. -/
def Plain (cfg : Config) (tag : Tag) : Prop :=
  ProperTag cfg tag ∧ Mild cfg tag ∧ (∀ i s, Settled cfg i s → Knows cfg i s tag) ∧ Droppable cfg tag

lemma plain_step (hinv : Inv cfg s) (htag : Plain cfg tag) (hs : Settled cfg i s) :
    (publishDiscipline cfg).pre i tag s ∧ (tag.ready s = true → ∀ e,
      (publishDiscipline cfg).ok i tag e s →
        (publishDiscipline cfg).Keeps i tag s (effect cfg tag i e s)
          ∧ Settled cfg i (effect cfg tag i e s)) := by
  obtain ⟨hproper, hmild, hknows, -⟩ := htag
  refine ⟨fun _ => hs, fun hready e hok => ⟨?_, settled_step hinv hmild hready hs e⟩⟩
  exact keeps_step hinv hproper (hknows i s hs) hready hok

/-- Steps between which a handler keeps its lock. -/
def Steady : Tag → Prop
  | .returning => False
  | _ => True

/-- Steps after which a calm handler is calm. -/
def Quiet (cfg : Config) (tag : Tag) : Prop := Plain cfg tag ∧ Steady tag

lemma steady_effect (htag : Steady tag) (e : Outcome) (h : s.subscriptionsLock = some i) :
    (effect cfg tag i e s).subscriptionsLock = some i := by
  cases tag with
  | lockSubscriptions => rfl
  | returning => exact htag.elim
  | mapping | unmapping | envMapping | envUnmapping => exact h
  | _ =>
    rw [(elsewhere_effect cfg i s (by exact trivial) e).2]
    exact h

lemma calm_step (hinv : Inv cfg s) (htag : Quiet cfg tag) (hs : Calm cfg i now locks s) :
    (publishDiscipline cfg).pre i tag s ∧ (tag.ready s = true → ∀ e,
      (publishDiscipline cfg).ok i tag e s →
        (publishDiscipline cfg).Keeps i tag s (effect cfg tag i e s)
          ∧ Calm cfg i now locks (effect cfg tag i e s)) := by
  obtain ⟨hpre, hstep⟩ := plain_step hinv htag.1 hs.settled
  refine ⟨hpre, fun hready e hok => ?_⟩
  obtain ⟨hkeeps, hsettled⟩ := hstep hready e hok
  exact ⟨hkeeps, hsettled, hs.now.trans (timestamp_mono (clock_effect ..).ge),
    fun hlocks => steady_effect htag.2 e (hs.locks hlocks)⟩

/-- Handler `i` runs `p`, ends with `Q`, and leaves nothing pending if it fails. -/
abbrev Ensures (cfg : Config) (i : Nat) {α : Type} (p : Handler α) (Q : α → Service → Prop)
    (s : Service) : Prop :=
  Runs (publishDiscipline cfg) i p Q (Settled cfg i) s

/-- Handler `i` runs `p` and leaves nothing pending. -/
abbrev Settles (cfg : Config) (i : Nat) {α : Type} (p : Handler α) (s : Service) : Prop :=
  Ensures cfg i p (fun _ => Settled cfg i) s

lemma runs_plain {α β : Type} {p : Handler α} {f : α → Handler β} {Q : β → Service → Prop}
    (hp : Follows cfg (Quiet cfg) p) (hs : Calm cfg i now locks s)
    (hf : ∀ a s, Calm cfg i now locks s → Ensures cfg i (f a) Q s) : Ensures cfg i (p >>= f) Q s :=
  runs_then _ (fun _ _ _ _ hK hr => hK.rely hr) (fun _ _ htag hinv hK => calm_step hinv htag hK)
    hp hs hf fun _ h => h.settled

lemma runs_plain_last {α : Type} {p : Handler α}
    (hp : Follows cfg (Quiet cfg) p) (hs : Settled cfg i s) : Settles cfg i p s := by
  refine (publishDiscipline cfg).rules.safe_mono ?_ (safe_of_follows _ (fun _ _ _ _ hK hr => hK.rely hr)
    (fun _ _ htag hinv hK => plain_step hinv htag.1 hK) hp hs)
  intro result s h
  cases result <;> exact h

lemma runs_reading {β : Type} {tag : Tag} {f : Int → Handler β} {Q : β → Service → Prop}
    (htag : Quiet cfg tag) (hs : Calm cfg i now locks s)
    (heffect : ∀ e s, (effect cfg tag i e s) = s)
    (hf : ∀ now s, Calm cfg i now locks s → Ensures cfg i (f now) Q s) :
    Ensures cfg i (take cfg tag (fun _ s => .ok s.timestamp) >>= f) Q s := by
  refine runs_bind _ (runs_take _ fun s1 hrely hinv => ?_)
  have hs1 := hs.rely hrely
  obtain ⟨hpre, hstep⟩ := calm_step hinv htag hs1
  refine ⟨hpre, fun hready e hok => ⟨(hstep hready e hok).1, ?_⟩⟩
  rw [heffect]
  exact hf _ _ ⟨hs1.settled, le_rfl, hs1.locks⟩

end Calm

lemma plain_of_elsewhere (hcall : ∀ call gate, tag ≠ .calling call gate)
    (hknows : ∀ i s, Knows cfg i s tag) (hdrop : Droppable cfg tag) : Plain cfg tag :=
  ⟨fun call gate heq => absurd heq (hcall call gate),
    fun _ _ heq => absurd heq (hcall _ _), fun i s _ => hknows i s, hdrop⟩

/-- Steps that need to know nothing and change neither the store nor the map. -/
def Simple : Tag → Prop
  | .calling .. | .resumed _ | .mapping .. | .unmapping _ | .envMapping _ | .envUnmapping _
  | .looking .. | .returning => False
  | _ => True

lemma plain_simple {tag : Tag} (h : Simple tag) : Plain cfg tag := by
  cases tag with
  | calling | resumed | mapping | unmapping | envMapping | envUnmapping | looking | returning =>
    exact h.elim
  | _ => exact plain_of_elsewhere (by simp) (fun _ _ => trivial) trivial

lemma quiet_simple {tag : Tag} (h : Simple tag) : Quiet cfg tag := by
  refine ⟨plain_simple h, ?_⟩
  cases tag with
  | returning => exact h.elim
  | _ => exact trivial

lemma follows_simple {α : Type} {tag : Tag} {value : Outcome → Service → Except String α}
    (h : Simple tag) : Follows cfg (Quiet cfg) (take cfg tag value) :=
  follows_take (quiet_simple h)

lemma plain_calling (hproper : Proper cfg call)
    (hwrites : ∀ row, call = .upsertSubscription row → row.id = envWebhookSubscriptionId cfg)
    (hpublish : ∀ o p t r n, call ≠ .publish o p t r n) : Plain cfg (.calling call gate) := by
  refine ⟨?_, ?_, fun i s _ => ?_, trivial⟩
  · intro call' gate' heq
    cases heq
    exact hproper
  · intro row gate' heq
    cases heq
    exact hwrites row rfl
  · cases call with
    | publish o p t r n => exact absurd rfl (hpublish o p t r n)
    | _ => exact trivial

lemma plain_returning : Plain cfg .returning :=
  ⟨nofun, nofun, fun _ _ h => h, trivial⟩

/-! ## Subscriptions -/

lemma same_upsert (h : (db.upsertSubscription row).1 = .ok ()) :
    Same row (db.upsertSubscription row).2 := by
  intro sub hsub hid
  rw [eq_of_mem_upsertSubscription hid h hsub]

/-- A subscription is written and not in the map yet. -/
structure Written (cfg : Config) (i : Nat) (row : StoredSubscription) (now : Int) (s : Service) :
    Prop where
  lock : s.subscriptionsLock = some i
  now : now ≤ s.timestamp
  same : Same row s.db
  only : ∀ id, Caller cfg id → pending id s.log = true → id = row.id

section Written

variable {row : StoredSubscription} {now : Int}

lemma Written.rely {tag : Tag} (h : Written cfg i row now s)
    (hid : Caller cfg row.id) (hrely : Relies cfg i tag s s') : Written cfg i row now s' where
  lock := hrely.lock.mpr h.lock
  now := h.now.trans (timestamp_mono hrely.clock)
  same := hrely.same h.lock row hid h.same
  only id hne hpending := h.only id hne (hrely.settled h.lock id hne hpending)

lemma written_called (hs : Calm cfg i now False s) (hlock : s.subscriptionsLock = some i)
    (hok : (s.db.upsertSubscription row).1 = .ok ())
    (hcalled : Called cfg (.upsertSubscription row) i s s')
    (hlock' : s'.subscriptionsLock = s.subscriptionsLock) (hclock : s'.clock = s.clock) :
    Written cfg i row now s' := by
  have hlog : s'.log = s.log ++ (StoreCall.upsertSubscription row).entries _ s.db := hcalled.log
  rw [entries_upsertSubscription hok] at hlog
  refine ⟨hlock'.trans hlock, hs.now.trans (timestamp_mono hclock.ge), ?_, fun id hne hpending => ?_⟩
  · rw [hcalled.db]
    exact same_upsert hok
  · rw [hlog, pending_snoc] at hpending
    simp only [pendingAfter, hs.settled hlock id hne, Bool.false_or, beq_iff_eq] at hpending
    exact hpending.symm

lemma settled_mapping (h : Written cfg i row now s) (e : Outcome) :
    Settled cfg i (effect cfg (.mapping row now) i e s) := by
  intro _ id hid
  show pending id (s.log ++ [.mapped row.id]) = false
  rw [pending_snoc]
  cases hpending : pending id s.log with
  | false => rfl
  | true =>
    rw [h.only id hid hpending]
    simp [pendingAfter]

lemma settled_failed {gate : Bool} {e : Outcome} (hs : Settled cfg i s)
    (hfails : ∀ reply, e.storeError = none →
      ((StoreCall.upsertSubscription row).draw cfg.crates s.draws |>.apply s.db).1 ≠ .ok reply) :
    Settled cfg i (effect cfg (.calling (.upsertSubscription row) gate) i e s) := by
  have htag : Elsewhere (.calling (.upsertSubscription row) gate) := trivial
  have hlock := (elsewhere_effect cfg i s htag e).2
  have hlog : (effect cfg (.calling (.upsertSubscription row) gate) i e s).log = s.log := by
    rcases calling_cases cfg (.upsertSubscription row) gate i e s with ⟨-, -, hlog⟩ | ⟨hnone, hcalled⟩
    · exact hlog
    · have hentries : (StoreCall.upsertSubscription row).entries (s.subscriptionsLock == some i) s.db
          = [] := by
        rw [StoreCall.entries]
        split
        · next hok =>
            refine absurd ?_ (hfails .done hnone)
            show (s.db.upsertSubscription row).1.map _ = _
            rw [hok]
            rfl
        · rfl
      rw [hcalled.log]
      show s.log ++ (StoreCall.upsertSubscription row).entries (s.subscriptionsLock == some i) s.db = _
      rw [hentries, append_nil]
  intro hheld id hid
  rw [hlog]
  exact hs (hlock.symm.trans hheld) id hid

lemma runs_writeSubscription (hknown : Known cfg row) (hid : Caller cfg row.id)
    (hs : Calm cfg i now False s) : Settles cfg i (writeSubscription cfg row now) s := by
  have hproper : ProperTag cfg (.calling (.upsertSubscription row) true) := by
    intro call gate heq
    cases heq
    exact hknown
  refine runs_bind _ (runs_mapErr _ (runs_storeCall _ (M := fun _ => Written cfg i row now)
    (fun s1 hrely1 hinv1 => ?_) fun reply s1 s2 hwritten hrely2 hinv2 => ?_))
  · have hs1 := hs.rely hrely1
    refine ⟨fun _ => hs1.settled, fun e hok => ⟨keeps_step hinv1 hproper trivial rfl hok, ?_, ?_⟩⟩
    · intro reply hnone hreply
      have hlock : s1.subscriptionsLock = some i := hok.resolve_left hid
      have hwritten : (s1.db.upsertSubscription row).1 = .ok () := by
        have hreply : (s1.db.upsertSubscription row).1.map (fun _ => StoreReply.done) = .ok reply :=
          hreply
        cases hupsert : (s1.db.upsertSubscription row).1 with
        | ok _ => rfl
        | error text =>
          rw [hupsert] at hreply
          cases hreply
      exact written_called hs1 hlock hwritten (called_of_storeError hnone)
        (elsewhere_effect cfg i s1 (by exact trivial) e).2 (clock_effect ..)
    · exact settled_failed hs1.settled
  · have hwritten := hwritten.rely hid hrely2
    refine ⟨fun hdrop => absurd hdrop hid, fun e hok => ⟨keeps_step hinv2 nofun trivial rfl hok, ?_⟩⟩
    refine runs_bind _ (runs_take _ fun s3 hrely3 hinv3 => ?_)
    have hwritten := hwritten.rely hid hrely3
    refine ⟨fun hdrop => hdrop.elim, fun hready e3 hok3 => ⟨?_, ?_⟩⟩
    · exact keeps_step hinv3 nofun ⟨hwritten.now, hwritten.same, hwritten.only⟩ hready hok3
    · exact settled_mapping hwritten e3

end Written

lemma plain_resumed (h : ∀ row, call ≠ .upsertSubscription row) : Plain cfg (.resumed call) := by
  refine plain_of_elsewhere (by simp) (fun _ _ => trivial) ?_
  cases call with
  | upsertSubscription row => exact absurd rfl (h row)
  | _ => exact trivial

lemma follows_plainCall (hproper : Proper cfg call)
    (hwrites : ∀ row, call ≠ .upsertSubscription row)
    (hpublish : ∀ o p t r n, call ≠ .publish o p t r n) :
    Follows cfg (Quiet cfg) (storeCall cfg call gate) :=
  follows_storeCall ⟨plain_calling hproper (fun row heq => absurd heq (hwrites row)) hpublish, trivial⟩
    ⟨plain_resumed hwrites, trivial⟩

lemma follows_previousSubscription (url : String) (now : Int) :
    Follows cfg (Quiet cfg) (previousSubscription cfg url now) := by
  refine follows_bind (follows_take ?_) fun _ => ?_
  · exact ⟨plain_calling trivial (by simp) (by simp), trivial⟩
  refine follows_bind (follows_plainCall trivial (by simp) (by simp)) fun reply => ?_
  exact follows_bind (follows_simple trivial) fun _ => trivial

lemma runs_replaceSubscription (url secret : String) (ttl : Option Int)
    (hs : Calm cfg i now False s) : Settles cfg i (replaceSubscription cfg url secret ttl) s := by
  refine runs_plain (follows_simple trivial) hs fun _ s hs => ?_
  refine runs_reading (quiet_simple trivial) hs (fun _ _ => rfl) fun now s hs => ?_
  refine runs_plain (follows_mapErr (follows_previousSubscription url now)) hs fun previous s hs => ?_
  refine runs_plain (follows_simple trivial) hs fun millis s hs => ?_
  refine runs_plain (follows_simple trivial) hs fun token s hs => ?_
  exact runs_writeSubscription (known_subscriptionRow ..) (subscriptionId_ne cfg url) hs

lemma safe_settled {α : Type} {p : Handler α} (h : Settles cfg i p s) :
    (publishDiscipline cfg).Safe i (p.serve cfg) (fun _ => (publishDiscipline cfg).away i) s := by
  refine safe_serve _ h (fun s s' hs hrely hinv => ?_) (release_unlocked i)
  obtain ⟨hpre, hstep⟩ := plain_step hinv plain_returning (hs.rely hrely)
  exact ⟨hpre, fun e hok => (hstep rfl e hok).1⟩

lemma runs_subscribe (params : WattJson.JsonValue) (url : String) (hs : Calm cfg i now False s) :
    Settles cfg i (subscribe cfg params url) s := by
  refine runs_plain (follows_simple trivial) hs fun _ s hs => ?_
  refine runs_bind _ (runs_ofExcept _ (fun secret _ => ?_) hs.settled)
  by_cases hsecret : (!cfg.crates.validateSecret secret) = true
  · rw [if_pos hsecret]
    exact hs.settled
  rw [if_neg hsecret]
  refine runs_bind _ (runs_ofExcept _ (fun ttl _ => ?_) hs.settled)
  by_cases hcursor : ((params.get "cursor").any fun value => decide (value ≠ .null)) = true
  · rw [if_pos hcursor]
    exact hs.settled
  rw [if_neg hcursor]
  refine runs_plain (follows_verifySubscription (quiet_simple trivial)
    (fun _ => quiet_simple trivial) (quiet_simple trivial)) hs fun _ s hs => ?_
  exact runs_replaceSubscription url secret ttl hs

/-! ## Cancellations -/

/-- Cancelled under the lock. -/
structure Cancelled (cfg : Config) (i : Nat) (ids : List String) (s : Service) : Prop where
  settled : Settled cfg i s
  lock : s.subscriptionsLock = some i
  inactive : ∀ id ∈ ids, Caller cfg id ∧ Inactive s.db id

lemma Cancelled.rely (h : Cancelled cfg i ids s) (hrely : Relies cfg i tag s s') :
    Cancelled cfg i ids s' := by
  refine ⟨h.settled.rely hrely, hrely.lock.mpr h.lock, fun id hid => ?_⟩
  obtain ⟨hne, hinactive⟩ := h.inactive id hid
  exact ⟨hne, hrely.inactive h.lock id hne hinactive⟩

/-- A call that cancels subscriptions of callers. -/
def EndsAll (cfg : Config) (job : Int → StoreCall) (ids : StoreReply → List String) : Prop :=
  ∀ now db reply, (∀ sub ∈ db.subscriptions.rows, Known cfg sub) → ((job now).apply db).1 = .ok reply →
    ∀ id ∈ ids reply, Caller cfg id ∧ Inactive ((job now).apply db).2 id

lemma runs_cancelNow {job : Int → StoreCall} {ids : StoreReply → List String}
    (hs : Calm cfg i now True s) (hproper : ∀ now, Proper cfg (job now))
    (hwrites : ∀ now row, job now ≠ .upsertSubscription row)
    (hpublish : ∀ now o p t r n, job now ≠ .publish o p t r n)
    (hdraw : ∀ now n, (job now).draw cfg.crates n = job now) (hends : EndsAll cfg job ids) :
    Ensures cfg i (storeCallNow cfg job) (fun reply => Cancelled cfg i (ids reply)) s := by
  refine runs_reading (quiet_simple trivial) hs (fun _ _ => rfl) fun now s hs => ?_
  have htag : Plain cfg (.calling (job now) false) :=
    plain_calling (hproper now) (fun row heq => absurd heq (hwrites now row)) (hpublish now)
  refine runs_storeCall _ (M := fun reply => Cancelled cfg i (ids reply))
    (fun s1 hrely hinv => ?_) fun reply s1 s2 hcancelled hrely hinv => ?_
  · have hs1 := hs.rely hrely
    obtain ⟨hpre, hstep⟩ := calm_step hinv ⟨htag, trivial⟩ hs1
    refine ⟨hpre, fun e hok => ?_⟩
    obtain ⟨hkeeps, hcalm⟩ := hstep rfl e hok
    refine ⟨hkeeps, fun reply hnone hreply => ?_, fun _ => hcalm.settled⟩
    rw [hdraw] at hreply
    refine ⟨hcalm.settled, hcalm.locks trivial, ?_⟩
    rw [(called_of_storeError hnone).db, hdraw]
    exact hends now s1.db reply hinv.known hreply
  · have hcancelled := hcancelled.rely hrely
    obtain ⟨hpre, hstep⟩ := plain_step hinv (plain_resumed (hwrites now)) hcancelled.settled
    exact ⟨hpre, fun e hok => ⟨(hstep rfl e hok).1, hcancelled⟩⟩

lemma runs_unmapping (hs : Cancelled cfg i ids s) : Settles cfg i (act cfg (.unmapping ids)) s := by
  refine runs_take _ fun s1 hrely hinv => ?_
  have hs := hs.rely hrely
  refine ⟨fun _ => hs.settled, fun hready e hok => ⟨?_, ?_⟩⟩
  · exact keeps_step hinv nofun (fun id hid => (hs.inactive id hid).2) hready hok
  · exact settled_step hinv (by nofun) hready hs.settled e

lemma runs_locked {β : Type} {f : Unit → Handler β} {Q : β → Service → Prop}
    (hs : Calm cfg i now False s) (hf : ∀ s, Calm cfg i now True s → Ensures cfg i (f ()) Q s) :
    Ensures cfg i (act cfg .lockSubscriptions >>= f) Q s := by
  refine runs_bind _ (runs_take _ fun s1 hrely hinv => ?_)
  have hs1 := hs.rely hrely
  obtain ⟨hpre, hstep⟩ := calm_step hinv (@quiet_simple cfg .lockSubscriptions trivial) hs1
  refine ⟨hpre, fun hready e hok => ⟨(hstep hready e hok).1, hf _ ?_⟩⟩
  exact ⟨(hstep hready e hok).2.settled, hs1.now, fun _ => rfl⟩

lemma endsAll_cancelSubscription (url : String) :
    EndsAll cfg (fun now => .cancelSubscription (subscriptionId cfg url) cfg.ownerId now)
      fun _ => [subscriptionId cfg url] := by
  intro now db reply hknown _ id hid
  cases mem_singleton.mp hid
  refine ⟨subscriptionId_ne cfg url, ?_⟩
  exact inactive_cancelSubscription fun sub hsub _ => (hknown sub hsub).1

lemma endsAll_cancelSubscriptionsBySourceKind :
    EndsAll cfg (fun now => .cancelSubscriptionsBySourceKind mcpSourceKind now) cancelledIds := by
  intro now db reply hknown hreply id hid
  cases hreply
  obtain ⟨sub, hsub, rfl⟩ := mem_map.mp hid
  obtain ⟨hsub, hkind⟩ := mem_filter.mp hsub
  have hkind : sub.sourceKind = mcpSourceKind := by simpa using hkind
  refine ⟨?_, ?_⟩
  · rcases (hknown sub hsub).2.2 with ⟨-, url, hid⟩ | ⟨henv, -⟩
    · rw [hid]
      exact subscriptionId_ne cfg url
    · rw [hkind] at henv
      exact absurd henv (by decide)
  · have hcancels : (StoreCall.cancelSubscriptionsBySourceKind mcpSourceKind now).Cancels db sub.id
        now := ⟨rfl, sub, hsub, hkind, rfl⟩
    exact inactive_of_cancels hcancels nofun

lemma runs_unsubscribe (url : String) (hs : Calm cfg i now False s) :
    Settles cfg i (unsubscribe cfg url) s := by
  refine runs_locked hs fun s hs => ?_
  refine runs_seq _ (runs_mapErr _ (runs_cancelNow hs (fun _ => ⟨rfl, url, rfl⟩) (by simp) (by simp)
    (fun _ _ => rfl) (endsAll_cancelSubscription url))) fun _ s hcancelled => ?_
  exact runs_unmapping hcancelled

lemma runs_revoke (hs : Calm cfg i now False s) : Settles cfg i (revokeMcpSubscriptions cfg) s := by
  refine runs_plain (follows_simple trivial) hs fun _ s hs => ?_
  refine runs_locked hs fun s hs => ?_
  refine runs_plain (follows_simple trivial) hs fun _ s hs => ?_
  refine runs_seq _ (runs_cancelNow hs (fun _ => rfl) (by simp) (by simp) (fun _ _ => rfl)
    endsAll_cancelSubscriptionsBySourceKind) fun reply s hcancelled => ?_
  refine runs_seq _ (runs_unmapping hcancelled) fun _ s hs => ?_
  exact runs_plain_last (follows_bind (follows_simple trivial) fun _ => trivial) hs

/-! ## The environment webhook -/

lemma inactive_deactivateSubscription
    (howner : ∀ sub ∈ db.subscriptions.rows, sub.ownerId = ownerId) :
    Inactive (db.deactivateSubscription id ownerId) id := by
  have hcancelled : Inactive (db.cancelSubscription id ownerId 0) id :=
    inactive_cancelSubscription fun sub hsub _ => howner sub hsub
  exact hcancelled

lemma runs_removeEnvWebhook (hs : Calm cfg i now False s) :
    Settles cfg i (removeEnvWebhook cfg) s := by
  have htag : Plain cfg (.calling (.deactivateSubscription (envWebhookSubscriptionId cfg)
      cfg.ownerId) false) := plain_calling trivial (by simp) (by simp)
  have hresumed : Plain cfg (.resumed (.deactivateSubscription (envWebhookSubscriptionId cfg)
      cfg.ownerId)) := plain_resumed (by simp)
  refine runs_bind _ (runs_storeCall _ (M := fun _ s => Settled cfg i s
      ∧ Inactive s.db (envWebhookSubscriptionId cfg)) (fun s1 hrely hinv => ?_)
    fun reply s1 s2 hremoved hrely hinv => ?_)
  · obtain ⟨hpre, hstep⟩ := calm_step hinv ⟨htag, trivial⟩ (hs.rely hrely)
    refine ⟨hpre, fun e hok => ?_⟩
    obtain ⟨hkeeps, hcalm⟩ := hstep rfl e hok
    refine ⟨hkeeps, fun reply hnone _ => ⟨hcalm.settled, ?_⟩, fun _ => hcalm.settled⟩
    rw [(called_of_storeError hnone).db]
    exact inactive_deactivateSubscription fun sub hsub => (hinv.known sub hsub).1
  · have hsettled := hremoved.1.rely hrely
    have hinactive := hrely.env rfl hremoved.2
    obtain ⟨hpre, hstep⟩ := plain_step hinv hresumed hsettled
    refine ⟨hpre, fun e hok => ⟨(hstep rfl e hok).1, ?_⟩⟩
    refine runs_bind _ (runs_take _ fun s3 hrely3 hinv3 => ?_)
    have hsettled := hsettled.rely hrely3
    have hinactive := hrely3.env rfl hinactive
    refine ⟨fun _ => hsettled, fun hready e3 hok3 => ⟨?_, ?_⟩⟩
    · exact keeps_step hinv3 nofun hinactive hready hok3
    · exact runs_plain_last (follows_simple trivial)
        (settled_step hinv3 (by nofun) hready hsettled e3)

lemma follows_configureEnvWebhook (config : EnvWebhookConfig) :
    Follows cfg (Quiet cfg) (applyEnvWebhook cfg (some config)) := by
  refine follows_bind (follows_simple trivial) fun now => ?_
  refine follows_bind (follows_plainCall trivial (by simp) (by simp)) fun reply => ?_
  refine follows_bind (follows_simple trivial) fun _ => ?_
  refine follows_bind (follows_simple trivial) fun generated => ?_
  dsimp only
  split
  · exact trivial
  · refine follows_bind (follows_simple trivial) fun token => ?_
    refine follows_bind (follows_storeCall ?_ ?_) fun _ => ?_
    · refine ⟨plain_calling (known_envWebhookRow ..) (fun row heq => ?_) (by simp), trivial⟩
      cases heq
      rfl
    · exact ⟨plain_of_elsewhere (by simp) (fun _ _ => trivial) (by exact rfl), trivial⟩
    refine follows_bind (follows_take ?_) fun _ => follows_simple trivial
    exact ⟨plain_of_elsewhere (by simp) (fun _ _ => rfl) trivial, trivial⟩

/-! ## Publication and delivery -/

section Publication

variable (event : EventRequest) (kind : String) (time : Int) (body : List UInt8)

/-- The store call of a publication. -/
def publication (cfg : Config) (now : Int) : StoreCall :=
  .publish (occurrenceOf cfg event kind time) body event.eventType (fun _ => "") now

lemma proper_publish (now : Int) :
    ProperTag cfg (.calling (publication event kind time body cfg now) false) := by
  intro call gate heq
  cases heq
  rfl

end Publication

lemma runs_publishOccurrence (event : EventRequest) (hs : Calm cfg i now False s) :
    Settles cfg i (publishOccurrence cfg event) s := by
  refine runs_bind _ (runs_ofExcept _ (fun projected _ => ?_) hs.settled)
  refine runs_plain (follows_simple trivial) hs fun time s hs => ?_
  refine runs_bind _ (runs_reading (quiet_simple trivial) hs (fun _ _ => rfl) fun now s hs => ?_)
  refine runs_storeCall _ (M := fun _ => Settled cfg i) (fun s1 hrely hinv => ?_)
    fun reply s1 s2 hsettled hrely hinv => ?_
  · have hs1 := hs.rely hrely
    refine ⟨fun _ => hs1.settled, fun e hok => ?_⟩
    have hmild : Mild cfg (.calling (publication event projected.1 time projected.2 cfg now) false) :=
      nofun
    have hsettled := settled_step hinv hmild rfl hs1.settled e
    refine ⟨?_, fun _ _ _ => hsettled, fun _ => hsettled⟩
    exact keeps_step hinv (proper_publish event projected.1 time projected.2 now) hs1.now rfl hok
  · have hsettled := hsettled.rely hrely
    have hresumed : Plain cfg (.resumed (publication event projected.1 time projected.2 cfg now)) :=
      plain_resumed nofun
    obtain ⟨hpre, hstep⟩ := plain_step hinv hresumed hsettled
    exact ⟨hpre, fun e hok => ⟨(hstep rfl e hok).1, runs_pure _ hsettled⟩⟩

lemma runs_publish (event : EventRequest) (hs : Calm cfg i now False s) :
    Settles cfg i (publish cfg event) s := by
  refine runs_reading (quiet_simple trivial) hs (fun _ _ => rfl) fun now s hs => ?_
  refine runs_bind _ (runs_take _ fun s1 hrely hinv => ?_)
  have hs1 := hs.rely hrely
  refine ⟨fun _ => hs1.settled, fun hready e hok => ⟨?_, ?_⟩⟩
  · exact keeps_step hinv nofun hs1.now hready hok
  have hsettled := settled_step hinv (by nofun) hready hs1.settled e
  show Runs _ i (if interested cfg s1 event.eventType now then publishOccurrence cfg event
    else pure ()) _ _ _
  split
  · exact runs_publishOccurrence event ⟨hsettled, le_rfl, False.elim⟩
  · exact runs_pure _ hsettled

lemma plain_of_takes (h : Takes cfg Delivers True tag) : Plain cfg tag := by
  cases tag with
  | calling call gate =>
    refine plain_calling h.1 ?_ ?_
    · rintro row rfl
      exact h.2.elim
    · rintro o p t r n rfl
      exact h.2
  | resumed call => exact plain_resumed (by rintro row rfl; exact h)
  | returning => exact plain_returning
  | looking | mapping | unmapping | envMapping | envUnmapping => exact (h trivial).elim
  | _ => exact plain_simple trivial

/-! ## Runs -/

lemma safe_handlerOf (i : Nat) (request : Request) (s : Service) (hs : s.subscriptionsLock ≠ some i) :
    (publishDiscipline cfg).Safe i (handlerOf cfg request)
      (fun _ => (publishDiscipline cfg).away i) s := by
  have hsettled : Settled cfg i s := fun hlock => absurd hlock hs
  have hcalm : Calm cfg i s.timestamp False s := ⟨hsettled, le_rfl, False.elim⟩
  cases request with
  | subscribe params url => exact safe_settled (runs_subscribe params url hcalm)
  | unsubscribe url => exact safe_settled (runs_unsubscribe url hcalm)
  | revokeMcpSubscriptions => exact safe_settled (runs_revoke hcalm)
  | applyEnvWebhook config =>
    cases config with
    | none => exact safe_settled (runs_removeEnvWebhook hcalm)
    | some config => exact safe_settled (runs_plain_last (follows_configureEnvWebhook config) hsettled)
  | publish event => exact safe_settled (runs_publish event hcalm)
  | deliveryTick sourceKind =>
    exact safe_served _ (fun _ _ _ _ hK hr => hK.rely hr)
      (fun _ _ htag hinv hK => plain_step hinv (plain_of_takes htag) hK) (release_unlocked i)
      (follows_deliveryTick sourceKind) trivial hsettled

/-- Steps without a publication. -/
lemma detachable_unpublished {calls : StoreCall → Prop} {posts : Prop}
    {p : Async Service Outcome Tag Unit} (hp : Follows cfg (Takes cfg calls posts) p)
    (hnot : ∀ o p t r n, ¬ calls (.publish o p t r n)) (s : Service) :
    (publishDiscipline cfg).Detachable i p s := by
  refine detachable_of_follows _ (fun tag s htag hblocking hinv _ e hok => ?_) hp s
  refine keeps_step hinv htag.proper ?_ ((eventServer cfg).blocking_ready i tag s hblocking) hok
  cases tag with
  | reading => exact trivial
  | calling call gate =>
    cases call with
    | publish o p t r n => exact absurd htag.2 (hnot o p t r n)
    | _ => exact trivial
  | _ => cases hblocking

section Detached

variable {α β : Type}

lemma detachable_ended (result : Except String α) (s : Service) :
    (publishDiscipline cfg).Detachable i ((ofExcept result).serve cfg) s := by
  intro s' _ _
  exact ⟨fun _ => trivial, fun _ _ _ => trivial⟩

lemma detachable_take {tag : Tag} {value : Outcome → Service → Except String α}
    {f : α → Handler β} (htag : tag.blocking = false)
    (hf : ∀ a s, (publishDiscipline cfg).Detachable i ((f a).serve cfg) s) (s : Service) :
    (publishDiscipline cfg).Detachable i ((take cfg tag value >>= f).serve cfg) s := by
  intro s' _ _
  refine ⟨fun _ => ?_, fun _ e _ => ?_⟩
  · show (publishDiscipline cfg).Loose i (if tag.blocking = true then _ else .pure ()) _
    rw [htag]
    exact trivial
  · show (publishDiscipline cfg).Detachable i ((ofExcept (value e s') >>= f).serve cfg) _
    cases value e s' with
    | ok a => exact hf a _
    | error text => exact detachable_ended (α := β) (.error text) _

variable (event : EventRequest) (kind : String) (time : Int) (body : List UInt8)
  (result : Except String StoreReply)

lemma loose_replied (call : StoreCall) (s : Service) :
    (publishDiscipline cfg).Loose i ((eventServer cfg).detach
      (((ofExcept result >>= fun reply => act cfg (.resumed call) >>= fun _ => pure reply)
        >>= fun _ => (pure () : Handler Unit)).serve cfg)) s := by
  cases result <;> exact trivial

lemma detachable_replied (call : StoreCall) (s : Service) : (publishDiscipline cfg).Detachable i
      (((ofExcept result >>= fun reply => act cfg (.resumed call) >>= fun _ => pure reply)
        >>= fun _ => (pure () : Handler Unit)).serve cfg) s := by
  cases result with
  | error text => exact detachable_ended (.error text : Except String Unit) s
  | ok reply =>
    intro s' _ _
    exact ⟨fun _ => trivial, fun _ _ _ => detachable_ended (.ok () : Except String Unit) _⟩

lemma loose_publication {now : Int} (hnow : now ≤ s.timestamp) :
    (publishDiscipline cfg).Loose i ((eventServer cfg).detach
      ((storeCall cfg (publication event kind time body cfg now) false >>= fun _ =>
        (pure () : Handler Unit)).serve cfg)) s := by
  refine ⟨rfl, fun s' hhold hinv _ e hok => ⟨?_, loose_replied _ _ _⟩⟩
  refine keeps_step hinv (proper_publish event kind time body now) ?_ rfl hok
  exact hnow.trans (timestamp_mono hhold)

lemma detachable_publication (s : Service) :
    (publishDiscipline cfg).Detachable i ((storeCallNow cfg (publication event kind time body cfg)
      >>= fun _ => (pure () : Handler Unit)).serve cfg) s := by
  intro s1 _ hinv1
  refine ⟨fun _ => ⟨rfl, fun s' hhold hinv _ e hok => ⟨?_, ?_⟩⟩, fun _ e _ => ?_⟩
  · exact keeps_step hinv (plain_simple (by trivial)).1 trivial rfl hok
  · exact loose_publication event kind time body le_rfl
  intro s2 hrely2 _
  refine ⟨fun _ => loose_publication event kind time body ?_, fun _ e2 _ => detachable_replied _ _ _⟩
  have hclock := (dropHandler_otherLocks (Nat.succ_ne_self i)
    (.calling (publication event kind time body cfg s1.timestamp) false) s2).clock
  exact timestamp_mono (hrely2.clock.trans hclock.ge)

end Detached

lemma detachable_publish (event : EventRequest) (s : Service) :
    (publishDiscipline cfg).Detachable i (handlerOf cfg (.publish event)) s := by
  refine detachable_take rfl (fun now s => ?_) s
  refine detachable_take rfl (fun listening s => ?_) s
  cases listening with
  | false => exact detachable_ended (.ok () : Except String Unit) s
  | true =>
    show (publishDiscipline cfg).Detachable i ((publishOccurrence cfg event).serve cfg) s
    unfold publishOccurrence
    cases event.projected with
    | error text => exact detachable_ended (.error text : Except String Unit) s
    | ok projected =>
      refine detachable_take (f := fun time => storeCallNow cfg
        (publication event projected.1 time projected.2 cfg) >>= fun _ => pure ()) rfl
        (fun time s => ?_) s
      exact detachable_publication event projected.1 time projected.2 s

lemma detachable_handlerOf (i : Nat) (request : Request) (s : Service) :
    (publishDiscipline cfg).Detachable i (handlerOf cfg request) s := by
  cases request with
  | publish event => exact detachable_publish event s
  | subscribe params url =>
    exact detachable_unpublished (follows_subscribe params url) (by simp [Subscribes]) s
  | applyEnvWebhook config =>
    exact detachable_unpublished (follows_applyEnvWebhook config) (by simp [Subscribes]) s
  | unsubscribe url =>
    exact detachable_unpublished (follows_unsubscribe url) (by simp [Unsubscribes]) s
  | revokeMcpSubscriptions => exact detachable_unpublished follows_revoke (by simp [Unsubscribes]) s
  | deliveryTick kind =>
    exact detachable_unpublished (follows_deliveryTick kind) (by simp [Delivers]) s

lemma inv_fresh (cfg : Config) (clock : Int) (fingerprint : String) :
    Inv cfg (.fresh clock fingerprint) where
  known sub hsub := by cases hsub
  covered sub hsub := by cases hsub
  lock id _ hpending := by cases hpending

/-- No subscription is dropped between the store and the map, nobody looks at the map while
an active environment webhook is pending, and no environment webhook is written while
another call removes it. -/
def orderly (cfg : Config) (pool : Pool Service (Task Service Outcome Tag)) :
    Event Request Outcome Happening → Prop
  | .exec i _ => ∀ tag, (pool.threads i).bind Task.tag? = some tag → Allowed cfg i pool.shared tag
        ∧ ∀ row gate, tag = .calling (.upsertSubscription row) gate →
          row.id = envWebhookSubscriptionId cfg →
            ∀ j tag', j ≠ i → (pool.threads j).bind Task.tag? = some tag' → leavesEnv tag' = false
  | .stop i => ∀ tag, (pool.threads i).bind Task.tag? = some tag → Droppable cfg tag
  | _ => True

variable {pool : Pool Service (Task Service Outcome Tag)} {ev : Event Request Outcome Happening}

lemma admits_of_orderly (h : orderly cfg pool ev) : (publishDiscipline cfg).Admits pool ev := by
  cases ev with
  | exec i e =>
    intro tag htag
    obtain ⟨hallowed, henv⟩ := h tag htag
    refine ⟨hallowed, fun j tag' hj htag' row gate heq hrow => ?_⟩
    exact henv row gate heq hrow j tag' hj htag'
  | stop i => exact h
  | spawn i request => exact trivial
  | env x => exact trivial

/-- Over a stretch of a run in which a subscription is held, an event stays tracked. -/
lemma tracked_run {during : Schedule} (hgood : AllSteps (eventServer cfg).step
      (fun pool ev => Good cfg pool.shared ((eventServer cfg).step pool ev).shared) pool during)
    (hheld : Always (eventServer cfg).step (fun pool => Holds cfg eventType id pool.shared) pool during)
    (htracked : Tracked event id pool.shared.db) :
    Tracked event id (run (eventServer cfg).step pool during).shared.db := by
  induction during generalizing pool with
  | nil => exact htracked
  | cons ev rest ih =>
    obtain ⟨hnow, hrest⟩ := (always_cons ..).mp hheld
    have hnext := hrest [] rest rfl
    exact ih hgood.2 hrest (hgood.1.tracked event eventType id hnow hnext htracked)

/-- **NO DROPPED EVENTS**: in every orderly run, if the store holds a subscription for an event
through a stretch of the run at whose begin the event is not recorded, then a step at its end
that answers `publish` with Ok leaves the event queued for the subscription. -/
theorem publish_queues (cfg : Config) (clock : Int) (fingerprint : String) (before during : Schedule)
    (ev : Event Request Outcome Happening) (event eventType id : String)
    (horderly : AllSteps (eventServer cfg).step (orderly cfg) (.idle (.fresh clock fingerprint))
      (before ++ during ++ [ev]))
    (hnew : ¬ Recorded event
      (run (eventServer cfg).step (.idle (.fresh clock fingerprint)) before).shared.db)
    (hheld : Always (eventServer cfg).step (fun pool => Holds cfg eventType id pool.shared)
      (run (eventServer cfg).step (.idle (.fresh clock fingerprint)) before) during)
    (hanswers : Answers event eventType
      (run (eventServer cfg).step (.idle (.fresh clock fingerprint)) (before ++ during)).shared
      (run (eventServer cfg).step (.idle (.fresh clock fingerprint))
        (before ++ during ++ [ev])).shared) :
    Queued event id (run (eventServer cfg).step (.idle (.fresh clock fingerprint))
      (before ++ during ++ [ev])).shared.db := by
  have hgood := ((publishDiscipline cfg).always_good
    (fun i request s _ haway => ⟨safe_handlerOf i request s haway, detachable_handlerOf i request s⟩)
    (inv_fresh cfg clock fingerprint) (nofun)
    (horderly.mono fun _ _ => admits_of_orderly)).2
  rw [allSteps_append, allSteps_append] at hgood
  obtain ⟨⟨-, hduring⟩, hlast, -⟩ := hgood
  have htracked := tracked_run hduring hheld (tracked_of_not_recorded hnew)
  have hend := hheld during [] (append_nil _).symm
  rw [← run_append] at htracked hend
  rw [run_snoc] at hanswers ⊢
  exact hlast.answers event eventType id hanswers hend htracked

/-- The condition for calls that are not dropped, to be computed. -/
def orderlyNow (cfg : Config) (pool : Pool Service (Task Service Outcome Tag)) :
    Event Request Outcome Happening → Bool
  | .exec i _ =>
    match (pool.threads i).bind Task.tag? with
    | some (.calling (.upsertSubscription row) _) =>
      row.id != envWebhookSubscriptionId cfg && pool.shared.subscriptionsLock == some i
    | some (.looking ..) => !pending (envWebhookSubscriptionId cfg) pool.shared.log
    | _ => true
  | .stop _ => false
  | .spawn .. | .env _ => true

lemma orderly_of_orderlyNow (h : orderlyNow cfg pool ev = true) : orderly cfg pool ev := by
  cases ev with
  | exec i e =>
    intro tag htag
    unfold orderlyNow at h
    dsimp only at h
    rw [htag] at h
    refine ⟨?_, fun row gate heq hrow => ?_⟩
    · cases tag with
      | calling call gate =>
        cases call with
        | upsertSubscription row =>
          rw [Bool.and_eq_true, beq_iff_eq] at h
          exact .inr h.2
        | _ => exact trivial
      | looking event eventType now =>
        intro hpending
        rw [hpending] at h
        cases h
      | _ => exact trivial
    · rw [heq] at h
      simp [hrow] at h
  | stop i => cases h
  | spawn i request => exact trivial
  | env x => exact trivial

lemma orderly_run {events : Schedule} (h : AllSteps (eventServer cfg).step
      (fun pool ev => orderlyNow cfg pool ev = true) pool events) :
    AllSteps (eventServer cfg).step (orderly cfg) pool events :=
  h.mono fun _ _ => orderly_of_orderlyNow

/-- Whether the store holds a subscription for events of the type, to be computed. -/
instance decidableHolds (cfg : Config) (eventType id : String) (s : Service) :
    Decidable (Holds cfg eventType id s) :=
  decidable_of_iff (∃ sub ∈ s.db.subscriptions.rows, sub.active = true
      ∧ unexpired sub.expiresAt s.timestamp = true ∧ sub.ownerId = cfg.ownerId
      ∧ sub.targetAgentId = cfg.ownerId ∧ (sub.eventType = "*" ∨ sub.eventType = eventType)
      ∧ sub.id = id) <| by
    constructor
    · rintro ⟨sub, hmem, hactive, hexpires, howner, htarget, hmatching, hid⟩
      exact ⟨sub, ⟨hmem, hactive, hexpires, howner, htarget, hmatching⟩, hid⟩
    · rintro ⟨sub, hsub, hid⟩
      exact ⟨sub, hsub.mem, hsub.active, hsub.unexpired, hsub.owner, hsub.target, hsub.matching, hid⟩

def subscribeTo (i : Nat) (url : String) : Schedule := .spawn i (.subscribe toyParams url) :: steps i 16

/-- The steps of a publication up to the answer of the store. -/
def publishing (i : Nat) (event : String) : Schedule := .spawn i (.publish (toyEvent event)) :: steps i 4

/-- Two callers subscribe before the event. -/
theorem publish_queues_both : AllSteps (eventServer toyConfig).step (orderly toyConfig) toyStart
        ((subscribeTo 0 "https://a" ++ subscribeTo 1 "https://b") ++ publishing 2 "e"
          ++ [.exec 2 (answering 200)])
      ∧ Queued (eventId toyConfig "swarm" "e") (subscriptionId toyConfig "https://b")
          (run (eventServer toyConfig).step toyStart
            ((subscribeTo 0 "https://a" ++ subscribeTo 1 "https://b") ++ publishing 2 "e"
              ++ [.exec 2 (answering 200)])).shared.db := by
  refine and_iff_left_of_imp (fun horderly => ?_) |>.mpr (orderly_run (by decide +kernel))
  exact publish_queues toyConfig 100000 "token" (subscribeTo 0 "https://a" ++ subscribeTo 1 "https://b")
    (publishing 2 "e") (.exec 2 (answering 200)) (eventId toyConfig "swarm" "e") "dm"
    (subscriptionId toyConfig "https://b") horderly
    (by unfold Recorded; decide +kernel) (by decide +kernel)
    ⟨[.queued (toyUuid 6 1) (subscriptionId toyConfig "https://a"),
      .queued (toyUuid 6 2) (subscriptionId toyConfig "https://b"),
      .answered (eventId toyConfig "swarm" "e") "dm" 100], 100, by decide +kernel, by decide +kernel⟩

/-- A caller subscribes after the event, and the event is published again. -/
def replaysAfter : Schedule :=
  subscribeTo 0 "https://a" ++ publishing 1 "e" ++ steps 1 3 ++ subscribeTo 2 "https://b"

/-- **RECORDED ONCE**: a second publication of an event answers Ok and queues it for nobody. -/
theorem replay_not_queued : AllSteps (eventServer toyConfig).step (orderly toyConfig) toyStart
        (replaysAfter ++ publishing 3 "e" ++ [.exec 3 (answering 200)])
      ∧ Always (eventServer toyConfig).step
          (fun pool => Holds toyConfig "dm" (subscriptionId toyConfig "https://b") pool.shared)
          (run (eventServer toyConfig).step toyStart replaysAfter) (publishing 3 "e")
      ∧ Answers (eventId toyConfig "swarm" "e") "dm"
          (run (eventServer toyConfig).step toyStart (replaysAfter ++ publishing 3 "e")).shared
          (run (eventServer toyConfig).step toyStart
            (replaysAfter ++ publishing 3 "e" ++ [.exec 3 (answering 200)])).shared
      ∧ ¬ Queued (eventId toyConfig "swarm" "e") (subscriptionId toyConfig "https://b")
          (run (eventServer toyConfig).step toyStart
            (replaysAfter ++ publishing 3 "e" ++ [.exec 3 (answering 200)])).shared.db := by
  refine ⟨orderly_run (by decide +kernel), by decide +kernel, ?_, ?_⟩
  · exact ⟨[.answered (eventId toyConfig "swarm" "e") "dm" 100], 100, by decide +kernel, by decide +kernel⟩
  · unfold Queued
    decide +kernel

end WattPublish
