import Wattetheria.EventHandlerProofs

/-!
# Cancelled subscriptions

`unsubscribe` and `revoke_mcp_subscriptions` cancel in one transaction: the subscription
becomes inactive and what is queued for it expires.  `Gone` and `Dead` say of the log
which subscriptions and rows this ended, `Final` that no POST goes to one of them.

The revocation waits for the workers, so nothing is in flight when it cancels;
`unsubscribe` does not, and `Delivers` lists where a worker must not stand then.
-/

namespace WattCancel

open WattText WattRows WattRuns WattThreads WattAsync WattTasks WattWebhooks Handler EventDatabase
open List Table

variable {cfg : Config} {s s' : Service} {log entries : List Entry} {id row : String} {c : Int}
  {call : StoreCall} {row' : OutboxRow} {i : Nat}

/-! ## What the log says -/

/-- The subscription was cancelled, and not written again since. -/
def Gone (id : String) (log : List Entry) : Prop :=
  ∃ a c b, log = a ++ .cancelled id c :: b ∧ ∀ sub, .subscribed sub ∈ b → sub.id ≠ id

/-- The row was queued before its subscription was cancelled at `c`. -/
def Dead (row id : String) (c : Int) (log : List Entry) : Prop :=
  ∃ a b, log = a ++ .cancelled id c :: b ∧ .queued row id ∈ a

/-- No cancellation stands against a POST of the row to the subscription. -/
def Deliverable (row id : String) (log : List Entry) : Prop :=
  ¬ Gone id log ∧ ∀ c, ¬ Dead row id c log

/-- No POST is sent against a cancellation. -/
def Final (log : List Entry) : Prop :=
  EachAfter (fun before x => ∀ row id attempt, x = .posted row id attempt →
    Deliverable row id before) log

lemma split_append {a b : List Entry} {x : Entry} (h : log ++ entries = a ++ x :: b) :
    x ∈ entries ∨ ∃ b', log = a ++ x :: b' ∧ b = b' ++ entries := by
  rcases append_eq_append_iff.mp h with ⟨mid, -, hmid⟩ | ⟨mid, hlog, hmid⟩
  · rw [hmid]
    exact .inl (mem_append_cons_self)
  · cases mid with
    | nil =>
      rw [nil_append] at hmid
      rw [← hmid]
      exact .inl (mem_cons_self ..)
    | cons y mid =>
      obtain ⟨rfl, hb⟩ := List.cons.inj hmid
      exact .inr ⟨mid, hlog, hb⟩

lemma gone_append (h : Gone id (log ++ entries)) : (∃ c, .cancelled id c ∈ entries)
    ∨ (Gone id log ∧ ∀ sub, .subscribed sub ∈ entries → sub.id ≠ id) := by
  obtain ⟨a, c, b, heq, hb⟩ := h
  rcases split_append heq with hmem | ⟨b', hlog, rfl⟩
  · exact .inl ⟨c, hmem⟩
  · exact .inr ⟨⟨a, c, b', hlog, fun sub hsub => hb sub (mem_append_left _ hsub)⟩,
      fun sub hsub => hb sub (mem_append_right _ hsub)⟩

lemma dead_append (h : Dead row id c (log ++ entries)) :
    .cancelled id c ∈ entries ∨ Dead row id c log := by
  obtain ⟨a, b, heq, hqueued⟩ := h
  rcases split_append heq with hmem | ⟨b', hlog, -⟩
  · exact .inl hmem
  · exact .inr ⟨a, b', hlog, hqueued⟩

lemma Dead.queued (h : Dead row id c log) : .queued row id ∈ log := by
  obtain ⟨a, b, rfl, hqueued⟩ := h
  exact mem_append_left _ hqueued

lemma Dead.cancelled (h : Dead row id c log) : .cancelled id c ∈ log := by
  obtain ⟨a, b, rfl, -⟩ := h
  exact mem_append_cons_self

lemma Deliverable.append (h : Deliverable row id log) (hnone : ∀ c, .cancelled id c ∉ entries) :
    Deliverable row id (log ++ entries) := by
  refine ⟨fun hgone => ?_, fun c hdead => ?_⟩
  · rcases gone_append hgone with ⟨c, hmem⟩ | ⟨hgone, -⟩
    · exact hnone c hmem
    · exact h.1 hgone
  · rcases dead_append hdead with hmem | hdead
    · exact hnone c hmem
    · exact h.2 c hdead

/-! ## The invariant -/

/-- The store agrees with the log. -/
structure Agrees (cfg : Config) (s : Service) : Prop where
  gone : ∀ id, Gone id s.log → Inactive s.db id
  dead : ∀ row ∈ s.db.outbox.rows, ∀ c, Dead row.id row.subscriptionId c s.log → row.expiresAt ≤ c
  cancelled : ∀ id c, .cancelled id c ∈ s.log → c ≤ s.timestamp ∧ id ≠ envWebhookSubscriptionId cfg
  known : ∀ sub ∈ s.db.subscriptions.rows, Known cfg sub
  queued : ∀ row id, .queued row id ∈ s.log → Drawn cfg s row
  refers : Refers s.db

/-- The invariant: the store agrees with the log, the lock of the lifecycle excludes readers
from a writer, and no POST was sent against a cancellation. -/
structure Inv (cfg : Config) (s : Service) : Prop where
  agrees : Agrees cfg s
  lock : s.writer ≠ none → s.readers = []
  final : Final s.log

section Frame

variable (h : Agrees cfg s) (hdraws : s.draws ≤ s'.draws) (hclock : s.clock ≤ s'.clock)
  (hlog : s'.log = s.log ++ entries) (hcancelled : ∀ id c, .cancelled id c ∉ entries)
  (hqueued : ∀ row id, .queued row id ∉ entries)

include h hdraws hclock hlog hcancelled hqueued

/-- Subscriptions may lose their activity while the queue stays. -/
lemma Agrees.survive (houtbox : s'.db.outbox = s.db.outbox)
    (hsubs : ∀ sub ∈ s'.db.subscriptions.rows, Survives s.db sub) (hrefers : Refers s'.db) :
    Agrees cfg s' := by
  refine ⟨?_, ?_, ?_, fun sub hsub => Known.of_survives h.known (hsubs sub hsub), ?_, hrefers⟩
  · intro id hgone
    rw [hlog] at hgone
    rcases gone_append hgone with ⟨c, hmem⟩ | ⟨hgone, -⟩
    · exact absurd hmem (hcancelled id c)
    · exact (h.gone id hgone).of_survives fun sub hsub _ => hsubs sub hsub
  · intro row hrow c hdead
    rw [hlog] at hdead
    rcases dead_append hdead with hmem | hdead
    · exact absurd hmem (hcancelled _ c)
    · exact h.dead row (houtbox ▸ hrow) c hdead
  · intro id c hmem
    rw [hlog] at hmem
    rcases mem_append.mp hmem with hmem | hmem
    · obtain ⟨htime, hid⟩ := h.cancelled id c hmem
      exact ⟨htime.trans (timestamp_mono hclock), hid⟩
    · exact absurd hmem (hcancelled id c)
  · intro row id hmem
    rw [hlog] at hmem
    rcases mem_append.mp hmem with hmem | hmem
    · exact (h.queued row id hmem).mono hdraws
    · exact absurd hmem (hqueued row id)

lemma Agrees.frame (hdb : s'.db = s.db) : Agrees cfg s' :=
  h.survive hdraws hclock hlog hcancelled hqueued (by rw [hdb])
    (fun sub hsub => ⟨sub, hdb ▸ hsub, .inl rfl⟩) (hdb ▸ h.refers)

end Frame

/-- A row after a call: it was there and expires no later, or it is under a new uuid. -/
lemma row_of_mem (h : row' ∈ ((call.draw cfg.crates s.draws).apply s.db).2.outbox.rows) :
    (∃ old ∈ s.db.outbox.rows, old.id = row'.id ∧ old.subscriptionId = row'.subscriptionId
        ∧ row'.expiresAt ≤ old.expiresAt) ∨ ∃ k, row'.id = cfg.crates.uuid s.draws k := by
  have hcomes := comes_of_mem s.db _ h
  generalize hdrawn : call.draw cfg.crates s.draws = drawn at hcomes
  cases hcomes with
  | kept _ _ hold => exact .inl ⟨row', hold, rfl, rfl, le_rfl⟩
  | leased ownerId fingerprint now leaseUntil token kind old item hclaims hitem =>
    exact .inl ⟨old, hclaims.mem, rfl, rfl, le_rfl⟩
  | completed id token result maxAttempts old hold hlease => exact .inl ⟨old, hold, rfl, rfl, le_rfl⟩
  | shortened _ now old hold hcancel => exact .inl ⟨old, hold, rfl, rfl, min_le_left ..⟩
  | queued occurrence payload eventType rowIds now n sub hsub hfresh =>
    exact .inr ⟨n + 1, rowIds_of_draw hdrawn n⟩

/-- **ONE CALL** keeps the store and the log together. -/
lemma Agrees.called (h : Agrees cfg s) (hproper : Proper cfg call)
    (htimes : ∀ id c, call.Cancels s.db id c → s.subscriptionsLock = some i → c ≤ s.timestamp)
    (hcalled : Called cfg call i s s') (hclock : s'.clock = s.clock) : Agrees cfg s' := by
  obtain ⟨hdraws, hdb, hlog⟩ := hcalled
  have hcancels : ∀ {id c}, .cancelled id c ∈ (call.draw cfg.crates s.draws).entries
      (s.subscriptionsLock == some i) s.db → call.Cancels s.db id c ∧ s.subscriptionsLock = some i := by
    intro id c hmem
    obtain ⟨hcancels, hwaiting⟩ := cancels_of_mem hmem
    exact ⟨cancels_draw.mp hcancels, beq_iff_eq.mp hwaiting⟩
  have howner : ∀ id ownerId now, call.draw cfg.crates s.draws = .cancelSubscription id ownerId now →
      ownerId = cfg.ownerId := by
    intro id ownerId now heq
    cases call with
    | cancelSubscription => cases heq; exact hproper.1
    | _ => cases heq
  have hrefers : Refers s'.db := hdb ▸ h.refers.apply _
  refine ⟨?_, ?_, ?_, ?_, ?_, hrefers⟩
  · intro id hgone
    rw [hlog] at hgone
    rw [hdb]
    rcases gone_append hgone with ⟨c, hmem⟩ | ⟨hgone, hnot⟩
    · refine inactive_of_cancels (cancels_draw.mpr (hcancels hmem).1) ?_
      intro id' ownerId now heq sub hsub
      rw [howner id' ownerId now heq]
      exact (h.known sub hsub).1
    · refine (h.gone id hgone).apply _ fun sub heq hok => hnot sub ?_
      rw [heq, entries_upsertSubscription hok]
      exact mem_singleton_self _
  · intro row hrow c hdead
    rw [hlog] at hdead
    rcases dead_append hdead with hmem | hdead
    · refine expires_of_cancels (cancels_draw.mpr (hcancels hmem).1) ?_ (hdb ▸ hrow) rfl
      -- the row refers to a subscription, and all of them are the owner's
      intro id' ownerId now heq
      obtain ⟨sub, hsub, hid⟩ := hrefers row hrow
      rw [hdb] at hsub
      have hsame : row.subscriptionId = id' := by
        have hcancel : (call.draw cfg.crates s.draws).Cancels s.db row.subscriptionId c :=
          cancels_draw.mpr (hcancels hmem).1
        rw [heq] at hcancel
        exact hcancel.1.symm
      rcases subscription_of_mem s.db _ hsub with ⟨old, hold, hcopy⟩ | ⟨heq', -⟩
      · have hoid : old.id = sub.id := by rcases hcopy with rfl | rfl <;> rfl
        exact ⟨old, hold, hoid.trans (hid.trans hsame),
          (h.known old hold).1.trans (howner id' ownerId now heq).symm⟩
      · cases heq'.symm.trans heq
    · rcases row_of_mem (hdb ▸ hrow) with ⟨old, hold, hid, hsub, hle⟩ | ⟨k, hk⟩
      · exact hle.trans (h.dead old hold c (by rw [hid, hsub]; exact hdead))
      · exact absurd (hk ▸ h.queued _ _ hdead.queued) not_drawn
  · intro id c hmem
    have htimestamp : s'.timestamp = s.timestamp := congrArg (· / 1000) hclock
    rw [hlog] at hmem
    rw [htimestamp]
    rcases mem_append.mp hmem with hmem | hmem
    · exact h.cancelled id c hmem
    · obtain ⟨hcancel, hwaiting⟩ := hcancels hmem
      refine ⟨htimes id c hcancel hwaiting, ?_⟩
      cases call with
      | cancelSubscription id' ownerId now =>
        obtain ⟨rfl, -⟩ := hcancel
        obtain ⟨url, rfl⟩ := hproper.2
        exact subscriptionId_ne cfg url
      | cancelSubscriptionsBySourceKind kind now =>
        obtain ⟨-, sub, hsub, hkind, rfl⟩ := hcancel
        rcases (h.known sub hsub).2.2 with ⟨-, url, hid⟩ | ⟨henv, -⟩
        · rw [hid]
          exact subscriptionId_ne cfg url
        · rw [hkind, hproper] at henv
          exact absurd henv (by decide)
      | _ => exact hcancel.elim
  · intro sub hsub
    rw [hdb] at hsub
    rcases subscription_of_mem s.db _ hsub with hold | ⟨heq, -⟩
    · exact Known.of_survives h.known hold
    · cases call with
      | upsertSubscription new => cases heq; exact hproper
      | _ => cases heq
  · intro row id hmem
    rw [hlog] at hmem
    rcases mem_append.mp hmem with hmem | hmem
    · exact (h.queued row id hmem).mono (by omega)
    · have hwrites := writes_of_mem hmem
      generalize hdrawn : call.draw cfg.crates s.draws = drawn at hwrites
      cases hwrites with
      | queued occurrence payload eventType rowIds now n sub =>
        exact ⟨s.draws, n + 1, by omega, rowIds_of_draw hdrawn n⟩

/-! ## Steps -/

/-- Where a worker delivers to the subscription, or may be about to. -/
def delivers (id : String) : Tag → Bool
  | .calling (.claimOutbox _ _ _ _ _ kind) _ => kind != some envWebhookSourceKind
  | .resumed (.claimOutbox _ _ _ _ _ kind) => kind != some envWebhookSourceKind
  | .opening item | .envConfig item | .post item => item.subscription.id == id
  | _ => false

/-- What handler `i` knows at its next step. -/
def Knows (i : Nat) (s : Service) : Tag → Prop
  | .calling (.cancelSubscription _ _ now) _ => s.subscriptionsLock = some i → now ≤ s.timestamp
  | .calling (.cancelSubscriptionsBySourceKind _ now) _ => s.subscriptionsLock = some i →
      now ≤ s.timestamp ∧ s.writer ≠ none
  | .post item => Deliverable item.id item.subscription.id s.log
  | _ => True

variable {tag : Tag} {e : Outcome} {j : Nat}

lemma post_of_mem {attempt : Nat}
    (h : .posted row id attempt ∈ tag.entries cfg i e s) : ∃ item, tag = .post item := by
  cases tag with
  | post item => exact ⟨item, rfl⟩
  | calling call gate =>
    unfold Tag.entries at h
    dsimp only at h
    split at h
    · cases h
    · have hwrites := writes_of_mem h
      generalize call.draw cfg.crates s.draws = drawn at hwrites
      cases hwrites
  | mapping | envMapping => cases mem_singleton.mp h
  | looking eventId eventType now =>
    unfold Tag.entries at h
    dsimp only at h
    split at h
    · cases h
    · cases mem_singleton.mp h
  | _ => cases h

lemma lock_effect (hready : tag.ready s = true) (h : s.writer ≠ none → s.readers = [])
    (e : Outcome) : (effect cfg tag i e s).writer ≠ none → (effect cfg tag i e s).readers = [] := by
  cases tag with
  | lifecycleRead =>
    intro hwriter
    exact absurd (Option.isNone_iff_eq_none.mp hready) hwriter
  | lifecycleWrite =>
    intro _
    rw [Tag.ready, Bool.and_eq_true] at hready
    exact isEmpty_iff.mp hready.2
  | returning =>
    intro hwriter
    have hsome : s.writer ≠ none := by
      intro hnone
      refine hwriter ?_
      show s.writer.filter _ = none
      rw [hnone]
      rfl
    show s.readers.filter _ = []
    rw [h hsome]
    rfl
  | calling call gate =>
    have hreaders : s.writer ≠ none → (if gate then s.readers.filter (· ≠ i)
        else s.readers) = [] := by
      intro hwriter
      rw [h hwriter]
      split <;> rfl
    unfold effect
    dsimp only
    cases e.storeError <;> exact hreaders
  | looking | post | challenge =>
    unfold effect
    dsimp only
    split <;> exact h
  | _ => exact h

lemma Inv.final_step (h : Inv cfg s) (hknows : Knows i s tag) (e : Outcome) :
    Final (effect cfg tag i e s).log := by
  rw [effect_log]
  by_cases hpost : ∃ item, tag = .post item
  · obtain ⟨item, rfl⟩ := hpost
    unfold Tag.entries
    dsimp only
    split
    · refine h.final.snoc fun row id attempt heq => ?_
      cases heq
      exact hknows
    · refine h.final.snoc fun row id attempt heq => ?_
      cases heq
  · refine h.final.append_of_forall fun before x hx row id attempt heq => ?_
    rw [heq] at hx
    exact absurd (post_of_mem hx) hpost

/-- **ONE STEP** keeps the invariant. -/
lemma Inv.step (h : Inv cfg s) (hproper : ProperTag cfg tag) (hknows : Knows i s tag)
    (hready : tag.ready s = true) (e : Outcome) : Inv cfg (effect cfg tag i e s) := by
  refine ⟨?_, lock_effect hready h.lock e, ?_⟩
  · rcases effect_cases cfg tag i e s with ⟨hdb, hdraws, hentries⟩ | ⟨call, gate, rfl, -, hcalled⟩
    · exact h.agrees.frame hdraws (clock_effect ..).ge (effect_log ..)
        (fun id c hmem => hentries _ hmem trivial) (fun row id hmem => hentries _ hmem trivial) hdb
    · refine h.agrees.called (hproper call gate rfl) (fun id c hcancel hlock => ?_) hcalled
        (clock_effect ..)
      cases call with
      | cancelSubscription id' ownerId now =>
        obtain ⟨-, rfl⟩ := hcancel
        exact hknows hlock
      | cancelSubscriptionsBySourceKind kind now =>
        obtain ⟨rfl, -⟩ := hcancel
        exact (hknows hlock).1
      | _ => exact hcancel.elim
  · exact h.final_step hknows e

/-! ## The discipline -/

/-- What a handler relies on: its guards stay, and while it delivers under the lifecycle
no cancellation comes between. -/
structure Relies (j : Nat) (tag : Tag) (s s' : Service) : Prop where
  log : ∃ entries, s'.log = s.log ++ entries ∧ (j ∈ s.readers → ∀ id c, delivers id tag = true →
    .cancelled id c ∉ entries)
  clock : s.clock ≤ s'.clock
  reader : j ∈ s.readers → j ∈ s'.readers
  writer : s.writer = some j → s'.writer = some j

lemma Relies.trans {s1 s2 s3 : Service} (h : Relies j tag s1 s2)
    (h' : Relies j tag s2 s3) : Relies j tag s1 s3 := by
  obtain ⟨first, hfirst, hnone⟩ := h.log
  obtain ⟨second, hsecond, hnone'⟩ := h'.log
  refine ⟨⟨first ++ second, ?_, fun hreader id c hdelivers hmem => ?_⟩, h.clock.trans h'.clock,
    fun hreader => h'.reader (h.reader hreader), fun hwriter => h'.writer (h.writer hwriter)⟩
  · rw [hsecond, hfirst, append_assoc]
  · rcases mem_append.mp hmem with hmem | hmem
    · exact hnone hreader id c hdelivers hmem
    · exact hnone' (h.reader hreader) id c hdelivers hmem

lemma relies_of_otherLocks (h : OtherLocks j s s') (hlog : s'.log = s.log) : Relies j tag s s' :=
  ⟨⟨[], by rw [hlog, append_nil], nofun⟩, h.clock.ge, h.reader,
    h.writer⟩

lemma Inv.drop (h : Inv cfg s) (i : Nat) (tag : Tag) : Inv cfg (dropHandler i tag s) := by
  obtain ⟨hdb, hdraws, hlog⟩ := dropHandler_same i tag s
  have hclock : (dropHandler i tag s).clock = s.clock := by
    unfold dropHandler
    split <;> rfl
  refine ⟨h.agrees.frame hdraws.ge hclock.ge (hlog.trans (append_nil _).symm) (by simp)
    (by simp) hdb, ?_, hlog ▸ h.final⟩
  have hsome : s.writer.filter (· ≠ i) ≠ none → s.writer ≠ none := by
    intro hfilter hnone
    rw [hnone] at hfilter
    exact hfilter rfl
  unfold dropHandler
  split
  · exact fun hwriter => h.lock (hsome hwriter)
  · intro hwriter
    show s.readers.filter _ = []
    rw [h.lock (hsome hwriter)]
    rfl

lemma Inv.happen (h : Inv cfg s) (x : Happening) : Inv cfg (happen cfg x s) := by
  cases x with
  | wait millis =>
    refine ⟨?_, h.lock, h.final⟩
    exact h.agrees.frame le_rfl (clock_le_wait s millis) (append_nil _).symm (by simp) (by simp) rfl
  | restart fingerprint =>
    refine ⟨h.agrees.survive le_rfl le_rfl rfl (by simp) (by simp) rfl
      (fun sub hsub => survives_of_deactivateWhere hsub)
      (h.agrees.refers.apply (.revokeCredentialsExcept cfg.ownerId fingerprint)),
      fun hwriter => absurd rfl hwriter, h.final.snoc fun row id attempt heq => ?_⟩
    cases heq

/-- Cancellations wait for the workers, or the schedule does. -/
def cancelDiscipline (cfg : Config) : Discipline (eventServer cfg) where
  inv := Inv cfg
  pre _ _ _ := True
  away j s := s.subscriptionsLock ≠ some j
  rely := Relies
  hold _ _ _ _ := True
  ok _ _ _ _ := True
  okDrop _ := True
  free tag tag' := ∀ id ownerId now gate,
    tag = .calling (.cancelSubscription id ownerId now) gate → delivers id tag' = false
  good _ _ := True
  rely_refl j tag s := relies_of_otherLocks (OtherLocks.refl j s) rfl
  rely_trans _ _ := Relies.trans
  hold_refl _ _ _ := trivial
  hold_trans _ _ _ _ := by intros; trivial
  good_refl _ := trivial
  drop_inv i tag s h _ _ := ⟨h.drop i tag, trivial⟩
  drop_away := dropHandler_away
  drop_others i j tag tag' s hj :=
    ⟨relies_of_otherLocks (dropHandler_otherLocks hj tag s) (dropHandler_same i tag s).2.2, trivial⟩
  env_inv x s h := ⟨h.happen x, trivial⟩
  env_away := happen_unlocked cfg
  env_others x s hx _ j tag := by
    cases x with
    | wait millis =>
      exact ⟨⟨⟨[], (append_nil _).symm, by simp⟩, clock_le_wait s millis, fun h => h, fun h => h⟩,
        trivial⟩
    | restart fingerprint => cases hx

lemma cancels_of_mem_tag (h : .cancelled id c ∈ tag.entries cfg i e s) :
    ∃ call gate, tag = .calling call gate ∧ call.Cancels s.db id c
      ∧ s.subscriptionsLock = some i := by
  rcases effect_cases cfg tag i e s with ⟨-, -, hentries⟩ | ⟨call, gate, rfl, herror, -⟩
  · exact absurd trivial (hentries _ h)
  · rw [Tag.entries, herror] at h
    obtain ⟨hcancels, hwaiting⟩ := cancels_of_mem h
    exact ⟨call, gate, rfl, cancels_draw.mp hcancels, beq_iff_eq.mp hwaiting⟩

/-- **ONE STEP** keeps the discipline. -/
lemma keeps_step (h : Inv cfg s) (hproper : ProperTag cfg tag) (hknows : Knows i s tag)
    (hready : tag.ready s = true) (e : Outcome) :
    (cancelDiscipline cfg).Keeps i tag s (effect cfg tag i e s) where
  inv := h.step hproper hknows hready e
  good := trivial
  away j hj := effect_unlocked cfg hready e hj
  others := by
    intro j tag' hj hfree
    have hlocks := effect_otherLocks cfg hj hready e
    refine ⟨⟨⟨_, effect_log .., fun hreader id c hdelivers hmem => ?_⟩, hlocks.clock.ge,
      hlocks.reader, hlocks.writer⟩, trivial⟩
    obtain ⟨call, gate, rfl, hcancels, hlock⟩ := cancels_of_mem_tag hmem
    cases call with
    | cancelSubscription id' ownerId now =>
      obtain ⟨rfl, -⟩ := hcancels
      have hnot := hfree id' ownerId now gate rfl
      rw [hdelivers] at hnot
      cases hnot
    | cancelSubscriptionsBySourceKind kind now =>
      -- the revocation holds the lock, so nobody reads
      rw [h.lock (hknows hlock).2] at hreader
      cases hreader
    | _ => exact hcancels.elim

/-! ## Handlers -/

/-- Handler `i` keeps the discipline in `p`, and ends with `Q`. -/
abbrev Ensures (cfg : Config) (i : Nat) {α : Type} (p : Handler α) (Q : α → Service → Prop)
    (s : Service) : Prop :=
  Runs (cancelDiscipline cfg) i p Q (fun _ => True) s

/-- Steps that need to know nothing. -/
def Plain (cfg : Config) (tag : Tag) : Prop := ProperTag cfg tag ∧ ∀ i s, Knows i s tag

/-- Steps that neither call the store nor post. -/
def Simple : Tag → Prop
  | .calling .. | .post _ => False
  | _ => True

lemma plain_simple (h : Simple tag) : Plain cfg tag := by
  cases tag with
  | calling | post => exact h.elim
  | _ => exact ⟨nofun, fun _ _ => trivial⟩

/-- A call that cancels nothing. -/
def Harmless : StoreCall → Prop
  | .cancelSubscription .. | .cancelSubscriptionsBySourceKind .. => False
  | _ => True

lemma plain_calling {gate : Bool} (hproper : Proper cfg call) (hcall : Harmless call) :
    Plain cfg (.calling call gate) := by
  refine ⟨?_, fun i s => ?_⟩
  · intro call' gate' heq
    cases heq
    exact hproper
  · cases call with
    | cancelSubscription | cancelSubscriptionsBySourceKind => exact hcall.elim
    | _ => exact trivial

lemma keeps_plain (h : Inv cfg s) (htag : Plain cfg tag) (hready : tag.ready s = true)
    (e : Outcome) : (cancelDiscipline cfg).Keeps i tag s (effect cfg tag i e s) :=
  keeps_step h htag.1 (htag.2 i s) hready e

lemma keeps_simple (h : Inv cfg s) (htag : Simple tag) (hready : tag.ready s = true)
    (e : Outcome) : (cancelDiscipline cfg).Keeps i tag s (effect cfg tag i e s) :=
  keeps_plain h (plain_simple htag) hready e

lemma runs_simple {α : Type} {value : Outcome → Service → Except String α}
    {Q : α → Service → Prop} (htag : Simple tag) (h : ∀ s' e, Relies i tag s s' → Inv cfg s' →
      Ends Q (fun _ => True) (value e s') (effect cfg tag i e s')) :
    Ensures cfg i (take cfg tag value) Q s :=
  runs_take _ fun s' hrely hinv => ⟨trivial, fun hready e _ =>
    ⟨keeps_simple hinv htag hready e, h s' e hrely hinv⟩⟩

lemma plain_of_takes {calls : StoreCall → Prop} (hcalls : ∀ call, calls call → Harmless call)
    (h : Takes cfg calls False tag) : Plain cfg tag := by
  cases tag with
  | calling call gate => exact plain_calling h.1 (hcalls call h.2)
  | post => exact h.elim
  | _ => exact plain_simple trivial

/-- Steps that keep the guards of their handler. -/
def Steady : Tag → Prop
  | .returning | .calling _ true => False
  | _ => True

lemma steady_effect (h : Steady tag) (e : Outcome) :
    (i ∈ s.readers → i ∈ (effect cfg tag i e s).readers)
      ∧ (s.writer = some i → (effect cfg tag i e s).writer = some i) := by
  cases tag with
  | returning => exact h.elim
  | lifecycleRead => exact ⟨fun hmem => mem_append_left _ hmem, fun h => h⟩
  | lifecycleWrite => exact ⟨fun h => h, fun _ => rfl⟩
  | calling call gate =>
    cases gate with
    | true => exact h.elim
    | false =>
      unfold effect
      dsimp only
      cases e.storeError <;> exact ⟨fun h => h, fun h => h⟩
  | looking | post | challenge =>
    unfold effect
    dsimp only
    split <;> exact ⟨fun h => h, fun h => h⟩
  | _ => exact ⟨fun h => h, fun h => h⟩

/-- What is known of the guards of handler `i`: it reads or writes. -/
structure Guards (reads writes : Prop) (i : Nat) (s : Service) : Prop where
  reads : reads → i ∈ s.readers
  writes : writes → s.writer = some i

section Guards

variable {reads writes : Prop}

lemma Guards.rely {tag : Tag} (h : Guards reads writes i s) (hrely : Relies i tag s s') :
    Guards reads writes i s' :=
  ⟨fun hr => hrely.reader (h.reads hr), fun hw => hrely.writer (h.writes hw)⟩

lemma Guards.effect {tag : Tag} (h : Guards reads writes i s) (htag : Steady tag) (e : Outcome) :
    Guards reads writes i (effect cfg tag i e s) :=
  ⟨fun hr => (steady_effect htag e).1 (h.reads hr), fun hw => (steady_effect htag e).2 (h.writes hw)⟩

lemma runs_plain {α β : Type} {p : Handler α} {f : α → Handler β} {Q : β → Service → Prop}
    (hp : Follows cfg (fun tag => Plain cfg tag ∧ Steady tag) p) (hs : Guards reads writes i s)
    (hf : ∀ a s, Guards reads writes i s → Ensures cfg i (f a) Q s) : Ensures cfg i (p >>= f) Q s :=
  runs_then _ (fun _ _ _ _ hK hr => hK.rely hr)
    (fun _ _ htag hinv hK => ⟨trivial, fun hready e _ =>
      ⟨keeps_plain hinv htag.1 hready e, hK.effect htag.2 e⟩⟩) hp hs hf
    fun _ _ => trivial

lemma runs_plain_last {α : Type} {p : Handler α} (hp : Follows cfg (Plain cfg) p) (s : Service) :
    Ensures cfg i p (fun _ _ => True) s := by
  refine (cancelDiscipline cfg).rules.safe_mono ?_ (safe_of_follows _ (K := fun _ => True)
    (fun _ _ _ _ _ _ => trivial) (fun _ _ htag hinv _ => ⟨trivial, fun hready e _ =>
      ⟨keeps_plain hinv htag hready e, trivial⟩⟩) hp trivial)
  intro result s _
  cases result <;> exact trivial

lemma runs_cancelNow {job : Int → StoreCall} (hs : Guards reads writes i s)
    (hproper : ∀ now, Proper cfg (job now))
    (hknows : ∀ now s, Guards reads writes i s → now ≤ s.timestamp →
      Knows i s (.calling (job now) false)) :
    Ensures cfg i (storeCallNow cfg job) (fun _ _ => True) s := by
  refine runs_bind _ (runs_simple (by trivial) fun s1 e hrely hinv => ?_)
  have hs1 := hs.rely hrely
  refine runs_storeCall _ (M := fun _ _ => True) (fun s2 hrely2 hinv2 => ⟨trivial, fun e2 _ =>
    ⟨?_, fun _ _ _ => trivial, fun _ => trivial⟩⟩) fun _ _ s3 _ _ hinv3 => ⟨trivial, fun e3 _ => ⟨?_, trivial⟩⟩
  · refine keeps_step hinv2 ?_ (hknows _ s2 (hs1.rely hrely2) ?_) rfl e2
    · intro call gate heq
      cases heq
      exact hproper _
    · exact timestamp_mono hrely2.clock
  · exact keeps_simple hinv3 (by trivial) rfl e3

end Guards

lemma safe_ensures {α : Type} {p : Handler α} (h : Ensures cfg i p (fun _ _ => True) s) :
    (cancelDiscipline cfg).Safe i (p.serve cfg) (fun _ => (cancelDiscipline cfg).away i) s := by
  refine safe_serve _ (R := fun _ => True) h (fun _ s' _ _ hinv => ⟨trivial, fun e _ => ?_⟩)
    (release_unlocked i)
  exact keeps_simple hinv (by trivial) rfl e

lemma runs_unsubscribe (url : String) :
    Ensures cfg i (unsubscribe cfg url) (fun _ _ => True) s := by
  have hs : Guards False False i s := ⟨False.elim, False.elim⟩
  refine runs_plain (follows_take ⟨plain_simple trivial, trivial⟩) hs fun _ s hs => ?_
  refine runs_seq _ (runs_mapErr _ (runs_cancelNow hs (fun now => ⟨rfl, url, rfl⟩)
    fun now s _ htime _ => htime)) fun _ s _ => ?_
  exact runs_plain_last (follows_take (plain_simple (by trivial))) s

lemma runs_revoke : Ensures cfg i (revokeMcpSubscriptions cfg) (fun _ _ => True) s := by
  refine runs_bind _ (runs_simple (by trivial) fun s1 e _ _ => ?_)
  have hs : Guards False True i (effect cfg .lifecycleWrite i e s1) := ⟨False.elim, fun _ => rfl⟩
  refine runs_plain (follows_take ⟨plain_simple trivial, trivial⟩) hs fun _ s hs => ?_
  refine runs_plain (follows_take ⟨plain_simple trivial, trivial⟩) hs fun _ s hs => ?_
  refine runs_seq _ (runs_cancelNow hs (fun now => rfl) fun now s hs htime _ => ⟨htime, ?_⟩)
    fun _ s _ => ?_
  · rw [hs.writes trivial]
    simp
  · refine runs_plain_last (follows_bind (follows_take ?_) fun _ =>
      follows_bind (follows_take ?_) fun _ => ?_) s
    · exact plain_simple trivial
    · exact plain_simple trivial
    · exact trivial

/-! ## The worker -/

section Worker

variable {kind : Option String} {item : StoredOutbox}

/-- What the worker for a source kind knows of the row it claimed. -/
structure Claimed (cfg : Config) (kind : Option String) (i : Nat) (item : StoredOutbox)
    (s : Service) : Prop where
  env : kind = some envWebhookSourceKind → item.subscription.id = envWebhookSubscriptionId cfg
  other : kind ≠ some envWebhookSourceKind →
    i ∈ s.readers ∧ Deliverable item.id item.subscription.id s.log

lemma Claimed.rely {tag : Tag} (h : Claimed cfg kind i item s) (hrely : Relies i tag s s')
    (htag : kind ≠ some envWebhookSourceKind → delivers item.subscription.id tag = true) :
    Claimed cfg kind i item s' := by
  refine ⟨h.env, fun hkind => ?_⟩
  obtain ⟨hreader, hdeliverable⟩ := h.other hkind
  obtain ⟨entries, hlog, hnone⟩ := hrely.log
  rw [hlog]
  exact ⟨hrely.reader hreader, hdeliverable.append fun c => hnone hreader _ c (htag hkind)⟩

lemma Claimed.deliverable (h : Claimed cfg kind i item s) (hinv : Inv cfg s) :
    Deliverable item.id item.subscription.id s.log := by
  by_cases hkind : kind = some envWebhookSourceKind
  · have hnone : ∀ c, .cancelled item.subscription.id c ∉ s.log := fun c hmem =>
      (hinv.agrees.cancelled _ c hmem).2 (h.env hkind)
    refine ⟨?_, fun c hdead => hnone c hdead.cancelled⟩
    rintro ⟨a, c, b, hlog, -⟩
    refine hnone c ?_
    rw [hlog]
    exact mem_append_cons_self
  · exact (h.other hkind).2

/-- **A CLAIM** at a reading of the clock after all cancellations takes a row that can be
delivered. -/
lemma deliverable_of_claims {ownerId fingerprint token : String} {now : Int} {row : OutboxRow}
    (hinv : Inv cfg s) (hclaims : Claims s.db ownerId fingerprint now token kind row item)
    (htimes : ∀ id c, .cancelled id c ∈ s.log → c ≤ now) :
    Deliverable item.id item.subscription.id s.log := by
  obtain ⟨hsub, hid⟩ := getSubscription_eq_some.mp hclaims.subscription
  refine ⟨fun hgone => ?_, fun c hdead => ?_⟩
  · have hinactive := hinv.agrees.gone _ hgone _ hsub rfl
    rw [(subscriptionOpen_iff.mp hclaims.subscriptionOpen).1] at hinactive
    cases hinactive
  · rw [hclaims.id, hid] at hdead
    have hexpires := hinv.agrees.dead row hclaims.mem c hdead
    have hopen := (rowOpen_iff.mp hclaims.rowOpen).2.2.2
    have htime := htimes _ c hdead.cancelled
    omega

lemma runs_claimNext (token : String) (hs : Guards (kind ≠ some envWebhookSourceKind) False i s) :
    Ensures cfg i (claimNext cfg token kind)
      (fun claimed s => ∀ item, claimed = some item → Claimed cfg kind i item s) s := by
  refine runs_bind _ (runs_bind _ (runs_simple (by trivial) fun s1 e hrely1 hinv1 => ?_))
  have hs1 := hs.rely hrely1
  refine runs_storeCall _
    (M := fun reply s => ∀ item, claimedItem reply = some item → Claimed cfg kind i item s)
    (fun s2 hrely2 hinv2 => ⟨trivial, fun e2 _ => ⟨?_, ?_, fun _ => trivial⟩⟩) ?_
  · have hplain : Plain cfg (.calling (.claimOutbox cfg.ownerId token s1.timestamp
        (s1.timestamp + 30) "" kind) false) := plain_calling trivial trivial
    exact keeps_plain hinv2 hplain rfl e2
  · intro reply herror hreply item hitem
    obtain ⟨hentries, row, hclaims⟩ := claim_reply (s2.subscriptionsLock == some i) hreply hitem
    obtain ⟨hsub, -⟩ := getSubscription_eq_some.mp hclaims.subscription
    have hkinds := (subscriptionOpen_iff.mp hclaims.subscriptionOpen).2.2.2.2
    refine ⟨fun hkind => ?_, fun hkind => ⟨?_, ?_⟩⟩
    · rcases (hinv2.agrees.known _ hsub).2.2 with ⟨hmcp, -⟩ | ⟨-, hid⟩
      · rw [hkinds _ hkind] at hmcp
        exact absurd hmcp (by decide)
      · exact congrArg SubscriptionDiagnostic.id hid
    · exact ((hs1.rely hrely2).effect (by exact trivial) e2).reads hkind
    · -- no cancellation came between the reading of the clock and the claim
      obtain ⟨entries, hlog, hnone⟩ := hrely2.log
      have htimes : ∀ id c, .cancelled id c ∈ s2.log → c ≤ s1.timestamp := by
        intro id c hmem
        rw [hlog] at hmem
        rcases mem_append.mp hmem with hmem | hmem
        · exact (hinv1.agrees.cancelled id c hmem).1
        · exact absurd hmem (hnone (hs1.reads hkind) id c (by simpa [delivers] using hkind))
      rw [effect_log, Tag.entries, herror]
      dsimp only [StoreCall.draw]
      rw [hentries]
      exact (deliverable_of_claims hinv2 hclaims htimes).append (by simp)
  · intro reply s3 s4 hreply hrely hinv
    refine ⟨trivial, fun e3 _ => ⟨?_, runs_pure _ fun item hitem => ?_⟩⟩
    · exact keeps_simple hinv (by trivial) rfl e3
    · exact (hreply item hitem).rely hrely fun hkind => by simpa [delivers] using hkind

lemma runs_completed (outcome : Except WebhookFailure Nat) (s : Service) :
    Ensures cfg i (do
      let completedAt ← utcTimestamp cfg
      let _ ← storeCall cfg (.completeDelivery item.id (item.leaseToken.getD "")
        (classifyDelivery outcome item.attempts completedAt) maxDeliveryAttempts) false
      pure true) (fun _ _ => True) s := by
  refine runs_plain_last (follows_bind (follows_take ?_) fun _ =>
    follows_bind (follows_storeCall ?_ ?_) fun _ => ?_) s
  · exact plain_simple trivial
  · exact plain_calling trivial trivial
  · exact plain_simple trivial
  · exact trivial

lemma runs_deliver (hitem : Claimed cfg kind i item s) :
    Ensures cfg i (deliver cfg item) (fun _ _ => True) s := by
  refine runs_bind _ (runs_bind _ (runs_take _ fun s1 hrely hinv =>
    ⟨trivial, fun hready e _ => ⟨?_, ?_⟩⟩))
  · have hknows : Knows i s1 (.post item) :=
      (hitem.rely hrely fun _ => by simp [delivers]).deliverable hinv
    refine keeps_step hinv ?_ hknows hready e
    intro call gate heq
    cases heq
  · show Runs _ i (afterPost cfg item e.request) _ _ _
    cases e.request with
    | error failure => exact runs_pure _ (runs_completed _ _)
    | ok _ =>
      refine runs_mono _ (runs_plain_last (follows_take ?_) _)
        fun outcome s _ => runs_completed outcome s
      exact plain_simple trivial

lemma runs_deliverClaimed (hitem : Claimed cfg kind i item s) :
    Ensures cfg i (deliverClaimed cfg item) (fun _ _ => True) s := by
  refine runs_bind _ (runs_simple (by trivial) fun s1 e hrely hinv => ?_)
  have hitem : Claimed cfg kind i item s1 := hitem.rely hrely fun _ => by simp [delivers]
  show Runs _ i (if _ then (if _ then deliver cfg item else pure false)
    else if _ then deliver cfg item else pure false) _ _ _
  split
  · split
    · exact runs_deliver hitem
    · exact runs_pure _ trivial
  · split
    · exact runs_deliver hitem
    · exact runs_pure _ trivial

lemma runs_subscriptionGuard : Ensures cfg i (subscriptionGuard cfg kind)
    (fun _ s => Guards (kind ≠ some envWebhookSourceKind) False i s) s := by
  unfold subscriptionGuard
  split
  · next hkind => exact runs_pure _ ⟨fun hne => absurd hkind hne, False.elim⟩
  · exact runs_simple (by trivial) fun s1 e _ _ => ⟨fun _ => mem_concat_self, False.elim⟩

lemma runs_deliveryTick (kind : Option String) :
    Ensures cfg i (deliveryTick cfg kind) (fun _ _ => True) s := by
  refine runs_seq _ runs_subscriptionGuard fun _ s hs => ?_
  refine runs_plain (follows_take ⟨plain_simple trivial, trivial⟩) hs fun now s hs => ?_
  refine runs_plain (follows_storeCall ⟨plain_calling trivial trivial, trivial⟩
    ⟨plain_simple trivial, trivial⟩) hs fun _ s hs => ?_
  refine runs_plain (follows_take ⟨plain_simple trivial, trivial⟩) hs fun token s hs => ?_
  refine runs_seq _ (runs_claimNext token hs) fun claimed s hclaimed => ?_
  cases claimed with
  | none => exact runs_pure _ trivial
  | some item =>
    refine runs_bind _ (runs_simple (by trivial) fun s1 e hrely hinv => ?_)
    cases e.opened with
    | error text => exact trivial
    | ok _ =>
      exact runs_deliverClaimed ((hclaimed item rfl).rely hrely fun _ => by simp [delivers])

end Worker

/-! ## Runs -/

lemma safe_handlerOf (i : Nat) (request : Request) (s : Service) :
    (cancelDiscipline cfg).Safe i (handlerOf cfg request)
      (fun _ => (cancelDiscipline cfg).away i) s := by
  have hplain : ∀ {calls : StoreCall → Prop} {α : Type} {p : Handler α},
      Follows cfg (Takes cfg calls False) (p.serve cfg) → (∀ call, calls call → Harmless call) →
      (cancelDiscipline cfg).Safe i (p.serve cfg) (fun _ => (cancelDiscipline cfg).away i) s :=
    fun hp hcalls => safe_served _ (K := fun _ => True) (fun _ _ _ _ _ _ => trivial)
      (fun _ _ htag hinv _ => ⟨trivial, fun hready e _ => ⟨keeps_plain hinv htag hready e, trivial⟩⟩)
      (release_unlocked i) (hp.mono fun _ => plain_of_takes hcalls) (plain_simple trivial) trivial
  have hsubscribes : ∀ call, Subscribes call → Harmless call := by rintro (_ | _) h <;> trivial
  cases request with
  | subscribe params url => exact hplain (follows_subscribe params url) hsubscribes
  | unsubscribe url => exact safe_ensures (runs_unsubscribe url)
  | revokeMcpSubscriptions => exact safe_ensures runs_revoke
  | applyEnvWebhook config => exact hplain (follows_applyEnvWebhook config) hsubscribes
  | publish event => exact hplain (follows_publish event) (by rintro (_ | _) h <;> trivial)
  | deliveryTick kind => exact safe_ensures (runs_deliveryTick kind)

lemma knows_of_unlocked (h : s.subscriptionsLock ≠ some i) (hblocking : tag.blocking = true) :
    Knows i s tag := by
  cases tag with
  | post item => cases hblocking
  | calling call gate =>
    cases call with
    | cancelSubscription | cancelSubscriptionsBySourceKind => exact fun hlock => absurd hlock h
    | _ => exact trivial
  | _ => exact trivial

lemma detachable_handlerOf (i : Nat) (request : Request) (s : Service) :
    (cancelDiscipline cfg).Detachable i (handlerOf cfg request) s := by
  refine detachable_of_follows (cancelDiscipline cfg) (fun tag s htag hblocking hinv haway e _ => ?_)
    (follows_proper request) s
  exact keeps_step hinv htag (knows_of_unlocked haway hblocking)
    ((eventServer cfg).blocking_ready i tag s hblocking) e

lemma inv_fresh (cfg : Config) (clock : Int) (fingerprint : String) :
    Inv cfg (.fresh clock fingerprint) where
  agrees := {
    gone := by rintro id ⟨a, c, b, hlog, -⟩; simp [Service.fresh] at hlog
    dead := fun row hrow => by cases hrow
    cancelled := nofun
    known := nofun
    queued := nofun
    refers := fun row hrow => by cases hrow }
  lock h := absurd rfl h
  final := eachAfter_nil

/-- No subscription is cancelled by `unsubscribe` while a worker delivers to it. -/
def notDelivering (pool : Pool Service (Task Service Outcome Tag)) :
    Event Request Outcome Happening → Prop
  | .exec i _ => ∀ id ownerId now gate,
      (pool.threads i).bind Task.tag? = some (.calling (.cancelSubscription id ownerId now) gate) →
        ∀ j tag, j ≠ i → (pool.threads j).bind Task.tag? = some tag → delivers id tag = false
  | _ => True

lemma admits_of_notDelivering {pool : Pool Service (Task Service Outcome Tag)}
    {ev : Event Request Outcome Happening} (h : notDelivering pool ev) :
    (cancelDiscipline cfg).Admits pool ev := by
  cases ev with
  | exec i e =>
    intro tag htag
    refine ⟨trivial, fun j tag' hj htag' id ownerId now gate heq => ?_⟩
    exact h id ownerId now gate (heq ▸ htag) j tag' hj htag'
  | stop i => exact fun _ _ => trivial
  | spawn i request => exact trivial
  | env x => exact trivial

/-- **CANCELLATION IS FINAL**: in every run in which no subscription is cancelled by
`unsubscribe` while a worker delivers to it, no POST goes to a cancelled subscription
until it is written again, and none with an event queued before the cancellation. -/
theorem cancellation_final (cfg : Config) (clock : Int) (fingerprint : String) (events : Schedule)
    (h : AllSteps (eventServer cfg).step notDelivering (.idle (.fresh clock fingerprint)) events) :
    Always (eventServer cfg).step (fun pool => Final pool.shared.log)
      (.idle (.fresh clock fingerprint)) events := by
  have hall := ((cancelDiscipline cfg).always_good
    (fun i request s _ _ => ⟨safe_handlerOf i request s, detachable_handlerOf i request s⟩)
    (inv_fresh cfg clock fingerprint) (nofun)
    (h.mono fun _ _ => admits_of_notDelivering)).1
  intro pre post hevents
  exact (hall pre post hevents).final

/-- The condition for handlers below `n`, to be computed. -/
def notDeliveringBelow (n : Nat) (pool : Pool Service (Task Service Outcome Tag)) :
    Event Request Outcome Happening → Bool
  | .exec i _ =>
    match (pool.threads i).bind Task.tag? with
    | some (.calling (.cancelSubscription id _ _) _) =>
      (List.range n).all fun j =>
        j == i || ((pool.threads j).bind Task.tag?).all fun tag => !delivers id tag
    | _ => true
  | .spawn i _ => decide (i < n)
  | _ => true

lemma notDelivering_of_below {n : Nat} {events : Schedule}
    (h : AllSteps (eventServer cfg).step (fun pool ev => notDeliveringBelow n pool ev = true)
      (.idle s) events) : AllSteps (eventServer cfg).step notDelivering (.idle s) events := by
  have hbelow : ∀ j, n ≤ j → (Pool.idle s : Pool Service (Task Service Outcome Tag)).threads j = none :=
    fun _ _ => rfl
  refine allSteps_of_inv (P := fun pool => ∀ j, n ≤ j → pool.threads j = none) ?_ ?_ hbelow h
  · intro pool ev hpool hev
    refine (eventServer cfg).threads_below hpool fun i request heq => ?_
    rw [heq] at hev
    exact of_decide_eq_true hev
  · intro pool ev hpool hev
    cases ev with
    | exec i e =>
      intro id ownerId now gate htag j tag hj htag'
      unfold notDeliveringBelow at hev
      dsimp only at hev
      rw [htag] at hev
      have hlt : j < n := by
        by_contra hge
        rw [hpool j (by omega)] at htag'
        cases htag'
      have hone := all_eq_true.mp hev j (mem_range.mpr hlt)
      rw [htag'] at hone
      simpa [hj] using hone
    | _ => exact trivial

def subscribeUrl (i : Nat) : Schedule := .spawn i (.subscribe toyParams "https://a") :: steps i 16

def unsubscribeUrl (i : Nat) : Schedule := .spawn i (.unsubscribe "https://a") :: steps i 6

def publishEvent (i : Nat) (event : String) : Schedule :=
  .spawn i (.publish (toyEvent event)) :: steps i 7

/-- `n` steps of a tick of the worker for subscriptions. -/
def tickSteps (i n : Nat) : Schedule :=
  .spawn i (.deliveryTick (some mcpSourceKind)) :: steps i n

/-- A subscription that is cancelled before its event is delivered, and made again. -/
def resubscribes : Schedule :=
  subscribeUrl 0 ++ publishEvent 1 "e" ++ unsubscribeUrl 2 ++ subscribeUrl 3 ++ tickSteps 4 16
    ++ publishEvent 5 "f" ++ tickSteps 6 16

/-- The second event is sent, the first is not. -/
theorem cancellation_final_resubscribes :
    .posted (toyUuid 10 1) (subscriptionId toyConfig "https://a") 1
        ∈ (run (eventServer toyConfig).step toyStart resubscribes).shared.log
      ∧ Final (run (eventServer toyConfig).step toyStart resubscribes).shared.log := by
  refine ⟨by decide +kernel, ?_⟩
  have hfinal : Always (eventServer toyConfig).step (fun pool => Final pool.shared.log) toyStart
      resubscribes := cancellation_final toyConfig 100000 "token" resubscribes
    (notDelivering_of_below (n := 7) (by decide +kernel))
  have hlast := hfinal resubscribes [] (append_nil resubscribes).symm
  exact hlast

/-- The caller unsubscribes while a worker has claimed the event and not sent it. -/
def unsubscribesInFlight : Schedule :=
  subscribeUrl 0 ++ publishEvent 1 "e" ++ tickSteps 2 10 ++ unsubscribeUrl 3

/-- **IN FLIGHT**: the call has returned, and then the worker sends the event. -/
theorem posted_after_unsubscribe :
    ((run (eventServer toyConfig).step toyStart unsubscribesInFlight).threads 3).isNone = true
      ∧ (run (eventServer toyConfig).step toyStart unsubscribesInFlight).shared.log.getLast?
          = some (.cancelled (subscriptionId toyConfig "https://a") 100)
      ∧ (run (eventServer toyConfig).step toyStart
          (unsubscribesInFlight ++ steps 2 1)).shared.log.getLast?
          = some (.posted (toyUuid 3 1) (subscriptionId toyConfig "https://a") 1) :=
  ⟨by decide +kernel, by decide +kernel, by decide +kernel⟩

end WattCancel
