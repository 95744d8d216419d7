import Wattetheria.EventService
import Wattetheria.EventStoreProofs

/-!
# Reasoning about the handlers of the event service

`Runs D i p Q R s` says that handler `i` keeps a discipline while it runs `p` and ends
with `Q` of its result, or with `R` if it fails.  A handler none of whose steps needs to
know what the steps before it did is treated by the tags of its steps alone (`Follows`):
`Takes` says which steps a handler takes that makes certain calls of the store.
-/

namespace WattWebhooks

open WattText WattAsync WattTasks Handler StoreCall List

variable {α β : Type} {cfg : Config}

/-! ## Handlers under a discipline -/

section Runs

variable (D : Discipline (eventServer cfg)) {i : Nat} {s : Service}

/-- How a handler ends. -/
def Ends (Q : α → Service → Prop) (R : Service → Prop) : Except String α → Service → Prop
  | .ok a, s => Q a s
  | .error _, s => R s

/-- Handler `i` keeps the discipline in `p` and ends well. -/
def Runs (i : Nat) (p : Handler α) (Q : α → Service → Prop) (R : Service → Prop) (s : Service) :
    Prop :=
  D.Safe i p (Ends Q R) s

variable {p : Handler α} {R : Service → Prop}

lemma runs_bind {f : α → Handler β} {Q : β → Service → Prop}
    (h : Runs D i p (fun a s => Runs D i (f a) Q R s) R s) : Runs D i (p >>= f) Q R s := by
  refine D.rules.safe_bind (D.rules.safe_mono ?_ h)
  intro result s hend
  cases result with
  | ok a => exact hend
  | error text => exact hend

variable {Q : α → Service → Prop}

lemma runs_mapErr {f : String → String} (h : Runs D i p Q R s) : Runs D i (p.mapErr f) Q R s := by
  refine D.rules.safe_bind (D.rules.safe_mono ?_ h)
  intro result s hend
  cases result with
  | ok a => exact hend
  | error text => exact hend

lemma runs_pure {a : α} (h : Q a s) : Runs D i (pure a) Q R s := h

lemma runs_ofExcept {result : Except String α} (hok : ∀ a, result = .ok a → Q a s)
    (herror : R s) : Runs D i (ofExcept result) Q R s := by
  cases result with
  | ok a => exact hok a rfl
  | error text => exact herror

/-- **ONE STEP**. -/
lemma runs_take {tag : Tag} {value : Outcome → Service → Except String α}
    (h : ∀ s', D.rely i tag s s' → D.inv s' → D.pre i tag s' ∧ (tag.ready s' = true →
      ∀ e, D.ok i tag e s' → D.Keeps i tag s' (effect cfg tag i e s')
        ∧ Ends Q R (value e s') (effect cfg tag i e s'))) : Runs D i (take cfg tag value) Q R s := h

/-- **A CALL OF THE STORE**: its step, and the step with which the handler goes on. -/
lemma runs_storeCall {call : StoreCall} {gate : Bool} {M Q : StoreReply → Service → Prop}
    (hcall : ∀ s', D.rely i (.calling call gate) s s' → D.inv s' →
      D.pre i (.calling call gate) s' ∧ ∀ e, D.ok i (.calling call gate) e s' →
        D.Keeps i (.calling call gate) s' (effect cfg (.calling call gate) i e s')
          ∧ (∀ reply, e.storeError = none →
              ((call.draw cfg.crates s'.draws).apply s'.db).1 = .ok reply →
                M reply (effect cfg (.calling call gate) i e s'))
          ∧ ((∀ reply, e.storeError = none →
              ((call.draw cfg.crates s'.draws).apply s'.db).1 ≠ .ok reply) →
                R (effect cfg (.calling call gate) i e s')))
    (hresumed : ∀ reply s s', M reply s → D.rely i (.resumed call) s s' → D.inv s' →
      D.pre i (.resumed call) s' ∧ ∀ e, D.ok i (.resumed call) e s' →
        D.Keeps i (.resumed call) s' s' ∧ Q reply s') :
    Runs D i (storeCall cfg call gate) Q R s := by
  refine runs_bind D fun s1 hrely hinv => ?_
  obtain ⟨hpre, hstep⟩ := hcall s1 hrely hinv
  refine ⟨hpre, fun _ e hok => ?_⟩
  obtain ⟨hkeeps, hreply, herror⟩ := hstep e hok
  refine ⟨hkeeps, ?_⟩
  dsimp only
  cases hfailed : e.storeError with
  | some text => exact herror fun _ hnone => by rw [hfailed] at hnone; cases hnone
  | none =>
    dsimp only
    cases hvalue : ((call.draw cfg.crates s1.draws).apply s1.db).1 with
    | error text => exact herror fun _ _ hok => by rw [hvalue] at hok; cases hok
    | ok reply =>
      refine runs_bind D fun s2 hrely2 hinv2 => ?_
      obtain ⟨hpre2, hstep2⟩ := hresumed reply _ s2 (hreply reply hfailed hvalue) hrely2 hinv2
      exact ⟨hpre2, fun _ e2 hok2 => hstep2 e2 hok2⟩

/-- What `send_webhook` does after the request. -/
abbrev afterPost (cfg : Config) (item : StoredOutbox) :
    Except WebhookFailure Unit → Handler (Except WebhookFailure Nat)
  | .error failure => pure (.error failure)
  | .ok () => take cfg (.reply item) fun e _ => .ok e.reply

lemma runs_mono {Q' : α → Service → Prop} (h : Runs D i p Q R s) (hQ : ∀ a s, Q a s → Q' a s) :
    Runs D i p Q' R s := by
  refine D.rules.safe_mono ?_ h
  intro result s hend
  cases result with
  | ok a => exact hQ a s hend
  | error text => exact hend

lemma runs_seq {f : α → Handler β} {Q' : β → Service → Prop} (h : Runs D i p Q R s)
    (hf : ∀ a s, Q a s → Runs D i (f a) Q' R s) : Runs D i (p >>= f) Q' R s :=
  runs_bind D (runs_mono D h hf)

lemma safe_serve (h : Runs D i p (fun _ s => R s) R s)
    (hreturn : ∀ s s', R s → D.rely i .returning s s' → D.inv s' → D.pre i .returning s'
      ∧ ∀ e, D.ok i .returning e s' → D.Keeps i .returning s' (s'.release i))
    (haway : ∀ s : Service, D.away i (s.release i)) :
    D.Safe i (p.serve cfg) (fun _ => D.away i) s := by
  refine D.rules.safe_bind (D.rules.safe_mono ?_ h)
  intro result s hend
  have hR : R s := by
    cases result with
    | ok a => exact hend
    | error text => exact hend
  intro s' hrely hinv
  obtain ⟨hpre, hkeeps⟩ := hreturn s s' hR hrely hinv
  exact ⟨hpre, fun _ e hok => ⟨hkeeps e hok, haway s'⟩⟩

end Runs

/-! ## What a step writes down -/

/-- What a step writes to the log. -/
def Tag.entries (cfg : Config) (i : Nat) (e : Outcome) (s : Service) : Tag → List Entry
  | .calling call _ =>
    match e.storeError with
    | some _ => []
    | none => (call.draw cfg.crates s.draws).entries (s.subscriptionsLock == some i) s.db
  | .mapping row _ | .envMapping row => [.mapped row.id]
  | .looking eventId eventType now =>
    if interested cfg s eventType now then [] else [.answered eventId eventType now]
  | .post item =>
    match e.request with
    | .ok () => [.posted item.id item.subscription.id item.attempts]
    | .error failure => [.unsent item.id item.attempts failure]
  | _ => []

lemma effect_log (cfg : Config) (tag : Tag) (i : Nat) (e : Outcome) (s : Service) :
    (effect cfg tag i e s).log = s.log ++ tag.entries cfg i e s := by
  cases tag with
  | calling call gate =>
    unfold effect Tag.entries
    dsimp only
    cases e.storeError with
    | none => rfl
    | some text => exact (append_nil _).symm
  | looking eventId eventType now =>
    unfold effect Tag.entries
    dsimp only
    split
    · exact (append_nil _).symm
    · rfl
  | post item =>
    unfold effect Tag.entries
    dsimp only
    cases e.request <;> rfl
  | challenge url =>
    unfold effect
    dsimp only
    split <;> exact (append_nil _).symm
  | mapping | envMapping => rfl
  | _ => exact (append_nil _).symm

/-- What a call of the store that is not rolled back does. -/
structure Called (cfg : Config) (call : StoreCall) (i : Nat) (s s' : Service) : Prop where
  draws : s'.draws = s.draws + 1
  db : s'.db = ((call.draw cfg.crates s.draws).apply s.db).2
  log : s'.log
    = s.log ++ (call.draw cfg.crates s.draws).entries (s.subscriptionsLock == some i) s.db

variable {call : StoreCall} {gate : Bool} {e : Outcome}

lemma called_of_storeError {cfg : Config} {i : Nat} {s : Service} (h : e.storeError = none) :
    Called cfg call i s (effect cfg (.calling call gate) i e s) := by
  unfold effect
  rw [h]
  exact ⟨rfl, rfl, rfl⟩

lemma calling_cases (cfg : Config) (call : StoreCall) (gate : Bool) (i : Nat) (e : Outcome)
    (s : Service) :
    ((effect cfg (.calling call gate) i e s).draws = s.draws + 1
        ∧ (effect cfg (.calling call gate) i e s).db = s.db
        ∧ (effect cfg (.calling call gate) i e s).log = s.log)
      ∨ (e.storeError = none ∧ Called cfg call i s (effect cfg (.calling call gate) i e s)) := by
  unfold effect
  dsimp only
  cases e.storeError with
  | some text => exact .inl ⟨rfl, rfl, rfl⟩
  | none => exact .inr ⟨rfl, rfl, rfl, rfl⟩

/-- What a call of the store writes down. -/
inductive Writes (waiting : Bool) (db : EventDatabase) : StoreCall → Entry → Prop where
  | subscribed (row : StoredSubscription) (h : (db.upsertSubscription row).1 = .ok ()) :
      Writes waiting db (.upsertSubscription row) (.subscribed row)
  | queued (occurrence : StoredOccurrence) (payload : List UInt8) (eventType : String)
      (rowIds : Nat → String) (now : Int) (n : Nat) (sub : StoredSubscription) :
      Writes waiting db (.publish occurrence payload eventType rowIds now)
        (.queued (rowIds n) sub.id)
  | answered (occurrence : StoredOccurrence) (payload : List UInt8) (eventType : String)
      (rowIds : Nat → String) (now : Int)
      (h : (db.publish occurrence payload eventType rowIds now).1 = .ok ()) :
      Writes waiting db (.publish occurrence payload eventType rowIds now)
        (.answered occurrence.eventId eventType now)
  | claimed (ownerId fingerprint : String) (now leaseUntil : Int) (token : String)
      (kind : Option String) (id : String) (attempt : Nat) :
      Writes waiting db (.claimOutbox ownerId fingerprint now leaseUntil token kind)
        (.claimed id token attempt)
  | exhausted (id token : String) (status : Option Nat) (category : DeliveryErrorCategory)
      (nextAt time : Int) (maxAttempts : Nat) :
      Writes waiting db (.completeDelivery id token (.retry status category nextAt time) maxAttempts)
        (.exhausted id)
  | cancelled (call : StoreCall) (id : String) (now : Int) (h : call.Cancels db id now)
      (hwaiting : waiting = true) : Writes waiting db call (.cancelled id now)

variable {db : EventDatabase} {now : Int} {waiting : Bool} {x : Entry} {id : String}

/-- **THE ENTRIES OF A CALL**. -/
lemma writes_of_mem (h : x ∈ call.entries waiting db) : Writes waiting db call x := by
  cases call with
  | upsertSubscription row =>
    rw [entries] at h
    split at h
    · next hok =>
        cases mem_singleton.mp h
        exact .subscribed row hok
    · cases h
  | publish occurrence payload eventType rowIds now =>
    rw [entries] at h
    split at h
    · next hok =>
        rcases mem_append.mp h with h | h
        · obtain ⟨row, hrow, rfl⟩ := mem_map.mp h
          rcases EventDatabase.publish_cases db occurrence payload eventType rowIds now with
            ⟨text, hsame⟩ | ⟨hsame, -⟩ | ⟨db', hdb', hpub⟩
          · rw [hsame, drop_length] at hrow
            cases hrow
          · rw [hsame, drop_length] at hrow
            cases hrow
          · rw [hdb', hpub.outbox, drop_left] at hrow
            obtain ⟨n, sub, -, -, rfl⟩ := EventDatabase.mem_queuedRows hrow
            exact .queued occurrence payload eventType rowIds now n sub
        · cases mem_singleton.mp h
          exact .answered occurrence payload eventType rowIds now hok
    · cases h
  | claimOutbox ownerId fingerprint now leaseUntil token kind =>
    rw [entries] at h
    split at h
    · cases mem_singleton.mp h
      exact .claimed ..
    · cases h
  | completeDelivery id token result maxAttempts =>
    cases result with
    | delivered | deadLetter => cases h
    | retry status category nextAt time =>
      rw [entries] at h
      split at h
      · cases mem_singleton.mp h
        exact .exhausted ..
      · cases h
  | cancelSubscription id ownerId now =>
    rw [entries] at h
    split at h
    · next hwaiting =>
        cases mem_singleton.mp h
        exact .cancelled _ id now ⟨rfl, rfl⟩ hwaiting
    · cases h
  | cancelSubscriptionsBySourceKind kind now =>
    rw [entries] at h
    split at h
    · next hwaiting =>
        obtain ⟨id, hid, rfl⟩ := mem_map.mp h
        obtain ⟨row, hrow, rfl⟩ := mem_map.mp hid
        obtain ⟨hrow, hkind⟩ := mem_filter.mp hrow
        exact .cancelled _ _ now ⟨rfl, row, hrow, by simpa using hkind, rfl⟩ hwaiting
    · cases h
  | getSubscription | deactivateSubscription | revokeCredentialsExcept | cleanup => cases h

/-- The cancellations a call writes down are its own, and their caller waits. -/
lemma cancels_of_mem (h : .cancelled id now ∈ call.entries waiting db) :
    call.Cancels db id now ∧ waiting = true := by
  cases writes_of_mem h with
  | cancelled _ _ _ hcancels hwaiting => exact ⟨hcancels, hwaiting⟩

lemma entries_upsertSubscription {row : StoredSubscription}
    (h : (db.upsertSubscription row).1 = .ok ()) (waiting : Bool) :
    (upsertSubscription row).entries waiting db = [.subscribed row] := by
  rw [entries, h]

lemma cancels_draw {crates : Crates} {n : Nat} :
    (call.draw crates n).Cancels db id now ↔ call.Cancels db id now := by
  cases call <;> exact Iff.rfl

lemma claim_reply {ownerId fingerprint token : String} {leaseUntil : Int}
    {kind : Option String} {reply : StoreReply} {item : StoredOutbox} (waiting : Bool)
    (hreply : ((claimOutbox ownerId fingerprint now leaseUntil token kind).apply db).1
      = .ok reply) (hitem : claimedItem reply = some item) :
    (claimOutbox ownerId fingerprint now leaseUntil token kind).entries waiting db
        = [.claimed item.id token item.attempts]
      ∧ ∃ row, EventDatabase.Claims db ownerId fingerprint now token kind row item := by
  cases hreply
  rw [entries]
  rcases EventDatabase.claimOutbox_cases db ownerId fingerprint now leaseUntil token kind with
    hnone | ⟨row, found, hclaims, hsome⟩
  · rw [hnone] at hitem
    cases hitem
  · rw [hsome] at hitem ⊢
    cases hitem
    exact ⟨rfl, row, hclaims⟩

variable {tag : Tag}

lemma effect_db (cfg : Config) (h : ∀ call gate, tag ≠ .calling call gate) (i : Nat)
    (e : Outcome) (s : Service) :
    (effect cfg tag i e s).db = s.db ∧ (effect cfg tag i e s).draws = s.draws := by
  cases tag with
  | calling call gate => exact absurd rfl (h call gate)
  | looking | post | challenge =>
    unfold effect
    dsimp only
    split <;> exact ⟨rfl, rfl⟩
  | _ => exact ⟨rfl, rfl⟩

/-- An entry that only calls of the store write down. -/
def Entry.stored : Entry → Prop
  | .subscribed _ | .cancelled .. | .queued .. | .claimed .. | .exhausted _ => True
  | _ => False

lemma not_stored (h : ∀ call gate, tag ≠ .calling call gate) {i : Nat}
    {s : Service} (hx : x ∈ tag.entries cfg i e s) : ¬ x.stored := by
  cases tag with
  | calling call gate => exact absurd rfl (h call gate)
  | mapping | envMapping =>
    cases mem_singleton.mp hx
    exact id
  | looking eventId eventType now =>
    unfold Tag.entries at hx
    dsimp only at hx
    split at hx
    · cases hx
    · cases mem_singleton.mp hx
      exact id
  | post item =>
    unfold Tag.entries at hx
    dsimp only at hx
    split at hx <;> obtain rfl := mem_singleton.mp hx <;> exact id
  | _ => cases hx

/-- **ONE STEP**: a call of the store that is not rolled back, or the store stays. -/
lemma effect_cases (cfg : Config) (tag : Tag) (i : Nat) (e : Outcome) (s : Service) :
    ((effect cfg tag i e s).db = s.db ∧ s.draws ≤ (effect cfg tag i e s).draws
        ∧ ∀ x ∈ tag.entries cfg i e s, ¬ x.stored)
      ∨ ∃ call gate, tag = .calling call gate ∧ e.storeError = none
          ∧ Called cfg call i s (effect cfg tag i e s) := by
  cases tag with
  | calling call gate =>
    cases herror : e.storeError with
    | none => exact .inr ⟨call, gate, rfl, rfl, called_of_storeError herror⟩
    | some text =>
      refine .inl ?_
      unfold effect Tag.entries
      rw [herror]
      exact ⟨rfl, Nat.le_succ _, by simp⟩
  | _ =>
    exact .inl ⟨(effect_db cfg (by simp) i e s).1, (effect_db cfg (by simp) i e s).2.ge,
      fun _ => not_stored (by simp)⟩

/-- The locks and the clock under the step of another handler. -/
structure OtherLocks (j : Nat) (s s' : Service) : Prop where
  clock : s'.clock = s.clock
  reader : j ∈ s.readers → j ∈ s'.readers
  writer : s.writer = some j → s'.writer = some j
  subscriptionsLock : s'.subscriptionsLock = some j ↔ s.subscriptionsLock = some j

lemma OtherLocks.refl (j : Nat) (s : Service) : OtherLocks j s s :=
  ⟨rfl, fun h => h, fun h => h, Iff.rfl⟩

variable {j : Nat}

lemma filter_eq_some_of_ne {lock : Option Nat} {i : Nat} (hj : j ≠ i) :
    lock.filter (· ≠ i) = some j ↔ lock = some j := by
  rw [Option.filter_eq_some_iff]
  exact ⟨fun h => h.1, fun h => ⟨h, by simpa using hj⟩⟩

lemma OtherLocks.release {i : Nat} (hj : j ≠ i) (s : Service) : OtherLocks j s (s.release i) where
  clock := rfl
  reader h := mem_filter.mpr ⟨h, by simpa using hj⟩
  writer h := (filter_eq_some_of_ne hj).mpr h
  subscriptionsLock := filter_eq_some_of_ne hj

lemma effect_otherLocks (cfg : Config) {i : Nat} {s : Service} (hj : j ≠ i)
    (hready : tag.ready s = true) (e : Outcome) : OtherLocks j s (effect cfg tag i e s) := by
  cases tag with
  | lifecycleRead => exact ⟨rfl, fun h => mem_append_left _ h, fun h => h, Iff.rfl⟩
  | lifecycleWrite =>
    refine ⟨rfl, fun h => h, fun h => ?_, Iff.rfl⟩
    rw [Tag.ready, h] at hready
    cases hready
  | lockSubscriptions =>
    refine ⟨rfl, fun h => h, fun h => h, ?_⟩
    have hnone : s.subscriptionsLock = none := Option.isNone_iff_eq_none.mp hready
    rw [hnone]
    exact ⟨fun h => absurd (Option.some.inj h).symm hj, nofun⟩
  | returning => exact .release hj s
  | calling call gate =>
    have hreaders : j ∈ s.readers → j ∈ if gate then s.readers.filter (· ≠ i)
        else s.readers := by
      intro h
      split
      · exact mem_filter.mpr ⟨h, by simpa using hj⟩
      · exact h
    unfold effect
    dsimp only
    cases e.storeError <;> exact ⟨rfl, hreaders, fun h => h, Iff.rfl⟩
  | looking | post | challenge =>
    unfold effect
    dsimp only
    split <;> exact ⟨rfl, fun h => h, fun h => h, Iff.rfl⟩
  | _ => exact ⟨rfl, fun h => h, fun h => h, Iff.rfl⟩

lemma timestamp_mono {s s' : Service} (h : s.clock ≤ s'.clock) : s.timestamp ≤ s'.timestamp :=
  Int.ediv_le_ediv (by decide) h

lemma clock_le_wait (s : Service) (millis : Nat) : s.clock ≤ s.clock + (millis : Int) := by omega

lemma clock_effect (cfg : Config) (tag : Tag) (i : Nat) (e : Outcome) (s : Service) :
    (effect cfg tag i e s).clock = s.clock := by
  cases tag with
  | calling | looking | post | challenge =>
    unfold effect
    dsimp only
    split <;> rfl
  | _ => rfl

variable (i : Nat) {sub : StoredSubscription}

lemma dropHandler_same (tag : Tag) (s : Service) :
    (dropHandler i tag s).db = s.db ∧ (dropHandler i tag s).draws = s.draws
      ∧ (dropHandler i tag s).log = s.log := by
  unfold dropHandler
  split <;> exact ⟨rfl, rfl, rfl⟩

lemma dropHandler_otherLocks {i : Nat} (hj : j ≠ i) (tag : Tag) (s : Service) :
    OtherLocks j s (dropHandler i tag s) := by
  have hrelease := OtherLocks.release hj s
  unfold dropHandler
  split
  · exact ⟨rfl, fun h => h, hrelease.writer, hrelease.subscriptionsLock⟩
  · exact hrelease

lemma dropHandler_unlocked (tag : Tag) (s : Service) :
    (dropHandler i tag s).subscriptionsLock ≠ some i := by
  have hfilter : s.subscriptionsLock.filter (· ≠ i) ≠ some i := by
    rw [Ne, Option.filter_eq_some_iff]
    simp
  unfold dropHandler
  split <;> exact hfilter

lemma release_unlocked (s : Service) : (s.release i).subscriptionsLock ≠ some i :=
  dropHandler_unlocked i .look s

/-- Nobody gets the lock of the map by a step of another handler, or in the work it left
behind. -/
lemma effect_unlocked (cfg : Config) {i : Nat} {s : Service} (hready : tag.ready s = true)
    (e : Outcome) (hj : j ≠ i ∨ tag.blocking = true) (h : s.subscriptionsLock ≠ some j) :
    (effect cfg tag i e s).subscriptionsLock ≠ some j := by
  rcases hj with hj | hblocking
  · exact fun hlock => h ((effect_otherLocks cfg hj hready e).subscriptionsLock.mp hlock)
  · cases tag with
    | reading => exact h
    | calling call gate =>
      unfold effect
      dsimp only
      cases e.storeError <;> exact h
    | _ => cases hblocking

/-- Nor when another handler is dropped, or by what happens around the handlers. -/
lemma dropHandler_away (tag : Tag) (s : Service) :
    (dropHandler i tag s).subscriptionsLock ≠ some i ∧ ∀ j, j ≠ i → s.subscriptionsLock ≠ some j →
        (dropHandler i tag s).subscriptionsLock ≠ some j :=
  ⟨dropHandler_unlocked i tag s, fun _ hj h hlock =>
    h ((dropHandler_otherLocks hj tag s).subscriptionsLock.mp hlock)⟩

lemma happen_unlocked (cfg : Config) (x : Happening) (s : Service) (j : Nat)
    (h : x.restarts = true ∨ s.subscriptionsLock ≠ some j) :
    (happen cfg x s).subscriptionsLock ≠ some j := by
  cases x with
  | wait millis =>
    rcases h with h | h
    · cases h
    · exact h
  | restart fingerprint => exact nofun

/-- A text among the uuids of the calls so far. -/
def Drawn (cfg : Config) (s : Service) (text : String) : Prop :=
  ∃ n k, n < s.draws ∧ text = cfg.crates.uuid n k

lemma Drawn.mono {s s' : Service} {text : String} (h : Drawn cfg s text)
    (hdraws : s.draws ≤ s'.draws) : Drawn cfg s' text := by
  obtain ⟨n, k, hn, htext⟩ := h
  exact ⟨n, k, by omega, htext⟩

lemma not_drawn {s : Service} {k : Nat} : ¬ Drawn cfg s (cfg.crates.uuid s.draws k) := by
  rintro ⟨n, k', hn, h⟩
  have := (cfg.crates.uuid_injective h).1
  omega

lemma rowIds_of_draw {call : StoreCall} {n : Nat} {occurrence : StoredOccurrence}
    {payload : List UInt8} {eventType : String} {rowIds : Nat → String} {now : Int}
    (h : call.draw cfg.crates n = .publish occurrence payload eventType rowIds now) (k : Nat) :
    rowIds k = cfg.crates.uuid n (k + 1) := by
  cases call with
  | publish =>
    injection h with _ _ _ hids
    rw [← hids]
  | _ => cases h

/-! ## Handlers by their tags -/

section Follows

variable {P : Tag → Prop}

/-- Every step of a tree has a tag of the class and does what the tag says. -/
def Follows (cfg : Config) (P : Tag → Prop) : Async Service Outcome Tag α → Prop
  | .pure _ => True
  | .step tag act next => P tag ∧ act = effect cfg tag ∧ ∀ i e s, Follows cfg P (next i e s)

variable {p : Async Service Outcome Tag α} {f : α → Async Service Outcome Tag β}

lemma Follows.mono {P' : Tag → Prop} (h : ∀ tag, P tag → P' tag) (hp : Follows cfg P p) :
    Follows cfg P' p := by
  induction p with
  | pure a => exact trivial
  | step tag act next ih =>
    obtain ⟨htag, hact, hnext⟩ := hp
    exact ⟨h tag htag, hact, fun i e s => ih i e s (hnext i e s)⟩

lemma follows_async (hp : Follows cfg P p)
    (hf : ∀ a, Follows cfg P (f a)) : Follows cfg P (p.bind f) := by
  induction p with
  | pure a => exact hf a
  | step tag act next ih =>
    obtain ⟨htag, hact, hnext⟩ := hp
    exact ⟨htag, hact, fun i e s => ih i e s (hnext i e s)⟩

lemma follows_bind {p : Handler α} {f : α → Handler β} (hp : Follows cfg P p)
    (hf : ∀ a, Follows cfg P (f a)) : Follows cfg P (p >>= f : Handler β) := by
  refine follows_async hp fun result => ?_
  cases result with
  | ok a => exact hf a
  | error text => exact trivial

lemma follows_mapErr {p : Handler α} {f : String → String} (hp : Follows cfg P p) :
    Follows cfg P (p.mapErr f) := by
  refine follows_async hp fun result => ?_
  cases result <;> exact trivial

lemma follows_take {tag : Tag} {value : Outcome → Service → Except String α} (h : P tag) :
    Follows cfg P (take cfg tag value) :=
  ⟨h, rfl, fun _ _ _ => trivial⟩

lemma follows_ofExcept {result : Except String α} : Follows cfg P (ofExcept result) := trivial

lemma follows_storeCall {call : StoreCall} {gate : Bool}
    (hcall : P (.calling call gate)) (hresumed : P (.resumed call)) :
    Follows cfg P (storeCall cfg call gate) :=
  follows_bind (follows_take hcall) fun _ =>
    follows_bind (follows_take hresumed) fun _ => trivial

lemma follows_storeCallNow {job : Int → StoreCall} (hreading : P .reading)
    (hcall : ∀ now, P (.calling (job now) false)) (hresumed : ∀ now, P (.resumed (job now))) :
    Follows cfg P (storeCallNow cfg job) :=
  follows_bind (follows_take hreading) fun now => follows_storeCall (hcall now) (hresumed now)

lemma follows_serve {p : Handler α} (hp : Follows cfg P p) (hreturning : P .returning) :
    Follows cfg P (p.serve cfg) :=
  follows_async hp fun _ => ⟨hreturning, rfl, fun _ _ _ => trivial⟩

variable {K : Service → Prop} (D : Discipline (eventServer cfg))

lemma Follows.of_bind (h : Follows cfg P (p.bind f)) : Follows cfg P p := by
  induction p with
  | pure a => exact trivial
  | step tag act next ih => exact ⟨h.1, h.2.1, fun i e s => ih i e s (h.2.2 i e s)⟩

section

variable {i : Nat} (hrely : ∀ tag s s', P tag → K s → D.rely i tag s s' → K s')
  (h : ∀ tag s, P tag → D.inv s → K s → D.pre i tag s ∧ (tag.ready s = true → ∀ e,
    D.ok i tag e s → D.Keeps i tag s (effect cfg tag i e s) ∧ K (effect cfg tag i e s)))
  {s : Service}

include hrely h

/-- Steps that keep a discipline where `K` is known, and keep `K`, make a safe handler. -/
lemma safe_of_follows (hp : Follows cfg P p) (hs : K s) : D.Safe i p (fun _ s => K s) s := by
  induction p generalizing s with
  | pure a => exact hs
  | step tag act next ih =>
    obtain ⟨htag, hact, hnext⟩ := hp
    intro s' hs' hinv
    obtain ⟨hpre, hkeeps⟩ := h tag s' htag hinv (hrely tag s s' htag hs hs')
    refine ⟨hpre, fun hready e hok => ?_⟩
    rw [hact]
    obtain ⟨hstep, hK⟩ := hkeeps hready e hok
    exact ⟨hstep, ih i e s' (hnext i e s') hK⟩

lemma safe_served (haway : ∀ s : Service, D.away i (s.release i)) {p : Handler α}
    (hp : Follows cfg P (p.serve cfg)) (hreturning : P .returning) (hs : K s) :
    D.Safe i (p.serve cfg) (fun _ => D.away i) s := by
  refine D.rules.safe_bind (D.rules.safe_mono ?_ (safe_of_follows D hrely h hp.of_bind hs))
  intro result s hK s' hs' hinv
  obtain ⟨hpre, hkeeps⟩ := h .returning s' hreturning hinv (hrely _ s s' hreturning hK hs')
  exact ⟨hpre, fun hready e hok => ⟨(hkeeps hready e hok).1, haway s'⟩⟩

lemma runs_then {p : Handler α} {f : α → Handler β} {Q : β → Service → Prop} {R : Service → Prop}
    (hp : Follows cfg P p) (hs : K s) (hf : ∀ a s, K s → Runs D i (f a) Q R s)
    (hR : ∀ s, K s → R s) : Runs D i (p >>= f) Q R s := by
  refine runs_bind D (D.rules.safe_mono ?_ (safe_of_follows D hrely h hp hs))
  intro result s hK
  cases result with
  | ok a => exact hf a s hK
  | error text => exact hR s hK

end

section

variable {i : Nat} (h : ∀ tag s, P tag → tag.blocking = true → D.inv s → D.away i s →
  ∀ e, D.ok i tag e s → D.Keeps i tag s (effect cfg tag i e s))

include h

lemma loose_of_follows (hp : Follows cfg P p) (s : Service) :
    D.Loose i ((eventServer cfg).detach p) s := by
  induction p generalizing s with
  | pure a => exact trivial
  | step tag act next ih =>
    obtain ⟨htag, hact, hnext⟩ := hp
    unfold Server.detach
    split
    · next hblocking =>
        refine ⟨hblocking, fun s' _ hinv haway e hok => ?_⟩
        rw [hact]
        exact ⟨h tag s' htag hblocking hinv haway e hok, ih i e s' (hnext i e s') _⟩
    · exact trivial

/-- **DROPPED ANYWHERE**: the work a dropped handler leaves behind, if all it needs to know
is that the handler does not run. -/
lemma detachable_of_follows (hp : Follows cfg P p) (s : Service) : D.Detachable i p s := by
  induction p generalizing s with
  | pure a => exact trivial
  | step tag act next ih =>
    intro s' _ _
    refine ⟨fun _ => loose_of_follows D h hp _, fun _ e _ => ?_⟩
    exact ih i e s' (hp.2.2 i e s') _

end

end Follows

/-! ## Identifiers -/

lemma hexEncode_not_mem (bytes : List UInt8) : 'n' ∉ (hexEncode bytes).toList := by
  unfold hexEncode
  rw [String.toList_ofList]
  intro hmem
  obtain ⟨byte, -, hmem⟩ := mem_flatMap.mp hmem
  obtain ⟨digit, hdigit, heq⟩ := mem_map.mp hmem
  have hlt : digit < 16 := by
    have := byte.toNat_lt
    simp only [mem_cons, not_mem_nil, or_false] at hdigit
    omega
  have hall : ∀ d < 16, Nat.digitChar d ≠ 'n' := by decide
  exact hall digit hlt heq

lemma subscriptionId_ne (cfg : Config) (url : String) :
    subscriptionId cfg url ≠ envWebhookSubscriptionId cfg := by
  intro h
  have hstring : "sub_" ++ hexEncode (cfg.crates.subscriptionDigest cfg.ownerId url)
      = "sub_env_" ++ hexEncode (cfg.crates.envDigest envWebhookSourceKind cfg.ownerId) := h
  have hlist := congrArg String.toList hstring
  rw [String.toList_append, String.toList_append] at hlist
  have hboth : "sub_".toList ++ (hexEncode (cfg.crates.subscriptionDigest cfg.ownerId url)).toList
      = "sub_".toList ++ ("env_".toList
        ++ (hexEncode (cfg.crates.envDigest envWebhookSourceKind cfg.ownerId)).toList) := hlist
  have hrest := append_cancel_left hboth
  refine hexEncode_not_mem (cfg.crates.subscriptionDigest cfg.ownerId url) ?_
  rw [hrest]
  exact mem_append_left _ (by decide)

/-! ## Calls -/

/-- What the map holds of the environment webhook, whatever its URL and secret. -/
def envDiagnostic (cfg : Config) : SubscriptionDiagnostic where
  id := envWebhookSubscriptionId cfg
  eventType := "*"
  targetAgentId := cfg.ownerId
  expiresAt := none

/-- The subscriptions the service writes. -/
def Known (cfg : Config) (sub : StoredSubscription) : Prop :=
  sub.ownerId = cfg.ownerId ∧ sub.eventType = "*"
    ∧ ((sub.sourceKind = mcpSourceKind ∧ ∃ url, sub.id = subscriptionId cfg url)
      ∨ (sub.sourceKind = envWebhookSourceKind ∧ sub.diagnostic = envDiagnostic cfg))

lemma known_subscriptionRow (cfg : Config) (token url secret : String)
    (rotation : Option String × Option Int) (expiresAt : Option Int) :
    Known cfg (subscriptionRow cfg token url secret rotation expiresAt) :=
  ⟨rfl, rfl, .inl ⟨rfl, url, rfl⟩⟩

lemma known_envWebhookRow (cfg : Config) (token url secret : String)
    (rotation : Option String × Option Int) : Known cfg (envWebhookRow cfg token url secret rotation) :=
  ⟨rfl, rfl, .inr ⟨rfl, rfl⟩⟩

lemma Known.env {cfg : Config} (h : Known cfg sub)
    (hid : sub.id = envWebhookSubscriptionId cfg) : sub.diagnostic = envDiagnostic cfg := by
  rcases h.2.2 with ⟨-, url, hurl⟩ | ⟨-, henv⟩
  · exact absurd (hurl.symm.trans hid) (subscriptionId_ne cfg url)
  · exact henv

/-- The calls the service makes. -/
def Proper (cfg : Config) : StoreCall → Prop
  | .upsertSubscription row => Known cfg row
  | .publish occurrence .. => occurrence.ownerId = cfg.ownerId
  | .cancelSubscription id ownerId _ => ownerId = cfg.ownerId ∧ ∃ url, id = subscriptionId cfg url
  | .cancelSubscriptionsBySourceKind kind _ => kind = mcpSourceKind
  | _ => True

lemma Known.of_survives
    (h : ∀ sub ∈ db.subscriptions.rows, Known cfg sub) (hsub : Survives db sub) :
    Known cfg sub := by
  obtain ⟨old, hold, hsame⟩ := hsub
  rcases hsame with rfl | rfl
  · exact h sub hold
  · exact h old hold

/-- The service makes the call of a step. -/
def ProperTag (cfg : Config) (tag : Tag) : Prop :=
  ∀ call gate, tag = .calling call gate → Proper cfg call

/-! ## The handlers -/

/-- The calls of `subscribe` and `apply_env_webhook`. -/
def Subscribes : StoreCall → Prop
  | .upsertSubscription _ | .getSubscription _ | .deactivateSubscription .. | .cleanup _ => True
  | _ => False

/-- The call of `publish`. -/
def Announces : StoreCall → Prop
  | .publish .. => True
  | _ => False

/-- The calls of `unsubscribe` and `revoke_mcp_subscriptions`. -/
def Unsubscribes : StoreCall → Prop
  | .cancelSubscription .. | .cancelSubscriptionsBySourceKind .. => True
  | _ => False

/-- The calls of `delivery_tick`. -/
def Delivers : StoreCall → Prop
  | .cleanup _ | .claimOutbox .. | .completeDelivery .. => True
  | _ => False

/-- The steps of a handler that makes these calls; the one that posts leaves the map alone. -/
def Takes (cfg : Config) (calls : StoreCall → Prop) (posts : Prop) : Tag → Prop
  | .calling call _ => Proper cfg call ∧ calls call
  | .resumed call => calls call
  | .post _ => posts
  | .looking .. | .mapping .. | .unmapping _ | .envMapping _ | .envUnmapping _ => ¬ posts
  | _ => True

variable {calls : StoreCall → Prop} {posts : Prop}

lemma Takes.proper (h : Takes cfg calls posts tag) : ProperTag cfg tag := by
  rintro call gate rfl
  exact h.1

lemma follows_call (hproper : Proper cfg call) (hcall : calls call) :
    Follows cfg (Takes cfg calls posts) (storeCall cfg call gate) :=
  follows_storeCall ⟨hproper, hcall⟩ hcall

lemma follows_verifySubscription {P : Tag → Prop} {url : String} (hlook : P .look)
    (hcheck : ∀ now, P (.checkVerified url now)) (hchallenge : P (.challenge url)) :
    Follows cfg P (verifySubscription cfg url) := by
  refine follows_bind (follows_take hlook) fun now => ?_
  refine follows_bind (follows_take (hcheck now)) fun known => ?_
  cases known with
  | true => exact trivial
  | false => exact follows_take hchallenge

lemma follows_replaceSubscription (url secret : String) (ttl : Option Int) :
    Follows cfg (Takes cfg Subscribes False) (replaceSubscription cfg url secret ttl) := by
  refine follows_bind (follows_take trivial) fun _ => ?_
  refine follows_bind (follows_take trivial) fun now => ?_
  refine follows_bind (follows_mapErr ?_) fun previous => ?_
  · refine follows_bind (follows_take ⟨trivial, trivial⟩) fun _ => ?_
    refine follows_bind (follows_call trivial trivial) fun reply => ?_
    exact follows_bind (follows_take trivial) fun _ => trivial
  refine follows_bind (follows_take trivial) fun millis => ?_
  refine follows_bind (follows_take trivial) fun token => ?_
  refine follows_bind (follows_mapErr (follows_call (known_subscriptionRow ..) trivial)) fun _ => ?_
  exact follows_bind (follows_take id) fun _ => trivial

lemma follows_subscribe (params : WattJson.JsonValue) (url : String) :
    Follows cfg (Takes cfg Subscribes False) (handlerOf cfg (.subscribe params url)) := by
  refine follows_serve (follows_bind (follows_take trivial) fun _ => ?_) trivial
  refine follows_bind follows_ofExcept fun secret => ?_
  by_cases hsecret : (!cfg.crates.validateSecret secret) = true
  · rw [if_pos hsecret]
    exact trivial
  rw [if_neg hsecret]
  refine follows_bind follows_ofExcept fun ttl => ?_
  by_cases hcursor : ((params.get "cursor").any fun value => decide (value ≠ .null)) = true
  · rw [if_pos hcursor]
    exact trivial
  rw [if_neg hcursor]
  exact follows_bind (follows_verifySubscription trivial (fun _ => trivial) trivial) fun _ =>
    follows_replaceSubscription url secret ttl

lemma follows_applyEnvWebhook (config : Option EnvWebhookConfig) :
    Follows cfg (Takes cfg Subscribes False) (handlerOf cfg (.applyEnvWebhook config)) := by
  refine follows_serve ?_ trivial
  cases config with
  | none =>
    refine follows_bind (follows_call trivial trivial) fun _ => ?_
    refine follows_bind (follows_take id) fun _ => ?_
    exact follows_take trivial
  | some config =>
    refine follows_bind (follows_take trivial) fun now => ?_
    refine follows_bind (follows_call trivial trivial) fun reply => ?_
    refine follows_bind (follows_take trivial) fun _ => ?_
    refine follows_bind (follows_take trivial) fun generated => ?_
    dsimp only
    split
    · exact trivial
    · refine follows_bind (follows_take trivial) fun token => ?_
      refine follows_bind (follows_call (known_envWebhookRow ..) trivial) fun _ => ?_
      refine follows_bind (follows_take id) fun _ => ?_
      exact follows_take trivial

lemma follows_publish (event : EventRequest) :
    Follows cfg (Takes cfg Announces False) (handlerOf cfg (.publish event)) := by
  refine follows_serve (follows_bind (follows_take trivial) fun now => ?_) trivial
  refine follows_bind (follows_take id) fun listening => ?_
  cases listening with
  | false => exact trivial
  | true =>
    refine follows_bind follows_ofExcept fun projected => ?_
    refine follows_bind (follows_take trivial) fun time => ?_
    exact follows_bind (follows_storeCallNow trivial (fun _ => ⟨rfl, trivial⟩) fun _ => trivial)
      fun _ => trivial

lemma follows_unsubscribe (url : String) :
    Follows cfg (Takes cfg Unsubscribes False) (handlerOf cfg (.unsubscribe url)) := by
  refine follows_serve (follows_bind (follows_take trivial) fun _ => ?_) trivial
  refine follows_bind (follows_mapErr ?_) fun _ => follows_take id
  exact follows_storeCallNow trivial (fun _ => ⟨⟨rfl, url, rfl⟩, trivial⟩) fun _ => trivial

lemma follows_revoke :
    Follows cfg (Takes cfg Unsubscribes False) (handlerOf cfg .revokeMcpSubscriptions) := by
  refine follows_serve (follows_bind (follows_take trivial) fun _ => ?_) trivial
  refine follows_bind (follows_take trivial) fun _ => ?_
  refine follows_bind (follows_take trivial) fun _ => ?_
  refine follows_bind (follows_storeCallNow trivial (fun _ => ⟨rfl, trivial⟩)
    fun _ => trivial) fun reply => ?_
  refine follows_bind (follows_take id) fun _ => ?_
  exact follows_bind (follows_take trivial) fun _ => trivial

lemma follows_deliver (item : StoredOutbox) :
    Follows cfg (Takes cfg Delivers True) (deliver cfg item) := by
  refine follows_bind ?_ fun outcome => ?_
  · refine follows_bind (follows_take trivial) fun sent => ?_
    cases sent with
    | error failure => exact trivial
    | ok _ => exact follows_take trivial
  · refine follows_bind (follows_take trivial) fun completedAt => ?_
    exact follows_bind (follows_call trivial trivial) fun _ => trivial

lemma follows_deliveryTick (kind : Option String) :
    Follows cfg (Takes cfg Delivers True) (handlerOf cfg (.deliveryTick kind)) := by
  refine follows_serve (follows_bind ?_ fun _ => ?_) trivial
  · unfold subscriptionGuard
    split
    · exact trivial
    · exact follows_take trivial
  refine follows_bind (follows_take trivial) fun now => ?_
  refine follows_bind (follows_call trivial trivial) fun _ => ?_
  refine follows_bind (follows_take trivial) fun token => ?_
  refine follows_bind ?_ fun claimed => ?_
  · exact follows_bind (follows_storeCallNow trivial (fun _ => ⟨trivial, trivial⟩)
      fun _ => trivial) fun _ => trivial
  · cases claimed with
    | none => exact trivial
    | some item =>
      refine follows_bind (follows_take trivial) fun _ => ?_
      refine follows_bind (follows_take trivial) fun configured => ?_
      split
      · cases configured with
        | true => exact follows_deliver item
        | false => exact trivial
      · split
        · exact follows_deliver item
        · exact trivial

lemma follows_proper (request : Request) : Follows cfg (ProperTag cfg) (handlerOf cfg request) := by
  cases request with
  | subscribe params url => exact (follows_subscribe params url).mono fun _ => Takes.proper
  | unsubscribe url => exact (follows_unsubscribe url).mono fun _ => Takes.proper
  | revokeMcpSubscriptions => exact follows_revoke.mono fun _ => Takes.proper
  | applyEnvWebhook config => exact (follows_applyEnvWebhook config).mono fun _ => Takes.proper
  | publish event => exact (follows_publish event).mono fun _ => Takes.proper
  | deliveryTick kind => exact (follows_deliveryTick kind).mono fun _ => Takes.proper

/-! ## A small instance -/

def toyText (text : String) : List UInt8 := text.toList.map fun c => c.toNat.toUInt8

def toyUuid (n k : Nat) : String :=
  String.ofList (List.replicate n 'n' ++ 'k' :: List.replicate k 'k')

lemma toyUuid_injective {n k n' k' : Nat} (h : toyUuid n k = toyUuid n' k') : n = n' ∧ k = k' := by
  have hlist := String.ofList_injective h
  have hn := congrArg (List.count 'n') hlist
  have hk := congrArg (List.count 'k') hlist
  simp only [count_append, count_cons, count_replicate] at hn hk
  simp only [beq_self_eq_true, if_true, Char.reduceBEq, Bool.false_eq_true, if_false] at hn hk
  omega

def toyCrates : Crates where
  uuid := toyUuid
  uuid_injective := toyUuid_injective
  envDigest _ ownerId := toyText ownerId
  subscriptionDigest _ url := toyText url
  eventDigest _ sourceEventId _ := toyText sourceEventId
  validateSecret secret := "whsec_".toList.isPrefixOf secret.toList

def toyConfig : Config := ⟨toyCrates, "owner"⟩

/-- Everything answers, and the receiver with `status`. -/
def answering (status : Nat) : Outcome where
  storeError := none
  opened := .ok ()
  challenge := .ok ()
  request := .ok ()
  reply := .ok status
  generatedSecret := "whsec_generated"

/-- Handler `i` takes `n` steps. -/
def steps (i n : Nat) : Schedule := List.replicate n (.exec i (answering 200))

def toyParams : WattJson.JsonValue :=
  .object [("delivery", .object [("secret", .string "whsec_1")])]

def toyEvent (id : String) : EventRequest := ⟨"swarm", id, "dm", .ok ("wattetheria.agent.dm", [])⟩

abbrev toyStart : WattThreads.Pool Service (Task Service Outcome Tag) := .idle (.fresh 100000 "token")

end WattWebhooks
