import Wattetheria.EventHandlerProofs

/-!
# How often a delivery is attempted

An attempt is counted when a worker claims the row, and the limit is tested when the
attempt is completed.  `Counted` holds in every run: the column `attempts` is the number
of claims, and a row that ran out of attempts is not claimed again.  `Tried` adds what
holds as long as no claim takes a row over from its worker: each attempt but the last was
tried, by a POST or by a failure that counts as one.
-/

namespace WattAttempts

open WattText WattRows WattRuns WattThreads WattAsync WattTasks WattWebhooks Handler EventDatabase
open List

variable {cfg : Config} {r : String} {counts : WebhookFailure → Bool} {s s' : Service}
  {entries : List Entry}

/-! ## Counting -/

/-- The entry is a claim of the row. -/
def claims (r : String) : Entry → Bool
  | .claimed id _ _ => id == r
  | _ => false

/-- The attempt on the row that was tried: its POST went out, or failed on the way in a manner
that counts. -/
def tried (counts : WebhookFailure → Bool) (r : String) : Entry → Option Nat
  | .posted id _ attempt => if id = r then some attempt else none
  | .unsent id attempt failure => if id = r ∧ counts failure = true then some attempt else none
  | _ => none

/-- How often the row was claimed. -/
def claimsOf (r : String) (log : List Entry) : Nat := log.countP (claims r)

/-- The attempts on the row that were tried. -/
def triesOf (counts : WebhookFailure → Bool) (r : String) (log : List Entry) : List Nat :=
  log.filterMap (tried counts r)

lemma claimsOf_append (r : String) (log entries : List Entry) :
    claimsOf r (log ++ entries) = claimsOf r log + claimsOf r entries := countP_append ..

lemma triesOf_append (r : String) (log entries : List Entry) :
    triesOf counts r (log ++ entries) = triesOf counts r log ++ triesOf counts r entries :=
  filterMap_append

lemma le_length_triesOf {log : List Entry} {n : Nat}
    (h : ∀ j, 1 ≤ j → j ≤ n → j ∈ triesOf counts r log) : n ≤ (triesOf counts r log).length := by
  have hsub : List.range' 1 n ⊆ triesOf counts r log := by
    intro j hj
    obtain ⟨h1, h2⟩ := mem_range'_1.mp hj
    exact h j h1 (by omega)
  have hle := (subperm_of_subset (nodup_range' ..) hsub).length_le
  simpa using hle

/-- Entries that neither claim the row nor end it. -/
def Calm (r : String) (entries : List Entry) : Prop :=
  ∀ x ∈ entries, claims r x = false ∧ x ≠ .exhausted r

lemma Calm.claimsOf (h : Calm r entries) : claimsOf r entries = 0 := by
  refine countP_eq_zero.mpr fun x hx => ?_
  rw [(h x hx).1]
  exact Bool.false_ne_true

/-! ## Invariants -/

/-- What holds in every run. -/
structure Counted (cfg : Config) (r : String) (s : Service) : Prop where
  attempts : ∀ row ∈ s.db.outbox.rows, row.id = r → claimsOf r s.log = row.attempts ∧ Drawn cfg s r
  drawn : ∀ token k, .claimed r token k ∈ s.log → Drawn cfg s r ∧ Drawn cfg s token
  spent : .exhausted r ∈ s.log → Drawn cfg s r
    ∧ ∀ row ∈ s.db.outbox.rows, row.id = r → row.status.isTerminal = true
  history : EachAfter (fun before x =>
    (x = .exhausted r → maxDeliveryAttempts ≤ claimsOf r before)
      ∧ (claims r x = true → .exhausted r ∉ before)) s.log

/-- What an attempt leaves in the row, as long as leases are not taken over. -/
def Orderly (counts : WebhookFailure → Bool) (r : String) (log : List Entry) (row : OutboxRow) :
    Prop :=
  match row.status with
  | .pending => row.attempts = 0
  | .retry => row.attempts < maxDeliveryAttempts
      ∧ ∀ j, 1 ≤ j → j ≤ row.attempts → j ∈ triesOf counts r log
  | .leased => (∃ token, row.leaseToken = some token ∧ .claimed r token row.attempts ∈ log)
      ∧ ∀ j, 1 ≤ j → j < row.attempts → j ∈ triesOf counts r log
  | .delivered | .deadLetter => True

/-- What holds as long as leases of the row are not taken over. -/
structure Tried (counts : WebhookFailure → Bool) (r : String) (s : Service) : Prop where
  bound : claimsOf r s.log ≤ maxDeliveryAttempts
  rows : ∀ row ∈ s.db.outbox.rows, row.id = r → Orderly counts r s.log row
  tokens : ∀ token k k', .claimed r token k ∈ s.log → .claimed r token k' ∈ s.log → k = k'
  history : EachAfter (fun before x =>
    x = .exhausted r → ∀ j, 1 ≤ j → j ≤ maxDeliveryAttempts → j ∈ triesOf counts r before) s.log

/-- The invariant; `strict` when no lease of the row is taken over. -/
structure Inv (cfg : Config) (r : String) (counts : WebhookFailure → Bool) (strict : Prop)
    (s : Service) : Prop where
  counted : Counted cfg r s
  tried : strict → Tried counts r s

variable {strict : Prop} {row row' : OutboxRow}

lemma Orderly.mono {log log' : List Entry} (h : Orderly counts r log row) (hlog : log ⊆ log')
    (hstatus : row'.status = row.status) (hattempts : row'.attempts = row.attempts)
    (htoken : row'.leaseToken = row.leaseToken) : Orderly counts r log' row' := by
  have htries : triesOf counts r log ⊆ triesOf counts r log' := filterMap_subset _ hlog
  unfold Orderly at h ⊢
  rw [hstatus, hattempts, htoken]
  cases hrow : row.status with
  | pending =>
    rw [hrow] at h
    exact h
  | retry =>
    rw [hrow] at h
    exact ⟨h.1, fun j h1 hj => htries (h.2 j h1 hj)⟩
  | leased =>
    rw [hrow] at h
    obtain ⟨⟨token, htoken, hclaimed⟩, hj⟩ := h
    exact ⟨⟨token, htoken, hlog hclaimed⟩, fun j h1 hlt => htries (hj j h1 hlt)⟩
  | delivered => exact trivial
  | deadLetter => exact trivial

/-! ## Steps that do not touch the row -/

/-- A row that was there, or the row of a publication under a new uuid. -/
def Stays (cfg : Config) (s s' : Service) (row : OutboxRow) : Prop :=
  (∃ old ∈ s.db.outbox.rows, old.id = row.id ∧ row.status = old.status
      ∧ row.attempts = old.attempts ∧ row.leaseToken = old.leaseToken)
    ∨ (row.status = .pending ∧ row.attempts = 0 ∧ s.draws < s'.draws
      ∧ ∃ k, row.id = cfg.crates.uuid s.draws k)

/-- **FRAME**: steps that neither claim nor complete the row. -/
lemma Inv.frame (h : Inv cfg r counts strict s)
    (hlog : s'.log = s.log ++ entries) (hdraws : s.draws ≤ s'.draws) (hcalm : Calm r entries)
    (hrows : ∀ row ∈ s'.db.outbox.rows, row.id = r → Stays cfg s s' row) :
    Inv cfg r counts strict s' := by
  have hclaims : claimsOf r s'.log = claimsOf r s.log := by
    rw [hlog, claimsOf_append, hcalm.claimsOf, Nat.add_zero]
  have hclaimed : ∀ token k, .claimed r token k ∈ s'.log → .claimed r token k ∈ s.log := by
    intro token k hmem
    rw [hlog] at hmem
    rcases mem_append.mp hmem with hmem | hmem
    · exact hmem
    · exact absurd (hcalm _ hmem).1 (by simp [claims])
  have hexhausted : .exhausted r ∈ s'.log → .exhausted r ∈ s.log := by
    intro hmem
    rw [hlog] at hmem
    rcases mem_append.mp hmem with hmem | hmem
    · exact hmem
    · exact absurd rfl (hcalm _ hmem).2
  refine ⟨⟨?_, ?_, ?_, ?_⟩, fun hstrict => ⟨?_, ?_, ?_, ?_⟩⟩
  · intro row hrow hid
    rw [hclaims]
    rcases hrows row hrow hid with ⟨old, hold, hkey, -, hattempts, -⟩ | ⟨-, hzero, hnew, k, hk⟩
    · obtain ⟨hcount, hdrawn⟩ := h.counted.attempts old hold (hkey.trans hid)
      exact ⟨hcount.trans hattempts.symm, hdrawn.mono hdraws⟩
    · -- the uuid is new, so the row was never claimed
      have hr : r = cfg.crates.uuid s.draws k := hid ▸ hk
      refine ⟨?_, s.draws, k, hnew, hr⟩
      rw [hzero]
      refine countP_eq_zero.mpr fun x hx hx' => ?_
      cases x with
      | claimed id token attempt =>
        have hid' : id = r := beq_iff_eq.mp hx'
        exact not_drawn (hr ▸ (h.counted.drawn token attempt (hid' ▸ hx)).1)
      | _ => cases hx'
  · intro token k hmem
    obtain ⟨hrow, htoken⟩ := h.counted.drawn token k (hclaimed token k hmem)
    exact ⟨hrow.mono hdraws, htoken.mono hdraws⟩
  · intro hmem
    obtain ⟨hdrawn, hterminal⟩ := h.counted.spent (hexhausted hmem)
    refine ⟨hdrawn.mono hdraws, fun row hrow hid => ?_⟩
    rcases hrows row hrow hid with ⟨old, hold, hkey, hstatus, -⟩ | ⟨-, -, -, k, hk⟩
    · rw [hstatus]
      exact hterminal old hold (hkey.trans hid)
    · exact absurd ((hid.symm.trans hk) ▸ hdrawn) not_drawn
  · rw [hlog]
    refine h.counted.history.append_of_forall fun before x hx => ⟨fun heq => ?_, fun heq => ?_⟩
    · exact absurd heq (hcalm x hx).2
    · rw [(hcalm x hx).1] at heq
      cases heq
  · rw [hclaims]
    exact (h.tried hstrict).bound
  · intro row hrow hid
    rcases hrows row hrow hid with ⟨old, hold, hkey, hstatus, hattempts, htoken⟩ | ⟨hpending, hzero, -⟩
    · refine ((h.tried hstrict).rows old hold (hkey.trans hid)).mono ?_ hstatus hattempts htoken
      rw [hlog]
      exact subset_append_left ..
    · unfold Orderly
      rw [hpending]
      exact hzero
  · intro token k k' hk hk'
    exact (h.tried hstrict).tokens token k k' (hclaimed _ _ hk) (hclaimed _ _ hk')
  · rw [hlog]
    exact (h.tried hstrict).history.append_of_forall fun before x hx heq => absurd heq (hcalm x hx).2

lemma Inv.unmoved (h : Inv cfg r counts strict s) (hlog : s'.log = s.log ++ entries)
    (hdraws : s.draws ≤ s'.draws) (hcalm : Calm r entries) (hdb : s'.db = s.db) :
    Inv cfg r counts strict s' :=
  h.frame hlog hdraws hcalm fun row hrow _ => .inl ⟨row, hdb ▸ hrow, rfl, rfl, rfl, rfl⟩

/-! ## Claims and completions -/

/-- The step makes a claim that takes the row over from the worker that holds it, or is a POST
of the row that fails on the way, does not count and is retried. -/
def wastes (counts : WebhookFailure → Bool) (r : String) (db : EventDatabase) (e : Outcome) :
    Tag → Bool
  | .calling (.claimOutbox ownerId fingerprint now _ _ kind) _ =>
    e.storeError.isNone && (db.selectOutbox ownerId fingerprint kind now).any fun picked =>
      picked.1.id == r && picked.1.status == .leased
  | .post item =>
    item.id == r && match e.request with
      | .error failure => failure.retries && !counts failure
      | .ok () => false
  | _ => false

variable {token : String} {db : EventDatabase} {kind : Option String} {e : Outcome}

lemma waiting_of_claims {ownerId fingerprint : String} {now leaseUntil : Int} {item : StoredOutbox}
    {gate : Bool} {token' : String} (herror : e.storeError = none)
    (hclaims : Claims db ownerId fingerprint now token kind row item)
    (h : wastes counts row.id db e
      (.calling (.claimOutbox ownerId fingerprint now leaseUntil token' kind) gate) = false) :
    row.status = .pending ∨ row.status = .retry := by
  obtain ⟨hopen, -⟩ := rowOpen_iff.mp hclaims.rowOpen
  obtain ⟨rest, hselect⟩ := hclaims.selected
  unfold wastes at h
  dsimp only at h
  rw [herror, hselect] at h
  cases hstatus : row.status with
  | pending => exact .inl rfl
  | retry => exact .inr rfl
  | leased => simp [hstatus] at h
  | delivered | deadLetter =>
    rw [hstatus] at hopen
    cases hopen

/-- **CLAIM**: the row is leased under a new token. -/
lemma Inv.claim (h : Inv cfg r counts strict s) {k : Nat} (hrow : row ∈ s.db.outbox.rows)
    (hid : row.id = r) (hopen : row.status.isTerminal = false)
    (hwaiting : strict → row.status = .pending ∨ row.status = .retry) (hdraws : s.draws < s'.draws)
    (hlog : s'.log = s.log ++ [.claimed r (cfg.crates.uuid s.draws k) (row.attempts + 1)])
    (hrows : ∀ other ∈ s'.db.outbox.rows, other.id = r → other = row')
    (hstatus : row'.status = .leased) (hattempts : row'.attempts = row.attempts + 1)
    (htoken : row'.leaseToken = some (cfg.crates.uuid s.draws k)) : Inv cfg r counts strict s' := by
  have hnew : ∀ j, .claimed r (cfg.crates.uuid s.draws k) j ∉ s.log := fun j hmem =>
    not_drawn (h.counted.drawn _ j hmem).2
  have hdead : .exhausted r ∉ s.log := by
    intro hmem
    have := (h.counted.spent hmem).2 row hrow hid
    rw [hopen] at this
    cases this
  obtain ⟨hcount, hdrawn⟩ := h.counted.attempts row hrow hid
  have hclaims : claimsOf r s'.log = row.attempts + 1 := by
    rw [hlog, claimsOf_append, hcount]
    simp [claimsOf, claims]
  have hmem : ∀ {x}, x ∈ s'.log →
      x ∈ s.log ∨ x = .claimed r (cfg.crates.uuid s.draws k) (row.attempts + 1) := by
    intro x hx
    rw [hlog] at hx
    simpa using hx
  refine ⟨⟨?_, ?_, ?_, ?_⟩, fun hstrict => ?_⟩
  · intro other hother hid'
    rw [hrows other hother hid', hclaims, hattempts]
    exact ⟨rfl, hdrawn.mono hdraws.le⟩
  · intro token j hx
    rcases hmem hx with hx | hx
    · obtain ⟨hr, ht⟩ := h.counted.drawn token j hx
      exact ⟨hr.mono hdraws.le, ht.mono hdraws.le⟩
    · cases hx
      exact ⟨hdrawn.mono hdraws.le, s.draws, k, hdraws, rfl⟩
  · intro hx
    rcases hmem hx with hx | hx
    · exact absurd hx hdead
    · cases hx
  · rw [hlog]
    refine h.counted.history.snoc ⟨fun heq => ?_, fun _ => hdead⟩
    cases heq
  · have hold := h.tried hstrict
    have hrow' := hold.rows row hrow hid
    -- a waiting row was tried as often as it was claimed
    have hbefore : row.attempts < maxDeliveryAttempts
        ∧ ∀ j, 1 ≤ j → j ≤ row.attempts → j ∈ triesOf counts r s.log := by
      unfold Orderly at hrow'
      rcases hwaiting hstrict with hw | hw
      · rw [hw] at hrow'
        have hzero : row.attempts = 0 := hrow'
        refine ⟨by rw [hzero]; decide, fun j h1 hj => ?_⟩
        omega
      · rw [hw] at hrow'
        exact hrow'
    refine ⟨?_, ?_, ?_, ?_⟩
    · rw [hclaims]
      exact hbefore.1
    · intro other hother hid'
      rw [hrows other hother hid']
      unfold Orderly
      rw [hstatus, hattempts, hlog, triesOf_append]
      refine ⟨⟨_, htoken, ?_⟩, fun j h1 hj => ?_⟩
      · exact mem_concat_self
      · exact mem_append_left _ (hbefore.2 j h1 (by omega))
    · intro token j j' hj hj'
      rcases hmem hj with hj | hj <;> rcases hmem hj' with hj' | hj'
      · exact hold.tokens token j j' hj hj'
      · cases hj'
        exact absurd hj (hnew j)
      · cases hj
        exact absurd hj' (hnew j')
      · cases hj
        cases hj'
        rfl
    · rw [hlog]
      refine hold.history.snoc fun heq => ?_
      cases heq

/-- What the worker knows when it completes an attempt that failed: it was tried. -/
def TriedUnder (counts : WebhookFailure → Bool) (r : String) (log : List Entry) (token : String) :
    Prop :=
  ∃ k, .claimed r token k ∈ log ∧ k ∈ triesOf counts r log

lemma Inv.release (h : Inv cfg r counts strict s) (hrow : row ∈ s.db.outbox.rows) (hid : row.id = r)
    (hopen : row.status.isTerminal = false) (hdraws : s.draws ≤ s'.draws) (hlog : s'.log = s.log)
    (hrows : ∀ other ∈ s'.db.outbox.rows, other.id = r → other = row')
    (hattempts : row'.attempts = row.attempts) (horderly : strict → Orderly counts r s.log row') :
    Inv cfg r counts strict s' := by
  obtain ⟨hcount, hdrawn⟩ := h.counted.attempts row hrow hid
  refine ⟨⟨?_, ?_, ?_, hlog ▸ h.counted.history⟩, fun hstrict => ?_⟩
  · intro other hother hid'
    rw [hrows other hother hid', hlog, hattempts]
    exact ⟨hcount, hdrawn.mono hdraws⟩
  · intro token k hmem
    obtain ⟨hr, ht⟩ := h.counted.drawn token k (hlog ▸ hmem)
    exact ⟨hr.mono hdraws, ht.mono hdraws⟩
  · intro hmem
    have := (h.counted.spent (hlog ▸ hmem)).2 row hrow hid
    rw [hopen] at this
    cases this
  · have hold := h.tried hstrict
    refine ⟨hlog ▸ hold.bound, ?_, hlog ▸ hold.tokens, hlog ▸ hold.history⟩
    intro other hother hid'
    rw [hrows other hother hid', hlog]
    exact horderly hstrict

lemma Inv.exhaust (h : Inv cfg r counts strict s) (hrow : row ∈ s.db.outbox.rows) (hid : row.id = r)
    (hdraws : s.draws ≤ s'.draws) (hlog : s'.log = s.log ++ [.exhausted r])
    (hrows : ∀ other ∈ s'.db.outbox.rows, other.id = r → other = row')
    (hattempts : row'.attempts = row.attempts) (hmax : maxDeliveryAttempts ≤ row.attempts)
    (htries : strict → ∀ j, 1 ≤ j → j ≤ row.attempts → j ∈ triesOf counts r s.log)
    (hstatus : row'.status = .deadLetter) : Inv cfg r counts strict s' := by
  obtain ⟨hcount, hdrawn⟩ := h.counted.attempts row hrow hid
  have hclaims : claimsOf r s'.log = claimsOf r s.log := by
    rw [hlog, claimsOf_append]
    rfl
  have hclaimed : ∀ token k, .claimed r token k ∈ s'.log → .claimed r token k ∈ s.log := by
    intro token k hmem
    rw [hlog] at hmem
    simpa using hmem
  refine ⟨⟨?_, ?_, ?_, ?_⟩, fun hstrict => ?_⟩
  · intro other hother hid'
    rw [hrows other hother hid', hclaims, hattempts]
    exact ⟨hcount, hdrawn.mono hdraws⟩
  · intro token k hmem
    obtain ⟨hr, ht⟩ := h.counted.drawn token k (hclaimed token k hmem)
    exact ⟨hr.mono hdraws, ht.mono hdraws⟩
  · intro _
    refine ⟨hdrawn.mono hdraws, fun other hother hid' => ?_⟩
    rw [hrows other hother hid', hstatus]
    rfl
  · rw [hlog]
    refine h.counted.history.snoc ⟨fun _ => ?_, fun hclaim => ?_⟩
    · rw [hcount]
      exact hmax
    · cases hclaim
  · have hold := h.tried hstrict
    refine ⟨hclaims ▸ hold.bound, ?_, ?_, ?_⟩
    · intro other hother hid'
      rw [hrows other hother hid']
      unfold Orderly
      rw [hstatus]
      exact trivial
    · intro token k k' hk hk'
      exact hold.tokens token k k' (hclaimed _ _ hk) (hclaimed _ _ hk')
    · rw [hlog]
      exact hold.history.snoc fun _ j h1 hj => htries hstrict j h1 (hj.trans hmax)

/-- The attempt a worker completes under its token is the last one of the row. -/
lemma tries_of_lease (h : Tried counts r s) (hrow : row ∈ s.db.outbox.rows)
    (hlease : holdsLease row r token = true) (htried : TriedUnder counts r s.log token) :
    ∀ j, 1 ≤ j → j ≤ row.attempts → j ∈ triesOf counts r s.log := by
  obtain ⟨hid, htoken, hstatus⟩ := holdsLease_iff.mp hlease
  have horderly := h.rows row hrow hid
  unfold Orderly at horderly
  rw [hstatus] at horderly
  obtain ⟨⟨token', htoken', hclaimed⟩, hbefore⟩ := horderly
  obtain ⟨k, hk, hmade⟩ := htried
  have hsame : token' = token := Option.mem_unique htoken' htoken
  have hlast : k = row.attempts := h.tokens token k row.attempts hk (hsame ▸ hclaimed)
  intro j h1 hj
  rcases Nat.lt_or_eq_of_le hj with hlt | heq
  · exact hbefore j h1 hlt
  · rw [heq, ← hlast]
    exact hmade

variable {result : DeliveryResult}

/-- **COMPLETION** of an attempt on the row. -/
lemma Inv.complete (h : Inv cfg r counts strict s) {waiting : Bool} (hrow : row ∈ s.db.outbox.rows)
    (hlease : holdsLease row r token = true)
    (htried : strict → ∀ status category nextAt time, result = .retry status category nextAt time →
      TriedUnder counts r s.log token) (hdraws : s.draws ≤ s'.draws) (hlog : s'.log = s.log
      ++ (StoreCall.completeDelivery r token result maxDeliveryAttempts).entries waiting s.db)
    (hrows : ∀ other ∈ s'.db.outbox.rows, other.id = r →
      other = completedRow row result maxDeliveryAttempts) : Inv cfg r counts strict s' := by
  obtain ⟨hid, -, hstatus⟩ := holdsLease_iff.mp hlease
  have hopen : row.status.isTerminal = false := by rw [hstatus]; rfl
  cases result with
  | delivered | deadLetter =>
    rw [StoreCall.entries, append_nil] at hlog
    exact h.release hrow hid hopen hdraws hlog hrows rfl fun _ => trivial
  | retry httpStatus category nextAt time =>
    have htries : strict → ∀ j, 1 ≤ j → j ≤ row.attempts → j ∈ triesOf counts r s.log :=
      fun hstrict => tries_of_lease (h.tried hstrict) hrow hlease (htried hstrict _ _ _ _ rfl)
    rw [StoreCall.entries] at hlog
    by_cases hmax : maxDeliveryAttempts ≤ row.attempts
    · rw [if_pos (any_eq_true.mpr ⟨row, hrow, by simp [hlease, hmax]⟩)] at hlog
      refine h.exhaust hrow hid hdraws hlog hrows rfl hmax htries ?_
      simp [completedRow, DeliveryResult.fields, hmax]
    · -- no other row holds this lease
      have hnone : ¬ (s.db.outbox.rows.any fun other => holdsLease other r token
          && decide (maxDeliveryAttempts ≤ other.attempts)) = true := by
        intro hany
        obtain ⟨other, hother, hholds⟩ := any_eq_true.mp hany
        rw [Bool.and_eq_true, holdsLease_iff, decide_eq_true_eq] at hholds
        have heq : other = row := Table.eq_of_key hother hrow (hholds.1.1.trans hid.symm)
        exact hmax (heq ▸ hholds.2)
      rw [if_neg hnone, append_nil] at hlog
      refine h.release hrow hid hopen hdraws hlog hrows rfl fun hstrict => ?_
      have hretry : (completedRow row (.retry httpStatus category nextAt time)
          maxDeliveryAttempts).status = .retry := by
        simp [completedRow, DeliveryResult.fields, hmax]
      unfold Orderly
      rw [hretry]
      exact ⟨Nat.lt_of_not_le hmax, htries hstrict⟩

/-! ## Calls of the store -/

/-- A call that neither claims nor completes. -/
def Aloof : StoreCall → Prop
  | .claimOutbox .. | .completeDelivery .. => False
  | _ => True

variable {call : StoreCall} {id : String}

lemma Aloof.draw (h : Aloof call) (cfg : Config) (n : Nat) : Aloof (call.draw cfg.crates n) := by
  cases call <;> exact h

lemma stays_of_aloof (hcall : Aloof call) (hdraws : s.draws < s'.draws)
    (hrow : row ∈ ((call.draw cfg.crates s.draws).apply s.db).2.outbox.rows) :
    Stays cfg s s' row := by
  have hcomes := comes_of_mem s.db _ hrow
  have hcall := hcall.draw cfg s.draws
  generalize hdrawn : call.draw cfg.crates s.draws = drawn at hcomes hcall
  cases hcomes with
  | kept _ _ hold => exact .inl ⟨row, hold, rfl, rfl, rfl, rfl⟩
  | shortened _ now old hold hcancel => exact .inl ⟨old, hold, rfl, rfl, rfl, rfl⟩
  | queued occurrence payload eventType rowIds now n subscription hsub hfresh =>
    exact .inr ⟨rfl, rfl, hdraws, n + 1, rowIds_of_draw hdrawn n⟩
  | leased | completed => exact hcall.elim

lemma calm_of_aloof (hcall : Aloof call) (n : Nat) (waiting : Bool) (db : EventDatabase) :
    Calm r ((call.draw cfg.crates n).entries waiting db) := by
  intro x hx
  have hwrites := writes_of_mem hx
  have hcall := hcall.draw cfg n
  generalize call.draw cfg.crates n = drawn at hwrites hcall
  cases hwrites with
  | claimed | exhausted => exact hcall.elim
  | _ => exact ⟨rfl, by simp⟩

lemma calm_completed (hid : id ≠ r) (token : String) (result : DeliveryResult)
    (waiting : Bool) (db : EventDatabase) :
    Calm r ((StoreCall.completeDelivery id token result maxDeliveryAttempts).entries waiting
      db) := by
  intro x hx
  cases result with
  | delivered | deadLetter => cases hx
  | retry status category nextAt time =>
    unfold StoreCall.entries at hx
    dsimp only at hx
    split at hx
    · cases mem_singleton.mp hx
      exact ⟨rfl, fun heq => hid (Entry.exhausted.inj heq)⟩
    · cases hx

lemma entries_completed_of_lost (waiting : Bool)
    (h : ¬ (db.outbox.rows.any fun row => holdsLease row id token) = true) :
    (StoreCall.completeDelivery id token result maxDeliveryAttempts).entries waiting db = [] := by
  cases result with
  | delivered | deadLetter => rfl
  | retry status category nextAt time =>
    refine if_neg fun hany => h ?_
    obtain ⟨row, hrow, hboth⟩ := any_eq_true.mp hany
    rw [Bool.and_eq_true] at hboth
    exact any_eq_true.mpr ⟨row, hrow, hboth.1⟩

/-- What is known where a delivery is completed. -/
def Completes (counts : WebhookFailure → Bool) (strict : Prop) (r : String) (log : List Entry) :
    StoreCall → Prop
  | .completeDelivery id token result maxAttempts =>
    maxAttempts = maxDeliveryAttempts ∧ (strict → id = r → ∀ status category nextAt time,
      result = .retry status category nextAt time → TriedUnder counts r log token)
  | _ => True

variable {i : Nat}

lemma Inv.called_claim (h : Inv cfg r counts strict s) {ownerId fingerprint : String}
    {now leaseUntil : Int} {gate : Bool} (herror : e.storeError = none)
    (hclaim : strict → wastes counts r s.db e
      (.calling (.claimOutbox ownerId fingerprint now leaseUntil token kind) gate) = false)
    (hcalled : Called cfg (.claimOutbox ownerId fingerprint now leaseUntil token kind) i s
      s') : Inv cfg r counts strict s' := by
  obtain ⟨hdraws, hdb, hlog⟩ := hcalled
  have hdb : s'.db = (s.db.claimOutbox ownerId fingerprint now leaseUntil
    (cfg.crates.uuid s.draws 0) kind).2 := hdb
  rw [StoreCall.draw, StoreCall.entries] at hlog
  rcases claimOutbox_cases s.db ownerId fingerprint now leaseUntil (cfg.crates.uuid s.draws 0)
      kind with hnone | ⟨row, item, hclaims, hsome⟩
  · rw [hnone] at hdb hlog
    exact h.unmoved hlog (by omega) (by simp [Calm]) hdb
  rw [hsome] at hdb hlog
  dsimp only at hlog
  rw [hclaims.id, hclaims.attempts] at hlog
  have hrows : ∀ other ∈ s'.db.outbox.rows,
      (other.id = row.id → other = leasedRow row (cfg.crates.uuid s.draws 0) leaseUntil now)
        ∧ (other.id ≠ row.id → other ∈ s.db.outbox.rows) := by
    intro other hother
    rw [hdb] at hother
    exact Table.mem_update_one hclaims.mem hother rfl (beq_self_eq_true _) fun _ => beq_iff_eq.mp
  by_cases hid : row.id = r
  · subst hid
    exact h.claim hclaims.mem rfl (rowOpen_iff.mp hclaims.rowOpen).1
      (fun hstrict => waiting_of_claims herror hclaims (hclaim hstrict)) (by omega) hlog
      (fun other hother => (hrows other hother).1) rfl rfl rfl
  · refine h.frame hlog (by omega) ?_ fun other hother hid' => ?_
    · intro x hx
      cases mem_singleton.mp hx
      exact ⟨beq_eq_false_iff_ne.mpr hid, by simp⟩
    · have hold := (hrows other hother).2 fun heq => hid (heq.symm.trans hid')
      exact .inl ⟨other, hold, rfl, rfl, rfl, rfl⟩

lemma Inv.called_complete (h : Inv cfg r counts strict s)
    (htried : strict → id = r → ∀ status category nextAt time,
      result = .retry status category nextAt time → TriedUnder counts r s.log token)
    (hcalled : Called cfg (.completeDelivery id token result maxDeliveryAttempts) i s s') :
    Inv cfg r counts strict s' := by
  obtain ⟨hdraws, hdb, hlog⟩ := hcalled
  have hdb : s'.db = (s.db.completeDelivery id token result maxDeliveryAttempts).2 := hdb
  have hlog : s'.log = s.log ++ (StoreCall.completeDelivery id token result
    maxDeliveryAttempts).entries (s.subscriptionsLock == some i) s.db := hlog
  unfold completeDelivery at hdb
  by_cases hany : (s.db.outbox.rows.any fun row => holdsLease row id token) = true
  · rw [if_pos hany] at hdb
    obtain ⟨row, hrow, hlease⟩ := any_eq_true.mp hany
    obtain rfl : row.id = id := (holdsLease_iff.mp hlease).1
    have hrows : ∀ other ∈ s'.db.outbox.rows,
        (other.id = row.id → other = completedRow row result maxDeliveryAttempts)
          ∧ (other.id ≠ row.id → other ∈ s.db.outbox.rows) := by
      intro other hother
      rw [hdb] at hother
      exact Table.mem_update_one hrow hother rfl hlease fun _ hholds =>
        (holdsLease_iff.mp hholds).1
    by_cases hid : row.id = r
    · subst hid
      exact h.complete hrow hlease (htried · rfl) (by omega) hlog fun other hother =>
        (hrows other hother).1
    · refine h.frame hlog (by omega) (calm_completed hid _ _ _ _) fun other hother hid' => ?_
      have hold := (hrows other hother).2 fun heq => hid (heq.symm.trans hid')
      exact .inl ⟨other, hold, rfl, rfl, rfl, rfl⟩
  · -- the lease was lost
    rw [if_neg hany] at hdb
    rw [entries_completed_of_lost _ hany] at hlog
    exact h.unmoved hlog (by omega) (nofun) hdb

/-- **ONE CALL** of the store. -/
lemma Inv.called (h : Inv cfg r counts strict s) {gate : Bool} (herror : e.storeError = none)
    (hclaim : strict → wastes counts r s.db e (.calling call gate) = false)
    (hcomplete : Completes counts strict r s.log call) (hcalled : Called cfg call i s s') :
    Inv cfg r counts strict s' := by
  by_cases haloof : Aloof call
  · refine h.frame hcalled.log (by rw [hcalled.draws]; omega) (calm_of_aloof haloof _ _ _) ?_
    intro row hrow _
    exact stays_of_aloof haloof (by rw [hcalled.draws]; omega) (hcalled.db ▸ hrow)
  · cases call with
    | claimOutbox ownerId fingerprint now leaseUntil token kind =>
      exact h.called_claim herror hclaim hcalled
    | completeDelivery id token result maxAttempts =>
      obtain ⟨rfl, htried⟩ := hcomplete
      exact h.called_complete htried hcalled
    | _ => exact absurd trivial haloof

/-! ## Handlers -/

variable {tag : Tag}

lemma calm_of_not_stored (h : ∀ x ∈ entries, ¬ x.stored) : Calm r entries := by
  intro x hx
  have hnot := h x hx
  cases x with
  | claimed | exhausted => exact absurd trivial hnot
  | _ => exact ⟨rfl, by simp⟩

lemma Inv.step (h : Inv cfg r counts strict s)
    (hclaim : strict → wastes counts r s.db e tag = false)
    (hcomplete : ∀ call gate, tag = .calling call gate → Completes counts strict r s.log call)
    (i : Nat) : Inv cfg r counts strict (effect cfg tag i e s) := by
  rcases effect_cases cfg tag i e s with ⟨hdb, hdraws, hentries⟩ | ⟨call, gate, rfl, herror, hcall⟩
  · exact h.unmoved (effect_log ..) hdraws (calm_of_not_stored hentries) hdb
  · exact h.called herror hclaim (hcomplete call gate rfl) hcall

lemma Inv.same (h : Inv cfg r counts strict s) (hdb : s'.db = s.db) (hdraws : s'.draws = s.draws)
    (hlog : s'.log = s.log) : Inv cfg r counts strict s' :=
  h.unmoved (hlog.trans (append_nil _).symm) hdraws.ge (nofun) hdb

lemma log_subset_drop (i : Nat) (tag : Tag) (s : Service) : s.log ⊆ (dropHandler i tag s).log := by
  rw [(dropHandler_same i tag s).2.2]
  exact List.Subset.refl _

lemma Inv.happen (h : Inv cfg r counts strict s) (x : Happening) :
    Inv cfg r counts strict (happen cfg x s) := by
  cases x with
  | wait millis => exact h.same rfl rfl rfl
  | restart fingerprint =>
    have hlog : (WattWebhooks.happen cfg (.restart fingerprint) s).log = s.log ++ [.restarted] := rfl
    refine h.frame hlog le_rfl ?_ fun row hrow _ => ?_
    · intro x hx
      cases mem_singleton.mp hx
      exact ⟨rfl, by simp⟩
    · exact .inl ⟨row, hrow, rfl, rfl, rfl, rfl⟩

/-- A handler relies on nothing but that the log grows. -/
def attemptDiscipline (cfg : Config) (r : String) (counts : WebhookFailure → Bool) (strict : Prop) :
    Discipline (eventServer cfg) where
  inv := Inv cfg r counts strict
  pre _ _ _ := True
  away _ _ := True
  rely _ _ s s' := s.log ⊆ s'.log
  hold _ _ s s' := s.log ⊆ s'.log
  ok _ tag e s := strict → wastes counts r s.db e tag = false
  okDrop _ := True
  free _ _ := True
  good _ _ := True
  rely_refl _ _ _ := List.Subset.refl _
  rely_trans _ _ := List.Subset.trans
  hold_refl _ _ _ := List.Subset.refl _
  hold_trans _ _ := List.Subset.trans
  good_refl _ := trivial
  drop_inv i tag s h _ _ := by
    obtain ⟨hdb, hdraws, hlog⟩ := dropHandler_same i tag s
    exact ⟨h.same hdb hdraws hlog, trivial⟩
  drop_away _ _ _ := ⟨trivial, fun _ _ _ => trivial⟩
  drop_others i _ tag _ s _ := by
    exact ⟨log_subset_drop i tag s, log_subset_drop i tag s⟩
  env_inv x s h := ⟨h.happen x, trivial⟩
  env_away _ _ _ _ := trivial
  env_others x s hx _ _ _ := by
    cases x with
    | wait millis => exact ⟨List.Subset.refl _, List.Subset.refl _⟩
    | restart fingerprint => cases hx

lemma keeps_step (h : Inv cfg r counts strict s)
    (hok : (attemptDiscipline cfg r counts strict).ok i tag e s)
    (hcomplete : ∀ call gate, tag = .calling call gate → Completes counts strict r s.log call) :
    (attemptDiscipline cfg r counts strict).Keeps i tag s (effect cfg tag i e s) where
  inv := h.step hok hcomplete i
  good := trivial
  away _ _ _ := trivial
  others := by
    intro _ _ _ _
    have hlog : s.log ⊆ (effect cfg tag i e s).log := by
      rw [effect_log]
      exact subset_append_left ..
    exact ⟨hlog, hlog⟩

/-- Handler `i` keeps the discipline in `p`, and ends with `Q`. -/
abbrev Ensures (cfg : Config) (r : String) (counts : WebhookFailure → Bool) (strict : Prop)
    (i : Nat) {α : Type} (p : Handler α) (Q : α → Service → Prop) (s : Service) : Prop :=
  Runs (attemptDiscipline cfg r counts strict) i p Q (fun _ => True) s

/-- Steps that complete no delivery. -/
def Quiet (tag : Tag) : Prop :=
  ∀ call gate, tag = .calling call gate → ∀ id token result maxAttempts,
    call ≠ .completeDelivery id token result maxAttempts

lemma keeps_quiet (htag : Quiet tag) (h : Inv cfg r counts strict s)
    (hok : (attemptDiscipline cfg r counts strict).ok i tag e s) :
    (attemptDiscipline cfg r counts strict).Keeps i tag s (effect cfg tag i e s) := by
  refine keeps_step h hok fun call gate heq => ?_
  cases call with
  | completeDelivery id token result maxAttempts =>
    exact absurd rfl (htag _ gate heq id token result maxAttempts)
  | _ => exact trivial

lemma safe_quiet {α : Type} {p : Async Service Outcome Tag α} (hp : Follows cfg Quiet p)
    (s : Service) : (attemptDiscipline cfg r counts strict).Safe i p (fun _ _ => True) s :=
  safe_of_follows _ (fun _ _ _ _ _ _ => trivial)
    (fun _ _ htag hinv _ => ⟨trivial, fun _ _ hok => ⟨keeps_quiet htag hinv hok, trivial⟩⟩) hp trivial

lemma runs_quiet {α β : Type} {p : Handler α} {f : α → Handler β} {Q : β → Service → Prop}
    (hp : Follows cfg Quiet p) (hf : ∀ a s, Ensures cfg r counts strict i (f a) Q s) (s : Service) :
    Ensures cfg r counts strict i (p >>= f) Q s :=
  runs_then _ (fun _ _ _ _ _ _ => trivial)
    (fun _ _ htag hinv _ => ⟨trivial, fun _ _ hok => ⟨keeps_quiet htag hinv hok, trivial⟩⟩) hp trivial
    (fun a s _ => hf a s) fun _ _ => trivial

lemma quiet_of_takes {calls : StoreCall → Prop} {posts : Prop}
    (hcalls : ∀ i t r m, ¬ calls (.completeDelivery i t r m)) (h : Takes cfg calls posts tag) :
    Quiet tag := by
  rintro call gate rfl id token result maxAttempts rfl
  exact hcalls _ _ _ _ h.2

lemma quiet_of_not_calling (h : ∀ call gate, tag ≠ .calling call gate) : Quiet tag :=
  fun call gate heq => absurd heq (h call gate)

/-! ## The worker -/

section Worker

variable {i : Nat} {item : StoredOutbox} {outcome : Except WebhookFailure Nat}

/-- The row was claimed for the worker. -/
def Holds (item : StoredOutbox) (s : Service) : Prop :=
  .claimed item.id (item.leaseToken.getD "") item.attempts ∈ s.log

/-- An attempt that is retried was tried. -/
def Made (counts : WebhookFailure → Bool) (strict : Prop) (r : String) (item : StoredOutbox)
    (outcome : Except WebhookFailure Nat) (s : Service) : Prop :=
  Holds item s ∧ (strict → item.id = r →
    (∀ failure, outcome = .error failure → failure.retries = true) →
      item.attempts ∈ triesOf counts r s.log)

lemma Made.mono (h : Made counts strict r item outcome s) (hlog : s.log ⊆ s'.log) :
    Made counts strict r item outcome s' :=
  ⟨hlog h.1, fun hstrict hid hretries => filterMap_subset _ hlog (h.2 hstrict hid hretries)⟩

lemma retries_of_classify {attempts : Nat}
    {completedAt nextAt time : Int} {status : Option Nat} {category : DeliveryErrorCategory}
    (h : classifyDelivery outcome attempts completedAt = .retry status category nextAt time) :
    ∀ failure, outcome = .error failure → failure.retries = true := by
  rintro failure rfl
  unfold classifyDelivery at h
  dsimp only at h
  split at h
  · next hretries => exact hretries
  · cases h

/-- **POST**: whatever comes of it, the attempt is on record. -/
lemma runs_sendPost (hitem : Holds item s) :
    Ensures cfg r counts strict i (sendPost cfg item) (Made counts strict r item) s := by
  refine runs_bind _ (runs_take _ fun s1 hrely hinv => ⟨trivial, fun _ e hok => ⟨?_, ?_⟩⟩)
  · exact keeps_step hinv hok (by simp)
  have hlog : (effect cfg (.post item) i e s1).log = s1.log ++ (Tag.post item).entries cfg i e s1 :=
    effect_log ..
  have hitem : Holds item (effect cfg (.post item) i e s1) := by
    unfold Holds
    rw [hlog]
    exact mem_append_left _ (hrely hitem)
  unfold Tag.entries at hlog
  dsimp only at hlog
  show Runs _ i (afterPost cfg item e.request) _ _ _
  cases hrequest : e.request with
  | error failure =>
    rw [hrequest] at hlog
    refine runs_pure _ ⟨hitem, fun hstrict hid hretries => ?_⟩
    have hcounts := hok hstrict
    simp [wastes, hrequest, hid, hretries failure rfl] at hcounts
    rw [hlog, triesOf_append]
    refine mem_append_right _ ?_
    simp [triesOf, tried, hid, hcounts]
  | ok sent =>
    rw [hrequest] at hlog
    refine runs_take _ fun s2 hrely2 hinv2 => ⟨trivial, fun _ e2 hok2 => ⟨?_, ?_⟩⟩
    · exact keeps_step hinv2 hok2 (by simp)
    · refine Made.mono ⟨hitem, fun _ hid _ => ?_⟩ hrely2
      rw [hlog, triesOf_append]
      refine mem_append_right _ ?_
      simp [triesOf, tried, hid]

lemma runs_deliver (hitem : Holds item s) :
    Ensures cfg r counts strict i (deliver cfg item) (fun _ _ => True) s := by
  refine runs_seq _ (runs_sendPost hitem) fun outcome s hmade => ?_
  refine runs_bind _ (runs_take _ fun s1 hrely1 hinv1 => ⟨trivial, fun _ e hok => ⟨?_, ?_⟩⟩)
  · exact keeps_step hinv1 hok nofun
  have hmade := hmade.mono hrely1
  refine runs_bind _ (runs_storeCall _ (M := fun _ _ => True) (fun s2 hrely2 hinv2 => ?_) ?_)
  · refine ⟨trivial, fun e2 hok2 => ⟨keeps_step hinv2 hok2 ?_, fun _ _ _ => trivial, fun _ => trivial⟩⟩
    intro call gate heq
    obtain ⟨rfl, -⟩ := Tag.calling.inj heq
    have hmade := hmade.mono hrely2
    refine ⟨rfl, fun hstrict hid status category nextAt time hretry => ?_⟩
    exact ⟨item.attempts, hid ▸ hmade.1, hmade.2 hstrict hid (retries_of_classify hretry)⟩
  · intro _ _ s2 _ _ hinv2
    refine ⟨trivial, fun e2 hok2 => ⟨?_, runs_pure _ trivial⟩⟩
    exact keeps_step (e := e2) hinv2 hok2 nofun

lemma runs_deliverClaimed (hitem : Holds item s) :
    Ensures cfg r counts strict i (deliverClaimed cfg item) (fun _ _ => True) s := by
  refine runs_bind _ (runs_take _ fun s1 hrely hinv => ⟨trivial, fun _ e hok => ⟨?_, ?_⟩⟩)
  · exact keeps_step hinv hok nofun
  have hitem : Holds item s1 := hrely hitem
  show Runs _ i (if _ then (if _ then deliver cfg item else pure false)
    else if _ then deliver cfg item else pure false) _ _ _
  split
  · split
    · exact runs_deliver hitem
    · exact runs_pure _ trivial
  · split
    · exact runs_deliver hitem
    · exact runs_pure _ trivial

/-- **CLAIM**: what the worker gets is on record under its token. -/
lemma runs_claimNext (token : String) (kind : Option String) :
    Ensures cfg r counts strict i (claimNext cfg token kind)
      (fun claimed s => ∀ item, claimed = some item → Holds item s) s := by
  refine runs_bind _ (runs_quiet (follows_take (quiet_of_not_calling (by intro _ _ h; cases h))) (fun now s => ?_) s)
  refine runs_storeCall _ (M := fun reply s => ∀ item, claimedItem reply = some item → Holds item s)
    (fun s1 _ hinv => ⟨trivial, fun e hok => ⟨?_, ?_, fun _ => trivial⟩⟩) ?_
  · exact keeps_step hinv hok (by intro _ _ h; cases h; exact trivial)
  · intro reply herror hreply item hitem
    obtain ⟨hentries, row, hclaims⟩ := claim_reply (s1.subscriptionsLock == some i) hreply hitem
    unfold Holds
    rw [effect_log, Tag.entries, herror]
    dsimp only [StoreCall.draw]
    rw [hentries, hclaims.token]
    exact mem_concat_self
  · intro reply s s1 hreply hrely hinv
    refine ⟨trivial, fun e hok => ⟨keeps_step (e := e) hinv hok nofun, ?_⟩⟩
    exact runs_pure _ fun item hitem => hrely (hreply item hitem)

lemma runs_deliveryTick (kind : Option String) :
    Ensures cfg r counts strict i (deliveryTick cfg kind) (fun _ _ => True) s := by
  refine runs_quiet ?_ (fun _ s => ?_) s
  · unfold subscriptionGuard
    split
    · exact trivial
    · exact follows_take (quiet_of_not_calling nofun)
  refine runs_quiet (follows_take ?_) (fun now s => ?_) s
  · exact quiet_of_not_calling nofun
  refine runs_quiet (follows_storeCall ?_ ?_) (fun _ s => ?_) s
  · intro _ _ h
    cases h
    simp
  · exact quiet_of_not_calling nofun
  refine runs_quiet (follows_take ?_) (fun token s => ?_) s
  · exact quiet_of_not_calling (by intro _ _ h; cases h)
  refine runs_seq _ (runs_claimNext token kind) fun claimed s hclaimed => ?_
  cases claimed with
  | none => exact runs_pure _ trivial
  | some item =>
    have hitem := hclaimed item rfl
    refine runs_bind _ (runs_take _ fun s1 hrely hinv => ⟨trivial, fun _ e hok => ⟨?_, ?_⟩⟩)
    · exact keeps_step hinv hok (by intro _ _ h; cases h)
    · cases e.opened with
      | error text => exact trivial
      | ok _ => exact runs_deliverClaimed (hrely hitem)

end Worker

lemma safe_handlerOf (i : Nat) (request : Request) (s : Service) :
    (attemptDiscipline cfg r counts strict).Safe i (handlerOf cfg request) (fun _ _ => True) s := by
  have hquiet : ∀ {calls : StoreCall → Prop} {p : Async Service Outcome Tag Unit},
      Follows cfg (Takes cfg calls False) p → (∀ i t r m, ¬ calls (.completeDelivery i t r m)) →
      (attemptDiscipline cfg r counts strict).Safe i p (fun _ _ => True) s := fun hp hcalls =>
    safe_quiet (hp.mono fun _ => quiet_of_takes hcalls) s
  cases request with
  | subscribe params url => exact hquiet (follows_subscribe params url) (by simp [Subscribes])
  | unsubscribe url => exact hquiet (follows_unsubscribe url) (by simp [Unsubscribes])
  | revokeMcpSubscriptions => exact hquiet follows_revoke (by simp [Unsubscribes])
  | applyEnvWebhook config => exact hquiet (follows_applyEnvWebhook config) (by simp [Subscribes])
  | publish event => exact hquiet (follows_publish event) (by simp [Announces])
  | deliveryTick kind =>
    refine safe_serve _ (runs_deliveryTick kind) (fun _ s' _ _ hinv => ⟨trivial, ?_⟩)
      fun _ => trivial
    intro e hok
    exact keeps_step (e := e) hinv hok (by intro _ _ h; cases h)

lemma detachable_handlerOf (i : Nat) (request : Request) (s : Service) :
    (attemptDiscipline cfg r counts strict).Detachable i (handlerOf cfg request) s := by
  refine Discipline.detachable_of_safe _ (fun _ _ _ _ h => h) (fun i tag s _ => ?_)
    (safe_handlerOf i request s)
  exact log_subset_drop i tag s

lemma inv_fresh (cfg : Config) (r : String) (counts : WebhookFailure → Bool) (strict : Prop)
    (clock : Int) (fingerprint : String) :
    Inv cfg r counts strict (.fresh clock fingerprint) where
  counted := {
    attempts := fun row hrow => by cases hrow
    drawn := fun token k hmem => by cases hmem
    spent := fun hmem => by cases hmem
    history := eachAfter_nil }
  tried _ := {
    bound := Nat.zero_le _
    rows := fun row hrow => by cases hrow
    tokens := nofun
    history := eachAfter_nil }

/-! ## Runs -/

/-- The step of the schedule wastes no attempt on the row. -/
def keepsAttempts (counts : WebhookFailure → Bool) (r : String)
    (pool : Pool Service (Task Service Outcome Tag)) : Event Request Outcome Happening → Bool
  | .exec i e => ((pool.threads i).bind Task.tag?).all fun tag =>
    !wastes counts r pool.shared.db e tag
  | _ => true

lemma admits_of_keepsAttempts {pool : Pool Service (Task Service Outcome Tag)}
    {ev : Event Request Outcome Happening} (h : strict → keepsAttempts counts r pool ev = true) :
    (attemptDiscipline cfg r counts strict).Admits pool ev := by
  cases ev with
  | exec i e =>
    intro tag htag
    refine ⟨fun hstrict => ?_, fun _ _ _ _ => trivial⟩
    have hall := h hstrict
    unfold keepsAttempts at hall
    dsimp only at hall
    rw [htag] at hall
    simpa using hall
  | stop i => exact fun _ _ => trivial
  | spawn i request => exact trivial
  | env x => exact trivial

/-- A row that ran out of attempts was claimed as often as the limit says, and is not
claimed again. -/
def Spent (r : String) (log : List Entry) : Prop :=
  EachAfter (fun before x => (x = .exhausted r → maxDeliveryAttempts ≤ claimsOf r before)
    ∧ (claims r x = true → .exhausted r ∉ before)) log

/-- The row is claimed at most as often as the limit says, and runs out of attempts only
after that many were tried. -/
def Bounded (counts : WebhookFailure → Bool) (r : String) (log : List Entry) : Prop :=
  claimsOf r log ≤ maxDeliveryAttempts
    ∧ EachAfter (fun before x => x = .exhausted r →
        maxDeliveryAttempts ≤ (triesOf counts r before).length) log

/-- **ATTEMPTS**: in every run a row runs out of attempts after twenty claims and is not
claimed again.  If no claim takes it over from a worker that holds it, and none of its POSTs
fails on the way in a manner that is retried and does not count, it is claimed at most twenty
times and given up only after twenty POSTs and failures that count.  Where none counts, these
are POSTs that were sent; where all do, only the claims are restricted. -/
theorem attempts_bounded (cfg : Config) (clock : Int) (fingerprint r : String) (events : Schedule) :
    Always (eventServer cfg).step (fun pool => Spent r pool.shared.log)
        (.idle (.fresh clock fingerprint)) events
      ∧ ∀ counts : WebhookFailure → Bool,
        AllSteps (eventServer cfg).step (fun pool ev => keepsAttempts counts r pool ev = true)
          (.idle (.fresh clock fingerprint)) events →
        Always (eventServer cfg).step (fun pool => Bounded counts r pool.shared.log)
          (.idle (.fresh clock fingerprint)) events := by
  have hall : ∀ counts strict, AllSteps (eventServer cfg).step
      (fun pool ev => strict → keepsAttempts counts r pool ev = true)
      (.idle (.fresh clock fingerprint)) events →
      Always (eventServer cfg).step (fun pool => Inv cfg r counts strict pool.shared)
        (.idle (.fresh clock fingerprint)) events := fun counts strict hsteps =>
    ((attemptDiscipline cfg r counts strict).always_good
      (fun i request s _ _ => ⟨safe_handlerOf i request s, detachable_handlerOf i request s⟩)
      (inv_fresh cfg r counts strict clock fingerprint) (fun _ => trivial)
      (hsteps.mono fun _ _ => admits_of_keepsAttempts)).1
  refine ⟨fun pre post hevents => ?_, fun counts hsteps pre post hevents => ?_⟩
  · have hnothing : AllSteps (eventServer cfg).step (fun _ _ => True)
        (.idle (.fresh clock fingerprint)) events := allSteps_true ..
    exact (hall (fun _ => false) False (hnothing.mono fun _ _ _ => False.elim) pre post
      hevents).counted.history
  · have htried := (hall counts True (hsteps.mono fun _ _ h _ => h) pre post hevents).tried trivial
    refine ⟨htried.bound, fun before x after hlog hx => ?_⟩
    exact le_length_triesOf (htried.history before x after hlog hx)

/-- No failure on the way counts as a POST. -/
def postsOnly : WebhookFailure → Bool := fun _ => false

/-- The environment names its webhook. -/
def configure (i : Nat) : Schedule :=
  .spawn i (.applyEnvWebhook (some ⟨"https://receiver", some "whsec_1"⟩)) :: steps i 11

/-- A tick of the worker for the environment webhook, whose receiver answers `status`. -/
def envTick (i status : Nat) : Schedule :=
  .spawn i (.deliveryTick (some envWebhookSourceKind))
    :: List.replicate 15 (.exec i (answering status))

/-- An event is queued for the environment webhook. -/
def queueEvent (i : Nat) : Schedule := .spawn i (.publish (toyEvent "e")) :: steps i 7

/-- The row that `queueEvent` queues after `configure`. -/
def queuedId : String := toyUuid 2 1

/-- The receiver fails once and then accepts the event. -/
def failsOnce : Schedule :=
  configure 0 ++ queueEvent 1 ++ envTick 2 500 ++ .env (.wait 5000) :: envTick 3 200

/-- The hypotheses are met by a delivery that is retried. -/
theorem attempts_bounded_failsOnce :
    claimsOf queuedId (run (eventServer toyConfig).step toyStart failsOnce).shared.log = 2
      ∧ Bounded postsOnly queuedId
          (run (eventServer toyConfig).step toyStart failsOnce).shared.log :=
  ⟨by decide +kernel, (attempts_bounded toyConfig 100000 "token" queuedId failsOnce).2 postsOnly
    (by decide +kernel) failsOnce [] (append_nil _).symm⟩

/-- After a restart the webhook is not configured for twenty ticks; then it is, and its
receiver fails once. -/
def waitsForConfiguration : Schedule :=
  configure 0 ++ queueEvent 1 ++ .env (.restart "token")
    :: (List.range 20).flatMap (fun i => envTick i 200 ++ [.env (.wait 31000)])
    ++ configure 20 ++ envTick 21 500

/-- **WAITING USES UP THE ATTEMPTS**: the row is claimed twenty-one times and given up
after one POST. -/
theorem waiting_uses_attempts :
    claimsOf queuedId (run (eventServer toyConfig).step toyStart waitsForConfiguration).shared.log
        = maxDeliveryAttempts + 1 ∧ .exhausted queuedId
          ∈ (run (eventServer toyConfig).step toyStart waitsForConfiguration).shared.log
      ∧ triesOf postsOnly queuedId
          (run (eventServer toyConfig).step toyStart waitsForConfiguration).shared.log = [21] := by
  decide +kernel

end WattAttempts
