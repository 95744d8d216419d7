import Wattetheria.MissionHandlers
import Wattetheria.MissionRecordProofs

/-!
# The discipline of the mission handlers

What every handler keeps and may rely on.  `Sound` holds in every state of every
interleaving.  Three further invariants need guarantees from the schedule, and
`paid`, `apart` and `kept` say for which missions these are in force:

* `SettledPaid` — a settled mission with a bounty has been paid out;
* `Fair` — every refund and release was asked for at the right moment;
* `Kept` — the board tracks every escrow that the ledger holds or may still lock.

`Later` is what the state can become.
-/

namespace WattPayout

open WattText WattJson WattKeyed WattAsync WattMission WattLifecycle WattRecord WattEscrow Function
open List Option WattMissions

/-! ## Invariants -/

/-- What a successful reply says about the escrow. -/
def Served : LedgerRequest → Escrow → Prop
  | .lock _ _, _ => True
  | .release _, escrow => ∃ payee, escrow = .released payee
  | .refund, escrow => escrow = .refunded

variable (s : Shared) (id : String)

/-- The mission as the board holds it. -/
def Holds (P : CivilMission → Prop) : Prop :=
  ∃ mission, s.board.get id = some mission ∧ P mission

/-- What holds in every state. -/
structure Sound (s : Shared) : Prop where
  board : ∀ id mission, s.board.get id = some mission → Recorded id mission
  /-- the escrow of a mission is recorded by the handler that published it -/
  awaiting : ∀ id mission, s.board.get id = some mission → s.awaiting id ≠ none →
    mission.escrowId = none
  /-- requests are about missions whose escrow was recorded; a release names the
  executor -/
  call : ∀ c ∈ s.calls, s.awaiting c.escrowId = none ∧ Holds s c.escrowId fun mission =>
        ∀ payee, c.request = .release payee → mission.completedBy = some payee
  /-- the mission a request remembers is the one of its escrow -/
  about : ∀ c ∈ s.calls, ∀ mission, c.mission = some mission → mission.missionId = c.escrowId
  served : ∀ c ∈ s.calls, c.reply = some (.ok ()) → Served c.request (s.ledger c.escrowId)
  ledger : ∀ id payee, s.ledger id = .released payee →
    Holds s id fun mission => mission.completedBy = some payee
  /-- an escrow the ledger knows was locked by a request of this node -/
  landed : ∀ id, s.ledger id ≠ .absent → ∃ c ∈ s.calls,
    c.escrowId = id ∧ c.request.isLock = true ∧ c.reply = some (.ok ())
  /-- an escrow is locked once, for a bounty -/
  once : ∀ (n n' : Nat) (c c' : Call), s.calls[n]? = some c → s.calls[n']? = some c' →
    c.request.isLock = true → c'.request.isLock = true → c.escrowId = c'.escrowId → n = n'
  charged : ∀ c ∈ s.calls, c.request.isLock = true →
    Holds s c.escrowId fun mission => 0 < bounty mission
  /-- a lock that is still to be sent was not sent before -/
  locking : ∀ id i, s.locking id = some i → s.awaiting id = none
    ∧ (∀ c ∈ s.calls, c.escrowId = id → c.request.isLock = false)
    ∧ Holds s id fun mission => 0 < bounty mission

variable (mission : CivilMission)

/-- The executor on record is blank. -/
def Blank : Prop :=
  ∃ agent, mission.completedBy = some agent ∧ isEmpty (trim agent) = true

/-- The bounty of a mission went to its executor, or back when the executor on record
is blank. -/
def PaidOut : Prop :=
  ∃ agent, mission.completedBy = some agent
    ∧ s.ledger id = if isEmpty (trim agent) then .refunded else .released agent

/-- Settled missions with a bounty are paid out. -/
def SettledPaid (paid : String → Prop) (s : Shared) : Prop :=
  ∀ id, paid id → ∀ mission, s.board.get id = some mission → mission.status = .settled →
    0 < bounty mission → PaidOut s id mission

/-- A request asked for at the right moment, and what stays true of its mission. -/
def Asked (c : Call) (mission : CivilMission) : Prop :=
  match c.request with
  | .lock _ _ => True
  | .release agent =>
    (∃ then_, c.mission = some then_ ∧ then_.status = .completed)
      ∧ isEmpty (trim agent) = false ∧ mission.completedBy = some agent ∧ Firm mission
  | .refund =>
    (∃ then_, c.mission = some then_
      ∧ (then_.status = .cancelled ∨ then_.status = .completed ∧ Blank then_))
      ∧ (mission.status = .cancelled ∨ Blank mission)

/-- Every request was asked for at the right moment. -/
def Fair (apart : String → Prop) (s : Shared) : Prop :=
  ∀ c ∈ s.calls, apart c.escrowId → Holds s c.escrowId (Asked c)

/-- The ledger holds the escrow, or may still come to hold it. -/
def Owed : Prop :=
  (∃ payer amount, s.ledger id = .locked payer amount)
    ∨ ∃ c ∈ s.calls, c.escrowId = id ∧ c.request.isLock = true ∧ c.reply = none

/-- The board holds the escrow on a mission that is not settled. -/
def Tracked : Prop :=
  Holds s id fun mission => mission.escrowId = some id ∧ mission.status ≠ .settled

/-- What the ledger holds or may still lock is tracked. -/
def Kept (paid kept : String → Prop) (s : Shared) : Prop :=
  ∀ id, paid id → kept id → Owed s id → Tracked s id

/-- The escrow is owed, or about to be. -/
def AtStake : Prop := Owed s id ∨ s.locking id ≠ none

/-! ## What the state can become -/

/-- A later state; the handlers in `keeps` still have to record the escrows they had
to record. -/
structure Later (keeps : Nat → Prop) (s s' : Shared) : Prop where
  board : ∀ id mission, s.board.get id = some mission →
    Holds s' id fun later => Evolves mission later ∧ later.spec = mission.spec
      ∧ (s.awaiting id = none → Firm mission → Firm later)
  recorded : ∀ id mission, s.board.get id = some mission → s.awaiting id = none →
    s'.awaiting id = none
  awaiting : ∀ id mission, s.board.get id = some mission → ∀ j, keeps j →
    s.awaiting id = some j → s'.awaiting id = some j
  locking : ∀ id j, keeps j → s.locking id = some j → s'.locking id = some j
  released : ∀ id payee, s.ledger id = .released payee → s'.ledger id = .released payee
  refunded : ∀ id, s.ledger id = .refunded → s'.ledger id = .refunded
  calls : ∀ (n : Nat) (c : Call), s.calls[n]? = some c →
    ∃ c' : Call, s'.calls[n]? = some c' ∧ c'.escrowId = c.escrowId ∧ c'.request = c.request
      ∧ ∀ reply, c.reply = some reply → c'.reply = some reply

namespace Later

variable {keeps keeps' : Nat → Prop} {s s' s'' : Shared}

lemma refl (keeps : Nat → Prop) (s : Shared) : Later keeps s s where
  board _ mission h := ⟨mission, h, .refl mission, rfl, fun _ hfirm => hfirm⟩
  recorded _ _ _ h := h
  awaiting _ _ _ _ _ h := h
  locking _ _ _ h := h
  released _ _ h := h
  refunded _ h := h
  calls _ c h := ⟨c, h, rfl, rfl, fun _ hreply => hreply⟩

lemma trans (h : Later keeps s s') (h' : Later keeps s' s'') : Later keeps s s'' where
  board id mission hm := by
    obtain ⟨m', hm', hev, hspec, hfirm⟩ := h.board id mission hm
    obtain ⟨m'', hm'', hev', hspec', hfirm'⟩ := h'.board id m' hm'
    refine ⟨m'', hm'', hev.trans hev', hspec'.trans hspec, fun hrec hf => ?_⟩
    exact hfirm' (h.recorded id mission hm hrec) (hfirm hrec hf)
  recorded id mission hm hrec := by
    obtain ⟨m', hm', -⟩ := h.board id mission hm
    exact h'.recorded id m' hm' (h.recorded id mission hm hrec)
  awaiting id mission hm j hj hawaiting := by
    obtain ⟨m', hm', -⟩ := h.board id mission hm
    exact h'.awaiting id m' hm' j hj (h.awaiting id mission hm j hj hawaiting)
  locking id j hj hlocking := h'.locking id j hj (h.locking id j hj hlocking)
  released id payee hp := h'.released id payee (h.released id payee hp)
  refunded id hp := h'.refunded id (h.refunded id hp)
  calls n c hc := by
    obtain ⟨c', hc', hid, hreq, hreply⟩ := h.calls n c hc
    obtain ⟨c'', hc'', hid', hreq', hreply'⟩ := h'.calls n c' hc'
    exact ⟨c'', hc'', hid'.trans hid, hreq'.trans hreq,
      fun reply hr => hreply' reply (hreply reply hr)⟩

lemma mono (hkeeps : ∀ j, keeps' j → keeps j) (h : Later keeps s s') : Later keeps' s s' :=
  { h with
    awaiting := fun id mission hm j hj => h.awaiting id mission hm j (hkeeps j hj)
    locking := fun id j hj => h.locking id j (hkeeps j hj) }

variable {id : String} (h : Later keeps s s')

include h

lemma holds {P : CivilMission → Prop}
    (hP : ∀ m m', Evolves m m' → P m → P m') (hid : Holds s id P) : Holds s' id P := by
  obtain ⟨mission, hm, hp⟩ := hid
  obtain ⟨later, hlater, hev, -⟩ := h.board id mission hm
  exact ⟨later, hlater, hP mission later hev hp⟩

lemma executor {agent : String} (hid : Holds s id fun mission => mission.completedBy = some agent) :
    Holds s' id fun mission => mission.completedBy = some agent :=
  h.holds (fun _ _ hev => hev.executor agent) hid

lemma funded (hid : Holds s id fun mission => 0 < WattMissions.bounty mission) :
    Holds s' id fun mission => 0 < WattMissions.bounty mission := by
  obtain ⟨mission, hm, hbounty⟩ := hid
  obtain ⟨later, hlater, -, hspec, -⟩ := h.board id mission hm
  refine ⟨later, hlater, ?_⟩
  show 0 < (later.spec.reward.map MissionReward.agentWatt).getD 0
  rw [hspec]
  exact hbounty

lemma cancelled (hid : Holds s id fun mission => mission.status = .cancelled) :
    Holds s' id fun mission => mission.status = .cancelled :=
  h.holds (fun _ _ hev hc => (hev.final (.inr hc)).trans hc) hid

end Later

lemma Blank.evolves {m m' : CivilMission} (h : Evolves m m') : Blank m → Blank m' := by
  rintro ⟨agent, hagent, hblank⟩
  exact ⟨agent, h.executor agent hagent, hblank⟩

variable {keeps : Nat → Prop} {s s' : Shared} {id : String}

lemma PaidOut.later (h : Later keeps s s') {m m' : CivilMission} (hev : Evolves m m') :
    PaidOut s id m → PaidOut s' id m' := by
  rintro ⟨agent, hagent, hledger⟩
  refine ⟨agent, hev.executor agent hagent, ?_⟩
  cases hblank : isEmpty (trim agent) with
  | true =>
    rw [hblank] at hledger
    exact h.refunded id hledger
  | false =>
    rw [hblank] at hledger
    exact h.released id agent hledger

lemma PaidOut.landed {mission : CivilMission} (h : PaidOut s id mission) :
    s.ledger id ≠ .absent := by
  obtain ⟨agent, -, hledger⟩ := h
  rw [hledger]
  split <;> exact Escrow.noConfusion

/-! ## The discipline -/

/-- The mission is completed. -/
def Completed (s : Shared) (id : String) : Prop :=
  Holds s id fun mission => mission.status = .completed

/-- The next step takes the mission out of completed. -/
def leaves (spot : Spot) (s : Shared) (id : String) : Prop :=
  Holds s id fun mission => mission.status = .completed ∧ match spot with
    | .settleMissionBoard missionId _ => missionId = id
    | .cancelUnfunded missionId => missionId = id ∧ mission.hasUnconfirmedEscrow = true
    | _ => False

/-- The discipline of the handlers, with the missions for which the guarantees of the
schedule are in force. -/
def discipline (paid apart kept : String → Prop) : Discipline Shared Outcome Place where
  inv s := Sound s ∧ SettledPaid paid s ∧ Fair apart s ∧ Kept paid kept s
  rely j t s s' := Later (· = j) s s'
    ∧ (∀ id, apart id → t.settling = some id → Completed s id → Completed s' id)
    ∧ ∀ id, paid id → kept id → (∃ payer amount, t.spot = .sendRequest id (.lock payer amount)) →
        s.locking id = some j → Tracked s id → Tracked s' id
  ok t e s := (t.spot = .publishMissionOnBoard → s.board.get e.uuid = none)
    ∧ (∀ id, paid id → t.spot = .settleMissionBoard id none → ∀ mission,
        s.board.get id = some mission → mission.status = .completed → bounty mission ≤ 0)
    ∧ (∀ id, apart id → t.spot = .cancelOnBoard .uncertain id → ∀ mission,
        s.board.get id = some mission → mission.status ≠ .completed ∧ mission.status ≠ .settled)
    ∧ ∀ id, kept id → t.spot = .clearMissionEscrow .missing id → ¬ Owed s id
  free t t' s := (∀ id, apart id → t'.settling = some id → ¬ leaves t.spot s id)
    ∧ ∀ id, kept id → t.spot = .clearMissionEscrow .missing id →
        ¬ ∃ payer amount, t'.spot = .sendRequest id (.lock payer amount)
  rely_refl _ _ s := ⟨.refl _ s, fun _ _ _ h => h, fun _ _ _ _ _ h => h⟩
  rely_trans j _ _ _ _ h h' :=
    ⟨h.1.trans h'.1, fun id ha hid hc => h'.2.1 id ha hid (h.2.1 id ha hid hc),
      fun id hp hk ht hmine htracked => h'.2.2 id hp hk ht (h.1.locking id j rfl hmine)
        (h.2.2 id hp hk ht hmine htracked)⟩

variable {paid apart kept : String → Prop} {i : Nat} {t : Place} {c : Call}

/-- A step guarantees what the others rely on if it moves the state on, leaves
completed missions completed where it must, and keeps an escrow tracked while its
lock is about to be sent. -/
lemma guarantee_of (h : Later (· ≠ i) s s')
    (hstay : ∀ id, ¬ leaves t.spot s id → Completed s id → Completed s' id)
    (htracked : ∀ id, paid id → kept id → t.spot ≠ .clearMissionEscrow .missing id →
      s.locking id ≠ none → Tracked s id → Tracked s' id) :
    (discipline paid apart kept).Guarantee i t s s' := by
  intro j t' hj hfree
  refine ⟨h.mono fun k hk => ?_, fun id ha hid => hstay id (hfree.1 id ha hid), ?_⟩
  · rw [hk]
    exact hj
  · intro id hp hk ht hmine
    refine htracked id hp hk (fun hspot => hfree.2 id hk hspot ht) ?_
    rw [hmine]
    exact some_ne_none j

lemma later_of_guarantee (h : (discipline paid apart kept).Guarantee i t s s') :
    Later (fun _ => False) s s' := by
  have hfree : (discipline paid apart kept).free t ⟨.look, none⟩ s := by
    refine ⟨fun _ _ hid => (nomatch hid), fun _ _ _ hlock => ?_⟩
    obtain ⟨_, _, hspot⟩ := hlock
    cases hspot
  have hrely := h (i + 1) ⟨.look, none⟩ (Nat.succ_ne_self i) hfree
  exact hrely.1.mono fun _ hj => nomatch hj

lemma asked_later (hs : Sound s) (h : Later keeps s s') (hc : c ∈ s.calls)
    (hasked : Holds s c.escrowId (Asked c)) : Holds s' c.escrowId (Asked c) := by
  obtain ⟨mission, hm, hasked⟩ := hasked
  obtain ⟨later, hlater, hev, -, hfirm⟩ := h.board _ mission hm
  refine ⟨later, hlater, ?_⟩
  rw [Asked] at hasked ⊢
  cases hreq : c.request with
  | lock => exact trivial
  | release agent =>
    rw [hreq] at hasked
    obtain ⟨hthen, hnonblank, hagent, hf⟩ := hasked
    exact ⟨hthen, hnonblank, hev.executor agent hagent, hfirm (hs.call c hc).1 hf⟩
  | refund =>
    rw [hreq] at hasked
    obtain ⟨hthen, hcancelled | hblank⟩ := hasked
    · exact ⟨hthen, .inl ((hev.final (.inr hcancelled)).trans hcancelled)⟩
    · exact ⟨hthen, .inr (hblank.evolves hev)⟩

lemma call_later (hs : Sound s) (h : Later keeps s s') (hc : c ∈ s.calls) :
    s'.awaiting c.escrowId = none ∧ Holds s' c.escrowId fun mission =>
          ∀ payee, c.request = .release payee → mission.completedBy = some payee := by
  obtain ⟨hrec, mission, hm, hpayee⟩ := hs.call c hc
  refine ⟨h.recorded _ mission hm hrec, h.holds ?_ ⟨mission, hm, hpayee⟩⟩
  intro m m' hev hp payee hreq
  exact hev.executor payee (hp payee hreq)

/-! ## Escrows at stake -/

section AtStake

variable {s : Shared} {id : String} (hs : Sound s) {c : Call}

include hs

lemma lock_unique {c' : Call} (hc : c ∈ s.calls) (hc' : c' ∈ s.calls)
    (hlock : c.request.isLock = true) (hlock' : c'.request.isLock = true)
    (hid : c.escrowId = c'.escrowId) : c = c' := by
  obtain ⟨n, hn⟩ := List.getElem?_of_mem hc
  obtain ⟨n', hn'⟩ := List.getElem?_of_mem hc'
  obtain rfl := hs.once n n' c c' hn hn' hlock hlock' hid
  exact mem_unique hn hn'

/-- Until its lock is served with success, the ledger does not know the escrow. -/
lemma absent_of_unlanded (hc : c ∈ s.calls)
    (hlock : c.request.isLock = true) (hreply : c.reply ≠ some (.ok ())) :
    s.ledger c.escrowId = .absent := by
  by_contra hledger
  obtain ⟨c', hc', hid, hlock', hreply'⟩ := hs.landed _ hledger
  obtain rfl := lock_unique hs hc hc' hlock hlock' hid.symm
  exact hreply hreply'

/-- While a lock is to be sent, none was sent. -/
lemma unsent_of_locking (h : s.locking id ≠ none) (hc : c ∈ s.calls) (hid : c.escrowId = id) :
    c.request.isLock ≠ true := by
  obtain ⟨i, hi⟩ := ne_none_iff_exists'.mp h
  rw [(hs.locking id i hi).2.1 c hc hid]
  exact Bool.false_ne_true

lemma absent_of_locking (h : s.locking id ≠ none) : s.ledger id = .absent := by
  by_contra hledger
  obtain ⟨c, hc, hid, hlock, -⟩ := hs.landed id hledger
  exact unsent_of_locking hs h hc hid hlock

lemma funded_of_atStake (h : AtStake s id) : Holds s id fun mission => 0 < bounty mission := by
  rcases h with (⟨payer, amount, hledger⟩ | ⟨c, hc, rfl, hlock, -⟩) | hlocking
  · obtain ⟨c, hc, rfl, hlock, -⟩ := hs.landed id (by rw [hledger]; exact Escrow.noConfusion)
    exact hs.charged c hc hlock
  · exact hs.charged c hc hlock
  · obtain ⟨i, hi⟩ := ne_none_iff_exists'.mp hlocking
    exact (hs.locking id i hi).2.2

lemma not_atStake_of_final (habsent : s.ledger id ≠ .absent)
    (hlocked : ∀ payer amount, s.ledger id ≠ .locked payer amount) : ¬ AtStake s id := by
  rintro ((⟨payer, amount, hledger⟩ | ⟨c, hc, rfl, hlock, hreply⟩) | hlocking)
  · exact hlocked payer amount hledger
  · refine habsent (absent_of_unlanded hs hc hlock ?_)
    rw [hreply]
    intro h
    cases h
  · exact habsent (absent_of_locking hs hlocking)

lemma not_atStake_of_refused (hc : c ∈ s.calls)
    (hlock : c.request.isLock = true) {error : LedgerError} (hreply : c.reply = some (.error error)) :
    ¬ AtStake s c.escrowId := by
  have habsent : s.ledger c.escrowId = .absent := by
    refine absent_of_unlanded hs hc hlock ?_
    rw [hreply]
    intro h
    cases h
  rintro ((⟨payer, amount, hledger⟩ | ⟨c', hc', hid, hlock', hreply'⟩) | hlocking)
  · cases habsent.symm.trans hledger
  · obtain rfl := lock_unique hs hc hc' hlock hlock' hid.symm
    cases hreply.symm.trans hreply'
  · exact unsent_of_locking hs hlocking hc rfl hlock

lemma PaidOut.not_atStake {mission : CivilMission} (h : PaidOut s id mission) : ¬ AtStake s id := by
  refine not_atStake_of_final hs h.landed fun payer amount => ?_
  obtain ⟨agent, -, hledger⟩ := h
  rw [hledger]
  split <;> exact Escrow.noConfusion

end AtStake

/-! ## Steps on the board -/

/-- A step that leaves the ledger and the requests alone keeps the invariants, if it
keeps missions recorded, settles only what is paid and keeps track of what is
owed. -/
lemma inv_of_board (hs : (discipline paid apart kept).inv s) (h : Later keeps s s')
    (hledger : s'.ledger = s.ledger) (hcalls : s'.calls = s.calls)
    (hboard : ∀ id mission, s'.board.get id = some mission → Recorded id mission)
    (hawaiting : ∀ id mission, s'.board.get id = some mission → s'.awaiting id ≠ none →
      mission.escrowId = none) (hlocking : ∀ id i, s'.locking id = some i → s'.awaiting id = none
      ∧ (∀ c ∈ s.calls, c.escrowId = id → c.request.isLock = false)
      ∧ Holds s' id fun mission => 0 < bounty mission) (hpaid : SettledPaid paid s')
    (hkept : ∀ id, paid id → kept id → Owed s id → Tracked s id → Tracked s' id) :
    (discipline paid apart kept).inv s' := by
  obtain ⟨hsound, -, hfair, hold⟩ := hs
  refine ⟨⟨hboard, hawaiting, ?_, ?_, ?_, ?_, ?_, ?_, ?_, ?_⟩, hpaid, ?_, ?_⟩
  · intro c hc
    exact call_later hsound h (hcalls ▸ hc)
  · intro c hc
    exact hsound.about c (hcalls ▸ hc)
  · intro c hc
    rw [hledger]
    exact hsound.served c (hcalls ▸ hc)
  · intro id payee hreleased
    exact h.executor (hsound.ledger id payee (hledger ▸ hreleased))
  · rw [hledger, hcalls]
    exact hsound.landed
  · rw [hcalls]
    exact hsound.once
  · intro c hc hlock
    exact h.funded (hsound.charged c (hcalls ▸ hc) hlock)
  · rw [hcalls]
    exact hlocking
  · intro c hc ha
    exact asked_later hsound h (hcalls ▸ hc) (hfair c (hcalls ▸ hc) ha)
  · intro id hp hk howed
    have howed' : Owed s id := by
      unfold Owed at howed ⊢
      rwa [hledger, hcalls] at howed
    exact hkept id hp hk howed' (hold id hp hk howed')

/-- The calls that need no more than a recorded mission. -/
def Routine (s : Shared) : BoardOp → Prop
  | .publish .. | .recordBountyEscrowIntent .. => False
  | .markBountyEscrowed missionId escrowId _ =>
    escrowId = missionId ∧ s.awaiting missionId = none
  | .applyRemoteCompleted _ agentDid _ _ _ => isEmpty (trim agentDid) = false
  | .setExpiry .. | .clearBountyEscrow .. | .claimAs .. | .complete .. | .cancel ..
  | .cancelUnfunded .. | .settle .. | .cancelIfExpired .. | .applyRemoteClaimApproved .. => True

variable {op : BoardOp} {α : Type} {xs : List α} {x : α} {board : MissionBoard} {P : α → Prop}

lemma Routine.sane (h : Routine s op) : Sane op := by
  cases op with
  | publish => exact trivial
  | recordBountyEscrowIntent => exact h.elim
  | markBountyEscrowed => exact h.1
  | applyRemoteCompleted => exact h
  | setExpiry | clearBountyEscrow | claimAs | complete | cancel | cancelUnfunded | settle
  | cancelIfExpired | applyRemoteClaimApproved => exact trivial

lemma Routine.rewrites (h : Routine s op) : Rewrites op := by
  rintro spec uuid now rfl
  exact h

lemma later_routine (hs : Sound s) (h : Routine s op) (keeps : Nat → Prop) :
    Later keeps s { s with board := step s.board op } := by
  refine { Later.refl keeps s with board := fun id mission hm => ?_ }
  rcases rewrites_get h.rewrites hm with ⟨-, hget⟩ | ⟨-, hget⟩
  · have hev := (orderly_body op mission (hs.board id mission hm).wellFormed).2
    refine ⟨_, hget, hev, (change_body op mission).spec_eq,
      fun _ => (change_body op mission).firm hev ?_⟩
    rintro missionId escrowId now rfl
    exact h
  · exact ⟨mission, hget, .refl mission, rfl, fun _ hfirm => hfirm⟩

/-- A routine call keeps an escrow tracked, unless it clears it or settles its
mission. -/
lemma tracked_routine (h : Routine s op) (hclear : ∀ now, op ≠ .clearBountyEscrow id now)
    (hsettle : ∀ now mission, op = .settle id now → s.board.get id = some mission →
      mission.status ≠ .completed) (htracked : Tracked s id) :
    Tracked { s with board := step s.board op } id := by
  obtain ⟨mission, hm, hescrow, hstatus⟩ := htracked
  rcases rewrites_get h.rewrites hm with ⟨rfl, hget⟩ | ⟨-, hget⟩
  · refine ⟨_, hget, ?_, fun hsettled => ?_⟩
    · rcases (change_body op mission).escrow_kept hescrow with
        hkept | ⟨missionId, now, rfl⟩ | ⟨_, _, _, rfl⟩ | ⟨missionId, escrowId, now, rfl, hid⟩
      · exact hkept
      · exact absurd rfl (hclear now)
      · exact h.elim
      · rw [hid, h.1]
        rfl
    · rcases (change_body op mission).settled hsettled with hold | ⟨missionId, now, rfl, hc, -⟩
      · exact hstatus hold
      · exact hsettle now mission rfl hm hc
  · exact ⟨mission, hget, hescrow, hstatus⟩

lemma inv_routine (hs : (discipline paid apart kept).inv s) (h : Routine s op)
    (hsettle : ∀ id, paid id → ∀ now mission, op = .settle id now → s.board.get id = some mission →
      mission.status = .completed → 0 < bounty mission → PaidOut s id mission)
    (hkept : ∀ id, paid id → kept id → Owed s id → Tracked s id →
      Tracked { s with board := step s.board op } id) :
    (discipline paid apart kept).inv { s with board := step s.board op } := by
  have hlater := later_routine hs.1 h fun _ => True
  refine inv_of_board hs hlater rfl rfl ?_ ?_ ?_ ?_ hkept
  · intro id later hget
    rcases rewrites_cases h.rewrites hget with ⟨rfl, mission, hm, rfl⟩ | ⟨-, hold⟩
    · exact recorded_body _ h.sane (hs.1.board _ mission hm)
    · exact hs.1.board id later hold
  · intro id later hget hawaiting
    rcases rewrites_cases h.rewrites hget with ⟨rfl, mission, hm, rfl⟩ | ⟨-, hold⟩
    · -- nobody else puts an escrow on the mission
      rw [eq_none_iff_forall_ne_some]
      intro escrowId hescrow
      rcases (change_body op mission).escrow hescrow with hold | ⟨_, _, rfl⟩ | ⟨_, _, rfl⟩
      · rw [hs.1.awaiting _ mission hm hawaiting] at hold
        cases hold
      · exact h
      · exact hawaiting h.2
    · exact hs.1.awaiting id later hold hawaiting
  · intro id i hlocking
    obtain ⟨hrec, hcalls, hfunded⟩ := hs.1.locking id i hlocking
    exact ⟨hrec, hcalls, hlater.funded hfunded⟩
  · intro id hpaid later hget hsettled hbounty
    rcases rewrites_cases h.rewrites hget with ⟨rfl, mission, hm, rfl⟩ | ⟨-, hold⟩
    · have hev := (orderly_body op mission (hs.1.board _ mission hm).wellFormed).2
      have hbounty' : 0 < bounty mission := by
        rw [bounty, (change_body op mission).spec_eq] at hbounty
        exact hbounty
      rcases (change_body op mission).settled hsettled with hold | ⟨missionId, now, rfl, hc, -⟩
      · exact (hs.2.1 _ hpaid mission hm hold hbounty').later hlater hev
      · exact (hsettle missionId hpaid now mission rfl hm hc hbounty').later hlater hev
    · exact (hs.2.1 id hpaid later hold hsettled hbounty).later hlater (.refl later)

/-- A step on the board that a handler may take at a place: nothing, or a routine
call, with the calls that leave completed and those that forget an escrow at the
places named for them. -/
inductive BoardStep (paid kept : String → Prop) (spot : Spot) (s : Shared) (board : MissionBoard) :
    Prop where
  | same (h : board = s.board)
  | call (op : BoardOp) (h : board = step s.board op) (routine : Routine s op)
      (settle : ∀ id now, op = .settle id now → (∃ payout, spot = .settleMissionBoard id payout)
        ∧ (paid id → ∀ mission, s.board.get id = some mission → mission.status = .completed →
            0 < bounty mission → PaidOut s id mission))
      (unfund : ∀ id now, op = .cancelUnfunded id now → spot = .cancelUnfunded id)
      (clear : ∀ id now, op = .clearBountyEscrow id now → kept id → ¬ Owed s id
        ∧ (spot = .clearMissionEscrow .missing id ∨ s.locking id = none))

lemma tracked_call (hs : Sound s) (routine : Routine s op)
    (settle : ∀ id now, op = .settle id now → paid id → ∀ mission, s.board.get id = some mission →
      mission.status = .completed → 0 < bounty mission → PaidOut s id mission) (hpaid : paid id)
    (hstake : AtStake s id) (hclear : ∀ now, op ≠ .clearBountyEscrow id now)
    (htracked : Tracked s id) : Tracked { s with board := step s.board op } id := by
  refine tracked_routine routine hclear (fun now mission hop hm hcompleted => ?_) htracked
  obtain ⟨mission', hm', hfunded⟩ := funded_of_atStake hs hstake
  obtain rfl := mem_unique hm hm'
  exact (settle id now hop hpaid mission hm hcompleted hfunded).not_atStake hs hstake

/-- **BOARD STEPS** keep the discipline. -/
lemma boardStep_ok (hs : (discipline paid apart kept).inv s)
    (h : BoardStep paid kept t.spot s board) : (discipline paid apart kept).inv { s with board }
      ∧ (discipline paid apart kept).Guarantee i t s { s with board } := by
  cases h with
  | same h =>
    subst h
    exact ⟨hs, fun j t' _ _ => (discipline paid apart kept).rely_refl j t' s⟩
  | call op h routine settle unfund clear =>
    subst h
    have hsettle : ∀ id now, op = .settle id now → paid id → ∀ mission,
        s.board.get id = some mission → mission.status = .completed → 0 < bounty mission →
          PaidOut s id mission := fun id now hop => (settle id now hop).2
    refine ⟨inv_routine hs routine ?_ ?_, guarantee_of (later_routine hs.1 routine _) ?_ ?_⟩
    · intro id hpaid now mission hop hm
      exact hsettle id now hop hpaid mission hm
    · intro id hp hk howed
      refine tracked_call hs.1 routine hsettle hp (.inl howed) fun now hop => ?_
      exact (clear id now hop hk).1 howed
    · rintro id hleaves ⟨mission, hm, hcompleted⟩
      rcases rewrites_get routine.rewrites hm with ⟨hid, hget⟩ | ⟨-, hget⟩
      · rcases (change_body op mission).completed hcompleted with
          h | ⟨missionId, now, rfl, -⟩ | ⟨missionId, now, rfl, hunconfirmed⟩
        · exact ⟨_, hget, h⟩
        · obtain ⟨payout, hspot⟩ := (settle missionId now rfl).1
          exact absurd ⟨mission, hm, hcompleted, by rw [hspot]; exact hid.symm⟩ hleaves
        · have hspot := unfund missionId now rfl
          exact absurd ⟨mission, hm, hcompleted, by rw [hspot]; exact ⟨hid.symm, hunconfirmed⟩⟩
            hleaves
      · exact ⟨mission, hget, hcompleted⟩
    · intro id hp hk hspot hlocking
      refine tracked_call hs.1 routine hsettle hp (.inr hlocking) fun now hop => ?_
      rcases (clear id now hop hk).2 with hmissing | hnone
      · exact hspot hmissing
      · exact hlocking hnone

/-! ## Publishing -/

lemma writePublication_eq (board : MissionBoard) (spec : MissionSpec) (expiresAt : Option Int)
    (uuid : String) (now : Int) :
    ∃ mission, (writePublication board spec expiresAt uuid now).1 = .ok mission
      ∧ Recorded uuid mission ∧ mission.escrowId = none ∧ mission.status = .open
      ∧ ∀ id, (writePublication board spec expiresAt uuid now).2.get id
          = if id = uuid then some mission else board.get id := by
  have hpublication := recorded_publication spec uuid now
  cases expiresAt with
  | none =>
    exact ⟨publication spec uuid now, rfl, hpublication, rfl, rfl,
      MissionBoard.get_put board uuid _⟩
  | some expiresAt =>
    have hget : (board.put uuid (publication spec uuid now)).get uuid
        = some (publication spec uuid now) := by
      rw [MissionBoard.get_put, if_pos rfl]
    refine ⟨(setExpiryRecord (some expiresAt) now (publication spec uuid now)).2, ?_,
      recorded_body (.setExpiry uuid (some expiresAt) now) trivial hpublication, rfl, rfl, ?_⟩
    · show ((board.put uuid (publication spec uuid now)).withMission uuid
        (setExpiryRecord (some expiresAt) now)).1 = _
      rw [MissionBoard.withMission, hget]
      rfl
    · intro id
      show ((board.put uuid (publication spec uuid now)).withMission uuid
        (setExpiryRecord (some expiresAt) now)).2.get id = _
      rw [MissionBoard.get_withMission, hget, MissionBoard.get_put]
      by_cases hid : id = uuid
      · simp only [hid, if_true, map_some]
      · simp only [hid, if_false]

/-- **PUBLISHING** under a new id keeps the discipline. -/
lemma publish_ok (hs : (discipline paid apart kept).inv s)
    {uuid : String} {mission : CivilMission} (hfresh : s.board.get uuid = none)
    (hrecorded : Recorded uuid mission) (hescrow : mission.escrowId = none)
    (hopen : mission.status = .open)
    (hget : ∀ id, board.get id = if id = uuid then some mission else s.board.get id) :
    let s' : Shared := { s with
      board
      awaiting := update s.awaiting uuid (some i) }
    (discipline paid apart kept).inv s' ∧ (discipline paid apart kept).Guarantee i t s s' := by
  intro s'
  have hold : ∀ {id m}, s.board.get id = some m →
      id ≠ uuid ∧ board.get id = some m ∧ s'.awaiting id = s.awaiting id := by
    intro id m hm
    have hid : id ≠ uuid := by
      rintro rfl
      rw [hfresh] at hm
      cases hm
    exact ⟨hid, by rw [hget, if_neg hid, hm], update_of_ne hid ..⟩
  have hnew : ∀ {id m}, board.get id = some m →
      id = uuid ∧ m = mission ∨ s.board.get id = some m := by
    intro id m hm
    rw [hget] at hm
    by_cases hid : id = uuid
    · rw [if_pos hid] at hm
      exact .inl ⟨hid, (some.inj hm).symm⟩
    · rw [if_neg hid] at hm
      exact .inr hm
  have hlater : Later (· ≠ i) s s' := by
    refine { Later.refl _ s with board := ?_, recorded := ?_, awaiting := ?_ }
    · intro id m hm
      exact ⟨m, (hold hm).2.1, .refl m, rfl, fun _ hfirm => hfirm⟩
    · intro id m hm hrec
      rw [(hold hm).2.2]
      exact hrec
    · intro id m hm j _ hj
      rw [(hold hm).2.2]
      exact hj
  have htracked : ∀ id, Tracked s id → Tracked s' id := by
    rintro id ⟨m, hm, htracked⟩
    exact ⟨m, (hold hm).2.1, htracked⟩
  refine ⟨inv_of_board hs hlater rfl rfl ?_ ?_ ?_ ?_ fun id _ _ _ => htracked id,
    guarantee_of hlater ?_ fun id _ _ _ _ => htracked id⟩
  · intro id m hm
    rcases hnew hm with ⟨rfl, rfl⟩ | hm
    · exact hrecorded
    · exact hs.1.board id m hm
  · intro id m hm hawaiting
    rcases hnew hm with ⟨rfl, rfl⟩ | hm
    · exact hescrow
    · rw [(hold hm).2.2] at hawaiting
      exact hs.1.awaiting id m hm hawaiting
  · intro id j hlocking
    obtain ⟨hrec, hcalls, m, hm, hbounty⟩ := hs.1.locking id j hlocking
    exact ⟨hlater.recorded id m hm hrec, hcalls, hlater.funded ⟨m, hm, hbounty⟩⟩
  · intro id hpaid m hm hsettled hbounty
    rcases hnew hm with ⟨rfl, rfl⟩ | hm
    · rw [hopen] at hsettled
      cases hsettled
    · exact (hs.2.1 id hpaid m hm hsettled hbounty).later hlater (.refl m)
  · rintro id - ⟨m, hm, hcompleted⟩
    exact ⟨m, (hold hm).2.1, hcompleted⟩

lemma no_calls_of_awaiting (hs : Sound s) (h : s.awaiting id ≠ none) :
    ∀ c ∈ s.calls, c.escrowId ≠ id := by
  rintro c hc rfl
  exact h (hs.call c hc).1

/-- A mission with a bounty whose escrow is not recorded has not been settled. -/
lemma unsettled_of_awaiting (hs : Sound s) (hpaid : SettledPaid paid s)
    (h : s.awaiting id ≠ none) (hp : paid id) {mission : CivilMission}
    (hm : s.board.get id = some mission) (hbounty : 0 < bounty mission) :
    mission.status ≠ .settled := by
  intro hsettled
  obtain ⟨c, hc, hid, -⟩ := hs.landed id (hpaid id hp mission hm hsettled hbounty).landed
  exact no_calls_of_awaiting hs h c hc hid

/-- **RECORDING AN INTENT** by the handler that published the mission, for a bounty,
keeps the discipline, and the board tracks the escrow. -/
lemma intent_ok (hs : (discipline paid apart kept).inv s) (now : Int)
    (hmine : s.awaiting id = some i) (hfunded : Holds s id fun mission => 0 < bounty mission) :
    let s' : Shared := { s with
      board := step s.board (.recordBountyEscrowIntent id id now)
      awaiting := update s.awaiting id none
      locking := update s.locking id (some i) }
    (discipline paid apart kept).inv s' ∧ (discipline paid apart kept).Guarantee i t s s'
      ∧ (paid id → Tracked s' id) := by
  intro s'
  have hrewrites : Rewrites (.recordBountyEscrowIntent id id now) := by
    intro spec uuid now' h
    cases h
  have hawaiting : s.awaiting id ≠ none := by
    rw [hmine]
    exact some_ne_none i
  have hother : ∀ {id'}, id' ≠ id → s'.awaiting id' = s.awaiting id' := fun hid =>
    update_of_ne hid ..
  have hevolves : ∀ {m}, s.board.get id = some m →
      Evolves m (recordBountyEscrowIntentRecord id now m).2 := fun hm =>
    (orderly_body (.recordBountyEscrowIntent id id now) _ (hs.1.board id _ hm).wellFormed).2
  -- its lock was not under way before
  have hfresh : s.locking id = none := by
    rw [eq_none_iff_forall_ne_some]
    intro j hj
    exact hawaiting (hs.1.locking id j hj).1
  have hlater : Later (· ≠ i) s s' := by
    refine { Later.refl (· ≠ i) s with
      board := ?_, recorded := ?_, awaiting := ?_, locking := ?_ }
    · intro id' m hm
      rcases rewrites_get hrewrites hm with ⟨rfl, hget⟩ | ⟨-, hget⟩
      · -- its escrow was not recorded before
        exact ⟨_, hget, hevolves hm, rfl, fun hrec => nomatch hmine.symm.trans hrec⟩
      · exact ⟨m, hget, .refl m, rfl, fun _ hfirm => hfirm⟩
    · intro id' m _ hrec
      by_cases hid : id' = id
      · rw [hid]
        exact update_self ..
      · rw [hother hid]
        exact hrec
    · intro id' m _ j hj hmine'
      have hid : id' ≠ id := by
        rintro rfl
        exact hj (mem_unique hmine' hmine)
      rw [hother hid]
      exact hmine'
    · intro id' j _ hlocking
      have hid : id' ≠ id := by
        rintro rfl
        cases hfresh.symm.trans hlocking
      exact (update_of_ne hid ..).trans hlocking
  have hget : ∀ {m}, s.board.get id = some m →
      s'.board.get id = some (recordBountyEscrowIntentRecord id now m).2 := by
    intro m hm
    rcases rewrites_get hrewrites hm with ⟨-, hget⟩ | ⟨hne, -⟩
    · exact hget
    · exact absurd rfl hne
  have htracked : ∀ id', Tracked s id' → Tracked s' id' := by
    rintro id' ⟨m, hm, hescrow, hstatus⟩
    rcases rewrites_get hrewrites hm with ⟨rfl, hget⟩ | ⟨-, hget⟩
    · exact ⟨_, hget, rfl, hstatus⟩
    · exact ⟨m, hget, hescrow, hstatus⟩
  refine ⟨inv_of_board hs hlater rfl rfl ?_ ?_ ?_ ?_ fun id' _ _ _ => htracked id',
    guarantee_of hlater ?_ fun id' _ _ _ _ => htracked id', fun hp => ?_⟩
  · intro id' m' hm'
    rcases rewrites_cases hrewrites hm' with ⟨rfl, m, hm, rfl⟩ | ⟨-, hm⟩
    · exact recorded_body (.recordBountyEscrowIntent id' id' now) (Eq.refl id')
        (hs.1.board id' m hm)
    · exact hs.1.board id' m' hm
  · intro id' m' hm' hawaiting
    rcases rewrites_cases hrewrites hm' with ⟨rfl, -⟩ | ⟨hid, hm⟩
    · exact absurd (update_self ..) hawaiting
    · rw [hother hid] at hawaiting
      exact hs.1.awaiting id' m' hm hawaiting
  · intro id' j hlocking
    by_cases hid : id' = id
    · subst hid
      refine ⟨update_self .., fun c hc hcid => ?_, hlater.funded hfunded⟩
      exact absurd hcid (no_calls_of_awaiting hs.1 hawaiting c hc)
    · obtain ⟨hrec, hcalls, hfunded'⟩ :=
        hs.1.locking id' j ((update_of_ne hid ..).symm.trans hlocking)
      exact ⟨(hother hid).trans hrec, hcalls, hlater.funded hfunded'⟩
  · intro id' hpaid m' hm' hsettled hbounty
    rcases rewrites_cases hrewrites hm' with ⟨rfl, m, hm, rfl⟩ | ⟨-, hm⟩
    · exact (hs.2.1 id' hpaid m hm hsettled hbounty).later hlater (hevolves hm)
    · exact (hs.2.1 id' hpaid m' hm hsettled hbounty).later hlater (.refl m')
  · rintro id' - ⟨m, hm, hcompleted⟩
    rcases rewrites_get hrewrites hm with ⟨-, hget⟩ | ⟨-, hget⟩
    · exact ⟨_, hget, hcompleted⟩
    · exact ⟨m, hget, hcompleted⟩
  · obtain ⟨m, hm, hbounty⟩ := hfunded
    have hunsettled : m.status ≠ .settled :=
      unsettled_of_awaiting hs.1 hs.2.1 hawaiting hp hm hbounty
    exact ⟨_, hget hm, rfl, hunsettled⟩

/-! ## Requests to the ledger -/

lemma forall_mem_concat (h : ∀ y ∈ xs, P y) (hx : P x) : ∀ y ∈ xs ++ [x], P y :=
  forall_mem_append.mpr ⟨h, forall_mem_singleton.mpr hx⟩

lemma forall_mem_set {n : Nat} (h : ∀ y ∈ xs, P y) (hx : P x) : ∀ y ∈ xs.set n x, P y := by
  intro y hy
  rcases mem_or_eq_of_mem_set hy with hold | rfl
  · exact h y hold
  · exact hx

lemma getElem?_concat {y : α} {n : Nat}
    (h : (xs ++ [x])[n]? = some y) : (xs[n]? = some y ∧ n < xs.length) ∨ (n = xs.length ∧ x = y) := by
  rcases Nat.lt_or_ge n xs.length with hlt | hge
  · rw [List.getElem?_append_left hlt] at h
    exact .inl ⟨h, hlt⟩
  · rw [List.getElem?_append_right hge] at h
    obtain ⟨hzero, hxy⟩ := List.getElem?_eq_some_iff.mp h
    have hn : n - xs.length = 0 := Nat.lt_one_iff.mp hzero
    refine .inr ⟨Nat.le_antisymm (Nat.sub_eq_zero_iff_le.mp hn) hge, ?_⟩
    simpa [hn] using hxy

/-- A request a handler may send: about a mission whose escrow was recorded, naming
its executor, and fair when that is asked for; a lock only by the handler that
recorded the escrow, while the board tracks it. -/
structure Permitted (paid apart kept : String → Prop) (i : Nat) (s : Shared) (id : String)
    (request : LedgerRequest) : Prop where
  recorded : s.awaiting id = none
  mission : Holds s id fun mission =>
    (∀ payee, request = .release payee → mission.completedBy = some payee)
      ∧ (apart id → Asked ⟨id, request, some mission, none⟩ mission)
  lock : request.isLock = true → s.locking id = some i ∧ (paid id → kept id → Tracked s id)

/-- The locks still to be sent once a request has left. -/
def lockingAfter (s : Shared) (id : String) (request : LedgerRequest) : String → Option Nat :=
  if request.isLock then update s.locking id none else s.locking

variable {request : LedgerRequest}

/-- A lock that is still to be sent afterwards is about another escrow, or the request
was no lock. -/
lemma lockingAfter_some {id' : String} {j : Nat} (h : lockingAfter s id request id' = some j) :
    s.locking id' = some j ∧ (id' = id → request.isLock = false) := by
  unfold lockingAfter at h
  cases hlock : request.isLock with
  | false =>
    rw [hlock] at h
    exact ⟨h, fun _ => rfl⟩
  | true =>
    rw [hlock] at h
    by_cases hid : id' = id
    · rw [hid] at h
      cases (update_self ..).symm.trans h
    · exact ⟨(update_of_ne hid ..).symm.trans h, fun h => absurd h hid⟩

/-- **SENDING** a permitted request keeps the discipline. -/
lemma send_ok (hs : (discipline paid apart kept).inv s)
    (h : Permitted paid apart kept i s id request) :
    let s' : Shared := { s with
      calls := s.calls ++ [⟨id, request, s.board.get id, none⟩]
      locking := lockingAfter s id request }
    (discipline paid apart kept).inv s' ∧ (discipline paid apart kept).Guarantee i t s s' := by
  intro s'
  obtain ⟨mission, hm, hpayee, hasked⟩ := h.mission
  have hlater : Later (· ≠ i) s s' := by
    refine { Later.refl _ s with locking := ?_, calls := ?_ }
    rotate_left
    · intro n c hc
      exact ⟨c, List.getElem?_append_left (List.getElem?_eq_some_iff.mp hc).1 ▸ hc, rfl, rfl,
        fun _ hreply => hreply⟩
    · intro id' j hj hlocking
      show lockingAfter s id request id' = some j
      unfold lockingAfter
      cases hlock : request.isLock with
      | false => exact hlocking
      | true =>
        have hid : id' ≠ id := by
          rintro rfl
          exact hj (mem_unique hlocking (h.lock hlock).1)
        exact (update_of_ne hid ..).trans hlocking
  -- the request is the only lock of its escrow
  have hfirst : request.isLock = true → ∀ c ∈ s.calls, c.escrowId = id →
      c.request.isLock = false := fun hlock => (hs.1.locking id i (h.lock hlock).1).2.1
  refine ⟨⟨⟨hs.1.board, hs.1.awaiting, ?_, ?_, ?_, hs.1.ledger, ?_, ?_, ?_, ?_⟩, hs.2.1, ?_, ?_⟩,
    guarantee_of hlater (fun _ _ hc => hc) fun _ _ _ _ _ ht => ht⟩
  · exact forall_mem_concat hs.1.call ⟨h.recorded, mission, hm, hpayee⟩
  · exact forall_mem_concat hs.1.about fun mission' hm' => (hs.1.board id mission' hm').key
  · exact forall_mem_concat hs.1.served fun hreply => nomatch hreply
  · intro id' hledger
    obtain ⟨c, hc, hlanded⟩ := hs.1.landed id' hledger
    exact ⟨c, mem_append_left _ hc, hlanded⟩
  · intro n n' c c' hn hn' hlock hlock' hid
    rcases getElem?_concat hn with ⟨hn, -⟩ | ⟨hn, hc⟩
    · rcases getElem?_concat hn' with ⟨hn', -⟩ | ⟨-, hc'⟩
      · exact hs.1.once n n' c c' hn hn' hlock hlock' hid
      · subst hc'
        rw [hfirst hlock' c (mem_of_getElem? hn) hid] at hlock
        cases hlock
    · rcases getElem?_concat hn' with ⟨hn', -⟩ | ⟨hn', -⟩
      · subst hc
        rw [hfirst hlock c' (mem_of_getElem? hn') hid.symm] at hlock'
        cases hlock'
      · exact hn.trans hn'.symm
  · exact forall_mem_concat hs.1.charged fun hlock => (hs.1.locking id i (h.lock hlock).1).2.2
  · intro id' j hlocking
    obtain ⟨hlocking, hnot⟩ := lockingAfter_some hlocking
    obtain ⟨hrec, hcalls, hfunded⟩ := hs.1.locking id' j hlocking
    exact ⟨hrec, forall_mem_concat hcalls fun hcid => hnot hcid.symm, hfunded⟩
  · refine forall_mem_concat hs.2.2.1 fun ha => ?_
    rw [hm]
    exact ⟨mission, hm, hasked ha⟩
  · intro id' hp hk howed
    rcases howed with hledger | ⟨c, hc, hcid, hlock, hreply⟩
    · exact hs.2.2.2 id' hp hk (.inl hledger)
    · rcases mem_append.mp hc with hold | hnew
      · exact hs.2.2.2 id' hp hk (.inr ⟨c, hold, hcid, hlock, hreply⟩)
      · cases mem_singleton.mp hnew
        obtain rfl : id = id' := hcid
        exact (h.lock hlock).2 hp hk

/-! ## The ledger -/

lemma answer_released (request : LedgerRequest) (payee : String) :
    (request.answer (.released payee)).2 = .released payee := by
  cases request <;> rfl

lemma answer_refunded (request : LedgerRequest) : (request.answer .refunded).2 = .refunded := by
  cases request <;> rfl

variable {escrow : Escrow}

lemma served_answer (h : (request.answer escrow).1 = .ok ()) :
    Served request (request.answer escrow).2 := by
  cases request with
  | lock payer amount => exact trivial
  | release payee => cases escrow <;> first | exact ⟨_, rfl⟩ | cases h
  | refund => cases escrow <;> first | rfl | cases h

lemma released_answer {payee : String} (h : (request.answer escrow).2 = .released payee) :
    escrow = .released payee ∨ request = .release payee := by
  cases request with
  | lock payer amount => cases escrow <;> first | exact .inl h | cases h
  | release payee' =>
    cases escrow with
    | locked payer amount => exact .inr (congrArg _ (Escrow.released.inj h))
    | absent | released | refunded => exact .inl h
  | refund => cases escrow <;> first | exact .inl h | cases h

lemma serve_cases (s : Shared) (n : Nat) (fault : Option LedgerError) : s.serve n fault = s
    ∨ ∃ call, s.calls[n]? = some call ∧ call.reply = none ∧ ∃ reply escrow,
        s.serve n fault = { s with
          ledger := update s.ledger call.escrowId escrow
          calls := s.calls.set n { call with reply := some reply } }
        ∧ (escrow = s.ledger call.escrowId ∧ (∃ error, reply = .error error)
          ∨ reply = (call.request.answer (s.ledger call.escrowId)).1
            ∧ escrow = (call.request.answer (s.ledger call.escrowId)).2) := by
  rw [Shared.serve]
  cases hcall : s.calls[n]? with
  | none => exact .inl rfl
  | some call =>
    by_cases hreply : call.reply.isSome = true
    · exact .inl (if_pos hreply)
    · right
      refine ⟨call, rfl, by simpa using hreply, ?_⟩
      simp only [hreply]
      cases fault.filter call.request.mayFailWith with
      | some error =>
        refine ⟨.error error, s.ledger call.escrowId, ?_, .inl ⟨rfl, error, rfl⟩⟩
        rw [update_eq_self]
        rfl
      | none => exact ⟨_, _, rfl, .inr ⟨rfl, rfl⟩⟩

lemma Served.later (h : Later keeps s s') (hserved : Served request (s.ledger id)) :
    Served request (s'.ledger id) := by
  cases request with
  | lock payer amount => exact trivial
  | release payee =>
    obtain ⟨payee', hpayee'⟩ := hserved
    exact ⟨payee', h.released id payee' hpayee'⟩
  | refund => exact h.refunded id hserved

lemma later_serve (s : Shared) (n : Nat) (fault : Option LedgerError) :
    Later (fun _ => True) s (s.serve n fault) := by
  rcases serve_cases s n fault with heq | ⟨call, hcall, hunserved, reply, escrow, heq, hanswer⟩
  · rw [heq]
    exact .refl _ s
  rw [heq]
  -- an escrow in a state that every answer keeps stays in it
  have hfinal : ∀ id final, s.ledger id = final →
      (∀ request : LedgerRequest, (request.answer final).2 = final) →
      update s.ledger call.escrowId escrow id = final := by
    intro id final hid hkeeps
    by_cases hcallid : id = call.escrowId
    · subst hcallid
      rw [update_self]
      rcases hanswer with ⟨rfl, -⟩ | ⟨-, rfl⟩
      · exact hid
      · rw [hid]
        exact hkeeps call.request
    · rw [update_of_ne hcallid]
      exact hid
  refine { Later.refl _ s with released := ?_, refunded := ?_, calls := ?_ }
  · intro id payee h
    exact hfinal id _ h fun request => answer_released request payee
  · intro id h
    exact hfinal id _ h answer_refunded
  · intro k c hc
    by_cases hk : n = k
    · subst hk
      obtain rfl := mem_unique hcall hc
      refine ⟨_, List.getElem?_set_self (List.getElem?_eq_some_iff.mp hcall).1, rfl, rfl, ?_⟩
      intro reply' hreply'
      cases hunserved.symm.trans hreply'
    · exact ⟨c, (List.getElem?_set_ne hk).trans hc, rfl, rfl, fun _ hreply => hreply⟩

lemma lock_of_answer (habsent : escrow = .absent) (h : (request.answer escrow).2 ≠ .absent) :
    request.isLock = true ∧ (request.answer escrow).1 = .ok () := by
  subst habsent
  cases request with
  | lock payer amount => exact ⟨rfl, rfl⟩
  | release payee => exact absurd rfl h
  | refund => exact absurd rfl h

/-- An escrow that is locked afterwards was locked before, or its lock was served. -/
lemma locked_answer {payer : String} {amount : Int}
    (h : (request.answer escrow).2 = .locked payer amount) :
    (∃ payer amount, escrow = .locked payer amount) ∨ request.isLock = true := by
  cases request with
  | lock => exact .inr rfl
  | release payee =>
    cases escrow with
    | locked payer' amount' => exact .inl ⟨payer', amount', rfl⟩
    | absent | released | refunded => cases h
  | refund =>
    cases escrow with
    | locked payer' amount' => exact .inl ⟨payer', amount', rfl⟩
    | absent | released | refunded => cases h

section Serving

variable {s : Shared} {n : Nat} {call : Call} {reply : Except LedgerError Unit} {c : Call}

lemma mem_set_of_served (hcall : s.calls[n]? = some call) (hunserved : call.reply = none)
    (hc : c ∈ s.calls) (hserved : c.reply ≠ none) :
    c ∈ s.calls.set n { call with reply := some reply } := by
  obtain ⟨k, hk⟩ := List.getElem?_of_mem hc
  have hne : n ≠ k := by
    rintro rfl
    obtain rfl := mem_unique hcall hk
    exact hserved hunserved
  exact mem_of_getElem? ((List.getElem?_set_ne hne).trans hk)

lemma getElem?_served (hcall : s.calls[n]? = some call) {k : Nat}
    (hc : (s.calls.set n { call with reply := some reply })[k]? = some c) :
    ∃ c', s.calls[k]? = some c' ∧ c'.escrowId = c.escrowId ∧ c'.request = c.request := by
  by_cases hk : n = k
  · subst hk
    rw [List.getElem?_set_self (List.getElem?_eq_some_iff.mp hcall).1] at hc
    cases hc
    exact ⟨call, hcall, rfl, rfl⟩
  · exact ⟨c, (List.getElem?_set_ne hk).symm.trans hc, rfl, rfl⟩

end Serving

lemma board_serve (s : Shared) (n : Nat) (fault : Option LedgerError) :
    (s.serve n fault).board = s.board := by
  rcases serve_cases s n fault with heq | ⟨_, _, _, _, _, heq, _⟩
  · rw [heq]
  · rw [heq]

lemma owed_serve {n : Nat} {fault : Option LedgerError} (h : Owed (s.serve n fault) id) :
    Owed s id := by
  rcases serve_cases s n fault with heq | ⟨call, hcall, hunserved, reply, escrow, heq, hanswer⟩
  · rwa [heq] at h
  rw [heq] at h
  have hmem : call ∈ s.calls := mem_of_getElem? hcall
  rcases h with ⟨payer, amount, hledger⟩ | ⟨c, hc, hid, hlock, hreply⟩
  · by_cases hcallid : id = call.escrowId
    · subst hcallid
      have hescrow : escrow = .locked payer amount := (update_self ..).symm.trans hledger
      rcases hanswer with ⟨rfl, -⟩ | ⟨-, rfl⟩
      · exact .inl ⟨payer, amount, hescrow⟩
      · rcases locked_answer hescrow with hlocked | hlock
        · exact .inl hlocked
        · exact .inr ⟨call, hmem, rfl, hlock, hunserved⟩
    · exact .inl ⟨payer, amount, (update_of_ne hcallid ..).symm.trans hledger⟩
  · rcases mem_or_eq_of_mem_set hc with hold | rfl
    · exact .inr ⟨c, hold, hid, hlock, hreply⟩
    · cases hreply

variable (n : Nat) (fault : Option LedgerError)

lemma inv_serve (hs : (discipline paid apart kept).inv s) :
    (discipline paid apart kept).inv (s.serve n fault) := by
  have hlater := later_serve s n fault
  have hkept : Kept paid kept (s.serve n fault) := by
    intro id hp hk howed
    obtain ⟨mission, hm, htracked⟩ := hs.2.2.2 id hp hk (owed_serve howed)
    exact ⟨mission, by rw [board_serve]; exact hm, htracked⟩
  rcases serve_cases s n fault with heq | ⟨call, hcall, hunserved, reply, escrow, heq, hanswer⟩
  · rw [heq]
    exact hs
  rw [heq] at hlater hkept ⊢
  have hmem : call ∈ s.calls := mem_of_getElem? hcall
  refine ⟨⟨hs.1.board, hs.1.awaiting, ?_, ?_, ?_, ?_, ?_, ?_, ?_, ?_⟩, ?_, ?_, hkept⟩
  · exact forall_mem_set hs.1.call (hs.1.call call hmem)
  · exact forall_mem_set hs.1.about (hs.1.about call hmem)
  · refine forall_mem_set (fun c hc hok => (hs.1.served c hc hok).later hlater) fun hok => ?_
    show Served call.request (update s.ledger call.escrowId escrow call.escrowId)
    rw [update_self]
    cases hok
    rcases hanswer with ⟨-, error, herror⟩ | ⟨hreply, rfl⟩
    · cases herror
    · exact served_answer hreply.symm
  · intro id payee hreleased
    by_cases hid : id = call.escrowId
    · subst hid
      have hescrow : escrow = .released payee := (update_self ..).symm.trans hreleased
      rcases hanswer with ⟨rfl, -⟩ | ⟨-, rfl⟩
      · exact hs.1.ledger _ payee hescrow
      · rcases released_answer hescrow with hold | hrequest
        · exact hs.1.ledger _ payee hold
        · obtain ⟨-, mission, hm, hpayee⟩ := hs.1.call call hmem
          exact ⟨mission, hm, hpayee payee hrequest⟩
    · exact hs.1.ledger id payee ((update_of_ne hid ..).symm.trans hreleased)
  · intro id hledger
    -- the lock of the escrow was served before, or just now
    by_cases hold : s.ledger id = .absent
    · by_cases hid : id = call.escrowId
      · subst hid
        have hescrow : escrow ≠ .absent := fun h => hledger ((update_self ..).trans h)
        rcases hanswer with ⟨rfl, -⟩ | ⟨hreply, rfl⟩
        · exact absurd hold hescrow
        · obtain ⟨hlock, hok⟩ := lock_of_answer hold hescrow
          refine ⟨_, mem_of_getElem? (List.getElem?_set_self
            (List.getElem?_eq_some_iff.mp hcall).1), rfl, hlock, ?_⟩
          rw [hreply, hok]
      · exact absurd ((update_of_ne hid ..).trans hold) hledger
    · obtain ⟨c, hc, hid, hlock, hok⟩ := hs.1.landed id hold
      refine ⟨c, mem_set_of_served hcall hunserved hc ?_, hid, hlock, hok⟩
      rw [hok]
      exact some_ne_none _
  · intro k k' c c' hk hk' hlock hlock' hid
    obtain ⟨c0, hk0, hid0, hrequest0⟩ := getElem?_served hcall hk
    obtain ⟨c0', hk0', hid0', hrequest0'⟩ := getElem?_served hcall hk'
    exact hs.1.once k k' c0 c0' hk0 hk0' (hrequest0 ▸ hlock) (hrequest0' ▸ hlock')
      (hid0.trans (hid.trans hid0'.symm))
  · exact forall_mem_set hs.1.charged (hs.1.charged call hmem)
  · intro id i hlocking
    obtain ⟨hrec, hnolock, hfunded⟩ := hs.1.locking id i hlocking
    exact ⟨hrec, forall_mem_set hnolock (hnolock call hmem), hfunded⟩
  · intro id hpaid mission hm hsettled hbounty
    exact (hs.2.1 id hpaid mission hm hsettled hbounty).later hlater (.refl mission)
  · exact forall_mem_set hs.2.2.1 (hs.2.2.1 call hmem)

/-- **THE LEDGER** keeps the discipline. -/
lemma serve_ok (service : Service) (hs : (discipline paid apart kept).inv s) :
    (discipline paid apart kept).inv (s.serve service.1 service.2)
      ∧ ∀ j t, (discipline paid apart kept).rely j t s (s.serve service.1 service.2) := by
  have hholds : ∀ {id P}, Holds s id P → Holds (s.serve service.1 service.2) id P := by
    rintro id P ⟨mission, hm, hP⟩
    exact ⟨mission, by rw [board_serve]; exact hm, hP⟩
  exact ⟨inv_serve _ _ hs, fun j t => ⟨(later_serve s _ _).mono fun _ _ => trivial,
    fun _ _ _ => hholds, fun _ _ _ _ _ => hholds⟩⟩

end WattPayout
