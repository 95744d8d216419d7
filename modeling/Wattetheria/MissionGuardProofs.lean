import Wattetheria.MissionRecordProofs

/-!
# Unfunded and overdue missions

A mission whose escrow is recorded but not confirmed is refused by `claim_as` and
`complete`; a relayed approval or completion, and `settle` on a completed mission, do not
look at the escrow.  `spared` is the exact condition under which a call leaves the status
of such a mission alone or cancels it.

A mission that is open or claimed past its deadline can only be cancelled, since every
call that would move it on reads the clock first, as long as `set_expiry` does not move
the deadline.
-/

namespace WattGuard

open WattText WattJson WattRuns WattMission WattLifecycle WattRecord

/-- The status stays or becomes cancelled. -/
def Held (earlier later : CivilMission) : Prop :=
  later.status = earlier.status ∨ later.status = .cancelled

variable (mission : CivilMission)

lemma Held.refl : Held mission mission := .inl rfl

lemma Held.trans {a b c : CivilMission} (hab : Held a b) (hbc : Held b c) : Held a c := by
  rcases hbc with hbc | hbc
  · rcases hab with hab | hab
    · exact .inl (hbc.trans hab)
    · exact .inr (hbc.trans hab)
  · exact .inr hbc

/-- The mission of one id is still stored, up to a relation of the two records. -/
def KeptAt (R : CivilMission → CivilMission → Prop) (id : String) (before after : MissionBoard) :
    Prop :=
  ∀ mission, before.get id = some mission → ∃ later, after.get id = some later ∧ R mission later

variable {R : CivilMission → CivilMission → Prop}

lemma KeptAt.refl (hrefl : ∀ mission, R mission mission) (id : String) (board : MissionBoard) :
    KeptAt R id board board := by
  intro mission hm
  exact ⟨mission, hm, hrefl mission⟩

lemma KeptAt.trans (htrans : ∀ {a b c}, R a b → R b c → R a c) {id : String}
    {a b c : MissionBoard} (hab : KeptAt R id a b) (hbc : KeptAt R id b c) : KeptAt R id a c := by
  intro mission hm
  obtain ⟨later, hlater, hR⟩ := hab mission hm
  obtain ⟨last, hlast, hR'⟩ := hbc later hlater
  exact ⟨last, hlast, htrans hR hR'⟩

variable {board : MissionBoard} {op : BoardOp}

/-- A call keeps the mission of one id up to a reflexive relation exactly when its
body does, if it is the call's target. -/
lemma keptAt_step_iff (hrefl : ∀ mission, R mission mission) (hfresh : freshId board op)
    (id : String) : KeptAt R id board (step board op)
      ↔ (id = op.target → ∀ mission, board.get id = some mission →
          R mission (op.body mission).2) := by
  by_cases hpublish : Rewrites op
  · constructor
    · rintro h hid mission hm
      obtain ⟨later, hlater, hR⟩ := h mission hm
      rcases rewrites_get hpublish hm with ⟨-, hget⟩ | ⟨hne, -⟩
      · rw [Option.mem_unique hget hlater]
        exact hR
      · exact absurd hid hne
    · intro h mission hm
      rcases rewrites_get hpublish hm with ⟨hid, hget⟩ | ⟨-, hget⟩
      · exact ⟨_, hget, h hid mission hm⟩
      · exact ⟨mission, hget, hrefl mission⟩
  · -- a publication draws a new id, so it targets no stored mission
    obtain ⟨spec, uuid, now, rfl⟩ : ∃ spec uuid now, op = .publish spec uuid now := by
      simpa [Rewrites] using hpublish
    have hnew : ∀ mission, board.get id = some mission →
        id ≠ (BoardOp.publish spec uuid now).target := by
      rintro mission hm rfl
      cases (show board.get _ = none from hfresh).symm.trans hm
    constructor
    · intro _ hid mission hm
      exact absurd hid (hnew mission hm)
    · intro _ mission hm
      refine ⟨mission, ?_, hrefl mission⟩
      rw [get_step, if_neg (hnew mission hm), hm]

/-! ## Missions with an unconfirmed escrow -/

/-- The calls that leave the status of this mission alone or cancel it, although its
escrow is not confirmed. -/
def spared : BoardOp → Prop
  | .settle .. => mission.status ≠ .completed
  | .applyRemoteClaimApproved _ _ checkedAt _ =>
    mission.status = .open → mission.isExpired checkedAt = true
  | .applyRemoteCompleted _ agentDid _ checkedAt _ =>
    mission.status = .open ∨ mission.status = .claimed →
      mission.isExpired checkedAt = true ∨ ensureSameClaimer mission (trim agentDid) ≠ .ok ()
  | .publish .. | .setExpiry .. | .clearBountyEscrow .. | .recordBountyEscrowIntent ..
  | .markBountyEscrowed .. | .claimAs .. | .complete .. | .cancel .. | .cancelUnfunded ..
  | .cancelIfExpired .. => True

/-- The call spares the mission it targets, if that has an unconfirmed escrow. -/
def sparesUnconfirmed (board : MissionBoard) (op : BoardOp) : Prop :=
  ∀ mission, board.get op.target = some mission → mission.hasUnconfirmedEscrow = true →
    spared mission op

variable {mission : CivilMission} {now : Int}

/-- A mission is cancelled for its expiry exactly when it is open or claimed and its
deadline has passed. -/
lemma cancelIfExpired_eq_none : cancelIfExpired now mission = none
      ↔ (mission.status = .open ∨ mission.status = .claimed → mission.isExpired now = false) := by
  rw [cancelIfExpired]
  split <;> simp_all

lemma cancelIfExpired_eq_some {cancelled : CivilMission}
    (h : cancelIfExpired now mission = some cancelled) :
    (mission.status = .open ∨ mission.status = .claimed) ∧ mission.isExpired now = true
      ∧ cancelled.status = .cancelled := by
  rw [cancelIfExpired] at h
  split at h
  · rename_i hexpired
    cases h
    exact ⟨hexpired.1, hexpired.2, rfl⟩
  · cases h

variable {checks : CivilMission → Except String Unit} {write : CivilMission → CivilMission}

/-- A checked write that ends in neither status moves the mission exactly when its
check passes. -/
lemma held_attempt_iff (hmoves : ¬ Held mission (write mission)) :
    Held mission (attempt checks write mission).2 ↔ checks mission ≠ .ok () := by
  rw [attempt_snd]
  by_cases hchecks : checks mission = .ok ()
  · rw [if_pos hchecks]
    exact iff_of_false hmoves (absurd hchecks)
  · rw [if_neg hchecks]
    exact iff_of_true (.refl mission) hchecks

/-- The guard of `claim_as` and `complete`. -/
lemma held_guarded (h : checks mission ≠ .ok ()) : Held mission (attempt checks write mission).2 :=
  attempt_elim (.refl mission) fun hchecks => absurd hchecks h

lemma held_cancel (h : (write mission).status = .cancelled) :
    Held mission (attempt checks write mission).2 :=
  attempt_elim (.refl mission) fun _ => .inr h

variable (agentDid : String)

lemma held_claimApproved_iff (checkedAt now : Int) (mission : CivilMission) :
    Held mission (applyRemoteClaimApprovedRecord agentDid checkedAt now mission).2
      ↔ (mission.status = .open → mission.isExpired checkedAt = true) := by
  rw [applyRemoteClaimApprovedRecord]
  cases hexpired : cancelIfExpired checkedAt mission with
  | some cancelled =>
    obtain ⟨-, hpast, hcancelled⟩ := cancelIfExpired_eq_some hexpired
    exact iff_of_true (.inr hcancelled) fun _ => hpast
  | none =>
    rw [cancelIfExpired_eq_none] at hexpired
    cases hstatus : mission.status with
    | «open» =>
      have hpast := hexpired (.inl hstatus)
      simp [Held, hstatus, hpast]
    | claimed | completed | settled | cancelled =>
      exact iff_of_true (.refl mission) fun h => by cases h

/-- A relayed completion moves an open or claimed mission that has not expired, if the
agent it names may be its claimer. -/
lemma held_completed_iff (result : Option JsonValue)
    (checkedAt now : Int) (mission : CivilMission) :
    Held mission (applyRemoteCompletedRecord agentDid result checkedAt now mission).2
      ↔ (mission.status = .open ∨ mission.status = .claimed → mission.isExpired checkedAt = true
            ∨ ensureSameClaimer mission (trim agentDid) ≠ .ok ()) := by
  rw [applyRemoteCompletedRecord]
  cases hexpired : cancelIfExpired checkedAt mission with
  | some cancelled =>
    obtain ⟨-, hpast, hcancelled⟩ := cancelIfExpired_eq_some hexpired
    exact iff_of_true (.inr hcancelled) fun _ => .inl hpast
  | none =>
    rw [cancelIfExpired_eq_none] at hexpired
    cases hstatus : mission.status with
    | «open» =>
      simp only
      rw [held_attempt_iff (by simp [Held, hstatus]), hexpired (.inl hstatus)]
      simp
    | claimed =>
      simp only
      rw [held_attempt_iff (by simp [Held, hstatus]), hexpired (.inr hstatus)]
      simp
    | completed | settled | cancelled =>
      exact iff_of_true (.refl mission) fun h => by rcases h with h | h <;> cases h

/-- **ONE CALL**: what each call does to a mission with an unconfirmed escrow. -/
lemma held_body_iff (op : BoardOp) (hunconfirmed : mission.hasUnconfirmedEscrow = true) :
    Held mission (op.body mission).2 ↔ spared mission op := by
  cases op with
  | publish | setExpiry | clearBountyEscrow | recordBountyEscrowIntent | markBountyEscrowed =>
    exact iff_of_true (.inl rfl) trivial
  | claimAs | complete =>
    refine iff_of_true (held_guarded ?_) trivial
    simp [bind_eq_ok, bailIf_eq_ok, hunconfirmed]
  | cancel | cancelUnfunded => exact iff_of_true (held_cancel rfl) trivial
  | settle missionId now =>
    show Held mission (settleRecord now mission).2 ↔ mission.status ≠ .completed
    by_cases hcompleted : mission.status = .completed
    · rw [settleRecord, held_attempt_iff (by simp [Held, hcompleted])]
      simp [bailIf_eq_ok, hcompleted]
    · exact iff_of_true (held_guarded (by simpa [bailIf_eq_ok] using hcompleted)) hcompleted
  | cancelIfExpired missionId now =>
    refine iff_of_true ?_ trivial
    show Held mission ((cancelIfExpired now mission).getD mission)
    cases h : cancelIfExpired now mission with
    | none => exact .refl mission
    | some cancelled => exact .inr (cancelIfExpired_eq_some h).2.2
  | applyRemoteClaimApproved missionId agentDid checkedAt now =>
    exact held_claimApproved_iff agentDid checkedAt now mission
  | applyRemoteCompleted missionId agentDid result checkedAt now =>
    exact held_completed_iff agentDid result checkedAt now mission

/-- The mission of this id is stored with an unconfirmed escrow. -/
def unconfirmedAt (id : String) (board : MissionBoard) (_ : BoardOp) : Prop :=
  ∃ mission, board.get id = some mission ∧ mission.hasUnconfirmedEscrow = true

lemma heldAt_step_iff (hfresh : freshId board op) :
    (∀ id, unconfirmedAt id board op → KeptAt Held id board (step board op))
      ↔ sparesUnconfirmed board op := by
  simp only [keptAt_step_iff Held.refl hfresh]
  constructor
  · intro h mission hm hunconfirmed
    exact (held_body_iff op hunconfirmed).mp (h _ ⟨mission, hm, hunconfirmed⟩ rfl mission hm)
  · rintro h id ⟨mission', hm', hunconfirmed⟩ rfl mission hm
    obtain rfl := Option.mem_unique hm' hm
    exact (held_body_iff op hunconfirmed).mpr (h mission' hm hunconfirmed)

variable (ops : List BoardOp) {later : CivilMission}

/-- **UNFUNDED MISSIONS**: along a run in which publications draw new ids, the status
of every mission stays or becomes cancelled for as long as its escrow is recorded
and not confirmed, exactly if every call spares the unconfirmed mission it
targets: no relayed approval or completion that has not expired, and no `settle`
of a completed one. -/
theorem unfunded_missions_wait (hfresh : AllSteps step freshId .empty ops) : (∀ id, AlwaysWhile step
        (fun board _ => ∃ mission, board.get id = some mission
          ∧ mission.hasUnconfirmedEscrow = true)
        (fun before after => ∀ mission, before.get id = some mission →
          ∃ later, after.get id = some later
            ∧ (later.status = mission.status ∨ later.status = .cancelled))
        .empty ops) ↔ AllSteps step sparesUnconfirmed .empty ops := by
  have hstretch : ∀ id, AlwaysWhile step (unconfirmedAt id) (KeptAt Held id) .empty ops
      ↔ AllSteps step (fun board op => unconfirmedAt id board op →
          KeptAt Held id board (step board op)) .empty ops :=
    fun id => while_iff_allSteps (KeptAt.refl Held.refl id) (KeptAt.trans (R := Held) Held.trans)
      .empty ops
  calc (∀ id, AlwaysWhile step (unconfirmedAt id) (KeptAt Held id) .empty ops)
      ↔ AllSteps step (fun board op => ∀ id, unconfirmedAt id board op →
          KeptAt Held id board (step board op)) .empty ops :=
        (forall_congr' hstretch).trans (allSteps_forall _ ops)
    _ ↔ AllSteps step sparesUnconfirmed .empty ops :=
        allSteps_congr (fun _ _ hop => heldAt_step_iff hop) hfresh

def unfundedRun : List BoardOp :=
  [.publish toySpec "m-1" 100, .recordBountyEscrowIntent "m-1" "m-1" 101,
    .claimAs "m-1" "did:bob" none 102 102, .cancelUnfunded "m-1" 103]

theorem unfunded_missions_wait_unfundedRun :
    AlwaysWhile step (unconfirmedAt "m-1") (KeptAt Held "m-1") .empty unfundedRun
      ∧ ((run step .empty unfundedRun).get "m-1").map (·.status) = some .cancelled := by
  refine ⟨(unfunded_missions_wait unfundedRun ?_).mpr ?_ "m-1", by decide +kernel⟩
  · exact ⟨MissionBoard.get_empty _, trivial, trivial, trivial, trivial⟩
  · exact ⟨fun _ _ _ => trivial, fun _ _ _ => trivial, fun _ _ _ => trivial,
      fun _ _ _ => trivial, trivial⟩

/-- A relayed completion completes a mission whose escrow is not confirmed, and
`settle` settles it. -/
theorem unfunded_mission_settles : ¬ ∀ ops, AllSteps step freshId .empty ops →
        ∀ id, AlwaysWhile step (unconfirmedAt id) (KeptAt Held id) .empty ops := by
  intro h
  have hrun := h [.publish toySpec "m-1" 100, .recordBountyEscrowIntent "m-1" "m-1" 101,
      .applyRemoteCompleted "m-1" "did:bob" none 102 102, .settle "m-1" 103]
    ⟨MissionBoard.get_empty _, trivial, trivial, trivial, trivial⟩ "m-1"
  obtain ⟨later, hlater, hheld⟩ := hrun
    [.publish toySpec "m-1" 100, .recordBountyEscrowIntent "m-1" "m-1" 101]
    [.applyRemoteCompleted "m-1" "did:bob" none 102 102, .settle "m-1" 103] [] rfl
    ⟨⟨_, rfl, by decide +kernel⟩, ⟨_, rfl, by decide +kernel⟩, trivial⟩ _ rfl
  cases hlater
  exact absurd hheld (by unfold Held; decide +kernel)

/-! ## Missions past their deadline -/

/-- Open or claimed, with a deadline at or before `now`. -/
def Overdue (now : Int) (mission : CivilMission) : Prop :=
  (mission.status = .open ∨ mission.status = .claimed) ∧ mission.isExpired now = true

/-- What time may do to a mission: overdue it stays as it is or is cancelled, and
cancelled it stays cancelled. -/
structure Lapses (now : Int) (earlier later : CivilMission) : Prop where
  overdue : Overdue now earlier →
    later.status = earlier.status ∧ later.isExpired now = true ∨ later.status = .cancelled
  cancelled : earlier.status = .cancelled → later.status = .cancelled

lemma Lapses.refl (now : Int) (mission : CivilMission) : Lapses now mission mission :=
  ⟨fun h => .inl ⟨rfl, h.2⟩, fun h => h⟩

lemma Lapses.trans {a b c : CivilMission} (hab : Lapses now a b) (hbc : Lapses now b c) :
    Lapses now a c := by
  refine ⟨fun h => ?_, fun h => hbc.cancelled (hab.cancelled h)⟩
  rcases hab.overdue h with ⟨hstatus, hexpired⟩ | hcancelled
  · rcases hbc.overdue ⟨by rw [hstatus]; exact h.1, hexpired⟩ with ⟨hstatus', hexpired'⟩ | hcancelled
    · exact .inl ⟨hstatus'.trans hstatus, hexpired'⟩
    · exact .inr hcancelled
  · exact .inr (hbc.cancelled hcancelled)

lemma isExpired_mono {later : Int} (hle : now ≤ later) (h : mission.isExpired now = true) :
    mission.isExpired later = true := by
  rw [CivilMission.isExpired, Option.any_eq_true] at h ⊢
  obtain ⟨expiresAt, hsome, hpast⟩ := h
  refine ⟨expiresAt, hsome, ?_⟩
  simp only [decide_eq_true_eq] at hpast ⊢
  omega

/-- Every clock reading of the call is at or after `now`. -/
def executedAfter (now : Int) : BoardOp → Prop
  | .publish _ _ time | .setExpiry _ _ time | .clearBountyEscrow _ time
  | .recordBountyEscrowIntent _ _ time | .markBountyEscrowed _ _ time | .cancel _ time
  | .cancelUnfunded _ time | .settle _ time | .cancelIfExpired _ time => now ≤ time
  | .claimAs _ _ _ checkedAt time | .complete _ _ _ checkedAt time
  | .applyRemoteClaimApproved _ _ checkedAt time | .applyRemoteCompleted _ _ _ checkedAt time =>
    now ≤ checkedAt ∧ now ≤ time

/-- `set_expiry` leaves the deadline at or before `now`. -/
def keepsDeadline (now : Int) : BoardOp → Prop
  | .setExpiry _ expiresAt _ => (expiresAt.any fun deadline => deadline ≤ now) = true
  | .publish .. | .clearBountyEscrow .. | .recordBountyEscrowIntent .. | .markBountyEscrowed ..
  | .claimAs .. | .complete .. | .cancel .. | .cancelUnfunded .. | .settle .. | .cancelIfExpired ..
  | .applyRemoteClaimApproved .. | .applyRemoteCompleted .. => True

lemma lapses_attempt (h : checks mission = .ok () → Lapses now mission (write mission)) :
    Lapses now mission (attempt checks write mission).2 :=
  attempt_elim (.refl now mission) h

lemma lapses_cancel (h : later.status = .cancelled) : Lapses now mission later :=
  ⟨fun _ => .inr h, fun _ => h⟩

lemma lapses_of_not (hoverdue : ¬ Overdue now mission)
    (hcancelled : mission.status ≠ .cancelled) : Lapses now mission later :=
  ⟨fun h => absurd h hoverdue, fun h => absurd h hcancelled⟩

/-- A mission the expiry check of a relayed update lets through is not overdue. -/
lemma not_overdue {checkedAt : Int} (hle : now ≤ checkedAt)
    (h : cancelIfExpired checkedAt mission = none) : ¬ Overdue now mission := by
  rintro ⟨hstatus, hexpired⟩
  have hpast := cancelIfExpired_eq_none.mp h hstatus
  rw [isExpired_mono hle hexpired] at hpast
  cases hpast

/-- **ONE CALL**: no call executed at or after `now` moves an overdue mission on. -/
lemma lapses_body (hafter : executedAfter now op) (hdeadline : keepsDeadline now op)
    (mission : CivilMission) : Lapses now mission (op.body mission).2 := by
  have hclock : ∀ checkedAt, now ≤ checkedAt → mission.isExpired checkedAt = false →
      ¬ Overdue now mission := by
    intro checkedAt hle hexpired h
    rw [isExpired_mono hle h.2] at hexpired
    cases hexpired
  cases op with
  | publish | clearBountyEscrow | recordBountyEscrowIntent | markBountyEscrowed =>
    exact ⟨fun h => .inl ⟨rfl, h.2⟩, fun h => h⟩
  | setExpiry missionId expiresAt time => exact ⟨fun _ => .inl ⟨rfl, hdeadline⟩, fun h => h⟩
  | claimAs missionId agentDid name checkedAt time =>
    refine lapses_attempt fun hchecks => ?_
    simp only [bind_eq_ok, bailIf_eq_ok, ne_eq, decide_eq_false_iff_not, not_not] at hchecks
    obtain ⟨_, hopen, _, hexpired, -⟩ := hchecks
    exact lapses_of_not (hclock checkedAt hafter.1 hexpired) (by rw [hopen]; decide)
  | complete missionId agentDid result checkedAt time =>
    refine lapses_attempt fun hchecks => ?_
    simp only [bind_eq_ok, bailIf_eq_ok, ne_eq, decide_eq_false_iff_not, not_not] at hchecks
    obtain ⟨_, hclaimed, _, -, _, hexpired, -⟩ := hchecks
    exact lapses_of_not (hclock checkedAt hafter.1 hexpired) (by rw [hclaimed]; decide)
  | cancel => exact lapses_attempt fun _ => lapses_cancel rfl
  | cancelUnfunded => exact lapses_attempt fun _ => lapses_cancel rfl
  | settle =>
    refine lapses_attempt fun hchecks => ?_
    have hcompleted : mission.status = .completed := by simpa [bailIf_eq_ok] using hchecks
    refine lapses_of_not ?_ (by rw [hcompleted]; decide)
    rintro ⟨hstatus, -⟩
    rw [hcompleted] at hstatus
    rcases hstatus with h | h <;> cases h
  | cancelIfExpired missionId time =>
    show Lapses now mission ((cancelIfExpired time mission).getD mission)
    cases h : cancelIfExpired time mission with
    | none => exact .refl now mission
    | some cancelled => exact lapses_cancel (cancelIfExpired_eq_some h).2.2
  | applyRemoteClaimApproved missionId agentDid checkedAt time =>
    simp only [BoardOp.body, applyRemoteClaimApprovedRecord]
    cases h : cancelIfExpired checkedAt mission with
    | some cancelled => exact lapses_cancel (cancelIfExpired_eq_some h).2.2
    | none =>
      cases hstatus : mission.status with
      | «open» => exact lapses_of_not (not_overdue hafter.1 h) (by rw [hstatus]; decide)
      | claimed | completed | settled | cancelled => exact .refl now mission
  | applyRemoteCompleted missionId agentDid result checkedAt time =>
    simp only [BoardOp.body, applyRemoteCompletedRecord]
    cases h : cancelIfExpired checkedAt mission with
    | some cancelled => exact lapses_cancel (cancelIfExpired_eq_some h).2.2
    | none =>
      cases hstatus : mission.status with
      | «open» | claimed =>
        exact lapses_attempt fun _ =>
          lapses_of_not (not_overdue hafter.1 h) (by rw [hstatus]; decide)
      | completed | settled | cancelled => exact .refl now mission

/-- Over any stretch of calls executed at or after `now` that leave the deadline of a
mission alone, the mission lapses. -/
lemma lapses_while (hfresh : AllSteps step freshId .empty ops) (id : String) (now : Int) :
    AlwaysWhile step (fun _ op => op.target = id → executedAfter now op ∧ keepsDeadline now op)
      (KeptAt (Lapses now) id) .empty ops := by
  rw [while_iff_allSteps (KeptAt.refl (Lapses.refl now) id)
    (KeptAt.trans (R := Lapses now) Lapses.trans)]
  refine hfresh.mono fun board op hop hC => ?_
  rw [keptAt_step_iff (Lapses.refl now) hop]
  intro hid mission _
  exact lapses_body (hC hid.symm).1 (hC hid.symm).2 mission

lemma cancel_keeps_escrow (hfresh : freshId board op) (id : String) :
    KeptAt (fun mission later => mission.status ≠ .cancelled → later.status = .cancelled →
      later.escrowId = mission.escrowId ∧ later.escrowConfirmed = mission.escrowConfirmed)
      id board (step board op) := by
  rw [keptAt_step_iff (fun _ _ _ => ⟨rfl, rfl⟩) hfresh]
  intro _ mission _ hbefore hafter
  cases change_body op mission with
  | note _ _ hstatus => exact absurd (hstatus.symm.trans hafter) hbefore
  | move _ _ hid hconfirmed => exact ⟨hid, hconfirmed⟩

/-- **OVERDUE MISSIONS**: along a run in which publications draw new ids, a mission
that is open or claimed with a deadline at or before `now` keeps its status or is
cancelled over any stretch of calls executed at or after `now`, as long as no
`set_expiry` moves its deadline past `now`; and whatever call cancels a mission
leaves its escrow on record. -/
theorem overdue_missions_lapse (hfresh : AllSteps step freshId .empty ops) :
    (∀ id now, AlwaysWhile step
        (fun _ op => op.target = id → executedAfter now op ∧ keepsDeadline now op)
        (fun before after => ∀ mission, before.get id = some mission →
          (mission.status = .open ∨ mission.status = .claimed) → mission.isExpired now = true →
          ∃ later, after.get id = some later
            ∧ (later.status = mission.status ∨ later.status = .cancelled))
        .empty ops) ∧ AllSteps step (fun board op => ∀ id mission, board.get id = some mission →
        mission.status ≠ .cancelled → ∃ later, (step board op).get id = some later
          ∧ (later.status = .cancelled → later.escrowId = mission.escrowId
              ∧ later.escrowConfirmed = mission.escrowConfirmed)) .empty ops := by
  constructor
  · intro id now pre mid post hops hC mission hm hstatus hexpired
    obtain ⟨later, hlater, hlapses⟩ := lapses_while ops hfresh id now pre mid post hops hC mission hm
    refine ⟨later, hlater, ?_⟩
    rcases hlapses.overdue ⟨hstatus, hexpired⟩ with ⟨h, -⟩ | h
    · exact .inl h
    · exact .inr h
  · refine hfresh.mono fun board op hop id mission hm hbefore => ?_
    obtain ⟨later, hlater, hkeeps⟩ := cancel_keeps_escrow hop id mission hm
    exact ⟨later, hlater, hkeeps hbefore⟩

/-- A funded mission that is completed too late and cancelled by the relayed
completion. -/
def overdueRun : List BoardOp :=
  [.publish toySpec "m-1" 100, .setExpiry "m-1" (some 150) 100,
    .recordBountyEscrowIntent "m-1" "m-1" 101, .markBountyEscrowed "m-1" "m-1" 102,
    .claimAs "m-1" "did:bob" none 103 103, .complete "m-1" "did:bob" none 160 160,
    .applyRemoteCompleted "m-1" "did:bob" none 161 161]

theorem overdue_missions_lapse_overdueRun :
    ∃ later, (run step .empty overdueRun).get "m-1" = some later
      ∧ (later.status = .claimed ∨ later.status = .cancelled)
      ∧ later.status = .cancelled ∧ later.escrowId = some "m-1" := by
  obtain ⟨later, hlater, hstatus⟩ := (overdue_missions_lapse overdueRun
    ⟨MissionBoard.get_empty _, trivial, trivial, trivial, trivial, trivial, trivial, trivial⟩).1
    "m-1" 155 (overdueRun.take 5) (overdueRun.drop 5) [] rfl
    ⟨fun _ => by unfold executedAfter keepsDeadline; decide,
      fun _ => by unfold executedAfter keepsDeadline; decide, trivial⟩ _ rfl
    (by decide +kernel) (by decide +kernel)
  refine ⟨later, hlater, ?_, ?_⟩
  · exact hstatus
  · cases hlater
    decide +kernel

/-- `set_expiry` takes the deadline away after it has passed, and the mission is
claimed. -/
theorem overdue_mission_claimed :
    ¬ ∀ ops, AllSteps step freshId .empty ops → ∀ id now, AlwaysWhile step
        (fun _ op => op.target = id → executedAfter now op)
        (fun before after => ∀ mission, before.get id = some mission → Overdue now mission →
          ∃ later, after.get id = some later ∧ Held mission later) .empty ops := by
  intro h
  obtain ⟨later, hlater, hheld⟩ := h
    [.publish toySpec "m-1" 100, .setExpiry "m-1" (some 150) 100, .setExpiry "m-1" none 200,
      .claimAs "m-1" "did:bob" none 201 201]
    ⟨MissionBoard.get_empty _, trivial, trivial, trivial, trivial⟩ "m-1" 200
    [.publish toySpec "m-1" 100, .setExpiry "m-1" (some 150) 100]
    [.setExpiry "m-1" none 200, .claimAs "m-1" "did:bob" none 201 201] [] rfl
    ⟨fun _ => by unfold executedAfter; decide, fun _ => by unfold executedAfter; decide, trivial⟩
    _ rfl (by unfold Overdue; decide +kernel)
  cases hlater
  exact absurd hheld (by unfold Held; decide +kernel)

end WattGuard
