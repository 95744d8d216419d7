import Wattetheria.MissionLifecycleProofs

/-!
# What a call can do to a mission

`change_body` says once what any call on an existing mission does to it: either
it notes something and leaves status and names alone, or it moves the status and
leaves the escrow fields alone.  The rest reads off what the interleaved
handlers need: who sets an escrow, who settles, and that a completed mission
whose escrow is confirmed stays paid for.
-/

namespace WattRecord

open WattText WattJson WattMission WattLifecycle

/-- What a call notes about the escrow. -/
inductive Notes (op : BoardOp) (earlier later : CivilMission) : Prop where
  | same (id : later.escrowId = earlier.escrowId)
      (confirmed : later.escrowConfirmed = earlier.escrowConfirmed)
  | clear (missionId : String) (now : Int) (op_eq : op = .clearBountyEscrow missionId now)
      (id : later.escrowId = none)
  | intent (missionId escrowId : String) (now : Int)
      (op_eq : op = .recordBountyEscrowIntent missionId escrowId now)
      (id : later.escrowId = some escrowId)
  | mark (missionId escrowId : String) (now : Int)
      (op_eq : op = .markBountyEscrowed missionId escrowId now)
      (id : later.escrowId = some escrowId) (confirmed : later.escrowConfirmed = true)

/-- How a call moves the status. -/
inductive Moves (op : BoardOp) (earlier later : CivilMission) : Prop where
  | claim (before : earlier.status = .open) (after : later.status = .claimed)
  | complete (before : earlier.status = .open ∨ earlier.status = .claimed)
      (after : later.status = .completed)
      (executor : later.completedBy.isSome = true ∨ ∃ missionId agentDid result checkedAt now,
          op = .applyRemoteCompleted missionId agentDid result checkedAt now
            ∧ isEmpty (trim agentDid) = true)
  | cancel (before : earlier.status ≠ .completed ∧ earlier.status ≠ .settled)
      (after : later.status = .cancelled)
  | unfund (missionId : String) (now : Int) (op_eq : op = .cancelUnfunded missionId now)
      (before : earlier.hasUnconfirmedEscrow = true) (unsettled : earlier.status ≠ .settled)
      (after : later.status = .cancelled)
  | settle (missionId : String) (now : Int) (op_eq : op = .settle missionId now)
      (before : earlier.status = .completed) (after : later.status = .settled)
      (executor : later.completedBy = earlier.completedBy)

/-- What a call does to a mission. -/
inductive Change (op : BoardOp) (earlier later : CivilMission) : Prop where
  | note (key : later.missionId = earlier.missionId) (spec : later.spec = earlier.spec)
      (status : later.status = earlier.status)
      (executor : later.completedBy = earlier.completedBy) (notes : Notes op earlier later)
  | move (key : later.missionId = earlier.missionId) (spec : later.spec = earlier.spec)
      (id : later.escrowId = earlier.escrowId)
      (confirmed : later.escrowConfirmed = earlier.escrowConfirmed)
      (moves : Moves op earlier later)

lemma Change.keep (op : BoardOp) (mission : CivilMission) : Change op mission mission :=
  .note rfl rfl rfl rfl (.same rfl rfl)

variable {op : BoardOp} {mission : CivilMission} {board : MissionBoard} {id : String}

lemma change_attempt {checks : CivilMission → Except String Unit}
    {write : CivilMission → CivilMission}
    (h : checks mission = .ok () → Change op mission (write mission)) :
    Change op mission (attempt checks write mission).2 :=
  attempt_elim (.keep op mission) h

lemma change_cancelIfExpired (op : BoardOp) {cancelled : CivilMission} {now : Int}
    (h : cancelIfExpired now mission = some cancelled) : Change op mission cancelled := by
  rw [cancelIfExpired] at h
  split at h
  · rename_i hexpired
    cases h
    refine .move rfl rfl rfl rfl (.cancel ?_ rfl)
    rcases hexpired.1 with hs | hs <;> rw [hs] <;> decide
  · cases h

lemma change_remoteCompletion {missionId agentDid : String} {result : Option JsonValue}
    {checkedAt now : Int} (hstatus : mission.status = .open ∨ mission.status = .claimed) :
    Change (.applyRemoteCompleted missionId agentDid result checkedAt now) mission
      { mission with
        claimedBy := if isEmpty (trim agentDid) then mission.claimedBy
          else some (mission.claimedBy.getD (trim agentDid))
        completedBy := if isEmpty (trim agentDid) then mission.completedBy
          else some (trim agentDid)
        completionResult :=
          if result.isSome || mission.completionResult.isNone then result
          else mission.completionResult
        status := .completed
        updatedAt := now } := by
  refine .move rfl rfl rfl rfl (.complete hstatus rfl ?_)
  cases hblank : isEmpty (trim agentDid) with
  | true => exact .inr ⟨_, _, _, _, _, rfl, hblank⟩
  | false => exact .inl rfl

/-- **INVERSION**: every call on an existing mission does one of these. -/
lemma change_body (op : BoardOp) (mission : CivilMission) :
    Change op mission (op.body mission).2 := by
  cases op with
  | publish => exact .keep _ mission
  | setExpiry => exact .note rfl rfl rfl rfl (.same rfl rfl)
  | clearBountyEscrow => exact .note rfl rfl rfl rfl (.clear _ _ rfl rfl)
  | recordBountyEscrowIntent => exact .note rfl rfl rfl rfl (.intent _ _ _ rfl rfl)
  | markBountyEscrowed => exact .note rfl rfl rfl rfl (.mark _ _ _ rfl rfl rfl)
  | claimAs =>
    refine change_attempt fun hchecks => ?_
    obtain ⟨_, hopen, -⟩ := bind_eq_ok.mp hchecks
    exact .move rfl rfl rfl rfl (.claim (by simpa [bailIf_eq_ok] using hopen) rfl)
  | complete =>
    refine change_attempt fun hchecks => ?_
    obtain ⟨_, hclaimed, -⟩ := bind_eq_ok.mp hchecks
    exact .move rfl rfl rfl rfl
      (.complete (.inr (by simpa [bailIf_eq_ok] using hclaimed)) rfl (.inl rfl))
  | cancel =>
    refine change_attempt fun hchecks => ?_
    refine .move rfl rfl rfl rfl (.cancel ?_ rfl)
    simpa [bailIf_eq_ok] using hchecks
  | cancelUnfunded =>
    refine change_attempt fun hchecks => ?_
    obtain ⟨_, hunconfirmed, hunsettled⟩ := bind_eq_ok.mp hchecks
    exact .move rfl rfl rfl rfl (.unfund _ _ rfl (by simpa [bailIf_eq_ok] using hunconfirmed)
      (by simpa [bailIf_eq_ok] using hunsettled) rfl)
  | settle =>
    refine change_attempt fun hchecks => ?_
    exact .move rfl rfl rfl rfl (.settle _ _ rfl (by simpa [bailIf_eq_ok] using hchecks) rfl rfl)
  | cancelIfExpired missionId now =>
    show Change _ mission ((cancelIfExpired now mission).getD mission)
    cases h : cancelIfExpired now mission with
    | none => exact .keep _ mission
    | some cancelled => exact change_cancelIfExpired _ h
  | applyRemoteClaimApproved missionId agentDid checkedAt now =>
    simp only [BoardOp.body, applyRemoteClaimApprovedRecord]
    cases h : cancelIfExpired checkedAt mission with
    | some cancelled => exact change_cancelIfExpired _ h
    | none =>
      cases hstatus : mission.status with
      | «open» => exact .move rfl rfl rfl rfl (.claim hstatus rfl)
      | claimed | completed | settled | cancelled => exact .keep _ mission
  | applyRemoteCompleted missionId agentDid result checkedAt now =>
    simp only [BoardOp.body, applyRemoteCompletedRecord]
    cases h : cancelIfExpired checkedAt mission with
    | some cancelled => exact change_cancelIfExpired _ h
    | none =>
      cases hstatus : mission.status with
      | «open» => exact change_attempt fun _ => change_remoteCompletion (.inl hstatus)
      | claimed => exact change_attempt fun _ => change_remoteCompletion (.inr hstatus)
      | completed | settled | cancelled => exact .keep _ mission

/-! ## Consequences -/

namespace Change

variable {op : BoardOp} {earlier later : CivilMission} (h : Change op earlier later)
  {escrowId : String}

include h

lemma missionId_eq : later.missionId = earlier.missionId := by
  cases h with
  | note key => exact key
  | move key => exact key

lemma spec_eq : later.spec = earlier.spec := by
  cases h with
  | note _ spec => exact spec
  | move _ spec => exact spec

lemma escrow (hlater : later.escrowId = some escrowId) : earlier.escrowId = some escrowId
    ∨ (∃ missionId now, op = .recordBountyEscrowIntent missionId escrowId now)
    ∨ ∃ missionId now, op = .markBountyEscrowed missionId escrowId now := by
  cases h with
  | move _ _ hid => exact .inl (hid ▸ hlater)
  | note _ _ _ _ notes =>
    cases notes with
    | same hid => exact .inl (hid ▸ hlater)
    | clear _ _ _ hid => exact nomatch hid.symm.trans hlater
    | intent missionId escrowId' now hop hid =>
      obtain rfl := Option.mem_unique hid hlater
      exact .inr (.inl ⟨missionId, now, hop⟩)
    | mark missionId escrowId' now hop hid =>
      obtain rfl := Option.mem_unique hid hlater
      exact .inr (.inr ⟨missionId, now, hop⟩)

/-- An escrow stays on the mission, unless the call clears it or puts another there. -/
lemma escrow_kept (hearlier : earlier.escrowId = some escrowId) : later.escrowId = some escrowId
    ∨ (∃ missionId now, op = .clearBountyEscrow missionId now)
    ∨ (∃ missionId escrowId' now, op = .recordBountyEscrowIntent missionId escrowId' now)
    ∨ ∃ missionId escrowId' now, op = .markBountyEscrowed missionId escrowId' now
        ∧ later.escrowId = some escrowId' := by
  cases h with
  | move _ _ hid => exact .inl (hid.trans hearlier)
  | note _ _ _ _ notes =>
    cases notes with
    | same hid => exact .inl (hid.trans hearlier)
    | clear missionId now hop => exact .inr (.inl ⟨missionId, now, hop⟩)
    | intent missionId escrowId' now hop =>
      exact .inr (.inr (.inl ⟨missionId, escrowId', now, hop⟩))
    | mark missionId escrowId' now hop hid =>
      exact .inr (.inr (.inr ⟨missionId, escrowId', now, hop, hid⟩))

lemma unconfirmed (hlater : later.hasUnconfirmedEscrow = true) : earlier.hasUnconfirmedEscrow = true
    ∨ ∃ missionId escrowId now, op = .recordBountyEscrowIntent missionId escrowId now := by
  have hkept : later.escrowId = earlier.escrowId → later.escrowConfirmed = earlier.escrowConfirmed →
      earlier.hasUnconfirmedEscrow = true := by
    intro hid hconfirmed
    rw [CivilMission.hasUnconfirmedEscrow, hid, hconfirmed] at hlater
    exact hlater
  cases h with
  | move _ _ hid hconfirmed => exact .inl (hkept hid hconfirmed)
  | note _ _ _ _ notes =>
    cases notes with
    | same hid hconfirmed => exact .inl (hkept hid hconfirmed)
    | clear _ _ _ hid => simp [CivilMission.hasUnconfirmedEscrow, hid] at hlater
    | intent missionId escrowId now hop => exact .inr ⟨missionId, escrowId, now, hop⟩
    | mark _ _ _ _ _ hconfirmed => simp [CivilMission.hasUnconfirmedEscrow, hconfirmed] at hlater

/-- Only `settle` settles, and only a completed mission. -/
lemma settled (hlater : later.status = .settled) : earlier.status = .settled
    ∨ ∃ missionId now, op = .settle missionId now ∧ earlier.status = .completed
        ∧ later.completedBy = earlier.completedBy := by
  cases h with
  | note _ _ hstatus => exact .inl (hstatus ▸ hlater)
  | move _ _ _ _ moves =>
    cases moves with
    | claim _ after => exact nomatch after.symm.trans hlater
    | complete _ after => exact nomatch after.symm.trans hlater
    | cancel _ after => exact nomatch after.symm.trans hlater
    | unfund _ _ _ _ _ after => exact nomatch after.symm.trans hlater
    | settle missionId now hop before _ hexecutor =>
      exact .inr ⟨missionId, now, hop, before, hexecutor⟩

/-- A completed mission is left by `settle`, and by `cancel_unfunded` while its escrow
is unconfirmed. -/
lemma completed (hearlier : earlier.status = .completed) : later.status = .completed
    ∨ (∃ missionId now, op = .settle missionId now ∧ later.status = .settled)
    ∨ ∃ missionId now, op = .cancelUnfunded missionId now
        ∧ earlier.hasUnconfirmedEscrow = true := by
  cases h with
  | note _ _ hstatus => exact .inl (hstatus.trans hearlier)
  | move _ _ _ _ moves =>
    cases moves with
    | claim before => exact nomatch before.symm.trans hearlier
    | complete before =>
      rcases before with before | before <;> exact nomatch before.symm.trans hearlier
    | cancel before => exact absurd hearlier before.1
    | unfund missionId now hop before => exact .inr (.inr ⟨missionId, now, hop, before⟩)
    | settle missionId now hop _ after => exact .inr (.inl ⟨missionId, now, hop, after⟩)

/-- A completed mission has an executor on record, if relayed completions name one. -/
lemma executor (hnamed : ∀ missionId agentDid result checkedAt now,
      op = .applyRemoteCompleted missionId agentDid result checkedAt now →
        isEmpty (trim agentDid) = false)
    (hearlier : earlier.status = .completed ∨ earlier.status = .settled →
      earlier.completedBy.isSome = true)
    (hlater : later.status = .completed ∨ later.status = .settled) :
    later.completedBy.isSome = true := by
  cases h with
  | note _ _ hstatus hexecutor =>
    rw [hexecutor]
    rw [hstatus] at hlater
    exact hearlier hlater
  | move _ _ _ _ moves =>
    cases moves with
    | claim _ after => rcases hlater with h | h <;> exact nomatch after.symm.trans h
    | cancel _ after => rcases hlater with h | h <;> exact nomatch after.symm.trans h
    | unfund _ _ _ _ _ after => rcases hlater with h | h <;> exact nomatch after.symm.trans h
    | settle _ _ _ before _ hexecutor =>
      rw [hexecutor]
      exact hearlier (.inl before)
    | complete _ _ hexecutor =>
      rcases hexecutor with hsome | ⟨missionId, agentDid, result, checkedAt, now, hop, hblank⟩
      · exact hsome
      · rw [hnamed _ _ _ _ _ hop] at hblank
        cases hblank

end Change

/-- A mission that is completed or settled and has no unconfirmed escrow. -/
def Firm (mission : CivilMission) : Prop :=
  (mission.status = .completed ∨ mission.status = .settled) ∧ mission.hasUnconfirmedEscrow = false

/-- **FIRM STAYS FIRM**, unless an escrow intent is recorded. -/
lemma Change.firm {earlier later : CivilMission} (h : Change op earlier later)
    (hevolves : Evolves earlier later)
    (hop : ∀ missionId escrowId now, op ≠ .recordBountyEscrowIntent missionId escrowId now)
    (hfirm : Firm earlier) : Firm later := by
  constructor
  · rcases hfirm.1 with hcompleted | hsettled
    · rcases h.completed hcompleted with h' | ⟨_, _, -, h'⟩ | ⟨_, _, -, hunconfirmed⟩
      · exact .inl h'
      · exact .inr h'
      · rw [hfirm.2] at hunconfirmed
        cases hunconfirmed
    · exact .inr ((hevolves.final (.inl hsettled)).trans hsettled)
  · rw [Bool.eq_false_iff]
    intro hunconfirmed
    rcases h.unconfirmed hunconfirmed with h' | ⟨missionId, escrowId, now, hop'⟩
    · rw [hfirm.2] at h'
      cases h'
    · exact hop missionId escrowId now hop'

/-! ## The board after a call -/

/-- A call on an existing mission. -/
def Rewrites (op : BoardOp) : Prop := ∀ spec uuid now, op ≠ .publish spec uuid now

lemma get_rewrites (board : MissionBoard) (h : Rewrites op) (id : String) : (step board op).get id
      = (board.get id).map fun mission =>
          if id = op.target then (op.body mission).2 else mission := by
  have heffect : ∀ stored, effect op stored = stored.map fun mission => (op.body mission).2 := by
    intro stored
    cases op with
    | publish spec uuid now => exact absurd rfl (h spec uuid now)
    | setExpiry | clearBountyEscrow | recordBountyEscrowIntent | markBountyEscrowed | claimAs
    | complete | cancel | cancelUnfunded | settle | cancelIfExpired | applyRemoteClaimApproved
    | applyRemoteCompleted => rfl
  rw [get_step, heffect]
  by_cases hid : id = op.target
  · simp only [hid, if_true]
  · simp only [hid, if_false, Option.map_id']

lemma rewrites_get (h : Rewrites op) (hm : board.get id = some mission) :
    id = op.target ∧ (step board op).get id = some (op.body mission).2
      ∨ id ≠ op.target ∧ (step board op).get id = some mission := by
  rw [get_rewrites board h, hm]
  by_cases hid : id = op.target
  · exact .inl ⟨hid, congrArg some (if_pos hid)⟩
  · exact .inr ⟨hid, congrArg some (if_neg hid)⟩

lemma rewrites_cases (h : Rewrites op)
    {later : CivilMission} (hlater : (step board op).get id = some later) :
    id = op.target ∧ (∃ mission, board.get id = some mission ∧ later = (op.body mission).2)
      ∨ id ≠ op.target ∧ board.get id = some later := by
  rw [get_rewrites board h] at hlater
  obtain ⟨mission, hm, rfl⟩ := Option.map_eq_some_iff.mp hlater
  by_cases hid : id = op.target
  · rw [if_pos hid]
    exact .inl ⟨hid, mission, hm, rfl⟩
  · rw [if_neg hid]
    exact .inr ⟨hid, hm⟩

/-! ## Missions as the handlers keep them -/

/-- A stored mission: in order, under its own id, with its own id as the id of its
escrow, and with an executor once it is completed. -/
structure Recorded (id : String) (mission : CivilMission) : Prop where
  wellFormed : WellFormed mission
  key : mission.missionId = id
  escrow : ∀ escrowId, mission.escrowId = some escrowId → escrowId = id
  executor : mission.status = .completed ∨ mission.status = .settled →
    mission.completedBy.isSome = true

/-- The calls the handlers make: an escrow has the id of its mission, and a relayed
completion names an agent. -/
def Sane : BoardOp → Prop
  | .recordBountyEscrowIntent missionId escrowId _ | .markBountyEscrowed missionId escrowId _ =>
    escrowId = missionId
  | .applyRemoteCompleted _ agentDid _ _ _ => isEmpty (trim agentDid) = false
  | .publish .. | .setExpiry .. | .clearBountyEscrow .. | .claimAs .. | .complete .. | .cancel ..
  | .cancelUnfunded .. | .settle .. | .cancelIfExpired .. | .applyRemoteClaimApproved .. => True

lemma recorded_publication (spec : MissionSpec) (uuid : String) (now : Int) :
    Recorded uuid (publication spec uuid now) :=
  ⟨wellFormed_publication spec uuid now, rfl, fun _ h => (nomatch h),
    fun h => by rcases h with h | h <;> cases h⟩

lemma recorded_body (op : BoardOp) (hsane : Sane op) (h : Recorded op.target mission) :
    Recorded op.target (op.body mission).2 := by
  have hchange := change_body op mission
  refine ⟨(orderly_body op mission h.wellFormed).1, hchange.missionId_eq.trans h.key, ?_,
    hchange.executor ?_ h.executor⟩
  · intro escrowId hescrow
    rcases hchange.escrow hescrow with hold | ⟨missionId, now, rfl⟩ | ⟨missionId, now, rfl⟩
    · exact h.escrow escrowId hold
    · exact hsane
    · exact hsane
  · rintro missionId agentDid result checkedAt now rfl
    exact hsane

end WattRecord
