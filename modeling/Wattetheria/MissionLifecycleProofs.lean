import Wattetheria.MissionBoard

/-!
# The life of a mission

One invariant over all the operations of the board, local and remote: which
fields a mission has in which status (`WellFormed`), and how the record of a
mission may change from an earlier state of the board to a later one
(`Evolves`).  The status moves along the edges of `Next`; a relayed completion of
an open mission claims and completes it in one call.
-/

namespace WattLifecycle

open WattText WattJson WattKeyed WattRuns WattMission

/-- The edges of the life of a mission. -/
inductive Next : MissionStatus → MissionStatus → Prop where
  | claim : Next .open .claimed
  | complete : Next .claimed .completed
  | settle : Next .completed .settled
  | withdraw : Next .open .cancelled
  | abandon : Next .claimed .cancelled
  | unfund : Next .completed .cancelled

/-- What a mission looks like in each status. -/
structure WellFormed (mission : CivilMission) : Prop where
  unclaimed : mission.status = .open → mission.claimedBy = none
  unfinished : mission.status = .open ∨ mission.status = .claimed → mission.completedBy = none
  executor : mission.status = .completed ∨ mission.status = .settled →
    ∀ agent, mission.completedBy = some agent → mission.claimedBy = some agent
  settledAt : mission.settledAt.isSome = true ↔ mission.status = .settled

/-- How the record of a mission changes over time. -/
structure Evolves (earlier later : CivilMission) : Prop where
  path : Relation.ReflTransGen Next earlier.status later.status
  final : earlier.status = .settled ∨ earlier.status = .cancelled → later.status = earlier.status
  claimer : ∀ agent, earlier.claimedBy = some agent → later.claimedBy = some agent
  executor : ∀ agent, earlier.completedBy = some agent → later.completedBy = some agent

lemma Evolves.refl (mission : CivilMission) : Evolves mission mission :=
  ⟨.refl, fun _ => rfl, fun _ h => h, fun _ h => h⟩

variable {a : CivilMission} {b : CivilMission}

lemma Evolves.trans {c : CivilMission} (hab : Evolves a b) (hbc : Evolves b c) : Evolves a c where
  path := hab.path.trans hbc.path
  final h := by
    have hb := hab.final h
    rw [← hb] at h ⊢
    exact hbc.final h
  claimer agent h := hbc.claimer agent (hab.claimer agent h)
  executor agent h := hbc.executor agent (hab.executor agent h)

lemma evolves_of_same (hstatus : b.status = a.status)
    (hclaimer : b.claimedBy = a.claimedBy) (hexecutor : b.completedBy = a.completedBy) :
    Evolves a b where
  path := by rw [hstatus]
  final _ := hstatus
  claimer agent h := hclaimer.trans h
  executor agent h := hexecutor.trans h

lemma wellFormed_of_same (h : WellFormed a) (hstatus : b.status = a.status)
    (hclaimer : b.claimedBy = a.claimedBy) (hexecutor : b.completedBy = a.completedBy)
    (hsettled : b.settledAt = a.settledAt) : WellFormed b where
  unclaimed := by rw [hstatus, hclaimer]; exact h.unclaimed
  unfinished := by rw [hstatus, hexecutor]; exact h.unfinished
  executor := by rw [hstatus, hexecutor, hclaimer]; exact h.executor
  settledAt := by rw [hstatus, hsettled]; exact h.settledAt

/-- A cancelled mission that was not settled keeps its names and has no settlement
time. -/
lemma cancelled_ok (h : WellFormed a) (hs : a.status ≠ .settled) (now : Int) :
    WellFormed { a with status := .cancelled, updatedAt := now }
      ∧ Evolves a { a with status := .cancelled, updatedAt := now } := by
  have hunsettled : a.settledAt.isSome ≠ true := fun hsome => hs (h.settledAt.mp hsome)
  refine ⟨⟨by simp, by simp, by simp, by simp [hunsettled]⟩, ?_, ?_, fun _ h => h, fun _ h => h⟩
  · show Relation.ReflTransGen Next a.status .cancelled
    cases hstatus : a.status with
    | «open» => exact .single .withdraw
    | claimed => exact .single .abandon
    | completed => exact .single .unfund
    | settled => exact absurd hstatus hs
    | cancelled => exact .refl
  · rintro (h' | h')
    · exact absurd h' hs
    · exact h'.symm

/-! ## One call -/

/-- What a body must do for the life of a mission to stay in order. -/
def Orderly (body : CivilMission → Except String Unit × CivilMission) : Prop :=
  ∀ mission, WellFormed mission → WellFormed (body mission).2 ∧ Evolves mission (body mission).2

variable {write : CivilMission → CivilMission} {mission : CivilMission}
  {checks : CivilMission → Except String Unit}

lemma attempt_ok (hmission : WellFormed mission)
    (h : checks mission = .ok () → WellFormed (write mission) ∧ Evolves mission (write mission)) :
    WellFormed (attempt checks write mission).2
      ∧ Evolves mission (attempt checks write mission).2 :=
  attempt_elim (P := fun later => WellFormed later ∧ Evolves mission later)
    ⟨hmission, .refl mission⟩ h

lemma orderly_attempt (h : ∀ mission, WellFormed mission → checks mission = .ok () →
      WellFormed (write mission) ∧ Evolves mission (write mission)) :
    Orderly (attempt checks write) :=
  fun mission hmission => attempt_ok hmission (h mission hmission)

lemma orderly_amend (now : Int) (h : ∀ mission, (write mission).status = mission.status
      ∧ (write mission).claimedBy = mission.claimedBy
      ∧ (write mission).completedBy = mission.completedBy
      ∧ (write mission).settledAt = mission.settledAt) : Orderly (amend now write) := by
  refine orderly_attempt fun mission hmission _ => ?_
  obtain ⟨hstatus, hclaimer, hexecutor, hsettled⟩ := h mission
  exact ⟨wellFormed_of_same hmission hstatus hclaimer hexecutor hsettled,
    evolves_of_same hstatus hclaimer hexecutor⟩

variable (agentDid : String)

lemma claimed_ok {mission later : CivilMission} (hmission : WellFormed mission)
    (hopen : mission.status = .open) (hstatus : later.status = .claimed)
    (hexecutor : later.completedBy = mission.completedBy)
    (hsettled : later.settledAt = mission.settledAt) :
    WellFormed later ∧ Evolves mission later := by
  have hunsettled := hmission.settledAt
  rw [hopen, ← hsettled] at hunsettled
  refine ⟨⟨by simp [hstatus], fun _ => hexecutor ▸ hmission.unfinished (.inl hopen),
    by simp [hstatus], by simpa [hstatus] using hunsettled⟩, ?_⟩
  refine ⟨by rw [hopen, hstatus]; exact .single .claim, by simp [hopen], ?_,
    fun _ h => hexecutor ▸ h⟩
  intro agent h
  rw [hmission.unclaimed hopen] at h
  cases h

lemma orderly_claimAs (displayName : Option String) (checkedAt now : Int) :
    Orderly (claimAsRecord agentDid displayName checkedAt now) := by
  refine orderly_attempt fun mission hmission hchecks => ?_
  obtain ⟨_, hopen, -⟩ := bind_eq_ok.mp hchecks
  have hstatus : mission.status = .open := by simpa [bailIf_eq_ok] using hopen
  exact claimed_ok hmission hstatus rfl rfl rfl

variable (result : Option JsonValue) (checkedAt now : Int)

lemma orderly_complete : Orderly (completeRecord agentDid result checkedAt now) := by
  refine orderly_attempt fun mission hmission hchecks => ?_
  obtain ⟨_, hclaimed, hchecks⟩ := bind_eq_ok.mp hchecks
  obtain ⟨_, hclaimer, -⟩ := bind_eq_ok.mp hchecks
  have hstatus : mission.status = .claimed := by simpa [bailIf_eq_ok] using hclaimed
  have hclaimedBy : mission.claimedBy = some agentDid := by
    simpa [bailIf_eq_ok] using hclaimer
  have hunsettled := hmission.settledAt
  rw [hstatus] at hunsettled
  refine ⟨⟨by simp, by simp, ?_, by simpa using hunsettled⟩, ?_⟩
  · -- the executor is the claimer the check compared it with
    intro _ agent hagent
    rw [← hagent]
    exact hclaimedBy
  · refine ⟨by rw [hstatus]; exact .single .complete, by simp [hstatus], fun _ h => h, ?_⟩
    intro agent h
    rw [hmission.unfinished (.inr hstatus)] at h
    cases h

lemma orderly_cancel (now : Int) : Orderly (cancelRecord now) := by
  refine orderly_attempt fun mission hmission hchecks => ?_
  refine cancelled_ok hmission ?_ now
  intro hs
  simp [bailIf_eq_ok, hs] at hchecks

lemma orderly_cancelUnfunded (now : Int) : Orderly (cancelUnfundedRecord now) := by
  refine orderly_attempt fun mission hmission hchecks => ?_
  obtain ⟨_, -, hchecks⟩ := bind_eq_ok.mp hchecks
  refine cancelled_ok hmission ?_ now
  intro hs
  simp [bailIf_eq_ok, hs] at hchecks

lemma orderly_settle (now : Int) : Orderly (settleRecord now) := by
  refine orderly_attempt fun mission hmission hchecks => ?_
  have hstatus : mission.status = .completed := by simpa [bailIf_eq_ok] using hchecks
  refine ⟨⟨by simp, by simp, fun _ => hmission.executor (.inl hstatus), by simp⟩, ?_⟩
  exact ⟨by rw [hstatus]; exact .single .settle, by simp [hstatus], fun _ h => h, fun _ h => h⟩

/-- What `cancel_if_expired` returns is a cancellation of an unsettled mission. -/
lemma cancelIfExpired_ok {cancelled : CivilMission} {now : Int} (hmission : WellFormed mission)
    (h : cancelIfExpired now mission = some cancelled) :
    WellFormed cancelled ∧ Evolves mission cancelled := by
  rw [cancelIfExpired] at h
  split at h
  · rename_i hexpired
    cases h
    refine cancelled_ok hmission ?_ now
    rcases hexpired.1 with hs | hs <;> rw [hs] <;> decide
  · cases h

lemma orderly_cancelIfExpired (now : Int) : Orderly (cancelIfExpiredRecord now) := by
  intro mission hmission
  show WellFormed ((cancelIfExpired now mission).getD mission)
    ∧ Evolves mission ((cancelIfExpired now mission).getD mission)
  cases h : cancelIfExpired now mission with
  | none => exact ⟨hmission, .refl mission⟩
  | some cancelled => exact cancelIfExpired_ok hmission h

lemma orderly_applyRemoteClaimApproved :
    Orderly (applyRemoteClaimApprovedRecord agentDid checkedAt now) := by
  intro mission hmission
  rw [applyRemoteClaimApprovedRecord]
  cases h : cancelIfExpired checkedAt mission with
  | some cancelled => exact cancelIfExpired_ok hmission h
  | none =>
    cases hstatus : mission.status with
    | «open» => exact claimed_ok hmission hstatus rfl rfl rfl
    | _ => exact ⟨hmission, .refl mission⟩

lemma claimer_of_sameClaimer {agent : String} (hagent : isEmpty agent = false)
    (h : ensureSameClaimer mission agent = .ok ()) : mission.claimedBy.getD agent = agent := by
  rw [ensureSameClaimer] at h
  cases hclaimer : mission.claimedBy with
  | none => rfl
  | some claimer =>
    rw [hclaimer] at h
    simpa [bailIf_eq_ok, hagent] using h

lemma remoteCompletion_ok (hmission : WellFormed mission)
    (hstatus : mission.status = .open ∨ mission.status = .claimed) (agent : String)
    (result : Option JsonValue) (now : Int) (hclaimer : ensureSameClaimer mission agent = .ok ()) :
    let later := { mission with
      claimedBy := if isEmpty agent then mission.claimedBy
        else some (mission.claimedBy.getD agent)
      completedBy := if isEmpty agent then mission.completedBy else some agent
      completionResult :=
        if result.isSome || mission.completionResult.isNone then result
        else mission.completionResult
      status := MissionStatus.completed
      updatedAt := now }
    WellFormed later ∧ Evolves mission later := by
  have hunsettled : mission.settledAt.isSome ≠ true := by
    intro hsome
    have hs := hmission.settledAt.mp hsome
    rcases hstatus with h | h <;> rw [h] at hs <;> cases hs
  have hnone := hmission.unfinished hstatus
  constructor
  · refine ⟨by simp, by simp, ?_, by simp [hunsettled]⟩
    intro _ executor hexecutor
    cases hempty : isEmpty agent with
    | true => simp [hempty, hnone] at hexecutor
    | false =>
      simp only [hempty, Bool.false_eq_true, if_false] at hexecutor ⊢
      rw [claimer_of_sameClaimer hempty hclaimer]
      exact hexecutor
  · refine ⟨?_, ?_, ?_, ?_⟩
    · -- an open mission is claimed and completed in one call
      rcases hstatus with h | h <;> rw [h]
      · exact .tail (.single .claim) .complete
      · exact .single .complete
    · rintro (h | h) <;> rcases hstatus with h' | h' <;> rw [h'] at h <;> cases h
    · intro claimer h
      show (if isEmpty agent then mission.claimedBy
        else some (mission.claimedBy.getD agent)) = some claimer
      rw [h]
      simp
    · intro executor h
      rw [hnone] at h
      cases h

lemma orderly_applyRemoteCompleted :
    Orderly (applyRemoteCompletedRecord agentDid result checkedAt now) := by
  intro mission hmission
  rw [applyRemoteCompletedRecord]
  cases h : cancelIfExpired checkedAt mission with
  | some cancelled => exact cancelIfExpired_ok hmission h
  | none =>
    cases hstatus : mission.status with
    | «open» =>
      exact attempt_ok hmission (remoteCompletion_ok hmission (.inl hstatus) _ result now)
    | claimed =>
      exact attempt_ok hmission (remoteCompletion_ok hmission (.inr hstatus) _ result now)
    | _ => exact ⟨hmission, .refl mission⟩

variable (op : BoardOp)

lemma orderly_body : Orderly op.body := by
  cases op with
  | publish => exact fun mission h => ⟨h, .refl mission⟩
  | setExpiry => exact orderly_amend _ fun _ => ⟨rfl, rfl, rfl, rfl⟩
  | clearBountyEscrow => exact orderly_amend _ fun _ => ⟨rfl, rfl, rfl, rfl⟩
  | recordBountyEscrowIntent => exact orderly_amend _ fun _ => ⟨rfl, rfl, rfl, rfl⟩
  | markBountyEscrowed => exact orderly_amend _ fun _ => ⟨rfl, rfl, rfl, rfl⟩
  | claimAs => exact orderly_claimAs _ _ _ _
  | complete => exact orderly_complete _ _ _ _
  | cancel => exact orderly_cancel _
  | cancelUnfunded => exact orderly_cancelUnfunded _
  | settle => exact orderly_settle _
  | cancelIfExpired => exact orderly_cancelIfExpired _
  | applyRemoteClaimApproved => exact orderly_applyRemoteClaimApproved _ _ _
  | applyRemoteCompleted => exact orderly_applyRemoteCompleted _ _ _ _

/-! ## Runs -/

variable (board : MissionBoard)

/-- The uuid a publication draws is new to the board. -/
def freshId : BoardOp → Prop
  | .publish spec uuid now => board.get (publication spec uuid now).missionId = none
  | .setExpiry .. | .clearBountyEscrow .. | .recordBountyEscrowIntent .. | .markBountyEscrowed ..
  | .claimAs .. | .complete .. | .cancel .. | .cancelUnfunded .. | .settle ..
  | .cancelIfExpired .. | .applyRemoteClaimApproved .. | .applyRemoteCompleted .. => True

lemma wellFormed_publication (spec : MissionSpec) (uuid : String) (now : Int) :
    WellFormed (publication spec uuid now) :=
  ⟨fun _ => rfl, fun _ => rfl, fun _ _ h => (nomatch h), by simp [publication]⟩

/-- A call on a board of well-formed missions leaves well-formed missions, and on a
stored mission an evolution of it. -/
lemma effect_ok {board : MissionBoard}
    (hboard : boardStore.Forall (fun _ mission => WellFormed mission) board) {op : BoardOp}
    (hfresh : freshId board op) :
    (∀ mission, effect op (board.get op.target) = some mission → WellFormed mission)
    ∧ ∀ mission, board.get op.target = some mission →
        ∃ later, effect op (some mission) = some later ∧ Evolves mission later := by
  have hbody : (∀ later, (board.get op.target).map (fun m => (op.body m).2) = some later →
        WellFormed later)
      ∧ ∀ mission, board.get op.target = some mission →
        ∃ later, (some mission).map (fun m => (op.body m).2) = some later
          ∧ Evolves mission later := by
    constructor
    · intro later hlater
      obtain ⟨mission, hmission, rfl⟩ := Option.map_eq_some_iff.mp hlater
      exact (orderly_body op mission (hboard _ mission hmission)).1
    · intro mission hmission
      exact ⟨_, rfl, (orderly_body op mission (hboard _ mission hmission)).2⟩
  cases op with
  | publish spec uuid now =>
    constructor
    · intro mission h
      cases h
      exact wellFormed_publication spec uuid now
    · intro mission h
      exact nomatch (show board.get _ = none from hfresh).symm.trans h
  | setExpiry | clearBountyEscrow | recordBountyEscrowIntent | markBountyEscrowed | claimAs
  | complete | cancel | cancelUnfunded | settle | cancelIfExpired | applyRemoteClaimApproved
  | applyRemoteCompleted => exact hbody

lemma wellFormed_step (op : BoardOp)
    (hboard : boardStore.Forall (fun _ mission => WellFormed mission) board)
    (hfresh : freshId board op) :
    boardStore.Forall (fun _ mission => WellFormed mission) (step board op) :=
  (boardStore.forall_step hboard op).mpr (effect_ok hboard hfresh).1

lemma wellFormed_empty : boardStore.Forall (fun _ mission => WellFormed mission) .empty := by
  intro id mission h
  cases h

variable (ops : List BoardOp)

lemma evolves_run (hfresh : AllSteps step freshId .empty ops) :
    AlwaysRelated boardStore.step (boardStore.Kept Evolves) .empty ops := by
  rw [boardStore.alwaysKept_iff Evolves.refl Evolves.trans]
  exact allSteps_of_inv wellFormed_step (fun _ _ hboard hop => (effect_ok hboard hop).2)
    wellFormed_empty hfresh

/-- **THE LIFE OF A MISSION**: along every run of the board from the empty one, in
which publications draw new ids, each mission is well formed in every state, and
from any earlier to any later state its status moves along `Next`, settled and
cancelled are final, and claimer and executor never change once set. -/
theorem mission_lifecycle (hfresh : AllSteps step freshId .empty ops) :
    Always step (fun board => ∀ id mission, board.get id = some mission →
        (mission.status = .open → mission.claimedBy = none ∧ mission.completedBy = none)
        ∧ (mission.status = .completed ∨ mission.status = .settled →
            ∀ agent, mission.completedBy = some agent → mission.claimedBy = some agent)
        ∧ (mission.settledAt.isSome = true ↔ mission.status = .settled)) .empty ops
    ∧ AlwaysRelated step (fun before after => ∀ id mission, before.get id = some mission →
        ∃ later, after.get id = some later ∧ Evolves mission later) .empty ops := by
  refine ⟨?_, evolves_run ops hfresh⟩
  intro pre post hops id mission hmission
  have h := always_of_inv wellFormed_step wellFormed_empty hfresh pre post hops id mission hmission
  exact ⟨fun hopen => ⟨h.unclaimed hopen, h.unfinished (.inl hopen)⟩, h.executor, h.settledAt⟩

/-- A mission claimed and completed by one agent and settled. -/
def settledRun : List BoardOp :=
  [.publish toySpec "m-1" 100, .recordBountyEscrowIntent "m-1" "m-1" 101,
    .markBountyEscrowed "m-1" "m-1" 102, .claimAs "m-1" "did:bob" none 103 103,
    .complete "m-1" "did:bob" none 104 104, .settle "m-1" 105]

/-- The settled mission of such a run was executed by its claimer. -/
theorem mission_lifecycle_settledRun :
    ∃ mission, (run step .empty settledRun).get "m-1" = some mission
      ∧ mission.status = .settled ∧ mission.completedBy = some "did:bob"
      ∧ mission.claimedBy = some "did:bob" := by
  obtain ⟨mission, hget, hstatus, hexecutor⟩ :
      ∃ mission, (run step .empty settledRun).get "m-1" = some mission
        ∧ mission.status = .settled ∧ mission.completedBy = some "did:bob" :=
    ⟨_, rfl, by decide +kernel, by decide +kernel⟩
  have hlife := mission_lifecycle settledRun
    ⟨MissionBoard.get_empty _, trivial, trivial, trivial, trivial, trivial, trivial⟩
  exact ⟨mission, hget, hstatus, hexecutor,
    (hlife.1 settledRun [] (List.append_nil _).symm "m-1" mission hget).2.1 (.inr hstatus) _
      hexecutor⟩

end WattLifecycle
