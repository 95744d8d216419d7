import Wattetheria.MissionGuardProofs

/-!
# Relayed updates of a mission

Claim approvals and completions relayed from the network may be repeated and may come in any
order.  Each changes one record, and a record that took an update takes it again without a
change, unless its deadline has passed in between: then it is cancelled.
-/

namespace WattRelay

open WattText WattJson WattKeyed WattMission WattGuard

/-- An update relayed from the network. -/
inductive RelayedUpdate where
  | claimApproved (agentDid : String)
  | completed (agentDid : String) (result : Option JsonValue)

namespace RelayedUpdate

/-- The update of a record, as of the two clock readings of the call. -/
def record : RelayedUpdate → Int → Int → CivilMission → Except String Unit × CivilMission
  | .claimApproved agentDid => applyRemoteClaimApprovedRecord agentDid
  | .completed agentDid result => applyRemoteCompletedRecord agentDid result

/-- What an update does to the board. -/
def apply (missionId : String) (checkedAt now : Int) (board : MissionBoard) :
    RelayedUpdate → Except String (Option CivilMission) × MissionBoard
  | .claimApproved agentDid => board.applyRemoteClaimApproved missionId agentDid checkedAt now
  | .completed agentDid result =>
    board.applyRemoteCompleted missionId agentDid result checkedAt now

end RelayedUpdate

open RelayedUpdate

variable {update : RelayedUpdate} {mission : CivilMission} {agentDid : String}
  {result : Option JsonValue} {c c' n n' : Int}

/-- Neither update changes the mission again, as long as it is not cancelled. -/
def Still (mission : CivilMission) : RelayedUpdate → Prop
  | .claimApproved _ => mission.status ≠ .open
  | .completed agentDid _ => mission.status = .open ∨ mission.status = .claimed →
      ensureSameClaimer mission (trim agentDid) ≠ .ok ()

lemma record_expired {cancelled : CivilMission} (h : cancelIfExpired c mission = some cancelled) :
    update.record c n mission = (.ok (), cancelled) := by
  cases update with
  | claimApproved => rw [record, applyRemoteClaimApprovedRecord, h]
  | completed => rw [record, applyRemoteCompletedRecord, h]

lemma record_still (hstill : Still mission update) (h : cancelIfExpired c mission = none) :
    (update.record c n mission).2 = mission := by
  cases update with
  | claimApproved =>
    rw [record, applyRemoteClaimApprovedRecord, h]
    cases hstatus : mission.status with
    | «open» => exact absurd hstatus hstill
    | _ => rfl
  | completed agentDid result =>
    rw [record, applyRemoteCompletedRecord, h]
    cases hstatus : mission.status with
    | «open» | claimed =>
      dsimp only
      rw [attempt_snd, if_neg (hstill (by simp [hstatus]))]
    | _ => rfl

lemma still_cancelled (h : mission.status = .cancelled) : Still mission update := by
  cases update <;> simp [Still, h]

lemma still_record : Still (update.record c n mission).2 update := by
  cases hexpired : cancelIfExpired c mission with
  | some cancelled =>
    rw [record_expired hexpired]
    exact still_cancelled (cancelIfExpired_eq_some hexpired).2.2
  | none =>
    cases update with
    | claimApproved =>
      rw [record, applyRemoteClaimApprovedRecord, hexpired]
      cases hstatus : mission.status <;> simp [Still, hstatus]
    | completed agentDid result =>
      rw [record, applyRemoteCompletedRecord, hexpired]
      cases hstatus : mission.status with
      | «open» | claimed =>
        dsimp only
        rw [attempt_snd]
        split
        · simp [Still]
        · next hrefused => exact fun _ => hrefused
      | _ => simp [Still, hstatus]

lemma record_error {text : String} (h : (update.record c n mission).1 = .error text) :
    (update.record c n mission).2 = mission := by
  cases hexpired : cancelIfExpired c mission with
  | some cancelled =>
    rw [record_expired hexpired] at h
    cases h
  | none =>
    cases update with
    | claimApproved =>
      rw [record, applyRemoteClaimApprovedRecord, hexpired] at h ⊢
      cases hstatus : mission.status <;> simp_all
    | completed =>
      rw [record, applyRemoteCompletedRecord, hexpired] at h ⊢
      cases hstatus : mission.status with
      | «open» | claimed =>
        rw [hstatus] at h
        dsimp only at h ⊢
        rw [attempt_snd, if_neg]
        intro hok
        rw [attempt_ok_iff.mpr hok] at h
        cases h
      | _ => rfl

/-- A mission that nobody has completed has neither an executor nor a result. -/
def Unworked (mission : CivilMission) : Prop :=
  mission.status = .open ∨ mission.status = .claimed →
    mission.completedBy = none ∧ mission.completionResult = none

/-- What the earlier record names, the later one names too. -/
structure Agrees (earlier later : CivilMission) : Prop where
  claimer : ∀ agent ∈ earlier.claimedBy, later.claimedBy = some agent
  executor : ∀ agent ∈ earlier.completedBy, later.completedBy = some agent
  result : ∀ result ∈ earlier.completionResult, later.completionResult = some result

/-- A mission that took an update. -/
def Taken (mission : CivilMission) : Prop :=
  mission.status ≠ .open ∧ (mission.status = .claimed →
    mission.completedBy = none ∧ mission.completionResult = none)

lemma taken_record (h : Unworked mission) (hok : (update.record c n mission).1 = .ok ()) :
    Taken (update.record c n mission).2 := by
  cases hexpired : cancelIfExpired c mission with
  | some cancelled =>
    rw [record_expired hexpired]
    simp [Taken, (cancelIfExpired_eq_some hexpired).2.2]
  | none =>
    cases update with
    | claimApproved =>
      rw [record, applyRemoteClaimApprovedRecord, hexpired]
      cases hstatus : mission.status <;> simp_all [Taken, Unworked]
    | completed agentDid result =>
      rw [record, applyRemoteCompletedRecord, hexpired] at hok ⊢
      cases hstatus : mission.status with
      | «open» | claimed =>
        rw [hstatus] at hok
        dsimp only at hok ⊢
        rw [attempt_snd, if_pos (attempt_ok_iff.mp hok)]
        simp [Taken]
      | _ => simp [Taken, hstatus]

lemma agrees_record (h : Taken mission) : Agrees mission (update.record c n mission).2 := by
  have hsame : Agrees mission mission := ⟨fun _ h => h, fun _ h => h, fun _ h => h⟩
  cases hexpired : cancelIfExpired c mission with
  | some cancelled =>
    rw [record_expired hexpired]
    unfold cancelIfExpired at hexpired
    split at hexpired
    · cases hexpired
      exact ⟨hsame.claimer, hsame.executor, hsame.result⟩
    · cases hexpired
  | none =>
    cases update with
    | claimApproved agentDid =>
      have hstill : Still mission (.claimApproved agentDid) := h.1
      rw [record_still hstill hexpired]
      exact hsame
    | completed agentDid result =>
      rw [record, applyRemoteCompletedRecord, hexpired]
      cases hstatus : mission.status with
      | «open» => exact absurd hstatus h.1
      | claimed =>
        obtain ⟨hexecutor, hresult⟩ := h.2 hstatus
        refine attempt_elim hsame fun _ => ⟨fun agent hagent => ?_, ?_, ?_⟩
        · simp [Option.mem_def.mp hagent]
        · simp [hexecutor]
        · simp [hresult]
      | _ => exact hsame

/-! ## The board -/

variable {board : MissionBoard} {id : String}

lemma apply_none (h : board.get id = none) : update.apply id c n board = (.ok none, board) := by
  cases update <;>
    simp [RelayedUpdate.apply, MissionBoard.applyRemoteClaimApproved,
      MissionBoard.applyRemoteCompleted, MissionBoard.withRemoteMission, h]

lemma apply_some (h : board.get id = some mission) :
    update.apply id c n board = ((update.record c n mission).1.map fun _ =>
        some (update.record c n mission).2, board.put id (update.record c n mission).2) := by
  cases update <;>
    simp [RelayedUpdate.apply, RelayedUpdate.record, MissionBoard.applyRemoteClaimApproved,
      MissionBoard.applyRemoteCompleted, MissionBoard.withRemoteMission, h]

lemma get_put_self : (board.put id mission).get id = some mission := by
  rw [MissionBoard.get_put, if_pos rfl]

lemma put_of_get (h : board.get id = some mission) : board.put id mission = board :=
  congrArg MissionBoard.mk (insert_self h)

/-- **RELAYED UPDATES**: an update that is repeated changes nothing, exactly when the mission is
not open or claimed past its deadline by then; an update that is refused changes nothing;
and of a mission that has no executor or result before it is completed, two updates that
are taken record one claimer, one executor and one result. -/
theorem relayed_updates_agree (board : MissionBoard) (id : String) (update : RelayedUpdate)
    (c n c' n' : Int) :
    ((update.apply id c' n' (update.apply id c n board).2).2 = (update.apply id c n board).2
        ↔ ∀ mission ∈ (update.apply id c n board).2.get id, cancelIfExpired c' mission = none)
      ∧ (∀ text, (update.apply id c n board).1 = .error text →
          (update.apply id c n board).2 = board)
      ∧ ∀ (update' : RelayedUpdate) (earlier later : CivilMission),
          (∀ mission ∈ board.get id, Unworked mission) →
          (update.apply id c n board).1 = .ok (some earlier) →
          (update'.apply id c' n' (update.apply id c n board).2).1 = .ok (some later) →
            Agrees earlier later := by
  cases hget : board.get id with
  | none =>
    rw [apply_none hget]
    dsimp only
    rw [apply_none hget]
    refine ⟨by simp [hget], fun _ _ => rfl, fun _ _ _ _ h => ?_⟩
    cases h
  | some mission =>
    rw [apply_some hget]
    dsimp only
    rw [apply_some get_put_self]
    refine ⟨⟨fun h later hlater => ?_, fun h => ?_⟩, fun text h => ?_,
      fun update' earlier later hunworked hearlier hlater => ?_⟩
    · rw [get_put_self] at hlater
      cases hlater
      cases hexpired : cancelIfExpired c' (update.record c n mission).2 with
      | none => rfl
      | some cancelled =>
        -- cancelled now, open or claimed before
        rw [record_expired hexpired] at h
        have hsame := congrArg (fun board => board.get id) h
        simp only [get_put_self, Option.some.injEq] at hsame
        obtain ⟨hstatus, -, hcancelled⟩ := cancelIfExpired_eq_some hexpired
        rw [← hsame, hcancelled] at hstatus
        simp at hstatus
    · have hstill := record_still (n := n') still_record (h _ get_put_self)
      rw [hstill]
      exact put_of_get get_put_self
    · cases hresult : (update.record c n mission).1 with
      | error text =>
        rw [record_error hresult]
        exact put_of_get hget
      | ok u =>
        rw [hresult] at h
        cases h
    · rw [apply_some get_put_self] at hlater
      cases hfirst : (update.record c n mission).1 with
      | error text =>
        rw [hfirst] at hearlier
        cases hearlier
      | ok u =>
        rw [hfirst] at hearlier
        cases hearlier
        have htaken := taken_record (hunworked mission rfl) hfirst
        cases hsecond : (update'.record c' n' (update.record c n mission).2).1 with
        | error text =>
          rw [hsecond] at hlater
          cases hlater
        | ok u =>
          rw [hsecond] at hlater
          cases hlater
          exact agrees_record htaken

/-- A claimed mission on a board of its own, with a deadline. -/
def toyBoard (executor : Option String) : MissionBoard :=
  MissionBoard.empty.put "m"
    { publication toySpec "m" 0 with
      status := .claimed, completedBy := executor, expiresAt := some 100 }

/-- The approval that is repeated after the deadline cancels the mission, and a completion
replaces an executor that a claimed mission has. -/
theorem repeated_after_deadline :
    let approval := RelayedUpdate.claimApproved "did:bob"
    let once := (approval.apply "m" 50 50 (toyBoard none)).2
    let worked := (approval.apply "m" 50 50 (toyBoard (some "did:eve"))).2
    (approval.apply "m" 150 150 once).2 ≠ once
      ∧ (worked.get "m").bind (·.completedBy) = some "did:eve"
      ∧ (((RelayedUpdate.completed "did:bob" none).apply "m" 50 50 worked).2.get "m").bind
          (·.completedBy) = some "did:bob" := by
  refine ⟨fun h => ?_, by decide +kernel, by decide +kernel⟩
  exact absurd (congrArg (fun board => (board.get "m").map (·.status)) h) (by decide +kernel)

end WattRelay
