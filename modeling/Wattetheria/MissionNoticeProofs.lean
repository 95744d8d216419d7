import Wattetheria.AgentEvents

/-!
# What a mission notice does

A notice has a kind and a mission; it is taken by the table that tracks the
mission.  On the board it becomes one of the two relayed updates, for the signer
and only if it names no other claimer.  In the network claims it becomes a status
of a record of the mission.
-/

namespace WattNotice

open WattText WattJson WattMission WattClaims WattEvents NetworkMissionClaimRegistry Option

/-- The kind and the mission of a notice. -/
def lifecycleNotice (event : AgentEventEnvelope) : Option (String × String) := do
  let kind ← missionLifecycleKind event
  let _ ← missionLifecycleStatus kind
  let missionId ← missionLifecycleStringFromEvent event "mission_id"
  return (kind, missionId)

variable {event : AgentEventEnvelope} {kind missionId : String}

lemma lifecycleNotice_eq_some (h : lifecycleNotice event = some (kind, missionId)) :
    missionLifecycleKind event = some kind ∧ (∃ status, missionLifecycleStatus kind = some status)
      ∧ missionLifecycleStringFromEvent event "mission_id" = some missionId := by
  simp only [lifecycleNotice, Option.bind_eq_bind, bind_eq_some_iff] at h
  obtain ⟨kind', hkind, status, hstatus, missionId', hmission, h⟩ := h
  obtain ⟨rfl, rfl⟩ := Prod.mk.inj (some.inj h)
  exact ⟨hkind, ⟨status, hstatus⟩, hmission⟩

variable {status : String}

lemma missionLifecycleStatus_cases (h : missionLifecycleStatus kind = some status) :
    kind = "mission_claim_approved" ∧ status = "claimed"
    ∨ kind = "mission_completed" ∧ status = "completed"
    ∨ kind = "mission_settled" ∧ status = "settled" := by
  unfold missionLifecycleStatus at h
  split at h <;> simp_all

variable {ambient : Ambient} {node : Node}

lemma sync_no_notice {signer : VerifiedAgentContext} (h : lifecycleNotice event = none) :
    (syncMissionLifecycleEventToState ambient node event (some signer)).2 = node := by
  rw [syncMissionLifecycleEventToState]
  cases hkind : missionLifecycleKind event with
  | none => rfl
  | some kind =>
    cases hstatus : missionLifecycleStatus kind with
    | none => simp only [hstatus]
    | some status =>
      simp only [hstatus]
      split
      · rfl
      · have hmission : missionLifecycleStringFromEvent event "mission_id" = none := by
          refine eq_none_iff_forall_ne_some.mpr ?_
          simpa [lifecycleNotice, hkind, hstatus] using h
        simp only [hmission]

/-- A notice this node may take: it is addressed to it or to nobody. -/
def addressed (agentDid : String) (event : AgentEventEnvelope) : Prop :=
  (event.targetAgentId.any fun target => target ≠ agentDid) = false

lemma sync_notice {signer : VerifiedAgentContext}
    (hnotice : lifecycleNotice event = some (kind, missionId))
    (hstatus : missionLifecycleStatus kind = some status)
    (htarget : addressed node.agentDid event) (hload : ambient.loadError = none) :
    syncMissionLifecycleEventToState ambient node event (some signer)
      = syncMissionLifecycleByOwner ambient node event missionId kind status signer.agentDid := by
  obtain ⟨hkind, -, hmission⟩ := lifecycleNotice_eq_some hnotice
  rw [addressed] at htarget
  simp only [syncMissionLifecycleEventToState, hkind, hstatus, htarget, hmission, hload,
    Bool.false_eq_true, if_false]

lemma sync_refused (hnotice : lifecycleNotice event = some (kind, missionId))
    (h : ¬ addressed node.agentDid event ∨ ambient.loadError ≠ none) : ∃ text, ∀ signer,
      syncMissionLifecycleEventToState ambient node event (some signer) = (.error text, node) := by
  obtain ⟨hkind, ⟨status, hstatus⟩, hmission⟩ := lifecycleNotice_eq_some hnotice
  simp only [syncMissionLifecycleEventToState, hkind, hstatus, hmission]
  split
  · exact ⟨_, fun _ => rfl⟩
  · rename_i htarget
    rcases h with h | h
    · exact absurd (Bool.eq_false_iff.mpr htarget) h
    · obtain ⟨text, htext⟩ := ne_none_iff_exists'.mp h
      simp only [htext]
      exact ⟨text, fun _ => rfl⟩

lemma lifecycleNotice_missionId (h : lifecycleNotice event = some (kind, missionId)) :
    trim missionId = missionId ∧ isEmpty missionId = false := by
  have hmission := (lifecycleNotice_eq_some h).2.2
  rw [missionLifecycleStringFromEvent, nonBlank, filter_eq_some_iff] at hmission
  obtain ⟨hmap, hblank⟩ := hmission
  obtain ⟨raw, -, rfl⟩ := map_eq_some_iff.mp hmap
  exact ⟨trim_trim raw, by simpa using hblank⟩

/-! ## The board -/

/-- The notice names a claimer other than its signer. -/
def namesAnother (signer : String) (event : AgentEventEnvelope) : Bool :=
  (claimedAs event).any fun claimedAs => claimedAs ≠ signer

/-- The two tables a notice can change. -/
def missionState (node : Node) : MissionBoard × NetworkMissionClaimRegistry :=
  (node.missionBoard, node.localDb.networkMissionClaims)

lemma toBoard_state (ambient : Ambient) (node : Node) (event : AgentEventEnvelope)
    (missionId kind signer : String) :
    missionState (syncMissionLifecycleToBoard ambient node event missionId kind signer).2
      = (if signer = node.agentDid then node.missionBoard
          else (boardOutcome node.missionBoard ambient missionId kind signer (claimedAs event)
            (missionLifecycleValueFromEvent event "result")).2,
        node.localDb.networkMissionClaims) := by
  rw [syncMissionLifecycleToBoard]
  split
  · rfl
  · dsimp only
    cases boardOutcome node.missionBoard ambient missionId kind signer (claimedAs event)
        (missionLifecycleValueFromEvent event "result") with
    | mk outcome board =>
      cases outcome with
      | error text => rfl
      | ok updated =>
        cases updated with
        | none => rfl
        | some mission => cases ambient.saveError <;> rfl

variable {board : MissionBoard} {result : Option JsonValue} {signer : String}

/-- A notice that names another claimer than its signer leaves the board alone. -/
lemma boardOutcome_refused (h : namesAnother signer event = true) :
    (boardOutcome board ambient missionId kind signer (claimedAs event) result).2 = board := by
  rw [namesAnother] at h
  unfold boardOutcome
  rw [if_pos h]

lemma boardOutcome_settled (board : MissionBoard) (ambient : Ambient)
    (missionId signer : String) (claimed : Option String) (result : Option JsonValue) :
    (boardOutcome board ambient missionId "mission_settled" signer claimed result).2 = board := by
  rw [boardOutcome]
  split
  · rfl
  · cases board.get missionId with
    | none => rfl
    | some mission =>
      show (if mission.status = .settled then _ else _ : Except _ _ × MissionBoard).2 = board
      split <;> rfl

lemma boardOutcome_claimApproved (h : namesAnother signer event = false) :
    (boardOutcome board ambient missionId "mission_claim_approved" signer (claimedAs event) result)
      = board.applyRemoteClaimApproved missionId signer ambient.checkedAt ambient.now := by
  rw [namesAnother] at h
  rw [boardOutcome, if_neg (by rw [h]; exact Bool.false_ne_true)]

lemma boardOutcome_completed (h : namesAnother signer event = false) :
    (boardOutcome board ambient missionId "mission_completed" signer (claimedAs event) result)
      = board.applyRemoteCompleted missionId signer result ambient.checkedAt ambient.now := by
  rw [namesAnother] at h
  rw [boardOutcome, if_neg (by rw [h]; exact Bool.false_ne_true)]

/-! ## The network claims -/

lemma toClaims_get {key : String} {record : NetworkMissionClaimRecord}
    (hmission : isEmpty (trim missionId) = false) (hstatus : isEmpty (trim status) = false)
    (hfound : node.localDb.networkMissionClaims.findMission (trim missionId) = some (key, record))
    (hsave : ambient.saveError = none) (key' : String) :
    (syncMissionLifecycleToClaims ambient node missionId status).2.localDb.networkMissionClaims.get
        key'
      = (if key' = key then some (withStatus (trim status) record)
          else node.localDb.networkMissionClaims.get key').map skipTaskStatus := by
  obtain ⟨hupdated, hget⟩ :=
    updateStatusByMission_found hmission hstatus hfound
  simp only [syncMissionLifecycleToClaims, hupdated, hsave]
  rw [get_serialized, hget]

lemma missionLifecycleStatus_trim (h : missionLifecycleStatus kind = some status) :
    trim status = status ∧ isEmpty status = false := by
  rcases missionLifecycleStatus_cases h with ⟨-, rfl⟩ | ⟨-, rfl⟩ | ⟨-, rfl⟩ <;> decide

/-- What a notice may do to a claim record: the record stays, and if its status changes
it is a record of the mission and takes the status of the notice. -/
structure Noticed (missionId status : String) (record later : NetworkMissionClaimRecord) :
    Prop where
  missionId_eq : later.missionId = record.missionId
  taskId_eq : later.taskId = record.taskId
  agentDid_eq : later.agentDid = record.agentDid
  executionId_eq : later.executionId = record.executionId
  claimedAt_eq : later.claimedAt = record.claimedAt
  publisher_eq : later.metadata.publisherAgentDid = record.metadata.publisherAgentDid
  status : later.status ≠ record.status → record.missionId = missionId ∧ later.status = some status

lemma Noticed.refl (missionId status : String) (record : NetworkMissionClaimRecord) :
    Noticed missionId status record record :=
  ⟨rfl, rfl, rfl, rfl, rfl, rfl, fun h => absurd rfl h⟩

/-- No claim appears or disappears, and each is noticed. -/
structure ClaimsNoticed (missionId status : String) (before after : NetworkMissionClaimRegistry) :
    Prop where
  absent : ∀ key, before.get key = none → after.get key = none
  kept : ∀ key record, before.get key = some record →
    ∃ later, after.get key = some later ∧ Noticed missionId status record later

lemma ClaimsNoticed.refl (missionId status : String) (registry : NetworkMissionClaimRegistry) :
    ClaimsNoticed missionId status registry registry :=
  ⟨fun _ h => h, fun _ record h => ⟨record, h, .refl missionId status record⟩⟩

section Tracked

variable {ambient : Ambient} {node : Node} {missionId status key : String}
  {record : NetworkMissionClaimRecord}

lemma toClaims_board : (syncMissionLifecycleToClaims ambient node missionId status).2.missionBoard
      = node.missionBoard := by
  rw [syncMissionLifecycleToClaims]
  cases node.localDb.networkMissionClaims.updateStatusByMission missionId status with
  | mk updated registry =>
    cases updated with
    | none => rfl
    | some record => cases ambient.saveError <;> rfl

lemma toClaims_unsaved {text : String} (hsave : ambient.saveError = some text) :
    (syncMissionLifecycleToClaims ambient node missionId status).2 = node := by
  rw [syncMissionLifecycleToClaims]
  cases node.localDb.networkMissionClaims.updateStatusByMission missionId status with
  | mk updated registry =>
    cases updated with
    | none => rfl
    | some record => simp only [hsave]

lemma toClaims_noticed (hmission : trim missionId = missionId ∧ isEmpty missionId = false)
    (hstatus : trim status = status ∧ isEmpty status = false)
    (hfound : node.localDb.networkMissionClaims.findMission missionId = some (key, record)) :
    ClaimsNoticed missionId status node.localDb.networkMissionClaims
      (syncMissionLifecycleToClaims ambient node missionId status).2.localDb.networkMissionClaims := by
  obtain ⟨hget, hid⟩ := findMission_eq_some hfound
  cases hsave : ambient.saveError with
  | some text =>
    rw [toClaims_unsaved hsave]
    exact .refl _ _ _
  | none =>
    have hafter := toClaims_get (by rw [hmission.1]; exact hmission.2)
      (by rw [hstatus.1]; exact hstatus.2) (by rw [hmission.1]; exact hfound) hsave
    rw [hstatus.1] at hafter
    constructor
    · intro key' hnone
      have hne : key' ≠ key := by
        rintro rfl
        cases hget.symm.trans hnone
      rw [hafter, if_neg hne, hnone]
      rfl
    · intro key' record' hget'
      rw [hafter]
      by_cases hkey : key' = key
      · subst hkey
        obtain rfl := mem_unique hget hget'
        rw [if_pos rfl]
        exact ⟨_, rfl, rfl, rfl, rfl, rfl, rfl, rfl, fun _ => ⟨hid, rfl⟩⟩
      · rw [if_neg hkey, hget']
        exact ⟨_, rfl, rfl, rfl, rfl, rfl, rfl, rfl, fun h => absurd rfl h⟩

lemma toClaims_reached (hmission : trim missionId = missionId ∧ isEmpty missionId = false)
    (hstatus : trim status = status ∧ isEmpty status = false)
    (hfound : node.localDb.networkMissionClaims.findMission missionId = some (key, record))
    (hok : (syncMissionLifecycleToClaims ambient node missionId status).1 = .ok ()) :
    ∃ key later, (syncMissionLifecycleToClaims ambient node missionId
        status).2.localDb.networkMissionClaims.get key = some later
      ∧ later.missionId = missionId ∧ later.status = some status := by
  have hfound' : node.localDb.networkMissionClaims.findMission (trim missionId)
      = some (key, record) := by
    rw [hmission.1]
    exact hfound
  have hblank : isEmpty (trim missionId) = false := by rw [hmission.1]; exact hmission.2
  have hblank' : isEmpty (trim status) = false := by rw [hstatus.1]; exact hstatus.2
  have hupdated :=
    (updateStatusByMission_found hblank hblank' hfound').1
  cases hsave : ambient.saveError with
  | some text =>
    simp only [syncMissionLifecycleToClaims, hupdated, hsave] at hok
    cases hok
  | none =>
    refine ⟨key, _, by rw [toClaims_get hblank hblank' hfound' hsave, if_pos rfl]; rfl, ?_, ?_⟩
    · exact (findMission_eq_some hfound).2
    · exact congrArg some hstatus.1

end Tracked

/-- **NOTICES ABOUT NETWORK CLAIMS**: a verified notice about a mission tracked only in
the network claims leaves the board alone, whoever signed it; a claim record
whose status it changes is one of that mission and takes the status of the
notice; and if the notice is accepted, some claim of the mission has that
status. -/
theorem notice_moves_claims (ambient : Ambient) (node : Node) (event : AgentEventEnvelope)
    (signer : VerifiedAgentContext) (kind missionId status : String)
    (hnotice : lifecycleNotice event = some (kind, missionId))
    (hstatus : missionLifecycleStatus kind = some status)
    (hboard : node.missionBoard.get missionId = none)
    (hclaim : node.localDb.networkMissionClaims.containsMission missionId = true) :
    (syncMissionLifecycleEventToState ambient node event (some signer)).2.missionBoard
        = node.missionBoard ∧ ClaimsNoticed missionId status node.localDb.networkMissionClaims
        (syncMissionLifecycleEventToState ambient node event
          (some signer)).2.localDb.networkMissionClaims
    ∧ ((syncMissionLifecycleEventToState ambient node event (some signer)).1 = .ok () →
        ∃ key later, (syncMissionLifecycleEventToState ambient node event
            (some signer)).2.localDb.networkMissionClaims.get key = some later
          ∧ later.missionId = missionId ∧ later.status = some status)
    ∧ ∀ signer', syncMissionLifecycleEventToState ambient node event (some signer')
        = syncMissionLifecycleEventToState ambient node event (some signer) := by
  by_cases htaken : addressed node.agentDid event ∧ ambient.loadError = none
  · have hsync : ∀ signer, syncMissionLifecycleEventToState ambient node event (some signer)
        = syncMissionLifecycleToClaims ambient node missionId status := by
      intro signer
      rw [sync_notice hnotice hstatus htaken.1 htaken.2]
      simp only [syncMissionLifecycleByOwner, hboard, hclaim, Option.isSome_none]
    have hmission := lifecycleNotice_missionId hnotice
    have hblank := missionLifecycleStatus_trim hstatus
    obtain ⟨⟨key, record⟩, hfound⟩ := isSome_iff_exists.mp
      (show (node.localDb.networkMissionClaims.findMission (trim missionId)).isSome = true from hclaim)
    rw [hmission.1] at hfound
    rw [hsync signer]
    exact ⟨toClaims_board, toClaims_noticed hmission hblank hfound,
      toClaims_reached hmission hblank hfound, hsync⟩
  · obtain ⟨text, hrefused⟩ := sync_refused hnotice (not_and_or.mp htaken)
    rw [hrefused signer]
    refine ⟨rfl, .refl _ _ _, fun hok => ?_, hrefused⟩
    cases hok

/-- The node of `did:bob`, which claimed `m-1` for two tasks; `did:carol` published it. -/
def toyClaimsNode : Node :=
  { toyNode with
    localDb := { toyNode.localDb with
      networkMissionClaims :=
        (empty.record "m-1" "t-1" "did:bob" "e-1" none
          ⟨some "did:carol", none⟩ 1).record "m-1" "t-2" "did:bob" "e-2" none
          ⟨some "did:carol", none⟩ 2 } }

/-- A notice signed by `did:alice` that the claim of `m-1` for task `t-2` is approved. -/
def toyApproval : AgentEventEnvelope :=
  toyEvent "topic_message_requires_reply"
    (.object [("claimer_agent_did", .string "did:bob"), ("kind", .string "mission_claim_approved"),
      ("mission_id", .string "m-1"), ("task_id", .string "t-2")]) .null

theorem notice_moves_claims_toyApproval :
    ∃ key later, (syncMissionLifecycleEventToState toyAmbient toyClaimsNode toyApproval
        (some (envelopeContext "did:alice" "alice-node" 0))).2.localDb.networkMissionClaims.get key
        = some later ∧ later.missionId = "m-1" ∧ later.status = some "claimed" :=
  (notice_moves_claims toyAmbient toyClaimsNode toyApproval _ "mission_claim_approved" "m-1" "claimed"
    (by decide +kernel) (by decide +kernel) (by decide +kernel) (by decide +kernel)).2.2.1
    (by decide +kernel)

/-- The notice changes the claim for task `t-1`, although its signer is not the
publisher on record, and leaves the claim for `t-2`, which it is about, alone. -/
theorem stranger_moves_first_claim :
    let signer := envelopeContext "did:alice" "alice-node" 0
    let after := (syncMissionLifecycleEventToState toyAmbient toyClaimsNode toyApproval
      (some signer)).2.localDb.networkMissionClaims
    verifiedContextForEvent toyCrates 0 toyApproval = .ok (some signer)
    ∧ (toyClaimsNode.localDb.networkMissionClaims.get "m-1:t-1:did:bob").map
        (fun record => (record.status, record.metadata.publisherAgentDid))
        = some (none, some "did:carol")
    ∧ (after.get "m-1:t-1:did:bob").map (·.status) = some (some "claimed")
    ∧ (after.get "m-1:t-2:did:bob").map (·.status) = some none := by
  decide +kernel

end WattNotice
