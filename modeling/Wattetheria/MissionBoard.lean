import Wattetheria.JsonValue
import Wattetheria.KeyedStore

/-!
# The mission board

`MissionBoard` keeps one `CivilMission` per mission id.  Publishing writes a new
record; every other operation finds the record of its mission, checks it and
rewrites it.  The two remote updates find nothing to do on an unknown mission
instead of failing, and first cancel a mission whose expiry has passed.

As in the payment ledger an operation returns its result beside the board it leaves, and
`effect` is what it does to the one record it touches.  Coordinates are kept as the bits
of their `f64`.
-/

namespace WattMission

open WattText WattJson WattKeyed

/-- What a mission is about. -/
inductive MissionDomain where
  | wealth
  | power
  | security
  | trade
  | culture
  deriving DecidableEq

/-- Where it takes place. -/
inductive MissionScope where
  | realWorld
  | inWorld
  deriving DecidableEq

/-- Who publishes it. -/
inductive MissionPublisherKind where
  | player
  | organization
  | planetaryGovernment
  | neutralHub
  | system
  deriving DecidableEq

/-- The role it asks for. -/
inductive RolePath where
  | operator
  | broker
  | enforcer
  | artificer
  deriving DecidableEq

/-- A faction. -/
inductive Faction where
  | order
  | freeport
  | raider
  deriving DecidableEq

/-- The status of a mission. -/
inductive MissionStatus where
  | open
  | claimed
  | completed
  | settled
  | cancelled
  deriving DecidableEq

/-- What a mission pays. -/
structure MissionReward where
  (agentWatt reputation capacity : Int)
  deriving DecidableEq

/-- A place on the map. -/
structure PublicGeoPayload where
  (lat lng : UInt64)
  coordinateSource : String
  deriving DecidableEq

/-- What the publisher says about a mission. -/
structure MissionSpec where
  (title description publisher : String)
  publisherKind : MissionPublisherKind
  domain : MissionDomain
  scope : MissionScope
  (subnetId zoneId : Option String)
  requiredRole : Option RolePath
  requiredFaction : Option Faction
  reward : Option MissionReward
  payload : JsonValue
  publicGeo : Option PublicGeoPayload
  deriving DecidableEq

/-- `CivilMission`; the published fields are grouped in `spec`. -/
structure CivilMission where
  missionId : String
  spec : MissionSpec
  (createdAt updatedAt : Int)
  (claimedBy claimedByDisplayName completedBy : Option String)
  completionResult : Option JsonValue
  settledAt : Option Int
  status : MissionStatus
  escrowId : Option String
  escrowConfirmed : Bool
  expiresAt : Option Int

namespace CivilMission

variable (mission : CivilMission)

def isExpired (now : Int) : Bool :=
  mission.expiresAt.any fun expiresAt => expiresAt ≤ now

/-- An escrow is recorded and not confirmed. -/
def hasUnconfirmedEscrow : Bool :=
  mission.escrowId.isSome && !mission.escrowConfirmed

end CivilMission

/-! ## What an operation does to one mission -/

/-- The mission `publish_with_scope_and_geo` writes. -/
def publication (spec : MissionSpec) (uuid : String) (now : Int) : CivilMission where
  missionId := uuid
  spec
  createdAt := now
  updatedAt := now
  claimedBy := none
  claimedByDisplayName := none
  completedBy := none
  completionResult := none
  settledAt := none
  status := .open
  escrowId := none
  escrowConfirmed := false
  expiresAt := none

/-- A body that checks the mission and writes it if every check passes. -/
def attempt (checks : CivilMission → Except String Unit) (write : CivilMission → CivilMission)
    (mission : CivilMission) : Except String Unit × CivilMission :=
  match checks mission with
  | .error text => (.error text, mission)
  | .ok () => (.ok (), write mission)

/-- A body that writes without a check and stamps the update. -/
def amend (now : Int) (write : CivilMission → CivilMission) :
    CivilMission → Except String Unit × CivilMission :=
  attempt (fun _ => .ok ()) fun mission => { write mission with updatedAt := now }

/-- The record part of `set_expiry`. -/
def setExpiryRecord (expiresAt : Option Int) (now : Int) :
    CivilMission → Except String Unit × CivilMission :=
  amend now fun mission => { mission with expiresAt }

/-- The record part of `clear_bounty_escrow`. -/
def clearBountyEscrowRecord (now : Int) : CivilMission → Except String Unit × CivilMission :=
  amend now fun mission => { mission with escrowId := none, escrowConfirmed := false }

variable (escrowId : String)

/-- The record part of `record_bounty_escrow_intent`. -/
def recordBountyEscrowIntentRecord (now : Int) : CivilMission → Except String Unit × CivilMission :=
  amend now fun mission => { mission with escrowId := some escrowId, escrowConfirmed := false }

/-- The record part of `mark_bounty_escrowed`. -/
def markBountyEscrowedRecord (now : Int) : CivilMission → Except String Unit × CivilMission :=
  amend now fun mission => { mission with escrowId := some escrowId, escrowConfirmed := true }

variable (agentDid : String) {checks : CivilMission → Except String Unit}
  {write : CivilMission → CivilMission} {mission : CivilMission}

/-- The record part of `claim_as`. -/
def claimAsRecord (displayName : Option String) (checkedAt now : Int) :
    CivilMission → Except String Unit × CivilMission :=
  attempt
    (fun mission => do
      bailIf (mission.status ≠ .open) "mission is not open"
      bailIf (mission.isExpired checkedAt) "mission has expired"
      bailIf mission.hasUnconfirmedEscrow "mission bounty escrow is not confirmed")
    fun mission => { mission with
      claimedBy := some agentDid
      claimedByDisplayName := (displayName.map trim).filter fun name => !isEmpty name
      status := .claimed
      updatedAt := now }

variable (result : Option JsonValue) (checkedAt now : Int)

/-- The record part of `complete`. -/
def completeRecord : CivilMission → Except String Unit × CivilMission :=
  attempt
    (fun mission => do
      bailIf (mission.status ≠ .claimed) "mission is not claimed"
      bailIf (mission.claimedBy ≠ some agentDid) "mission claimed by different agent"
      bailIf (mission.isExpired checkedAt) "mission has expired"
      bailIf mission.hasUnconfirmedEscrow "mission bounty escrow is not confirmed")
    fun mission => { mission with
      completedBy := some agentDid
      completionResult := result
      status := .completed
      updatedAt := now }

/-- The record part of `cancel`. -/
def cancelRecord (now : Int) : CivilMission → Except String Unit × CivilMission :=
  attempt
    (fun mission =>
      bailIf (mission.status = .completed ∨ mission.status = .settled)
        "mission can no longer be cancelled")
    fun mission => { mission with status := .cancelled, updatedAt := now }

/-- The record part of `cancel_unfunded`. -/
def cancelUnfundedRecord (now : Int) : CivilMission → Except String Unit × CivilMission :=
  attempt
    (fun mission => do
      bailIf (!mission.hasUnconfirmedEscrow) "mission escrow is confirmed or absent"
      bailIf (mission.status = .settled) "mission is already settled")
    fun mission => { mission with status := .cancelled, updatedAt := now }

/-- The record part of `settle`. -/
def settleRecord (now : Int) : CivilMission → Except String Unit × CivilMission :=
  attempt (fun mission => bailIf (mission.status ≠ .completed) "mission is not completed")
    fun mission => { mission with status := .settled, settledAt := some now, updatedAt := now }

/-- `cancel_if_expired`: the cancelled mission, when it was open or claimed and has
expired. -/
def cancelIfExpired (now : Int) (mission : CivilMission) : Option CivilMission :=
  if (mission.status = .open ∨ mission.status = .claimed) ∧ mission.isExpired now = true then
    some { mission with status := .cancelled, updatedAt := now }
  else none

/-- `cancel_if_expired` as a body of its own. -/
def cancelIfExpiredRecord (now : Int) (mission : CivilMission) :
    Except String Unit × CivilMission :=
  (.ok (), (cancelIfExpired now mission).getD mission)

/-- Refuses an agent other than the claimer. -/
def ensureSameClaimer (mission : CivilMission) (agentDid : String) : Except String Unit :=
  match mission.claimedBy with
  | some claimer =>
    bailIf (!isEmpty agentDid && claimer ≠ agentDid)
      s!"mission {mission.missionId} is claimed by {claimer}, not by {agentDid}"
  | none => .ok ()

/-- Refuses an agent other than the executor. -/
def ensureSameExecutor (mission : CivilMission) (agentDid : String) : Except String Unit :=
  match mission.completedBy with
  | some executor =>
    bailIf (!isEmpty agentDid && executor ≠ agentDid)
      s!"mission {mission.missionId} was completed by {executor}, not by {agentDid}"
  | none => .ok ()

/-- The record part of `apply_remote_claim_approved`. -/
def applyRemoteClaimApprovedRecord (mission : CivilMission) : Except String Unit × CivilMission :=
  match cancelIfExpired checkedAt mission with
  | some cancelled => (.ok (), cancelled)
  | none =>
    let agentDid := trim agentDid
    match mission.status with
    | .open =>
      (.ok (), { mission with
        claimedBy := if isEmpty agentDid then mission.claimedBy else some agentDid
        status := .claimed
        updatedAt := now })
    | .claimed => (ensureSameClaimer mission agentDid, mission)
    | .completed | .settled | .cancelled => (.ok (), mission)

/-- The record part of `apply_remote_completed`. -/
def applyRemoteCompletedRecord (mission : CivilMission) : Except String Unit × CivilMission :=
  match cancelIfExpired checkedAt mission with
  | some cancelled => (.ok (), cancelled)
  | none =>
    let agentDid := trim agentDid
    match mission.status with
    | .cancelled => (.ok (), mission)
    | .completed | .settled => (ensureSameExecutor mission agentDid, mission)
    | .open | .claimed =>
      attempt (fun mission => ensureSameClaimer mission agentDid)
        (fun mission => { mission with
          claimedBy := if isEmpty agentDid then mission.claimedBy
            else some (mission.claimedBy.getD agentDid)
          completedBy := if isEmpty agentDid then mission.completedBy else some agentDid
          completionResult :=
            if result.isSome || mission.completionResult.isNone then result
            else mission.completionResult
          status := .completed
          updatedAt := now })
        mission

/-! ## The operations -/

/-- The board: missions by id. -/
structure MissionBoard where
  missions : Std.ExtTreeMap String CivilMission

namespace MissionBoard

/-- `MissionBoard::default`. -/
def empty : MissionBoard := ⟨∅⟩

variable (board : MissionBoard) (missionId : String)

def get : Option CivilMission :=
  board.missions[missionId]?

def put (mission : CivilMission) : MissionBoard :=
  ⟨board.missions.insert missionId mission⟩

variable (id : String)

@[simp] lemma get_empty : empty.get id = none := rfl

lemma get_put (mission : CivilMission) (id' : String) :
    (board.put id mission).get id' = if id' = id then some mission else board.get id' :=
  getElem?_insert board.missions id mission id'

/-- `publish_with_scope_and_geo`. -/
def publish (spec : MissionSpec) (uuid : String) (now : Int) : CivilMission × MissionBoard :=
  let mission := publication spec uuid now
  (mission, board.put mission.missionId mission)

variable (body : CivilMission → Except String Unit × CivilMission)

/-- The frame of the operations that fail on an unknown mission. -/
def withMission : Except String CivilMission × MissionBoard :=
  match board.get missionId with
  | none => (.error "mission not found", board)
  | some mission =>
    ((body mission).1.map fun _ => (body mission).2, board.put missionId (body mission).2)

/-- The frame of the remote updates, which skip an unknown mission. -/
def withRemoteMission : Except String (Option CivilMission) × MissionBoard :=
  match board.get missionId with
  | none => (.ok none, board)
  | some mission =>
    ((body mission).1.map fun _ => some (body mission).2, board.put missionId (body mission).2)

/-- Moves the deadline. -/
def setExpiry (expiresAt : Option Int) (now : Int) : Except String CivilMission × MissionBoard :=
  board.withMission missionId (setExpiryRecord expiresAt now)

/-- Forgets the escrow. -/
def clearBountyEscrow (now : Int) : Except String CivilMission × MissionBoard :=
  board.withMission missionId (clearBountyEscrowRecord now)

/-- Records an escrow before it is locked. -/
def recordBountyEscrowIntent (missionId escrowId : String) (now : Int) :
    Except String CivilMission × MissionBoard :=
  board.withMission missionId (recordBountyEscrowIntentRecord escrowId now)

/-- Confirms the escrow. -/
def markBountyEscrowed (missionId escrowId : String) (now : Int) :
    Except String CivilMission × MissionBoard :=
  board.withMission missionId (markBountyEscrowedRecord escrowId now)

/-- Claims a mission. -/
def claimAs (missionId agentDid : String) (displayName : Option String)
    (checkedAt now : Int) : Except String CivilMission × MissionBoard :=
  board.withMission missionId (claimAsRecord agentDid displayName checkedAt now)

/-- Completes a claimed mission. -/
def complete (missionId agentDid : String) (result : Option JsonValue)
    (checkedAt now : Int) : Except String CivilMission × MissionBoard :=
  board.withMission missionId (completeRecord agentDid result checkedAt now)

/-- Cancels a mission not yet completed. -/
def cancel (now : Int) : Except String CivilMission × MissionBoard :=
  board.withMission missionId (cancelRecord now)

/-- Cancels a mission whose escrow is unconfirmed. -/
def cancelUnfunded (now : Int) : Except String CivilMission × MissionBoard :=
  board.withMission missionId (cancelUnfundedRecord now)

/-- Settles a completed mission. -/
def settle (now : Int) : Except String CivilMission × MissionBoard :=
  board.withMission missionId (settleRecord now)

/-- A claim approval from the network. -/
def applyRemoteClaimApproved (missionId agentDid : String)
    (checkedAt now : Int) : Except String (Option CivilMission) × MissionBoard :=
  board.withRemoteMission missionId (applyRemoteClaimApprovedRecord agentDid checkedAt now)

/-- A completion from the network. -/
def applyRemoteCompleted (missionId agentDid : String)
    (result : Option JsonValue) (checkedAt now : Int) :
    Except String (Option CivilMission) × MissionBoard :=
  board.withRemoteMission missionId (applyRemoteCompletedRecord agentDid result checkedAt now)

def values : List CivilMission :=
  board.missions.toList.map Prod.snd

def list (status : Option MissionStatus) : List CivilMission :=
  board.values.filter fun mission => status.all fun expected => mission.status = expected

/-- The open and claimed ones past their deadline. -/
def expiredMissions (now : Int) : List CivilMission :=
  board.values.filter fun mission =>
    (mission.status = .open || mission.status = .claimed) && mission.isExpired now

/-- Those whose escrow is to be confirmed. -/
def unconfirmedEscrows : List CivilMission :=
  board.values.filter fun mission =>
    mission.status ≠ .cancelled && mission.hasUnconfirmedEscrow

lemma mem_values {board : MissionBoard} {mission : CivilMission} (h : mission ∈ board.values) :
    ∃ id, board.get id = some mission := by
  obtain ⟨⟨id, _⟩, hmem, rfl⟩ := List.mem_map.mp h
  exact ⟨id, Std.ExtTreeMap.mem_toList_iff_getElem?_eq_some.mp hmem⟩

lemma get_withMission (id' : String) : (board.withMission id body).2.get id'
      = if id' = id then (board.get id).map fun mission => (body mission).2 else board.get id' := by
  rw [withMission]
  cases hget : board.get id with
  | none =>
    by_cases h : id' = id
    · rw [if_pos h, h]
      exact hget
    · rw [if_neg h]
  | some mission => exact get_put board id _ id'

lemma withMission_ok {board : MissionBoard} {id : String}
    {body : CivilMission → Except String Unit × CivilMission} {later : CivilMission}
    (h : (board.withMission id body).1 = .ok later) :
    (board.withMission id body).2.get id = some later
      ∧ ∃ mission, board.get id = some mission ∧ (body mission).1 = .ok ()
        ∧ later = (body mission).2 := by
  rw [get_withMission, if_pos rfl]
  rw [withMission] at h
  cases hget : board.get id with
  | none =>
    rw [hget] at h
    cases h
  | some mission =>
    rw [hget] at h
    have h : (body mission).1.map (fun _ => (body mission).2) = .ok later := h
    cases hbody : (body mission).1 with
    | error text =>
      rw [hbody] at h
      cases h
    | ok u =>
      rw [hbody] at h
      cases h
      exact ⟨rfl, mission, rfl, hbody, rfl⟩

lemma withRemoteMission_snd :
    (board.withRemoteMission id body).2 = (board.withMission id body).2 := by
  rw [withRemoteMission, withMission]
  cases board.get id <;> rfl

end MissionBoard

/-- A call on the board, with the uuid and the clock readings it makes. -/
inductive BoardOp where
  | publish (spec : MissionSpec) (uuid : String) (now : Int)
  | setExpiry (missionId : String) (expiresAt : Option Int) (now : Int)
  | clearBountyEscrow (missionId : String) (now : Int)
  | recordBountyEscrowIntent (missionId escrowId : String) (now : Int)
  | markBountyEscrowed (missionId escrowId : String) (now : Int)
  | claimAs (missionId agentDid : String) (displayName : Option String) (checkedAt now : Int)
  | complete (missionId agentDid : String) (result : Option JsonValue) (checkedAt now : Int)
  | cancel (missionId : String) (now : Int)
  | cancelUnfunded (missionId : String) (now : Int)
  | settle (missionId : String) (now : Int)
  | cancelIfExpired (missionId : String) (now : Int)
  | applyRemoteClaimApproved (missionId agentDid : String) (checkedAt now : Int)
  | applyRemoteCompleted (missionId agentDid : String) (result : Option JsonValue)
      (checkedAt now : Int)
  deriving DecidableEq

variable (board : MissionBoard)

/-- The board one call leaves, whether it succeeds or fails. -/
def step : BoardOp → MissionBoard
  | .publish spec uuid now => (board.publish spec uuid now).2
  | .setExpiry id expiresAt now => (board.setExpiry id expiresAt now).2
  | .clearBountyEscrow id now => (board.clearBountyEscrow id now).2
  | .recordBountyEscrowIntent id escrowId now => (board.recordBountyEscrowIntent id escrowId now).2
  | .markBountyEscrowed id escrowId now => (board.markBountyEscrowed id escrowId now).2
  | .claimAs id agentDid name checkedAt now => (board.claimAs id agentDid name checkedAt now).2
  | .complete id agentDid result checkedAt now =>
    (board.complete id agentDid result checkedAt now).2
  | .cancel id now => (board.cancel id now).2
  | .cancelUnfunded id now => (board.cancelUnfunded id now).2
  | .settle id now => (board.settle id now).2
  | .cancelIfExpired id now => (board.withMission id (cancelIfExpiredRecord now)).2
  | .applyRemoteClaimApproved id agentDid checkedAt now =>
    (board.applyRemoteClaimApproved id agentDid checkedAt now).2
  | .applyRemoteCompleted id agentDid result checkedAt now =>
    (board.applyRemoteCompleted id agentDid result checkedAt now).2

/-- The mission it touches. -/
def BoardOp.target : BoardOp → String
  | .publish spec uuid now => (publication spec uuid now).missionId
  | .setExpiry id _ _ | .clearBountyEscrow id _ | .recordBountyEscrowIntent id _ _
  | .markBountyEscrowed id _ _ | .claimAs id _ _ _ _ | .complete id _ _ _ _ | .cancel id _
  | .cancelUnfunded id _ | .settle id _ | .cancelIfExpired id _
  | .applyRemoteClaimApproved id _ _ _
  | .applyRemoteCompleted id _ _ _ _ => id

/-- The body of a call on an existing mission; publishing has none. -/
def BoardOp.body : BoardOp → CivilMission → Except String Unit × CivilMission
  | .publish .. => fun mission => (.ok (), mission)
  | .setExpiry _ expiresAt now => setExpiryRecord expiresAt now
  | .clearBountyEscrow _ now => clearBountyEscrowRecord now
  | .recordBountyEscrowIntent _ escrowId now => recordBountyEscrowIntentRecord escrowId now
  | .markBountyEscrowed _ escrowId now => markBountyEscrowedRecord escrowId now
  | .claimAs _ agentDid name checkedAt now => claimAsRecord agentDid name checkedAt now
  | .complete _ agentDid result checkedAt now => completeRecord agentDid result checkedAt now
  | .cancel _ now => cancelRecord now
  | .cancelUnfunded _ now => cancelUnfundedRecord now
  | .settle _ now => settleRecord now
  | .cancelIfExpired _ now => cancelIfExpiredRecord now
  | .applyRemoteClaimApproved _ agentDid checkedAt now =>
    applyRemoteClaimApprovedRecord agentDid checkedAt now
  | .applyRemoteCompleted _ agentDid result checkedAt now =>
    applyRemoteCompletedRecord agentDid result checkedAt now

variable (op : BoardOp)

/-- What a call leaves of the record stored under its target. -/
def effect (stored : Option CivilMission) : Option CivilMission :=
  match op with
  | .publish spec uuid now => some (publication spec uuid now)
  | _ => stored.map fun mission => (op.body mission).2

/-- **FRAME**: a call rewrites the record of its target by `effect` and leaves
every other record alone. -/
lemma get_step (id : String) : (step board op).get id
      = if id = op.target then effect op (board.get op.target) else board.get id := by
  cases op with
  | publish spec uuid now => exact MissionBoard.get_put board _ _ id
  | applyRemoteClaimApproved | applyRemoteCompleted =>
    simp only [step, MissionBoard.applyRemoteClaimApproved, MissionBoard.applyRemoteCompleted,
      MissionBoard.withRemoteMission_snd]
    exact MissionBoard.get_withMission board _ _ id
  | setExpiry | clearBountyEscrow | recordBountyEscrowIntent | markBountyEscrowed | claimAs
  | complete | cancel | cancelUnfunded | settle | cancelIfExpired =>
    exact MissionBoard.get_withMission board _ _ id

/-- The board as a keyed store. -/
def boardStore : KeyedStep MissionBoard String CivilMission BoardOp where
  step
  get := MissionBoard.get
  target := BoardOp.target
  effect
  get_target := by
    intro board op
    rw [get_step, if_pos rfl]
  get_frame := by
    intro board op id h
    rw [get_step, if_neg h]

/-! ## What the bodies leave -/

lemma attempt_snd (checks : CivilMission → Except String Unit)
    (write : CivilMission → CivilMission) (mission : CivilMission) :
    (attempt checks write mission).2
      = if checks mission = .ok () then write mission else mission := by
  rw [attempt]
  cases h : checks mission with
  | error text => rfl
  | ok u => rfl

/-- What holds of the mission, and of the written one if the check passes, holds of
what a checked write leaves. -/
lemma attempt_elim {P : CivilMission → Prop} (hkeep : P mission)
    (hwrite : checks mission = .ok () → P (write mission)) :
    P (attempt checks write mission).2 := by
  rw [attempt_snd]
  by_cases hchecks : checks mission = .ok ()
  · rw [if_pos hchecks]
    exact hwrite hchecks
  · rw [if_neg hchecks]
    exact hkeep

lemma attempt_ok_iff : (attempt checks write mission).1 = .ok () ↔ checks mission = .ok () := by
  rw [attempt]
  cases h : checks mission with
  | error text => exact ⟨fun h => (nomatch h), fun h => (nomatch h)⟩
  | ok u => exact ⟨fun _ => rfl, fun _ => rfl⟩

/-! ## Data for the concrete runs -/

def toySpec : MissionSpec where
  title := "Survey"
  description := "Survey the ridge"
  publisher := "did:alice"
  publisherKind := .player
  domain := .trade
  scope := .inWorld
  subnetId := none
  zoneId := none
  requiredRole := none
  requiredFaction := none
  reward := some ⟨50, 0, 0⟩
  payload := .null
  publicGeo := none

end WattMission
