import Wattetheria.EscrowLedger

/-!
# The mission handlers of the control plane

Publishing with the bounty lock, local claims and completions, relayed lifecycle notices,
settlement, cancellation and the periodic sweep, each as the source orders its board
sections and ledger calls.  What a handler does after its last board write and the checks
that only refuse a request before its first look are left out: a handler may stop at any
step.
-/

namespace WattMissions

open WattText WattJson WattThreads WattAsync WattMission WattEscrow

/-- What the handlers read of `ControlPlaneState`. -/
structure Config where
  agentDid : String
  hasGateway : Bool

/-- When an escrow counts as stale. -/
def escrowStaleAfterSecs : Int := 60 * 60

def escrowUnconfirmedGraceSecs : Int := 5 * 60

variable (mission : CivilMission)

/-- The Watt of the reward. -/
def bounty : Int :=
  (mission.spec.reward.map MissionReward.agentWatt).getD 0

/-! ## Responses -/

variable (error : String)

def internalError : Response := { status := 500, error }

/-- The response to an error of the board that the client caused. -/
def badRequest : Response := { status := 400, error }

def missionNotFound : Response := { status := 404, error := "mission not found" }

/-- The response to a ledger error. -/
def ledgerErrorResponse (error : LedgerError) : Response :=
  match error with
  | .insufficientBalance _ =>
    { status := 402, error := error.display, code := some "insufficient_watt" }
  | .notFound _ => { status := 404, error := error.display, code := some "ledger_not_found" }
  | .rejected _ _ => { status := 502, error := error.display, code := some "ledger_rejected" }
  | .unavailable _ =>
    { status := 502, error := error.display, code := some "ledger_unavailable" }

/-- The response to an escrow the ledger lacks. -/
def escrowMissingResponse (missionId escrowId message : String) : Response where
  status := 502
  error :=
    s!"escrow {escrowId} recorded on mission {missionId} is missing from the ledger: {message}"
  code := some "ledger_escrow_missing"

variable (missionId escrowId : String)

/-- The response when an escrow is recorded and there is no ledger to ask. -/
def noGatewayResponse : Response :=
  ledgerErrorResponse (.unavailable
    s!"mission {missionId} has escrow {escrowId} but no gateway is configured")

/-! ## Board sections -/

variable (board : MissionBoard)

/-- The section of `publish_mission_on_board` under the lock. -/
def writePublication (spec : MissionSpec) (expiresAt : Option Int)
    (uuid : String) (now : Int) : Except String CivilMission × MissionBoard :=
  let published := board.publish spec uuid now
  if expiresAt.isSome then published.2.setExpiry published.1.missionId expiresAt now
  else (.ok published.1, published.2)

/-- Writes the mission with its deadline. -/
def publishMissionOnBoard (spec : MissionSpec) (expiresAt : Option Int) : Handler CivilMission :=
  .atomic .publishMissionOnBoard fun i e s =>
    if expiresAt.any fun expiresAt => expiresAt ≤ e.checkedAt then
      (.error (badRequest "expires_at must be in the future"), s)
    else
      let written := writePublication s.board spec expiresAt e.uuid e.now
      (written.1.mapError internalError, { s with
          board := written.2
          awaiting := Function.update s.awaiting e.uuid (some i) })

/-- `cancel_on_board`: a board that refuses is left as it is, without an error. -/
def cancelOnBoard (why : LockFailure) (missionId : String) : Handler Unit :=
  .onBoard (.cancelOnBoard why missionId) fun e board => (.ok (), (board.cancel missionId e.now).2)

/-- Records the escrow before the lock. -/
def recordMissionEscrowIntent : Handler CivilMission :=
  .atomic .recordMissionEscrowIntent fun i e s =>
    let written := s.board.recordBountyEscrowIntent missionId escrowId e.now
    (written.1.mapError internalError, { s with
        board := written.2
        awaiting := Function.update s.awaiting missionId none
        locking := Function.update s.locking escrowId (some i) })

/-- Records that the lock went through. -/
def recordMissionEscrow : Handler CivilMission :=
  .onBoard .recordMissionEscrow fun e board =>
    let written := board.markBountyEscrowed missionId escrowId e.now
    (written.1.mapError internalError, written.2)

/-- `clear_mission_escrow`.  `why` only labels the step. -/
def clearMissionEscrow (why : ClearReason) (missionId : String) : Handler CivilMission :=
  .onBoard (.clearMissionEscrow why missionId) fun e board =>
    let written := board.clearBountyEscrow missionId e.now
    (written.1.mapError internalError, written.2)

variable (missionId : String)

/-- `settle_mission_board`.  `payout` is what the handler had the ledger do before; it
only labels the step. -/
def settleMissionBoard (payout : Option LedgerRequest) : Handler CivilMission :=
  .onBoard (.settleMissionBoard missionId payout) fun e board =>
    let written := board.settle missionId e.now
    (written.1.mapError badRequest, written.2)

/-! ## Ledger calls -/

/-- The request of `lock_escrow`, `release_escrow` or `refund_escrow` leaves. -/
def sendRequest (missionId escrowId : String) (request : LedgerRequest) : Handler Nat :=
  .atomic (.sendRequest escrowId request) fun _ _ s =>
    (.ok s.calls.length, { s with
        calls := s.calls ++ [⟨escrowId, request, s.board.get missionId, none⟩]
        locking := if request.isLock then Function.update s.locking escrowId none
          else s.locking })

/-- Waits for the ledger, or loses its reply. -/
def awaitReply (n : Nat) : Handler (Except LedgerError Unit) :=
  .atomic .awaitReply fun _ e s =>
    (.ok (match e.lost with
      | some error => .error (.unavailable error)
      | none => (s.calls[n]?.bind Call.reply).getD (.error (.unavailable "operation timed out"))), s)

/-- One request and its reply. -/
def callLedger (missionId escrowId : String) (request : LedgerRequest) :
    Handler (Except LedgerError Unit) := do
  let n ← sendRequest missionId escrowId request
  awaitReply n

/-- `LedgerClient::escrow`. -/
def ledgerEscrow (escrowId : String) : Handler (Except LedgerError Escrow) :=
  .atomic .lookUpEscrow fun _ e s =>
    (.ok (match e.lost with
      | some error => .error (.unavailable error)
      | none => .ok (s.ledger escrowId)), s)

/-- The ledger has certainly refused. -/
def ledgerOutcomeIsDefinitive : LedgerError → Bool
  | .insufficientBalance _ | .notFound _ => true
  | .rejected status _ => status.isClientError
  | .unavailable _ => false

/-! ## Escrows -/

variable (cfg : Config)

/-- Refunds the escrow of a cancelled mission. -/
def refundPendingEscrow (missionId : String) (staleAfterSecs : Int) : Handler CivilMission := do
  let mission ← .look fun _ board =>
    match board.get missionId with
    | some mission => .ok mission
    | none => .error missionNotFound
  match mission.escrowId with
  | none => pure mission
  | some escrowId =>
    if !cfg.hasGateway then .fail (noGatewayResponse missionId escrowId)
    else do
      match ← callLedger missionId escrowId .refund with
      | .ok () => clearMissionEscrow .refunded missionId
      | .error (.notFound message) => do
          let now ← .look fun e _ => .ok e.now
          if staleAfterSecs ≤ now - mission.updatedAt then clearMissionEscrow .missing missionId
          else .fail (escrowMissingResponse missionId escrowId message)
      | .error error => .fail (ledgerErrorResponse error)

/-- Asks the ledger whether the escrow is locked. -/
def confirmEscrowWithLedger (mission : CivilMission) : Handler Bool :=
  match mission.escrowId with
  | none => pure true
  | some escrowId =>
    if !cfg.hasGateway then
      .fail (ledgerErrorResponse (.unavailable
        s!"mission {mission.missionId} has an unconfirmed escrow {escrowId} but no gateway is configured"))
    else do
      match ← ledgerEscrow escrowId with
      | .ok escrow =>
        if escrowIsLockedBy escrow cfg.agentDid (bounty mission) then do
          let _ ← recordMissionEscrow mission.missionId escrowId
          pure true
        else pure false
      | .error error => .fail (ledgerErrorResponse error)

/-- Cancels a mission that was never funded. -/
def cancelUnfundedMission (missionId : String) (staleAfterSecs : Int) : Handler Bool := do
  let cancelled ← .onBoard (.cancelUnfunded missionId) fun e board =>
    match board.get missionId with
    | none => (.ok false, board)
    | some mission =>
      if mission.status = .cancelled then (.ok false, board)
      else
        let written := board.cancelUnfunded missionId e.now
        ((written.1.mapError internalError).map fun _ => true, written.2)
  if cancelled then do
    let _ ← (refundPendingEscrow cfg missionId staleAfterSecs).attempt
    pure true
  else pure false

/-- Confirms the escrow before a claim. -/
def ensureMissionEscrowConfirmed (missionId : String) : Handler Unit := do
  let unconfirmed ← .look fun _ board =>
    .ok ((board.get missionId).filter fun mission =>
      mission.hasUnconfirmedEscrow && mission.status ≠ .cancelled)
  match unconfirmed with
  | none => pure ()
  | some mission => do
      let confirmed ← confirmEscrowWithLedger cfg mission
      if confirmed then pure ()
      else do
        let _ ← cancelUnfundedMission cfg missionId escrowStaleAfterSecs
        .fail {
          status := 409
          error := s!"mission {missionId} bounty was never escrowed in the ledger; the mission has been cancelled"
          code := some "mission_unfunded" }

/-- Locks the bounty of a new mission. -/
def lockMissionBounty (mission : CivilMission) : Handler CivilMission :=
  let missionId := mission.missionId
  if bounty mission ≤ 0 then pure mission
  else if !cfg.hasGateway then do
    cancelOnBoard .noGateway missionId
    .fail {
      status := 503
      error := "a Watt bounty needs a gateway ledger and this node has none configured"
      code := some "ledger_unavailable" }
  else do
    let escrowId := missionId
    let _ ← recordMissionEscrowIntent missionId escrowId
    match ← callLedger missionId escrowId (.lock cfg.agentDid (bounty mission)) with
    | .ok () => recordMissionEscrow missionId escrowId
    | .error error =>
      if ledgerOutcomeIsDefinitive error then do
        cancelOnBoard .refused missionId
        let _ ← clearMissionEscrow .refused missionId
        .fail (ledgerErrorResponse error)
      else do
        let escrow ← ledgerEscrow escrowId
        if escrow.toOption.any fun escrow =>
            escrowIsLockedBy escrow cfg.agentDid (bounty mission) then
          recordMissionEscrow missionId escrowId
        else do
          cancelOnBoard .uncertain missionId
          let _ ← (refundPendingEscrow cfg missionId escrowStaleAfterSecs).attempt
          .fail (ledgerErrorResponse error)

/-- The agent `release_mission_bounty` pays. -/
def payee (fallbackExecutor : Option String) : Option String :=
  ((mission.completedBy.or mission.claimedBy).or fallbackExecutor).filter
    fun executor => !isEmpty (trim executor)

/-- The request that pays an executor; without one the Watt goes back to the
publisher. -/
def payoutRequest : Option String → LedgerRequest
  | some executor => .release executor
  | none => .refund

/-- `release_mission_bounty`.  The source returns nothing; here the request it had
the ledger serve comes back, as a label for the step that follows. -/
def releaseMissionBounty (missionId : String) (fallbackExecutor : Option String) :
    Handler (Option LedgerRequest) := do
  let found ← .look fun _ board =>
    match board.get missionId with
    | none => .ok none
    | some mission =>
      if mission.status ≠ .completed then .ok none
      else .ok (mission.escrowId.map fun escrowId => (escrowId, payee mission fallbackExecutor))
  match found with
  | none => pure none
  | some (escrowId, executor) => do
      let request := payoutRequest executor
      let n ← Handler.settling missionId do
        ensureMissionEscrowConfirmed cfg missionId
        if !cfg.hasGateway then .fail (noGatewayResponse missionId escrowId)
        else sendRequest missionId escrowId request
      match ← awaitReply n with
      | .ok () => pure (some request)
      | .error (.notFound message) => .fail (escrowMissingResponse missionId escrowId message)
      | .error error => .fail (ledgerErrorResponse error)

/-! ## Requests -/

/-- Publishes a mission and locks its bounty. -/
def missionPublish (spec : MissionSpec) (expiresAt : Option Int) : Handler CivilMission := do
  let mission ← publishMissionOnBoard spec expiresAt
  lockMissionBounty cfg mission

/-- Pays out a mission and settles it. -/
def missionSettle (missionId : String) (agentDid : Option String) : Handler CivilMission := do
  let payout ← releaseMissionBounty cfg missionId agentDid
  settleMissionBoard missionId payout

/-- Cancels a mission and asks for the refund. -/
def cancelMissionAndRefund (missionId : String) (staleAfterSecs : Int) :
    Handler (CivilMission × Bool) := do
  let newlyCancelled ← .onBoard .cancel fun e board =>
    match board.get missionId with
    | none => (.error missionNotFound, board)
    | some mission =>
      match mission.status with
      | .completed | .settled =>
        (.error { status := 409, error := "mission can no longer be cancelled" }, board)
      | .cancelled => (.ok false, board)
      | .open | .claimed =>
        let written := board.cancel missionId e.now
        ((written.1.mapError internalError).map fun _ => true, written.2)
  let mission ← refundPendingEscrow cfg missionId staleAfterSecs
  pure (mission, newlyCancelled)

/-- The local transitions. -/
inductive MissionAction where
  | claim (agentDid : String) (displayName : Option String)
  | complete (agentDid : String) (result : Option JsonValue)

/-- A claim or completion of a local agent. -/
def applyLocalMissionTransition (action : MissionAction) (missionId : String)
    (checkedAt now : Int) : Except String CivilMission × MissionBoard :=
  match action with
  | .claim agentDid displayName => board.claimAs missionId agentDid displayName checkedAt now
  | .complete agentDid result => board.complete missionId agentDid result checkedAt now

/-- `transition_mission`; a mission of another node is handed over (`none`). -/
def transitionMission (missionId : String) (action : MissionAction) :
    Handler (Option CivilMission) := do
  ensureMissionEscrowConfirmed cfg missionId
  .onBoard .transition fun e board =>
    match board.get missionId with
    | none => (.ok none, board)
    | some _ =>
      let written := applyLocalMissionTransition board action missionId e.checkedAt e.now
      ((written.1.mapError badRequest).map some, written.2)

/-- The verified signer of an envelope: a parsed DID, which is not blank. -/
structure Did where
  text : String
  nonblank : isEmpty (trim text) = false

/-- The kinds of relayed lifecycle notices. -/
inductive LifecycleKind where
  | missionClaimApproved
  | missionCompleted
  | missionSettled
  | other

/-- A relayed notice, for its signer. -/
def syncMissionLifecycleToBoard (missionId : String) (kind : LifecycleKind)
    (signer : Did) (claimedAs : Option String) (result : Option JsonValue) :
    Handler (Option CivilMission) :=
  if signer.text = cfg.agentDid then pure none
  else .onBoard .sync fun e board =>
    -- a rejected update is only diagnosed
    if claimedAs.any fun claimedAs => claimedAs ≠ signer.text then (.ok none, board)
    else
      match kind with
      | .missionClaimApproved =>
        let written := board.applyRemoteClaimApproved missionId signer.text e.checkedAt e.now
        (.ok written.1.toOption.join, written.2)
      | .missionCompleted =>
        let written := board.applyRemoteCompleted missionId signer.text result e.checkedAt e.now
        (.ok written.1.toOption.join, written.2)
      | .missionSettled =>
        (.ok ((board.get missionId).filter fun mission => mission.status = .settled), board)
      | .other => (.ok none, board)

/-! ## The sweep -/

/-- What a sweep has done. -/
structure MissionEscrowSweepReport where
  expired : Nat := 0
  refundsSettled : Nat := 0
  refundsPending : Nat := 0
  escrowsConfirmed : Nat := 0
  escrowsAbandoned : Nat := 0

/-- The sweep at one unconfirmed escrow. -/
def resolveUnconfirmedEscrow (now staleAfterSecs : Int)
    (report : MissionEscrowSweepReport) (mission : CivilMission) :
    Handler MissionEscrowSweepReport := do
  match ← (confirmEscrowWithLedger cfg mission).attempt with
  | .ok true => pure { report with escrowsConfirmed := report.escrowsConfirmed + 1 }
  | .ok false =>
    if now - mission.createdAt < min staleAfterSecs escrowUnconfirmedGraceSecs then pure report
    else do
      match ← (cancelUnfundedMission cfg mission.missionId staleAfterSecs).attempt with
      | .ok true => pure { report with escrowsAbandoned := report.escrowsAbandoned + 1 }
      | .ok false => pure report
      | .error _ => pure report
  | .error _ => pure report

variable (staleAfterSecs : Int) (report : MissionEscrowSweepReport)

/-- The sweep at one overdue mission. -/
def expireMission (mission : CivilMission) : Handler MissionEscrowSweepReport := do
  match ← (cancelMissionAndRefund cfg mission.missionId staleAfterSecs).attempt with
  | .ok _ => pure { report with expired := report.expired + 1 }
  | .error response =>
    if response.status = 409 ∨ response.status = 404 then pure report
    else pure { report with
      expired := report.expired + 1
      refundsPending := report.refundsPending + 1 }

/-- The sweep at one refund. -/
def retryRefund (missionId : String) : Handler MissionEscrowSweepReport := do
  match ← (refundPendingEscrow cfg missionId staleAfterSecs).attempt with
  | .ok mission =>
    if mission.escrowId.isNone then
      pure { report with refundsSettled := report.refundsSettled + 1 }
    else pure { report with refundsPending := report.refundsPending + 1 }
  | .error _ => pure { report with refundsPending := report.refundsPending + 1 }

/-- The sweep. -/
def reconcileMissionEscrows : Handler MissionEscrowSweepReport := do
  let (now, unconfirmed) ← .look fun e board => .ok (e.now, board.unconfirmedEscrows)
  let report ← unconfirmed.foldlM (resolveUnconfirmedEscrow cfg now staleAfterSecs) {}
  let (expired, pending) ← .look fun _ board =>
    .ok (board.expiredMissions now,
      ((board.list (some .cancelled)).filter fun mission => mission.escrowId.isSome).map
        CivilMission.missionId)
  let report ← expired.foldlM (expireMission cfg staleAfterSecs) report
  pending.foldlM (retryRefund cfg staleAfterSecs) report

/-! ## The node -/

/-- A request to the node, and the sweep. -/
inductive Request where
  | publish (spec : MissionSpec) (expiresAt : Option Int)
  | transition (missionId : String) (action : MissionAction)
  | settle (missionId : String) (agentDid : Option String)
  | cancel (missionId : String)
  | sync (missionId : String) (kind : LifecycleKind) (signer : Did) (claimedAs : Option String)
      (result : Option JsonValue)
  | sweep (staleAfterSecs : Int)

def Handler.start {α : Type} (p : Handler α) : Async Shared Outcome Place Unit :=
  (p none).bind fun _ => .pure ()

/-- The handler of a request. -/
def start : Request → Async Shared Outcome Place Unit
  | .publish spec expiresAt => Handler.start (missionPublish cfg spec expiresAt)
  | .transition missionId action => Handler.start (transitionMission cfg missionId action)
  | .settle missionId agentDid => Handler.start (missionSettle cfg missionId agentDid)
  | .cancel missionId =>
    Handler.start (cancelMissionAndRefund cfg missionId escrowStaleAfterSecs)
  | .sync missionId kind signer claimedAs result =>
    Handler.start (syncMissionLifecycleToBoard cfg missionId kind signer claimedAs result)
  | .sweep staleAfterSecs => Handler.start (reconcileMissionEscrows cfg staleAfterSecs)

/-- The ledger serves the request with a number, or fails with an error. -/
abbrev Service := Nat × Option LedgerError

/-- The node: its handlers, and the ledger as their environment. -/
def node : Program Shared (Async Shared Outcome Place Unit) Request Outcome Service :=
  program (start cfg) fun service s => s.serve service.1 service.2

/-- The pool of a node that starts with an empty board. -/
abbrev NodePool := Pool Shared (Async Shared Outcome Place Unit)

/-- An event of the node. -/
abbrev NodeEvent := Event Request Outcome Service

end WattMissions
