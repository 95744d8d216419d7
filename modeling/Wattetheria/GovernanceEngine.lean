import Wattetheria.JsonValue
import Wattetheria.KeyedStore
import Wattetheria.PayloadSigning

/-!
# The governance engine

Licences, bonds, planets, proposals and heartbeats of validators, and the sixteen
operations that write them.  An operation returns its result beside the engine it
leaves; the clock readings and the uuid are its arguments.  Amounts and times are the
64-bit integers of the source, whose additions wrap; a tax rate is kept as the bits of
its `f64`.
-/

namespace WattGovernance

open WattText WattJson WattKeyed WattSigning

/-! ## Data -/

/-- An agent's licence. -/
structure CivicLicense where
  agentDid : String
  (issuedAt expiresAt : Int64)
  (issuedBy proofEventHash : String)

/-- Watt an agent has locked. -/
structure SovereigntyBond where
  agentDid : String
  (amountWatt lockedUntil : Int64)
  active : Bool

/-- A signature under a new planet. -/
structure GenesisApproval where
  (signerAgentDid signature : String)

/-- The status of a government. -/
inductive GovernmentStatus where
  | active
  | recall
  | custody
  deriving DecidableEq

/-- A recall under way. -/
structure RecallProcess where
  (initiatedBy reason : String)
  (startedAt threshold : Int64)
  deriving DecidableEq

/-- A custody under way. -/
structure CustodyPeriod where
  managedBy : Option String
  reason : String
  enteredAt : Int64
  deriving DecidableEq

/-- `PlanetConstitutionTemplate`; the constitution of a planet is a function of it. -/
inductive PlanetConstitutionTemplate where
  | corporateCharter
  | migrantCouncil
  | frontierCompact
  deriving DecidableEq

/-- A planet and its government. -/
structure SubnetPlanet where
  (subnetId name creator : String)
  taxRate : UInt64
  createdAt : Int64
  constitution : PlanetConstitutionTemplate
  (treasuryWatt stability : Int64)
  governmentStatus : GovernmentStatus
  activeRecall : Option RecallProcess
  custody : Option CustodyPeriod
  lastTakeoverBy : Option String
  (validators relays archivists : Finset String)
  deriving DecidableEq

/-- What an approval signs. -/
structure GenesisPayload where
  (subnetId name creator : String)
  createdAt : Int64

/-- What a planet is created from. -/
structure PlanetCreationRequest where
  (subnetId name creator : String)
  createdAt : Int64
  taxRate : UInt64
  constitutionTemplate : PlanetConstitutionTemplate
  minBond : Int64
  minApprovals : Nat

/-- The status of a proposal. -/
inductive ProposalStatus where
  | open
  | accepted
  | rejected
  deriving DecidableEq

/-- A proposal with its votes. -/
structure GovernanceProposal where
  (proposalId subnetId kind : String)
  payload : JsonValue
  createdBy : String
  createdAt : Int64
  (votesFor votesAgainst : Finset String)
  status : ProposalStatus

/-- The engine's maps. -/
structure GovernanceEngine where
  licenses : Std.ExtTreeMap String CivicLicense
  bonds : Std.ExtTreeMap String SovereigntyBond
  planets : Std.ExtTreeMap String SubnetPlanet
  proposals : Std.ExtTreeMap String GovernanceProposal
  validatorHeartbeats : Std.ExtTreeMap String (Std.ExtTreeMap String Int64)

/-- The functions of the crates outside the repository. -/
structure Crates extends SigningCrates where
  /-- `canonical_bytes` of a genesis payload -/
  canonicalGenesis : GenesisPayload → Except String (List UInt8)
  /-- `Number::as_f64`, as bits -/
  numberAsF64 : JsonNumber → UInt64

namespace GovernanceEngine

/-- `GovernanceEngine::default`. -/
def empty : GovernanceEngine := ⟨∅, ∅, ∅, ∅, ∅⟩

variable (engine : GovernanceEngine) (subnetId : String) (planet : SubnetPlanet)

def putPlanet : GovernanceEngine :=
  { engine with planets := engine.planets.insert subnetId planet }

variable (proposal : GovernanceProposal)

def putProposal : GovernanceEngine :=
  { engine with proposals := engine.proposals.insert proposal.proposalId proposal }

/-- The frame of the operations that look a planet up, check it and write it. -/
def withPlanet (subnetId missing : String) (body : SubnetPlanet → Except String SubnetPlanet) :
    Except String SubnetPlanet × GovernanceEngine :=
  match engine.planets[subnetId]? with
  | none => (.error missing, engine)
  | some planet =>
    match body planet with
    | .error text => (.error text, engine)
    | .ok planet' => (.ok planet', engine.putPlanet subnetId planet')

/-! ## Licences and bonds -/

/-- Issues a licence for some days. -/
def issueLicense (agentDid issuer proofEventHash : String)
    (ttlDays now : Int64) : CivicLicense × GovernanceEngine :=
  let license : CivicLicense := {
    agentDid
    issuedAt := now
    expiresAt := now + ttlDays * 24 * 3600
    issuedBy := issuer
    proofEventHash }
  (license, { engine with licenses := engine.licenses.insert agentDid license })

variable (agentDid : String)

/-- Locks a bond for some days. -/
def lockBond (amountWatt lockDays now : Int64) : SovereigntyBond × GovernanceEngine :=
  let bond : SovereigntyBond := {
    agentDid
    amountWatt
    lockedUntil := now + lockDays * 24 * 3600
    active := true }
  (bond, { engine with bonds := engine.bonds.insert agentDid bond })

def hasValidLicense (now : Int64) : Bool :=
  engine.licenses[agentDid]?.any fun license => decide (now ≤ license.expiresAt)

/-- An active bond of at least the amount. -/
def hasActiveBond (minAmount now : Int64) : Bool :=
  engine.bonds[agentDid]?.any fun bond =>
    bond.active && decide (minAmount ≤ bond.amountWatt) && decide (now ≤ bond.lockedUntil)

/-- The checks on whoever takes over a planet; the clock is read for each. -/
def checkStanding (role agentDid : String) (minBond : Int64)
    (licensedAt bondedAt : Int64) : Except String Unit := do
  bailIf (!engine.hasValidLicense agentDid licensedAt) s!"{role} missing valid civic license"
  bailIf (!engine.hasActiveBond agentDid minBond bondedAt)
    s!"{role} missing active sovereignty bond"

/-! ## Planets -/

variable (request : PlanetCreationRequest)

def genesisPayload : GenesisPayload where
  subnetId := request.subnetId
  name := request.name
  creator := request.creator
  createdAt := request.createdAt

variable (crates : Crates)

/-- Verifies one approval. -/
def verifyApproval (payload : GenesisPayload) (approval : GenesisApproval) :
    Except String Unit := do
  let verified ← withContext "verify genesis approval"
    (verifyPayload crates.toSigningCrates (crates.canonicalGenesis payload) approval.signature
      approval.signerAgentDid)
  bailIf (!verified) "invalid genesis signature"

/-- The signers, as texts. -/
def uniqueSigners (approvals : List GenesisApproval) : Finset String :=
  (approvals.map GenesisApproval.signerAgentDid).toFinset

/-- The planet `create_planet` writes. -/
def genesis (signers : Finset String) : SubnetPlanet where
  subnetId := request.subnetId
  name := request.name
  creator := request.creator
  taxRate := request.taxRate
  createdAt := request.createdAt
  constitution := request.constitutionTemplate
  treasuryWatt := 0
  stability := 75
  governmentStatus := .active
  activeRecall := none
  custody := none
  lastTakeoverBy := none
  validators := signers
  relays := {request.creator}
  archivists := signers

variable (request : PlanetCreationRequest)

/-- The checks of `create_planet`. -/
def checkGenesis
    (approvals : List GenesisApproval) (licensedAt bondedAt : Int64) : Except String Unit := do
  bailIf engine.planets[request.subnetId]?.isSome "subnet already exists"
  engine.checkStanding "creator" request.creator request.minBond licensedAt bondedAt
  -- the signers are counted as texts, before any of them is decoded to a key
  bailIf ((uniqueSigners approvals).card < request.minApprovals)
    "not enough unique genesis approvals"
  approvals.forM (verifyApproval crates (genesisPayload request))

/-- Founds a planet on its approvals. -/
def createPlanet (approvals : List GenesisApproval) (licensedAt bondedAt : Int64) :
    Except String SubnetPlanet × GovernanceEngine :=
  match engine.checkGenesis crates request approvals licensedAt bondedAt with
  | .error text => (.error text, engine)
  | .ok () =>
    let planet := genesis request (uniqueSigners approvals)
    (.ok planet, engine.putPlanet request.subnetId planet)

/-! ## Proposals -/

/-- Opens a proposal. -/
def createProposal (subnetId kind : String) (payload : JsonValue)
    (createdBy uuid : String) (now : Int64) : Except String GovernanceProposal × GovernanceEngine :=
  match engine.planets[subnetId]? with
  | none => (.error "subnet not found for proposal", engine)
  | some planet =>
    if createdBy ∉ planet.validators ∧ planet.creator ≠ createdBy then
      (.error "creator is not allowed to open proposal", engine)
    else
      let proposal : GovernanceProposal := {
        proposalId := uuid
        subnetId
        kind
        payload
        createdBy
        createdAt := now
        votesFor := ∅
        votesAgainst := ∅
        status := .open }
      (.ok proposal, engine.putProposal proposal)

/-- The proposal with a vote: an earlier vote of the voter is taken back. -/
def castVote (voter : String) (approve : Bool) : GovernanceProposal :=
  let votesFor := proposal.votesFor.erase voter
  let votesAgainst := proposal.votesAgainst.erase voter
  if approve then
    { proposal with votesFor := insert voter votesFor, votesAgainst }
  else { proposal with votesFor, votesAgainst := insert voter votesAgainst }

/-- Casts a validator's vote. -/
def voteProposal (proposalId voter : String) (approve : Bool) :
    Except String Unit × GovernanceEngine :=
  match engine.proposals[proposalId]? with
  | none => (.error "proposal not found", engine)
  | some proposal =>
    if proposal.status ≠ .open then (.error "proposal is already finalized", engine)
    else
      match engine.planets[proposal.subnetId]? with
      | none => (.error "proposal subnet missing", engine)
      | some planet =>
        if voter ∉ planet.validators then (.error "voter is not a validator", engine)
        else
          (.ok (), { engine with
            proposals := engine.proposals.insert proposalId (castVote proposal voter approve) })

/-- Carries out a proposal; only a tax rate changes anything. -/
def applyProposalEffects (subnetId kind : String)
    (payload : JsonValue) : Except String Unit × GovernanceEngine :=
  if kind = "update_tax_rate" then
    match payload.get "tax_rate" with
    | some (.number rate) =>
      let written := engine.withPlanet subnetId "proposal target subnet missing" fun planet =>
        .ok { planet with taxRate := crates.numberAsF64 rate }
      (written.1.map fun _ => (), written.2)
    | _ => (.error "proposal tax_rate must be f64", engine)
  else (.ok (), engine)

/-- More votes for than against, and enough. -/
def carries (minVotesFor : Nat) : Bool :=
  minVotesFor ≤ proposal.votesFor.card && proposal.votesAgainst.card < proposal.votesFor.card

/-- `finalize_proposal`: the status is written before the effects are applied. -/
def finalizeProposal (proposalId : String)
    (minVotesFor : Nat) : Except String GovernanceProposal × GovernanceEngine :=
  match engine.proposals[proposalId]? with
  | none => (.error "proposal not found", engine)
  | some proposal =>
    if proposal.status ≠ .open then (.ok proposal, engine)
    else if carries proposal minVotesFor then
      let accepted := { proposal with status := .accepted }
      let written :=
        { engine with proposals := engine.proposals.insert proposalId accepted }
      let applied := written.applyProposalEffects crates proposal.subnetId proposal.kind
        proposal.payload
      (applied.1.map fun _ => accepted, applied.2)
    else
      let rejected := { proposal with status := .rejected }
      (.ok rejected, { engine with proposals := engine.proposals.insert proposalId rejected })

/-! ## Validators -/

/-- Notes a heartbeat. -/
def recordValidatorHeartbeat (subnetId validator : String) (ts : Int64) : GovernanceEngine :=
  let heartbeats := engine.validatorHeartbeats[subnetId]?.getD ∅
  { engine with
    validatorHeartbeats := engine.validatorHeartbeats.insert subnetId
      (heartbeats.insert validator ts) }

/-- The loop of `rotate_validators` over the candidates. -/
def admitCandidates : List String → Finset String → Finset String
  | [], validators => validators
  | candidate :: pool, validators =>
    let validators' :=
      if validators = ∅ ∨ candidate ∉ validators then insert candidate validators
      else validators
    -- the size is looked at after each candidate, so the first one always gets a turn
    if 3 ≤ validators'.card then validators' else admitCandidates pool validators'

/-- Whether a validator has a heartbeat that is recent enough. -/
def isFresh (heartbeats : Std.ExtTreeMap String Int64) (now staleAfterSec : Int64)
    (validator : String) : Bool :=
  heartbeats[validator]?.any fun ts => decide (now - ts ≤ staleAfterSec)

/-- `rotate_validators`; the heartbeats of the subnet get their entry first. -/
def rotateValidators (staleAfterSec : Int64)
    (candidatePool : List String) (now : Int64) : Except String (List String) × GovernanceEngine :=
  let heartbeats := engine.validatorHeartbeats[subnetId]?.getD ∅
  let rotated :=
    { engine with
      validatorHeartbeats := engine.validatorHeartbeats.insert subnetId heartbeats }.withPlanet
        subnetId "subnet not found for rotation" fun planet =>
          .ok { planet with
            validators := admitCandidates candidatePool
              (planet.validators.filter fun validator =>
                isFresh heartbeats now staleAfterSec validator = true) }
  (rotated.1.map fun planet => planet.validators.sort (· ≤ ·), rotated.2)

/-! ## Treasury and stability -/

/-- `i64::clamp(0, 100)`. -/
def clampStability (stability : Int64) : Int64 :=
  if stability < 0 then 0 else if 100 < stability then 100 else stability

variable (amountWatt : Int64)

/-- Adds to the treasury. -/
def fundTreasury : Except String SubnetPlanet × GovernanceEngine :=
  if amountWatt ≤ 0 then (.error "treasury funding amount must be positive", engine)
  else
    engine.withPlanet subnetId "subnet not found for treasury funding" fun planet =>
      .ok { planet with
        treasuryWatt := planet.treasuryWatt + amountWatt
        stability := min (planet.stability + 2) 100 }

/-- Takes from the treasury. -/
def spendTreasury : Except String SubnetPlanet × GovernanceEngine :=
  if amountWatt ≤ 0 then (.error "treasury spend amount must be positive", engine)
  else
    engine.withPlanet subnetId "subnet not found for treasury spend" fun planet =>
      if planet.treasuryWatt < amountWatt then .error "treasury balance too low"
      else .ok { planet with treasuryWatt := planet.treasuryWatt - amountWatt }

/-- Moves the stability within its bounds. -/
def adjustStability (delta : Int64) : Except String SubnetPlanet × GovernanceEngine :=
  engine.withPlanet subnetId "subnet not found for stability adjustment" fun planet =>
    .ok { planet with stability := clampStability (planet.stability + delta) }

/-! ## Recall, custody, takeover -/

/-- Opens a recall. -/
def startRecall (subnetId initiatedBy reason : String)
    (threshold now : Int64) : Except String SubnetPlanet × GovernanceEngine :=
  engine.withPlanet subnetId "subnet not found for recall" fun planet =>
    if threshold < planet.stability then .error "planet stability is above recall threshold"
    else if initiatedBy ≠ planet.creator ∧ initiatedBy ∉ planet.validators then
      .error "initiator cannot open recall"
    -- neither the status nor a custody period is looked at
    else .ok { planet with
      governmentStatus := .recall
      activeRecall := some {
        initiatedBy
        reason
        startedAt := now
        threshold } }

/-- Makes the agent creator, validator and relay. -/
def seat : SubnetPlanet :=
  { planet with
    creator := agentDid
    validators := insert agentDid planet.validators
    relays := insert agentDid planet.relays }

/-- Ends a recall with a successor. -/
def resolveRecall (subnetId successor : String) (minBond : Int64)
    (licensedAt bondedAt : Int64) : Except String SubnetPlanet × GovernanceEngine :=
  match engine.checkStanding "successor" successor minBond licensedAt bondedAt with
  | .error text => (.error text, engine)
  | .ok () =>
    engine.withPlanet subnetId "subnet not found for recall resolution" fun planet =>
      if planet.governmentStatus ≠ .recall then .error "planet is not in recall"
      else .ok { seat planet successor with
        governmentStatus := .active
        activeRecall := none
        stability := clampStability (planet.stability + 25) }

/-- Puts a planet into custody. -/
def enterCustody (subnetId reason : String)
    (managedBy : Option String) (now : Int64) : Except String SubnetPlanet × GovernanceEngine :=
  engine.withPlanet subnetId "subnet not found for custody" fun planet =>
    .ok { planet with
      governmentStatus := .custody
      custody := some { managedBy, reason, enteredAt := now }
      activeRecall := none
      stability := min planet.stability 25 }

variable (successor : Option String) (minBond : Int64) (licensedAt bondedAt : Int64)

/-- The checks of `release_custody` on a successor, if there is one. -/
def checkSuccessor : Except String Unit :=
  match successor with
  | none => .ok ()
  | some agentDid => engine.checkStanding "successor" agentDid minBond licensedAt bondedAt

/-- Ends a custody with a successor. -/
def releaseCustody : Except String SubnetPlanet × GovernanceEngine :=
  match engine.checkSuccessor successor minBond licensedAt bondedAt with
  | .error text => (.error text, engine)
  | .ok () =>
    engine.withPlanet subnetId "subnet not found for custody release" fun planet =>
      if planet.governmentStatus ≠ .custody then .error "planet is not in custody"
      else .ok { successor.elim planet (seat planet) with
        governmentStatus := .active
        custody := none
        stability := max planet.stability 50 }

/-- Seats a challenger on a planet in custody or unstable. -/
def hostileTakeover (subnetId challenger : String) (minBond : Int64)
    (reason : String) (licensedAt bondedAt : Int64) :
    Except String SubnetPlanet × GovernanceEngine :=
  match engine.checkStanding "challenger" challenger minBond licensedAt bondedAt with
  | .error text => (.error text, engine)
  | .ok () =>
    engine.withPlanet subnetId "subnet not found for hostile takeover" fun planet =>
      if planet.governmentStatus = .custody ∨ planet.stability ≤ 20 then
        .ok { seat planet challenger with
          governmentStatus := .active
          activeRecall := none
          custody := none
          lastTakeoverBy := some s!"{challenger}:{reason}"
          stability := 40 }
      else .error "planet is not vulnerable to hostile takeover"

end GovernanceEngine

/-! ## The operations -/

/-- A call of a writing operation, with the clock readings and the uuid it takes. -/
inductive GovernanceOp where
  | issueLicense (agentDid issuer proofEventHash : String) (ttlDays now : Int64)
  | lockBond (agentDid : String) (amountWatt lockDays now : Int64)
  | createPlanet (request : PlanetCreationRequest) (approvals : List GenesisApproval)
      (licensedAt bondedAt : Int64)
  | createProposal (subnetId kind : String) (payload : JsonValue) (createdBy uuid : String)
      (now : Int64)
  | voteProposal (proposalId voter : String) (approve : Bool)
  | finalizeProposal (proposalId : String) (minVotesFor : Nat)
  | recordValidatorHeartbeat (subnetId validator : String) (ts : Int64)
  | rotateValidators (subnetId : String) (staleAfterSec : Int64) (candidatePool : List String)
      (now : Int64)
  | fundTreasury (subnetId : String) (amountWatt : Int64)
  | spendTreasury (subnetId : String) (amountWatt : Int64)
  | adjustStability (subnetId : String) (delta : Int64)
  | startRecall (subnetId initiatedBy reason : String) (threshold now : Int64)
  | resolveRecall (subnetId successor : String) (minBond licensedAt bondedAt : Int64)
  | enterCustody (subnetId reason : String) (managedBy : Option String) (now : Int64)
  | releaseCustody (subnetId : String) (successor : Option String)
      (minBond licensedAt bondedAt : Int64)
  | hostileTakeover (subnetId challenger : String) (minBond : Int64) (reason : String)
      (licensedAt bondedAt : Int64)

/-- The engine an operation leaves, whether it succeeds or not. -/
def step (crates : Crates) (engine : GovernanceEngine) : GovernanceOp → GovernanceEngine
  | .issueLicense agentDid issuer proofEventHash ttlDays now =>
    (engine.issueLicense agentDid issuer proofEventHash ttlDays now).2
  | .lockBond agentDid amountWatt lockDays now => (engine.lockBond agentDid amountWatt lockDays now).2
  | .createPlanet request approvals licensedAt bondedAt =>
    (engine.createPlanet crates request approvals licensedAt bondedAt).2
  | .createProposal subnetId kind payload createdBy uuid now =>
    (engine.createProposal subnetId kind payload createdBy uuid now).2
  | .voteProposal proposalId voter approve => (engine.voteProposal proposalId voter approve).2
  | .finalizeProposal proposalId minVotesFor =>
    (engine.finalizeProposal crates proposalId minVotesFor).2
  | .recordValidatorHeartbeat subnetId validator ts =>
    engine.recordValidatorHeartbeat subnetId validator ts
  | .rotateValidators subnetId staleAfterSec candidatePool now =>
    (engine.rotateValidators subnetId staleAfterSec candidatePool now).2
  | .fundTreasury subnetId amountWatt => (engine.fundTreasury subnetId amountWatt).2
  | .spendTreasury subnetId amountWatt => (engine.spendTreasury subnetId amountWatt).2
  | .adjustStability subnetId delta => (engine.adjustStability subnetId delta).2
  | .startRecall subnetId initiatedBy reason threshold now =>
    (engine.startRecall subnetId initiatedBy reason threshold now).2
  | .resolveRecall subnetId successor minBond licensedAt bondedAt =>
    (engine.resolveRecall subnetId successor minBond licensedAt bondedAt).2
  | .enterCustody subnetId reason managedBy now =>
    (engine.enterCustody subnetId reason managedBy now).2
  | .releaseCustody subnetId successor minBond licensedAt bondedAt =>
    (engine.releaseCustody subnetId successor minBond licensedAt bondedAt).2
  | .hostileTakeover subnetId challenger minBond reason licensedAt bondedAt =>
    (engine.hostileTakeover subnetId challenger minBond reason licensedAt bondedAt).2

end WattGovernance
