import Wattetheria.KeyedStore
import Wattetheria.RustText

/-!
# The organization registry

`OrganizationRegistry`: organizations with their members and treasury, the proposals their
members vote on, and the charter applications that accepted proposals lead to.  Proposals
and applications are kept under an id made of the organization and the clock in seconds.

A call gives its answer and the registry afterwards, or an error and no change; the clock
readings of a call are its arguments.
-/

namespace WattOrganizations

open WattText

/-! ## Data -/

/-- The kind of an organization. -/
inductive OrganizationKind where
  | guild
  | consortium
  | fleet
  | civicUnion

/-- A faction. -/
inductive Faction where
  | order
  | freeport
  | raider

/-- The role of a member. -/
inductive OrganizationRole where
  | founder
  | officer
  | member

/-- What a proposal asks for. -/
inductive OrganizationProposalKind where
  | subnetCharter
  deriving DecidableEq

/-- The status of a proposal. -/
inductive OrganizationProposalStatus where
  | open
  | accepted
  | rejected
  deriving DecidableEq

/-- A proposal with its votes. -/
structure OrganizationProposal where
  (proposalId organizationId : String)
  kind : OrganizationProposalKind
  (title summary : String)
  (proposedSubnetId proposedSubnetName : Option String)
  createdByPublicId : String
  createdAt : Int64
  (votesFor votesAgainst : Finset String)
  status : OrganizationProposalStatus

/-- One condition for a charter. -/
structure OrganizationReadinessGate where
  (key title : String)
  complete : Bool
  (current target : Int64)
  (unit hint : String)

/-- How far an organization is from a charter. -/
structure OrganizationAutonomyTrack where
  (currentStatus nextAction : String)
  eligibleForSubnetCharter : Bool
  gates : List OrganizationReadinessGate

/-- The status of an application. -/
inductive OrganizationSubnetCharterStatus where
  | pendingGovernance

/-- An application for a charter. -/
structure OrganizationSubnetCharterApplication where
  (applicationId organizationId proposalId requestedByPublicId sponsorControllerId
    proposedSubnetId proposedSubnetName summary : String)
  createdAt : Int64
  status : OrganizationSubnetCharterStatus
  readinessSnapshot : OrganizationAutonomyTrack

/-- An organization. -/
structure OrganizationProfile where
  (organizationId name : String)
  kind : OrganizationKind
  summary : String
  factionAlignment : Option Faction
  (homeSubnetId homeZoneId : Option String)
  treasuryWatt : Int64
  createdByPublicId : String
  active : Bool
  (createdAt updatedAt : Int64)

/-- What an organization is created from. -/
structure OrganizationCreateSpec where
  (organizationId name : String)
  kind : OrganizationKind
  summary : String
  factionAlignment : Option Faction
  (homeSubnetId homeZoneId : Option String)
  founderPublicId : String

/-- What a proposal is created from. -/
structure OrganizationProposalCreateSpec where
  organizationId : String
  kind : OrganizationProposalKind
  (title summary : String)
  (proposedSubnetId proposedSubnetName : Option String)
  createdByPublicId : String

/-- A member of an organization. -/
structure OrganizationMembership where
  (organizationId publicId : String)
  role : OrganizationRole
  title : Option String
  active : Bool
  (joinedAt updatedAt : Int64)

/-- The registry's maps. -/
structure OrganizationRegistry where
  organizations : Std.ExtTreeMap String OrganizationProfile
  memberships : Std.ExtTreeMap String (List OrganizationMembership)
  proposals : Std.ExtTreeMap String OrganizationProposal
  charterApplications : Std.ExtTreeMap String OrganizationSubnetCharterApplication

def OrganizationRegistry.default : OrganizationRegistry := ⟨∅, ∅, ∅, ∅⟩

/-! ## Identifiers -/

/-- An `i64` as it prints. -/
def i64Text (n : Int64) : String :=
  if n.toInt < 0 then "-" ++ n.toInt.natAbs.repr else n.toInt.natAbs.repr

variable (organizationId : String)

/-- `format!("{organization_id}-proposal-{now}")`. -/
def proposalIdOf (now : Int64) : String :=
  organizationId ++ "-proposal-" ++ i64Text now

/-- `format!("{organization_id}-charter-{now}")`. -/
def applicationIdOf (now : Int64) : String :=
  organizationId ++ "-charter-" ++ i64Text now

namespace OrganizationRegistry

/-! ## Organizations and members -/

variable (registry : OrganizationRegistry)

/-- `get_mut` of an organization, followed by a change of it. -/
def updateOrganization (organizationId : String)
    (change : OrganizationProfile → OrganizationProfile) : OrganizationRegistry :=
  match registry.organizations[organizationId]? with
  | none => registry
  | some organization =>
    { registry with
      organizations := registry.organizations.insert organizationId (change organization) }

/-- The entries of an organization with a member's replaced, or added at the end. -/
def replaceMember (membership : OrganizationMembership) :
    List OrganizationMembership → List OrganizationMembership
  | [] => [membership]
  | entry :: entries =>
    if entry.publicId = membership.publicId then membership :: entries
    else entry :: replaceMember membership entries

/-- Adds or rewrites a membership. -/
def upsertMembership (now : Int64)
    (organizationId publicId : String) (role : OrganizationRole) (title : Option String)
    (active : Bool) : Except String (OrganizationMembership × OrganizationRegistry) := do
  bailIf (!registry.organizations.contains organizationId) "organization does not exist"
  let entries := (registry.memberships[organizationId]?).getD []
  let joinedAt := ((entries.find? fun membership => membership.publicId == publicId).map
    (·.joinedAt)).getD now
  let membership : OrganizationMembership :=
    { organizationId, publicId, role, title, active, joinedAt, updatedAt := now }
  let registry := { registry with
    memberships := registry.memberships.insert organizationId (replaceMember membership entries) }
  .ok (membership, registry.updateOrganization organizationId
    fun organization => { organization with updatedAt := now })

/-- `create_organization`; `later` is the clock when the founder's membership is written. -/
def createOrganization (now later : Int64)
    (spec : OrganizationCreateSpec) : Except String (OrganizationProfile × OrganizationRegistry) := do
  bailIf (registry.organizations.contains spec.organizationId) "organization already exists"
  let organization : OrganizationProfile :=
    { organizationId := spec.organizationId, name := spec.name, kind := spec.kind,
      summary := spec.summary, factionAlignment := spec.factionAlignment,
      homeSubnetId := spec.homeSubnetId, homeZoneId := spec.homeZoneId, treasuryWatt := 0,
      createdByPublicId := spec.founderPublicId, active := true, createdAt := now,
      updatedAt := now }
  let registry := { registry with
    organizations := registry.organizations.insert spec.organizationId organization }
  let (_, registry) ← registry.upsertMembership later spec.organizationId spec.founderPublicId
    .founder (some "Founder") true
  .ok (organization, registry)

variable (now : Int64)

/-- Adds to the treasury. -/
def fundTreasury (organizationId : String)
    (amountWatt : Int64) : Except String (OrganizationProfile × OrganizationRegistry) := do
  bailIf (amountWatt ≤ 0) "funding amount must be positive"
  let organization ← okOr "organization does not exist" registry.organizations[organizationId]?
  let organization := { organization with
    treasuryWatt := organization.treasuryWatt + amountWatt, updatedAt := now }
  .ok (organization, registry.updateOrganization organizationId fun _ => organization)

/-- Takes from the treasury. -/
def spendTreasury (organizationId : String)
    (amountWatt : Int64) : Except String (OrganizationProfile × OrganizationRegistry) := do
  bailIf (amountWatt ≤ 0) "spend amount must be positive"
  let organization ← okOr "organization does not exist" registry.organizations[organizationId]?
  bailIf (organization.treasuryWatt < amountWatt) "insufficient organization treasury"
  let organization := { organization with
    treasuryWatt := organization.treasuryWatt - amountWatt, updatedAt := now }
  .ok (organization, registry.updateOrganization organizationId fun _ => organization)

def membershipForPublic (organizationId publicId : String) : Option OrganizationMembership :=
  ((registry.memberships[organizationId]?).getD []).find? fun membership =>
    membership.active && membership.publicId == publicId

/-! ## Proposals -/

/-- Opens a proposal of a member. -/
def createProposal (spec : OrganizationProposalCreateSpec) :
    Except String (OrganizationProposal × OrganizationRegistry) := do
  bailIf (!registry.organizations.contains spec.organizationId) "organization does not exist"
  bailIf (registry.membershipForPublic spec.organizationId spec.createdByPublicId).isNone
    "organization membership required"
  let proposal : OrganizationProposal :=
    { proposalId := proposalIdOf spec.organizationId now, organizationId := spec.organizationId,
      kind := spec.kind, title := spec.title, summary := spec.summary,
      proposedSubnetId := spec.proposedSubnetId, proposedSubnetName := spec.proposedSubnetName,
      createdByPublicId := spec.createdByPublicId, createdAt := now, votesFor := ∅,
      votesAgainst := ∅, status := .open }
  let registry := { registry with
    proposals := registry.proposals.insert proposal.proposalId proposal }
  .ok (proposal, registry.updateOrganization spec.organizationId
    fun organization => { organization with updatedAt := now })

/-- A vote, in the place of any earlier one of the same voter. -/
def countVote (proposal : OrganizationProposal) (voter : String) (approve : Bool) :
    OrganizationProposal :=
  let votesFor := proposal.votesFor.erase voter
  let votesAgainst := proposal.votesAgainst.erase voter
  if approve then { proposal with votesFor := insert voter votesFor, votesAgainst }
  else { proposal with votesFor, votesAgainst := insert voter votesAgainst }

/-- Counts a member's vote. -/
def voteProposal (proposalId voterPublicId : String)
    (approve : Bool) : Except String (OrganizationProposal × OrganizationRegistry) := do
  let proposal ← okOr "organization proposal not found" registry.proposals[proposalId]?
  bailIf (registry.membershipForPublic proposal.organizationId voterPublicId).isNone
    "organization membership required"
  bailIf (proposal.status ≠ .open) "organization proposal is not open"
  let proposal := countVote proposal voterPublicId approve
  .ok (proposal, { registry with proposals := registry.proposals.insert proposalId proposal })

/-- Accepts or rejects a proposal by its votes. -/
def finalizeProposal (proposalId : String) (minVotesFor : Nat) :
    Except String (OrganizationProposal × OrganizationRegistry) := do
  let proposal ← okOr "organization proposal not found" registry.proposals[proposalId]?
  bailIf (proposal.status ≠ .open) "organization proposal is not open"
  let proposal := { proposal with
    status := if minVotesFor ≤ proposal.votesFor.card
        ∧ proposal.votesAgainst.card < proposal.votesFor.card then .accepted
      else .rejected }
  .ok (proposal, { registry with proposals := registry.proposals.insert proposalId proposal })

/-- Applies for the charter of an accepted proposal. -/
def createSubnetCharterApplication
    (proposalId requestedByPublicId sponsorControllerId : String)
    (readinessSnapshot : OrganizationAutonomyTrack) :
    Except String (OrganizationSubnetCharterApplication × OrganizationRegistry) := do
  bailIf (!readinessSnapshot.eligibleForSubnetCharter)
    "organization is not ready for a subnet charter"
  let proposal ← okOr "organization proposal not found" registry.proposals[proposalId]?
  bailIf (proposal.kind ≠ .subnetCharter) "organization proposal is not a subnet charter proposal"
  bailIf (proposal.status ≠ .accepted)
    "organization proposal must be accepted before charter submission"
  bailIf (registry.membershipForPublic proposal.organizationId requestedByPublicId).isNone
    "organization membership required"
  bailIf (registry.charterApplications.toList.any fun (_, application) =>
      application.proposalId == proposalId)
    "charter application already exists for proposal"
  let proposedSubnetId ← okOr "subnet charter proposal missing proposed_subnet_id"
    proposal.proposedSubnetId
  let proposedSubnetName ← okOr "subnet charter proposal missing proposed_subnet_name"
    proposal.proposedSubnetName
  let application : OrganizationSubnetCharterApplication :=
    { applicationId := applicationIdOf proposal.organizationId now,
      organizationId := proposal.organizationId, proposalId := proposal.proposalId,
      requestedByPublicId, sponsorControllerId, proposedSubnetId, proposedSubnetName,
      summary := proposal.summary, createdAt := now, status := .pendingGovernance,
      readinessSnapshot }
  .ok (application, { registry with
    charterApplications :=
      registry.charterApplications.insert application.applicationId application })

end OrganizationRegistry

/-! ## Runs -/

/-- A call on the registry, with its clock. -/
inductive RegistryCall where
  | createOrganization (now later : Int64) (spec : OrganizationCreateSpec)
  | upsertMembership (now : Int64) (organizationId publicId : String) (role : OrganizationRole)
      (title : Option String) (active : Bool)
  | fundTreasury (now : Int64) (organizationId : String) (amountWatt : Int64)
  | spendTreasury (now : Int64) (organizationId : String) (amountWatt : Int64)
  | createProposal (now : Int64) (spec : OrganizationProposalCreateSpec)
  | voteProposal (proposalId voterPublicId : String) (approve : Bool)
  | finalizeProposal (proposalId : String) (minVotesFor : Nat)
  | createSubnetCharterApplication (now : Int64)
      (proposalId requestedByPublicId sponsorControllerId : String)
      (readinessSnapshot : OrganizationAutonomyTrack)

/-- What a call returns. -/
inductive RegistryAnswer where
  | organization (profile : OrganizationProfile)
  | membership (membership : OrganizationMembership)
  | proposal (proposal : OrganizationProposal)
  | application (application : OrganizationSubnetCharterApplication)

def answered {α : Type} (wrap : α → RegistryAnswer)
    (result : Except String (α × OrganizationRegistry)) :
    Except String (RegistryAnswer × OrganizationRegistry) := do
  let (a, registry) ← result
  .ok (wrap a, registry)

variable (registry : OrganizationRegistry)

/-- What a call answers and leaves. -/
def perform : RegistryCall → Except String (RegistryAnswer × OrganizationRegistry)
  | .createOrganization now later spec =>
    answered .organization (registry.createOrganization now later spec)
  | .upsertMembership now organizationId publicId role title active =>
    answered .membership (registry.upsertMembership now organizationId publicId role title active)
  | .fundTreasury now organizationId amountWatt =>
    answered .organization (registry.fundTreasury now organizationId amountWatt)
  | .spendTreasury now organizationId amountWatt =>
    answered .organization (registry.spendTreasury now organizationId amountWatt)
  | .createProposal now spec => answered .proposal (registry.createProposal now spec)
  | .voteProposal proposalId voterPublicId approve =>
    answered .proposal (registry.voteProposal proposalId voterPublicId approve)
  | .finalizeProposal proposalId minVotesFor =>
    answered .proposal (registry.finalizeProposal proposalId minVotesFor)
  | .createSubnetCharterApplication now proposalId requestedBy sponsor snapshot =>
    answered .application
      (registry.createSubnetCharterApplication now proposalId requestedBy sponsor snapshot)

def step (call : RegistryCall) : OrganizationRegistry :=
  match perform registry call with
  | .ok (_, registry) => registry
  | .error _ => registry

end WattOrganizations
