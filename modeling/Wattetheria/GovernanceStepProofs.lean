import Wattetheria.GovernanceEngine

/-!
# What one governance operation can do

`planet_step` and `proposal_step` say once what an operation can do to the planet of a
subnet and to a proposal, with the checks it passed; the results about runs only split
on their cases.
-/

namespace WattGovernance

open WattText WattJson WattKeyed WattSigning GovernanceEngine

variable {crates : Crates} {engine : GovernanceEngine} {written : GovernanceEngine}
  {op : GovernanceOp}

/-! ## Planets -/

/-- The writes of the operations on a planet that exists, with the checks before
them. -/
inductive Rewrites : GovernanceOp → String → SubnetPlanet → SubnetPlanet → Prop where
  | tax {proposalId minVotesFor id planet} (rate : UInt64) :
      Rewrites (.finalizeProposal proposalId minVotesFor) id planet { planet with taxRate := rate }
  | rotate {id stale pool now planet} (kept : Finset String) (h : kept ⊆ planet.validators) :
      Rewrites (.rotateValidators id stale pool now) id planet
        { planet with validators := admitCandidates pool kept }
  | fund {id amount planet} (h : ¬ amount ≤ 0) :
      Rewrites (.fundTreasury id amount) id planet
        { planet with
          treasuryWatt := planet.treasuryWatt + amount
          stability := min (planet.stability + 2) 100 }
  | spend {id amount planet} (h : ¬ amount ≤ 0) (hfunds : ¬ planet.treasuryWatt < amount) :
      Rewrites (.spendTreasury id amount) id planet
        { planet with treasuryWatt := planet.treasuryWatt - amount }
  | adjust {id delta planet} :
      Rewrites (.adjustStability id delta) id planet
        { planet with stability := clampStability (planet.stability + delta) }
  | startRecall {id initiatedBy reason threshold now planet}
      (hstability : ¬ threshold < planet.stability)
      (hallowed : ¬ (initiatedBy ≠ planet.creator ∧ initiatedBy ∉ planet.validators)) :
      Rewrites (.startRecall id initiatedBy reason threshold now) id planet
        { planet with
          governmentStatus := .recall
          activeRecall := some ⟨initiatedBy, reason, now, threshold⟩ }
  | resolveRecall {id successor minBond licensedAt bondedAt planet}
      (h : planet.governmentStatus = .recall) :
      Rewrites (.resolveRecall id successor minBond licensedAt bondedAt) id planet
        { seat planet successor with
          governmentStatus := .active
          activeRecall := none
          stability := clampStability (planet.stability + 25) }
  | enterCustody {id reason managedBy now planet} :
      Rewrites (.enterCustody id reason managedBy now) id planet
        { planet with
          governmentStatus := .custody
          custody := some ⟨managedBy, reason, now⟩
          activeRecall := none
          stability := min planet.stability 25 }
  | releaseCustody {id successor minBond licensedAt bondedAt planet}
      (h : planet.governmentStatus = .custody) :
      Rewrites (.releaseCustody id successor minBond licensedAt bondedAt) id planet
        { successor.elim planet (seat planet) with
          governmentStatus := .active
          custody := none
          stability := max planet.stability 50 }
  | hostileTakeover {id challenger minBond reason licensedAt bondedAt planet}
      (h : planet.governmentStatus = .custody ∨ planet.stability ≤ 20) :
      Rewrites (.hostileTakeover id challenger minBond reason licensedAt bondedAt) id planet
        { seat planet challenger with
          governmentStatus := .active
          activeRecall := none
          custody := none
          lastTakeoverBy := some s!"{challenger}:{reason}"
          stability := 40 }

/-- What an operation can do to the planet of a subnet: nothing, create it, or rewrite
it. -/
inductive PlanetStep (engine engine' : GovernanceEngine) (op : GovernanceOp) (id : String) :
    Prop where
  | same (h : engine'.planets[id]? = engine.planets[id]?)
  | create (request : PlanetCreationRequest) (approvals : List GenesisApproval)
      (licensedAt bondedAt : Int64) (hop : op = .createPlanet request approvals licensedAt bondedAt)
      (hid : id = request.subnetId) (hfresh : engine.planets[id]? = none)
      (h : engine'.planets[id]? = some (genesis request (uniqueSigners approvals)))
  | rewrite (planet planet' : SubnetPlanet) (hold : engine.planets[id]? = some planet)
      (h : engine'.planets[id]? = some planet') (hrewrites : Rewrites op id planet planet')

lemma planets_putPlanet (engine : GovernanceEngine) (subnetId : String) (planet : SubnetPlanet)
    (id : String) : (engine.putPlanet subnetId planet).planets[id]?
      = if id = subnetId then some planet else engine.planets[id]? :=
  getElem?_insert engine.planets subnetId planet id

lemma withPlanet_cases (engine : GovernanceEngine) (subnetId missing : String)
    (body : SubnetPlanet → Except String SubnetPlanet) :
    (∃ text, engine.withPlanet subnetId missing body = (.error text, engine)
        ∧ ∀ planet, engine.planets[subnetId]? = some planet → body planet = .error text)
      ∨ ∃ planet planet', engine.planets[subnetId]? = some planet ∧ body planet = .ok planet'
          ∧ engine.withPlanet subnetId missing body
            = (.ok planet', engine.putPlanet subnetId planet') := by
  unfold withPlanet
  cases hplanet : engine.planets[subnetId]? with
  | none =>
    refine .inl ⟨missing, rfl, ?_⟩
    intro planet h
    cases h
  | some planet =>
    cases hbody : body planet with
    | error text =>
      refine .inl ⟨text, by simp only [hbody], ?_⟩
      intro planet' h
      cases h
      exact hbody
    | ok planet' => exact .inr ⟨planet, planet', rfl, hbody, by simp only [hbody]⟩

/-- An operation on a planet that exists is a step of it if its body is a rewrite.  It
may have written something else than planets before. -/
lemma planetStep_withPlanet
    {subnetId missing : String} {body : SubnetPlanet → Except String SubnetPlanet}
    (hwritten : written.planets = engine.planets) (id : String)
    (hbody : ∀ planet planet', body planet = .ok planet' → Rewrites op subnetId planet planet') :
    PlanetStep engine (written.withPlanet subnetId missing body).2 op id := by
  rcases withPlanet_cases written subnetId missing body with
    ⟨text, hfail, -⟩ | ⟨planet, planet', hold, hok, hwrite⟩
  · rw [hfail]
    exact .same (by rw [hwritten])
  · rw [hwrite]
    by_cases hid : id = subnetId
    · subst hid
      refine .rewrite planet planet' (hwritten ▸ hold) ?_ (hbody planet planet' hok)
      rw [planets_putPlanet, if_pos rfl]
    · refine .same ?_
      rw [planets_putPlanet, if_neg hid, hwritten]

lemma planetStep_createPlanet (request : PlanetCreationRequest)
    (approvals : List GenesisApproval) (licensedAt bondedAt : Int64) (id : String) :
    PlanetStep engine (engine.createPlanet crates request approvals licensedAt bondedAt).2
      (.createPlanet request approvals licensedAt bondedAt) id := by
  unfold createPlanet
  cases hcheck : engine.checkGenesis crates request approvals licensedAt bondedAt with
  | error text => exact .same rfl
  | ok u =>
    by_cases hid : id = request.subnetId
    · subst hid
      simp only [checkGenesis, bind_eq_ok, bailIf_eq_ok, Option.isSome_eq_false_iff,
        Option.isNone_iff_eq_none] at hcheck
      obtain ⟨-, hfresh, -⟩ := hcheck
      refine .create request approvals licensedAt bondedAt rfl rfl hfresh ?_
      rw [planets_putPlanet, if_pos rfl]
    · refine .same ?_
      rw [planets_putPlanet, if_neg hid]

variable (proposalId : String) (minVotesFor : Nat)

lemma planetStep_finalizeProposal (id : String) :
    PlanetStep engine (engine.finalizeProposal crates proposalId minVotesFor).2
      (.finalizeProposal proposalId minVotesFor) id := by
  unfold finalizeProposal
  split
  · exact .same rfl
  · next proposal _ =>
    split
    · exact .same rfl
    · cases carries proposal minVotesFor with
      | false => exact .same rfl
      | true =>
        simp only [if_true, applyProposalEffects]
        split
        · split
          · refine planetStep_withPlanet (by rfl) id fun _ _ h => ?_
            cases h
            exact .tax _
          · exact .same rfl
        · exact .same rfl

lemma guarded_ok {c : Prop} [Decidable c] {text : String} {body : Except String SubnetPlanet}
    {planet : SubnetPlanet} (h : (if c then .error text else body) = .ok planet) :
    ¬ c ∧ body = .ok planet := by
  by_cases hc : c
  · rw [if_pos hc] at h
    cases h
  · rw [if_neg hc] at h
    exact ⟨hc, h⟩

/-- **PLANETS**: what an operation can do to the planet of a subnet. -/
lemma planet_step (crates : Crates) (engine : GovernanceEngine) (op : GovernanceOp)
    (id : String) : PlanetStep engine (step crates engine op) op id := by
  cases op with
  | issueLicense | lockBond | recordValidatorHeartbeat => exact .same rfl
  | createPlanet request approvals licensedAt bondedAt =>
    exact planetStep_createPlanet request approvals licensedAt bondedAt id
  | createProposal subnetId kind payload createdBy uuid now =>
    refine .same ?_
    simp only [step, createProposal]
    split
    · rfl
    · split <;> rfl
  | voteProposal proposalId voter approve =>
    refine .same ?_
    simp only [step, voteProposal]
    split
    · rfl
    · split
      · rfl
      · split
        · rfl
        · split <;> rfl
  | finalizeProposal proposalId minVotesFor =>
    exact planetStep_finalizeProposal proposalId minVotesFor id
  | rotateValidators subnetId stale pool now =>
    -- from here on every operation writes one planet, and only the body is left to read
    refine planetStep_withPlanet (by rfl) id fun _ _ h => ?_
    cases h
    exact .rotate _ (Finset.filter_subset _ _)
  | fundTreasury subnetId amount =>
    simp only [step, fundTreasury]
    split
    · exact .same rfl
    · next hamount =>
      refine planetStep_withPlanet (by rfl) id fun _ _ h => ?_
      cases h
      exact .fund hamount
  | spendTreasury subnetId amount =>
    simp only [step, spendTreasury]
    split
    · exact .same rfl
    · next hamount =>
      refine planetStep_withPlanet (by rfl) id fun planet planet' h => ?_
      obtain ⟨hfunds, ⟨⟩⟩ := guarded_ok h
      exact .spend hamount hfunds
  | adjustStability subnetId delta =>
    refine planetStep_withPlanet (by rfl) id fun _ _ h => ?_
    cases h
    exact .adjust
  | startRecall subnetId initiatedBy reason threshold now =>
    refine planetStep_withPlanet (by rfl) id fun planet planet' h => ?_
    obtain ⟨hstability, h⟩ := guarded_ok h
    obtain ⟨hallowed, ⟨⟩⟩ := guarded_ok h
    exact .startRecall hstability hallowed
  | resolveRecall subnetId successor minBond licensedAt bondedAt =>
    simp only [step, resolveRecall]
    split
    · exact .same rfl
    · refine planetStep_withPlanet (by rfl) id fun planet planet' h => ?_
      obtain ⟨hstatus, ⟨⟩⟩ := guarded_ok h
      exact .resolveRecall (not_not.mp hstatus)
  | enterCustody subnetId reason managedBy now =>
    refine planetStep_withPlanet (by rfl) id fun _ _ h => ?_
    cases h
    exact .enterCustody
  | releaseCustody subnetId successor minBond licensedAt bondedAt =>
    simp only [step, releaseCustody]
    split
    · exact .same rfl
    · refine planetStep_withPlanet (by rfl) id fun planet planet' h => ?_
      obtain ⟨hstatus, ⟨⟩⟩ := guarded_ok h
      exact .releaseCustody (not_not.mp hstatus)
  | hostileTakeover subnetId challenger minBond reason licensedAt bondedAt =>
    simp only [step, hostileTakeover]
    split
    · exact .same rfl
    · refine planetStep_withPlanet (by rfl) id fun planet planet' h => ?_
      by_cases hvulnerable : planet.governmentStatus = .custody ∨ planet.stability ≤ 20
      · rw [if_pos hvulnerable] at h
        cases h
        exact .hostileTakeover hvulnerable
      · rw [if_neg hvulnerable] at h
        cases h

/-! ## Proposals -/

/-- What an operation can do to a proposal: nothing, open it, add the vote of a validator,
or close it. -/
inductive ProposalStep (engine engine' : GovernanceEngine) (op : GovernanceOp) (id : String) :
    Prop where
  | same (h : engine'.proposals[id]? = engine.proposals[id]?)
  | create (proposal : GovernanceProposal) (hfor : proposal.votesFor = ∅)
      (hagainst : proposal.votesAgainst = ∅) (h : engine'.proposals[id]? = some proposal)
  | vote (proposal : GovernanceProposal) (planet : SubnetPlanet) (voter : String) (approve : Bool)
      (hop : op = .voteProposal id voter approve) (hold : engine.proposals[id]? = some proposal)
      (hplanet : engine.planets[proposal.subnetId]? = some planet)
      (hvoter : voter ∈ planet.validators)
      (h : engine'.proposals[id]? = some (castVote proposal voter approve))
  | close (proposal : GovernanceProposal) (status : ProposalStatus)
      (hold : engine.proposals[id]? = some proposal)
      (h : engine'.proposals[id]? = some { proposal with status })

lemma proposals_withPlanet (engine : GovernanceEngine) (subnetId missing : String)
    (body : SubnetPlanet → Except String SubnetPlanet) :
    (engine.withPlanet subnetId missing body).2.proposals = engine.proposals := by
  rcases withPlanet_cases engine subnetId missing body with ⟨_, h, -⟩ | ⟨_, _, -, -, h⟩
  · rw [h]
  · rw [h]
    rfl

lemma proposals_applyProposalEffects (engine : GovernanceEngine) (subnetId kind : String)
    (payload : JsonValue) :
    (engine.applyProposalEffects crates subnetId kind payload).2.proposals = engine.proposals := by
  unfold applyProposalEffects
  split
  · split
    · exact proposals_withPlanet ..
    · rfl
  · rfl

lemma proposalStep_insert {key : String} {proposal : GovernanceProposal}
    (hwritten : written.proposals = engine.proposals.insert key proposal)
    (hstep : written.proposals[key]? = some proposal → ProposalStep engine written op key)
    (id : String) : ProposalStep engine written op id := by
  by_cases hid : id = key
  · subst hid
    refine hstep ?_
    rw [hwritten, getElem?_insert, if_pos rfl]
  · refine .same ?_
    rw [hwritten, getElem?_insert, if_neg hid]

lemma proposalStep_createProposal (subnetId kind : String) (payload : JsonValue)
    (createdBy uuid : String) (now : Int64) (op : GovernanceOp) (id : String) :
    ProposalStep engine (engine.createProposal subnetId kind payload createdBy uuid now).2
      op id := by
  unfold createProposal
  split
  · exact .same rfl
  · split
    · exact .same rfl
    · refine proposalStep_insert (by rfl) (fun h => ?_) id
      exact .create _ rfl rfl h

lemma proposalStep_voteProposal (proposalId voter : String) (approve : Bool) (id : String) :
    ProposalStep engine (engine.voteProposal proposalId voter approve).2
      (.voteProposal proposalId voter approve) id := by
  unfold voteProposal
  split
  · exact .same rfl
  · next proposal hproposal =>
    split
    · exact .same rfl
    · split
      · exact .same rfl
      · next planet hplanet =>
        split
        · exact .same rfl
        · next hvoter =>
          refine proposalStep_insert (by rfl) (fun h => ?_) id
          exact .vote proposal planet voter approve rfl hproposal hplanet (not_not.mp hvoter) h

lemma proposalStep_finalizeProposal (op : GovernanceOp) (id : String) :
    ProposalStep engine (engine.finalizeProposal crates proposalId minVotesFor).2 op id := by
  unfold finalizeProposal
  split
  · exact .same rfl
  · next proposal hproposal =>
    split
    · exact .same rfl
    · cases carries proposal minVotesFor with
      | false =>
        refine proposalStep_insert (by rfl) (fun h => ?_) id
        exact .close proposal .rejected hproposal h
      | true =>
        refine proposalStep_insert (proposals_applyProposalEffects ..) (fun h => ?_) id
        exact .close proposal .accepted hproposal h

/-- **PROPOSALS**: what an operation can do to a proposal. -/
lemma proposal_step (crates : Crates) (engine : GovernanceEngine) (op : GovernanceOp)
    (id : String) : ProposalStep engine (step crates engine op) op id := by
  have hframe : ∀ {written : GovernanceEngine} {subnetId missing : String}
      {body : SubnetPlanet → Except String SubnetPlanet}, written.proposals = engine.proposals →
        ProposalStep engine (written.withPlanet subnetId missing body).2 op id := by
    intro written subnetId missing body hwritten
    refine .same ?_
    rw [proposals_withPlanet, hwritten]
  cases op with
  | issueLicense | lockBond | recordValidatorHeartbeat => exact .same rfl
  | createPlanet request approvals licensedAt bondedAt =>
    simp only [step, createPlanet]
    split <;> exact .same rfl
  | createProposal subnetId kind payload createdBy uuid now =>
    exact proposalStep_createProposal subnetId kind payload createdBy uuid now _ id
  | voteProposal proposalId voter approve =>
    exact proposalStep_voteProposal proposalId voter approve id
  | finalizeProposal proposalId minVotesFor =>
    exact proposalStep_finalizeProposal proposalId minVotesFor _ id
  | rotateValidators | adjustStability | startRecall | enterCustody => exact hframe rfl
  | fundTreasury | spendTreasury | resolveRecall | releaseCustody | hostileTakeover =>
    simp only [step, fundTreasury, spendTreasury, resolveRecall, releaseCustody, hostileTakeover]
    split
    · exact .same rfl
    · exact hframe rfl

/-! ## Concrete runs -/

/-- The small crates, with one text for every genesis payload. -/
def toyCrates : Crates where
  toSigningCrates := toySigning
  canonicalGenesis _ := .ok []
  numberAsF64
    | .posInt n => n
    | .negInt n => n.toUInt64
    | .float bits => bits

def toyRequest (minApprovals : Nat) : PlanetCreationRequest where
  subnetId := "p-1"
  name := "Planet"
  creator := "alice"
  createdAt := 100
  taxRate := 0
  constitutionTemplate := .migrantCouncil
  minBond := 50
  minApprovals

/-- The steps up to a planet with the given approvals. -/
def toyGenesis (approvals : List GenesisApproval) : List GovernanceOp :=
  [.issueLicense "alice" "alice" "proof" 7 100, .lockBond "alice" 100 30 100,
    .createPlanet (toyRequest approvals.length) approvals 100 100]

end WattGovernance
