import Wattetheria.GovernanceStepProofs

/-!
# Votes and validators

A vote is checked when it is cast: the voter is a validator of the proposal's planet at
that moment.  It is counted when the proposal is finalized, without another check.
`votes_of_validators` says what follows over whole runs: the two sides are disjoint, and
every vote counted was cast by a validator, who is one still unless a rotation of the
planet's validators has removed them since.  A rotation can (`vote_of_rotated`).
-/

namespace WattVotes

open WattRuns WattKeyed WattGovernance GovernanceEngine Finset

variable {crates : Crates}

/-! ## Seats -/

/-- The agent is a validator of the planet. -/
def Seated (engine : GovernanceEngine) (subnetId agent : String) : Prop :=
  ∃ planet, engine.planets[subnetId]? = some planet ∧ agent ∈ planet.validators

/-- The operation rotates the validators of the planet. -/
def rotates (op : GovernanceOp) (subnetId : String) : Prop :=
  ∃ staleAfterSec candidatePool now, op = .rotateValidators subnetId staleAfterSec candidatePool now

variable {id : String} {op : GovernanceOp}

lemma validators_rewrites {planet planet' : SubnetPlanet}
    (h : Rewrites op id planet planet') (hrotates : ¬ rotates op id) :
    planet.validators ⊆ planet'.validators := by
  cases h with
  | rotate => exact absurd ⟨_, _, _, rfl⟩ hrotates
  | tax | fund | spend | adjust | startRecall | enterCustody => exact Finset.Subset.refl _
  | resolveRecall => exact subset_insert _ _
  | @releaseCustody _ successor =>
    cases successor with
    | none => exact Finset.Subset.refl _
    | some agentDid => exact subset_insert _ _
  | hostileTakeover => exact subset_insert _ _

variable {agent : String}

lemma seated_step {engine : GovernanceEngine} {subnetId : String}
    (h : Seated engine subnetId agent) (hrotates : ¬ rotates op subnetId) :
    Seated (step crates engine op) subnetId agent := by
  obtain ⟨planet, hplanet, hagent⟩ := h
  cases planet_step crates engine op subnetId with
  | same hsame => exact ⟨planet, hsame.trans hplanet, hagent⟩
  | create request approvals licensedAt bondedAt hop hid hfresh hnew =>
    cases hfresh.symm.trans hplanet
  | rewrite planet0 planet' hold hnew hrewrites =>
    obtain rfl := Option.mem_unique hold hplanet
    exact ⟨planet', hnew, validators_rewrites hrewrites hrotates hagent⟩

/-! ## Votes -/

variable {proposal : GovernanceProposal} {voter : String} {approve : Bool}

lemma mem_votesFor_castVote : agent ∈ (castVote proposal voter approve).votesFor
      ↔ if agent = voter then approve = true else agent ∈ proposal.votesFor := by
  by_cases hagent : agent = voter
  · cases approve <;> simp [castVote, hagent]
  · cases approve <;> simp [castVote, hagent]

lemma mem_votesAgainst_castVote : agent ∈ (castVote proposal voter approve).votesAgainst
      ↔ if agent = voter then approve = false else agent ∈ proposal.votesAgainst := by
  by_cases hagent : agent = voter
  · cases approve <;> simp [castVote, hagent]
  · cases approve <;> simp [castVote, hagent]

lemma subnetId_castVote (proposal : GovernanceProposal) (voter : String) (approve : Bool) :
    (castVote proposal voter approve).subnetId = proposal.subnetId := by
  cases approve <;> rfl

/-- The agent has a vote on the proposal. -/
def Voted (proposal : GovernanceProposal) (agent : String) : Prop :=
  agent ∈ proposal.votesFor ∪ proposal.votesAgainst

/-- The vote an agent has on a proposal after a run was cast by a validator, in a step of the
run; since then the agent kept the seat or lost it in a rotation. -/
def Backed (crates : Crates) (ops : List GovernanceOp) (id : String)
    (proposal : GovernanceProposal) (agent : String) : Prop :=
  ∃ earlier approve later, ops = earlier ++ .voteProposal id agent approve :: later
    ∧ (approve = true ↔ agent ∈ proposal.votesFor)
    ∧ Seated (run (step crates) .empty earlier) proposal.subnetId agent
    ∧ (Seated (run (step crates) .empty ops) proposal.subnetId agent
      ∨ ∃ before op after, later = before ++ op :: after ∧ rotates op proposal.subnetId
        ∧ Seated (run (step crates) .empty (earlier ++ .voteProposal id agent approve :: before))
            proposal.subnetId agent
        ∧ ¬ Seated (run (step crates) .empty
            (earlier ++ .voteProposal id agent approve :: (before ++ [op])))
            proposal.subnetId agent)

variable {ops : List GovernanceOp} {proposal' : GovernanceProposal}

lemma Backed.snoc (h : Backed crates ops id proposal agent)
    (op : GovernanceOp) (hsubnet : proposal'.subnetId = proposal.subnetId)
    (hvote : agent ∈ proposal'.votesFor ↔ agent ∈ proposal.votesFor) :
    Backed crates (ops ++ [op]) id proposal' agent := by
  obtain ⟨earlier, approve, later, rfl, happrove, hcast, hsince⟩ := h
  refine ⟨earlier, approve, later ++ [op], by simp, happrove.trans hvote.symm,
    by rw [hsubnet]; exact hcast, ?_⟩
  rw [hsubnet]
  rcases hsince with hseated | ⟨before, rotation, after, rfl, hrotates, hbefore, hafter⟩
  · by_cases hnext : Seated (run (step crates) .empty
        (earlier ++ .voteProposal id agent approve :: later ++ [op])) proposal.subnetId agent
    · exact .inl hnext
    · -- the step itself took the seat away
      have hrotates : rotates op proposal.subnetId := by
        by_contra hnot
        rw [run_snoc] at hnext
        exact hnext (seated_step hseated hnot)
      refine .inr ⟨later, op, [], rfl, hrotates, hseated, ?_⟩
      simpa using hnext
  · exact .inr ⟨before, rotation, after ++ [op], by simp, hrotates, hbefore, hafter⟩

lemma backed_cast (hvoter : Seated (run (step crates) .empty ops) proposal.subnetId voter) :
    Backed crates (ops ++ [.voteProposal id voter approve]) id (castVote proposal voter approve)
      voter := by
  have hseat : Seated (run (step crates) .empty ops)
      (castVote proposal voter approve).subnetId voter := by
    rw [subnetId_castVote]
    exact hvoter
  refine ⟨ops, approve, [], rfl, ?_, hseat, .inl ?_⟩
  · rw [mem_votesFor_castVote, if_pos rfl]
  · rw [run_snoc]
    refine seated_step hseat ?_
    rintro ⟨_, _, _, hop⟩
    cases hop

/-- What holds of a proposal after a run. -/
def Proper (crates : Crates) (ops : List GovernanceOp) (id : String)
    (proposal : GovernanceProposal) : Prop :=
  (∀ agent, ¬ (agent ∈ proposal.votesFor ∧ agent ∈ proposal.votesAgainst))
    ∧ ∀ agent, Voted proposal agent → Backed crates ops id proposal agent

lemma Proper.snoc (h : Proper crates ops id proposal)
    (op : GovernanceOp) (hsubnet : proposal'.subnetId = proposal.subnetId)
    (hfor : proposal'.votesFor = proposal.votesFor)
    (hagainst : proposal'.votesAgainst = proposal.votesAgainst) :
    Proper crates (ops ++ [op]) id proposal' := by
  refine ⟨?_, fun agent hvoted => ?_⟩
  · rw [hfor, hagainst]
    exact h.1
  · refine (h.2 agent ?_).snoc op hsubnet (by rw [hfor])
    rw [Voted, ← hfor, ← hagainst]
    exact hvoted

lemma proper_castVote (h : Proper crates ops id proposal)
    (hvoter : Seated (run (step crates) .empty ops) proposal.subnetId voter) :
    Proper crates (ops ++ [.voteProposal id voter approve]) id
      (castVote proposal voter approve) := by
  refine ⟨fun agent => ?_, fun agent hvoted => ?_⟩
  · rw [mem_votesFor_castVote, mem_votesAgainst_castVote]
    by_cases hagent : agent = voter
    · rw [if_pos hagent, if_pos hagent]
      cases approve <;> simp
    · rw [if_neg hagent, if_neg hagent]
      exact h.1 agent
  · by_cases hagent : agent = voter
    · subst hagent
      exact backed_cast hvoter
    · rw [Voted, mem_union, mem_votesFor_castVote, mem_votesAgainst_castVote,
        if_neg hagent, if_neg hagent] at hvoted
      refine (h.2 agent (mem_union.mpr hvoted)).snoc _ (subnetId_castVote ..) ?_
      rw [mem_votesFor_castVote, if_neg hagent]

/-- **EVERY PROPOSAL** of every run is proper.  The induction is on the run from its end: what
is said of a vote looks back at the steps before. -/
lemma proper_run (ops : List GovernanceOp) (id : String) (proposal : GovernanceProposal)
    (h : (run (step crates) .empty ops).proposals[id]? = some proposal) :
    Proper crates ops id proposal := by
  induction ops using List.reverseRecOn generalizing proposal with
  | nil => cases h
  | append_singleton ops op ih =>
    rw [run_snoc] at h
    cases proposal_step crates (run (step crates) .empty ops) op id with
    | same hsame =>
      exact (ih proposal (hsame ▸ h)).snoc op rfl rfl rfl
    | create proposal' hfor hagainst hnew =>
      obtain rfl := Option.mem_unique hnew h
      refine ⟨fun agent hboth => ?_, fun agent hvoted => ?_⟩
      · rw [hfor] at hboth
        exact absurd hboth.1 (notMem_empty agent)
      · rw [Voted, hfor, hagainst] at hvoted
        exact absurd hvoted (notMem_empty agent)
    | vote proposal' planet voter approve hop hold hplanet hvoter hnew =>
      obtain rfl := Option.mem_unique hnew h
      subst hop
      exact proper_castVote (ih proposal' hold) ⟨planet, hplanet, hvoter⟩
    | close proposal' status hold hnew =>
      obtain rfl := Option.mem_unique hnew h
      exact (ih proposal' hold).snoc op rfl rfl rfl

/-! ## The result -/

/-- **VOTES OF VALIDATORS**: for every run from an empty engine, the votes for and against a
proposal are disjoint in every state reached; and when a finalization accepts a
proposal, every vote it counts was cast by an agent who was a validator of the planet
when they cast it, and who is one still unless a rotation of the planet has removed them
since. -/
theorem votes_of_validators (crates : Crates) (ops : List GovernanceOp) :
    Always (step crates) (fun engine => ∀ (id : String) (proposal : GovernanceProposal),
        engine.proposals[id]? = some proposal →
          Disjoint proposal.votesFor proposal.votesAgainst) .empty ops
      ∧ ∀ pre id minVotesFor post, ops = pre ++ .finalizeProposal id minVotesFor :: post →
        ∀ proposal, (run (step crates) .empty pre).proposals[id]? = some proposal →
          proposal.status = .open → carries proposal minVotesFor = true →
          ∀ agent ∈ proposal.votesFor ∪ proposal.votesAgainst,
            ∃ earlier approve later, pre = earlier ++ .voteProposal id agent approve :: later
              ∧ (approve = true ↔ agent ∈ proposal.votesFor)
              ∧ Seated (run (step crates) .empty earlier) proposal.subnetId agent
              ∧ (Seated (run (step crates) .empty pre) proposal.subnetId agent
                ∨ ∃ before op after, later = before ++ op :: after ∧ rotates op proposal.subnetId
                  ∧ Seated (run (step crates) .empty
                      (earlier ++ .voteProposal id agent approve :: before)) proposal.subnetId agent
                  ∧ ¬ Seated (run (step crates) .empty
                      (earlier ++ .voteProposal id agent approve :: (before ++ [op])))
                      proposal.subnetId agent) := by
  constructor
  · intro pre post _ id proposal h
    rw [disjoint_left]
    intro agent hfor hagainst
    exact (proper_run pre id proposal h).1 agent ⟨hfor, hagainst⟩
  · intro pre id _ post _ proposal h _ _ agent hvoted
    exact (proper_run pre id proposal h).2 agent hvoted

/-- Two validators vote and are rotated out before the proposal is finalized. -/
def rotatedVote : List GovernanceOp :=
  toyGenesis [⟨"bob", "sig:bob"⟩, ⟨"carol", "sig:carol"⟩] ++
  [.createProposal "p-1" "rename" .null "alice" "q-1" 101, .voteProposal "q-1" "bob" true,
    .voteProposal "q-1" "carol" true, .rotateValidators "p-1" 60 ["dave"] 200,
    .finalizeProposal "q-1" 2]

/-- Their votes carry the proposal; none of them is a validator. -/
theorem vote_of_rotated : ((run (step toyCrates) .empty rotatedVote).proposals["q-1"]?).map
        (fun proposal => (proposal.status, proposal.votesFor)) = some (.accepted, {"bob", "carol"})
      ∧ ((run (step toyCrates) .empty rotatedVote).planets["p-1"]?).map
        (fun planet => planet.validators) = some {"dave"} := by
  decide +kernel

end WattVotes
