import Wattetheria.OrganizationRegistry

/-!
# Proposals, applications and votes are kept

An id tells its organization and its second, so two proposals collide exactly when they
are made for one organization within one second.  While that does not happen, everything
a create call returned stays stored and every accepted vote stays counted.
-/

namespace WattOrganizations

open WattText WattRuns OrganizationRegistry WattKeyed List Option

/-! ## Ids tell their organization and second -/

lemma dash_digits_inj {xs ys ds es : List Char} (hds : ∀ c ∈ ds, c.isDigit = true)
    (hes : ∀ c ∈ es, c.isDigit = true) (h : xs ++ '-' :: ds = ys ++ '-' :: es) :
    xs = ys ∧ ds = es := by
  -- read from the end, the digits stop at the dash
  have hread : ∀ {zs fs : List Char}, (∀ c ∈ fs, c.isDigit = true) →
      (zs ++ '-' :: fs).reverse.takeWhile Char.isDigit = fs.reverse := by
    intro zs fs hfs
    rw [reverse_append, reverse_cons, append_assoc, takeWhile_append_of_pos]
    · simp
    · intro c hc
      exact hfs c (mem_reverse.mp hc)
  have hreversed : ds.reverse = es.reverse := by rw [← hread hds, h, hread hes]
  have hdigits : ds = es := reverse_injective hreversed
  rw [hdigits] at h
  exact ⟨append_cancel_right h, hdigits⟩

lemma natAbs_digits (n : Nat) : ∀ c ∈ n.repr.toList, c.isDigit = true := by
  intro c hc
  rw [Nat.toList_repr] at hc
  exact isDigit_toDigits hc

/-- What an id begins with, before the digits. -/
def idHead (organizationId sep : List Char) (now : Int64) : List Char :=
  if now.toInt < 0 then organizationId ++ (sep ++ ['-']) else organizationId ++ sep

lemma id_toList (organizationId sep : String) (now : Int64) :
    (organizationId ++ (sep ++ "-") ++ i64Text now).toList
      = idHead organizationId.toList sep.toList now ++ '-' :: now.toInt.natAbs.repr.toList := by
  unfold i64Text idHead
  split <;> simp [String.toList_append]

/-- Ids of one form: the word before the last dash does not end in a dash itself. -/
lemma id_inj {a b : String} {m n : Int64} (sep : String) (word : List Char) (c : Char)
    (hsep : sep.toList = word ++ [c]) (hc : c ≠ '-')
    (h : a ++ (sep ++ "-") ++ i64Text m = b ++ (sep ++ "-") ++ i64Text n) : a = b ∧ m = n := by
  have hlist := congrArg String.toList h
  rw [id_toList, id_toList] at hlist
  obtain ⟨hhead, hdigits⟩ := dash_digits_inj (natAbs_digits _) (natAbs_digits _) hlist
  have habs : m.toInt.natAbs = n.toInt.natAbs := Nat.repr_injective (String.toList_injective hdigits)
  unfold idHead at hhead
  -- the sign shows in the last character of what stands before the digits
  by_cases hm : m.toInt < 0 <;> by_cases hn : n.toInt < 0
  · rw [if_pos hm, if_pos hn] at hhead
    exact ⟨String.toList_injective (append_cancel_right hhead), Int64.toInt_inj.mp (by omega)⟩
  · rw [if_pos hm, if_neg hn, hsep] at hhead
    have hlast := congrArg List.getLast? hhead
    simp only [← append_assoc, List.getLast?_append, List.getLast?_singleton,
      some_or, some.injEq] at hlast
    exact absurd hlast.symm hc
  · rw [if_neg hm, if_pos hn, hsep] at hhead
    have hlast := congrArg List.getLast? hhead
    simp only [← append_assoc, List.getLast?_append, List.getLast?_singleton,
      some_or, some.injEq] at hlast
    exact absurd hlast hc
  · rw [if_neg hm, if_neg hn] at hhead
    exact ⟨String.toList_injective (append_cancel_right hhead), Int64.toInt_inj.mp (by omega)⟩

lemma proposalIdOf_inj {a b : String} {m n : Int64} (h : proposalIdOf a m = proposalIdOf b n) :
    a = b ∧ m = n :=
  id_inj "-proposal" "-proposa".toList 'l' (by decide) (by decide) h

lemma applicationIdOf_inj {a b : String} {m n : Int64}
    (h : applicationIdOf a m = applicationIdOf b n) : a = b ∧ m = n :=
  id_inj "-charter" "-charte".toList 'r' (by decide) (by decide) h

/-! ## What a call does -/

/-- Calls that are about organizations and members. -/
def Elsewhere : RegistryCall → Prop
  | .createProposal .. | .voteProposal .. | .finalizeProposal ..
  | .createSubnetCharterApplication .. => False
  | _ => True

/-- What a call that succeeds does to proposals and applications. -/
inductive Effect (r r' : OrganizationRegistry) : RegistryCall → RegistryAnswer → Prop
  | elsewhere {call : RegistryCall} {answer : RegistryAnswer} (hcall : Elsewhere call)
      (hsame : r'.proposals = r.proposals ∧ r'.charterApplications = r.charterApplications) :
      Effect r r' call answer
  | proposed {now : Int64} {spec : OrganizationProposalCreateSpec} {proposal : OrganizationProposal}
      (hid : proposal.proposalId = proposalIdOf spec.organizationId now)
      (horganization : proposal.organizationId = spec.organizationId)
      (hcreated : proposal.createdAt = now)
      (hproposals : r'.proposals = r.proposals.insert proposal.proposalId proposal)
      (happlications : r'.charterApplications = r.charterApplications) :
      Effect r r' (.createProposal now spec) (.proposal proposal)
  | voted {id voter : String} {approve : Bool} {proposal : OrganizationProposal}
      (hget : r.proposals[id]? = some proposal)
      (hproposals : r'.proposals = r.proposals.insert id (countVote proposal voter approve))
      (happlications : r'.charterApplications = r.charterApplications) :
      Effect r r' (.voteProposal id voter approve) (.proposal (countVote proposal voter approve))
  | finalized {id : String} {minVotes : Nat} {proposal : OrganizationProposal}
      {status : OrganizationProposalStatus} (hget : r.proposals[id]? = some proposal)
      (hproposals : r'.proposals = r.proposals.insert id { proposal with status })
      (happlications : r'.charterApplications = r.charterApplications) :
      Effect r r' (.finalizeProposal id minVotes) (.proposal { proposal with status })
  | applied {now : Int64} {id requestedBy sponsor : String} {track : OrganizationAutonomyTrack}
      {proposal : OrganizationProposal} {application : OrganizationSubnetCharterApplication}
      (hget : r.proposals[id]? = some proposal)
      (hid : application.applicationId = applicationIdOf proposal.organizationId now)
      (horganization : application.organizationId = proposal.organizationId)
      (hcreated : application.createdAt = now)
      (hproposals : r'.proposals = r.proposals)
      (happlications : r'.charterApplications
        = r.charterApplications.insert application.applicationId application) :
      Effect r r' (.createSubnetCharterApplication now id requestedBy sponsor track)
        (.application application)

lemma updateOrganization_frame (r : OrganizationRegistry) (id : String)
    (change : OrganizationProfile → OrganizationProfile) :
    (r.updateOrganization id change).proposals = r.proposals
      ∧ (r.updateOrganization id change).charterApplications = r.charterApplications := by
  unfold updateOrganization
  split
  · exact ⟨rfl, rfl⟩
  · exact ⟨rfl, rfl⟩

variable {r r' : OrganizationRegistry} {id : String} {now : Int64} {answer : RegistryAnswer}

lemma upsertMembership_frame {public_ : String} {role : OrganizationRole}
    {title : Option String} {active : Bool} {membership : OrganizationMembership}
    (h : r.upsertMembership now id public_ role title active = .ok (membership, r')) :
    r'.proposals = r.proposals ∧ r'.charterApplications = r.charterApplications := by
  simp only [upsertMembership, bind_eq_ok, bailIf_eq_ok] at h
  obtain ⟨_, -, hresult⟩ := h
  cases hresult
  exact updateOrganization_frame _ _ _

lemma answered_eq_ok {α : Type} {wrap : α → RegistryAnswer}
    {result : Except String (α × OrganizationRegistry)}
    (h : answered wrap result = .ok (answer, r')) :
    ∃ a, result = .ok (a, r') ∧ answer = wrap a := by
  obtain ⟨⟨a, registry⟩, hresult, heq⟩ := bind_eq_ok.mp h
  cases heq
  exact ⟨a, hresult, rfl⟩

variable {call : RegistryCall}

lemma effect_of_perform (h : perform r call = .ok (answer, r')) : Effect r r' call answer := by
  cases call with
  | createOrganization now later spec =>
    obtain ⟨profile, hresult, -⟩ := answered_eq_ok h
    simp only [createOrganization, bind_eq_ok, bailIf_eq_ok] at hresult
    obtain ⟨_, -, ⟨membership, written⟩, hwritten, heq⟩ := hresult
    cases heq
    have hsame := upsertMembership_frame hwritten
    exact .elsewhere trivial hsame
  | upsertMembership now id public_ role title active =>
    obtain ⟨membership, hresult, -⟩ := answered_eq_ok h
    exact .elsewhere trivial (upsertMembership_frame hresult)
  | fundTreasury now id amount =>
    obtain ⟨profile, hresult, -⟩ := answered_eq_ok h
    simp only [fundTreasury, bind_eq_ok, bailIf_eq_ok, okOr_eq_ok] at hresult
    obtain ⟨_, -, organization, -, heq⟩ := hresult
    cases heq
    exact .elsewhere trivial (updateOrganization_frame r id _)
  | spendTreasury now id amount =>
    obtain ⟨profile, hresult, -⟩ := answered_eq_ok h
    simp only [spendTreasury, bind_eq_ok, bailIf_eq_ok, okOr_eq_ok] at hresult
    obtain ⟨_, -, organization, -, _, -, heq⟩ := hresult
    cases heq
    exact .elsewhere trivial (updateOrganization_frame r id _)
  | createProposal now spec =>
    obtain ⟨proposal, hresult, rfl⟩ := answered_eq_ok h
    simp only [createProposal, bind_eq_ok, bailIf_eq_ok] at hresult
    obtain ⟨_, -, _, -, heq⟩ := hresult
    cases heq
    obtain ⟨hproposals, happlications⟩ := updateOrganization_frame _ spec.organizationId _
    exact .proposed rfl rfl rfl hproposals happlications
  | voteProposal id voter approve =>
    obtain ⟨proposal, hresult, rfl⟩ := answered_eq_ok h
    simp only [voteProposal, bind_eq_ok, bailIf_eq_ok, okOr_eq_ok] at hresult
    obtain ⟨stored, hget, _, -, _, -, heq⟩ := hresult
    cases heq
    exact .voted hget rfl rfl
  | finalizeProposal id minVotes =>
    obtain ⟨proposal, hresult, rfl⟩ := answered_eq_ok h
    simp only [finalizeProposal, bind_eq_ok, bailIf_eq_ok, okOr_eq_ok]
      at hresult
    obtain ⟨stored, hget, _, -, heq⟩ := hresult
    cases heq
    exact .finalized hget rfl rfl
  | createSubnetCharterApplication now id requestedBy sponsor track =>
    obtain ⟨application, hresult, rfl⟩ := answered_eq_ok h
    simp only [createSubnetCharterApplication, bind_eq_ok, bailIf_eq_ok, okOr_eq_ok] at hresult
    obtain ⟨_, -, proposal, hget, _, -, _, -, _, -, _, -, subnetId, -, subnetName, -, heq⟩ := hresult
    cases heq
    exact .applied hget rfl rfl rfl rfl rfl

lemma step_cases (r : OrganizationRegistry) (call : RegistryCall) :
    step r call = r ∨ ∃ answer, perform r call = .ok (answer, step r call)
      ∧ Effect r (step r call) call answer := by
  cases h : perform r call with
  | error error =>
    left
    rw [step, h]
  | ok result =>
    obtain ⟨answer, r'⟩ := result
    have hstep : step r call = r' := by rw [step, h]
    right
    rw [hstep]
    exact ⟨answer, rfl, effect_of_perform h⟩

/-! ## Fresh ids -/

/-- No proposal of this organization was made in this second, and no application of the
proposal's organization. -/
def NewInItsSecond (r : OrganizationRegistry) : RegistryCall → Prop
  | .createProposal now spec => ∀ entry ∈ r.proposals.toList,
      ¬(entry.2.organizationId = spec.organizationId ∧ entry.2.createdAt = now)
  | .createSubnetCharterApplication now id _ _ _ => ∀ entry ∈ r.charterApplications.toList,
      ¬((r.proposals[id]?).map (·.organizationId) = some entry.2.organizationId
        ∧ entry.2.createdAt = now)
  | _ => True

instance (r : OrganizationRegistry) (call : RegistryCall) : Decidable (NewInItsSecond r call) := by
  cases call <;> unfold NewInItsSecond <;> infer_instance

/-- Everything is stored under the id of its organization and second. -/
structure WellKeyed (r : OrganizationRegistry) : Prop where
  proposals : ∀ id proposal, r.proposals[id]? = some proposal →
    id = proposalIdOf proposal.organizationId proposal.createdAt
  applications : ∀ id application, r.charterApplications[id]? = some application →
    id = applicationIdOf application.organizationId application.createdAt

lemma wellKeyed_default : WellKeyed .default :=
  ⟨by simp [OrganizationRegistry.default], by simp [OrganizationRegistry.default]⟩

variable (p : OrganizationProposal) (voter : String) (approve : Bool)

/-- The same proposal, whatever its votes and status. -/
def SameContent (p q : OrganizationProposal) : Prop :=
  q = { p with votesFor := q.votesFor, votesAgainst := q.votesAgainst, status := q.status }

lemma sameContent_countVote : SameContent p (countVote p voter approve) := by
  cases approve <;> exact rfl

lemma WellKeyed.step (h : WellKeyed r) (call : RegistryCall) : WellKeyed (step r call) := by
  rcases step_cases r call with hsame | ⟨answer, -, heffect⟩
  · rw [hsame]
    exact h
  generalize WattOrganizations.step r call = r' at heffect
  -- what is left of a stored proposal fits its key
  have hchange : ∀ {id old new}, r.proposals[id]? = some old → SameContent old new →
      id = proposalIdOf new.organizationId new.createdAt := by
    intro id old new hget hcontent
    rw [hcontent]
    exact h.proposals id old hget
  cases heffect with
  | elsewhere _ hsame => exact ⟨hsame.1 ▸ h.proposals, hsame.2 ▸ h.applications⟩
  | proposed hid horganization hcreated hproposals happlications =>
    refine ⟨hproposals ▸ forall_insert h.proposals ?_, happlications ▸ h.applications⟩
    rw [hid, horganization, hcreated]
  | voted hget hproposals happlications =>
    refine ⟨hproposals ▸ forall_insert h.proposals ?_, happlications ▸ h.applications⟩
    exact hchange hget (sameContent_countVote ..)
  | finalized hget hproposals happlications =>
    refine ⟨hproposals ▸ forall_insert h.proposals ?_, happlications ▸ h.applications⟩
    exact hchange hget rfl
  | applied hget hid horganization hcreated hproposals happlications =>
    refine ⟨hproposals ▸ h.proposals, happlications ▸ forall_insert h.applications ?_⟩
    rw [hid, horganization, hcreated]

lemma proposal_fresh (h : WellKeyed r) {spec : OrganizationProposalCreateSpec}
    (hnew : NewInItsSecond r (.createProposal now spec)) :
    r.proposals[proposalIdOf spec.organizationId now]? = none := by
  by_contra hsome
  obtain ⟨old, hold⟩ := ne_none_iff_exists'.mp hsome
  obtain ⟨horganization, hcreated⟩ := proposalIdOf_inj (h.proposals _ _ hold)
  exact hnew _ (Std.ExtTreeMap.mem_toList_iff_getElem?_eq_some.mpr hold)
    ⟨horganization.symm, hcreated.symm⟩

lemma application_fresh (h : WellKeyed r) {requestedBy sponsor : String}
    {track : OrganizationAutonomyTrack} {proposal : OrganizationProposal}
    (hget : r.proposals[id]? = some proposal)
    (hnew : NewInItsSecond r (.createSubnetCharterApplication now id requestedBy sponsor track)) :
    r.charterApplications[applicationIdOf proposal.organizationId now]? = none := by
  by_contra hsome
  obtain ⟨old, hold⟩ := ne_none_iff_exists'.mp hsome
  obtain ⟨horganization, hcreated⟩ := applicationIdOf_inj (h.applications _ _ hold)
  refine hnew _ (Std.ExtTreeMap.mem_toList_iff_getElem?_eq_some.mpr hold) ⟨?_, hcreated.symm⟩
  rw [hget]
  exact congrArg some horganization

/-! ## What stays -/

/-- The vote stands on its side and not on the other. -/
def Counted (p : OrganizationProposal) : Prop :=
  if approve then voter ∈ p.votesFor ∧ voter ∉ p.votesAgainst
  else voter ∈ p.votesAgainst ∧ voter ∉ p.votesFor

/-- The call is a vote of the voter on the proposal, and it is accepted. -/
def VotesAgain (id voter : String) (r : OrganizationRegistry) (call : RegistryCall) : Prop :=
  ∃ approve answer r', call = .voteProposal id voter approve ∧ perform r call = .ok (answer, r')

variable {p : OrganizationProposal} {a : OrganizationSubnetCharterApplication}

lemma SameContent.trans {q t : OrganizationProposal} (h : SameContent p q)
    (h' : SameContent q t) : SameContent p t := by
  unfold SameContent at h h' ⊢
  rw [h', h]

lemma counted_countVote (p : OrganizationProposal) (voter : String) (approve : Bool) :
    Counted voter approve (countVote p voter approve) := by
  cases approve <;> simp [Counted, countVote]

lemma Counted.vote {voter other : String} {approve approve' : Bool}
    (h : Counted voter approve p) (hne : voter ≠ other) :
    Counted voter approve (countVote p other approve') := by
  cases approve <;> cases approve' <;>
    simpa [Counted, countVote, hne] using h

/-- A step keeps every proposal, and every vote on it that the step does not change. -/
lemma proposal_step (hkeyed : WellKeyed r) (hnew : NewInItsSecond r call)
    (hget : r.proposals[id]? = some p) :
    ∃ q, (step r call).proposals[id]? = some q ∧ SameContent p q
      ∧ ∀ voter approve, Counted voter approve p → ¬VotesAgain id voter r call →
          Counted voter approve q := by
  have hkept : (step r call).proposals[id]? = some p → ∃ q,
      (step r call).proposals[id]? = some q ∧ SameContent p q ∧ ∀ voter approve,
        Counted voter approve p → ¬VotesAgain id voter r call → Counted voter approve q :=
    fun hstays => ⟨p, hstays, rfl, fun _ _ hcounted _ => hcounted⟩
  rcases step_cases r call with hsame | ⟨answer, hperform, heffect⟩
  · exact hkept (by rw [hsame, hget])
  generalize step r call = r' at heffect hperform hkept
  cases heffect with
  | elsewhere _ hsame => exact hkept (by rw [hsame.1, hget])
  | applied _ _ _ _ hproposals _ => exact hkept (by rw [hproposals, hget])
  | @proposed now spec _ hid _ _ hproposals _ =>
    -- the new proposal has an id of its own
    have hne : id ≠ proposalIdOf spec.organizationId now := by
      rintro rfl
      rw [proposal_fresh hkeyed hnew] at hget
      cases hget
    exact hkept (by rw [hproposals, getElem?_insert, hid, if_neg hne, hget])
  | @voted target other approve' proposal htarget hproposals _ =>
    by_cases hid : id = target
    · cases hid
      cases hget.symm.trans htarget
      refine ⟨_, by rw [hproposals, getElem?_insert, if_pos rfl],
        sameContent_countVote p other approve', ?_⟩
      intro voter approve hcounted hnot
      refine hcounted.vote ?_
      rintro rfl
      exact hnot ⟨approve', _, _, rfl, hperform⟩
    · exact hkept (by rw [hproposals, getElem?_insert, if_neg hid, hget])
  | @finalized target minVotes proposal status htarget hproposals _ =>
    by_cases hid : id = target
    · cases hid
      cases hget.symm.trans htarget
      have hcontent : SameContent p { p with status } := rfl
      refine ⟨_, by rw [hproposals, getElem?_insert, if_pos rfl], hcontent, ?_⟩
      intro voter approve hcounted _
      exact hcounted
    · exact hkept (by rw [hproposals, getElem?_insert, if_neg hid, hget])

lemma application_step (hkeyed : WellKeyed r)
    (hnew : NewInItsSecond r call) (hget : r.charterApplications[id]? = some a) :
    (step r call).charterApplications[id]? = some a := by
  rcases step_cases r call with hsame | ⟨answer, -, heffect⟩
  · rw [hsame]
    exact hget
  generalize step r call = r' at heffect
  cases heffect with
  | elsewhere _ hsame => rw [hsame.2, hget]
  | proposed _ _ _ _ happlications | voted _ _ happlications | finalized _ _ happlications =>
    rw [happlications, hget]
  | @applied now _ _ _ _ proposal _ hproposal hid _ _ _ happlications =>
    have hne : id ≠ applicationIdOf proposal.organizationId now := by
      rintro rfl
      rw [application_fresh hkeyed hproposal hnew] at hget
      cases hget
    rw [happlications, getElem?_insert, hid, if_neg hne, hget]

/-! ## Runs -/

lemma wellKeyed_run (calls : List RegistryCall) : WellKeyed (run step .default calls) :=
  inv_run (P := WellKeyed) (fun _ call h _ => h.step call) wellKeyed_default (allSteps_true _ _)

lemma proposal_run : ∀ {calls : List RegistryCall} {r : OrganizationRegistry}
    {p : OrganizationProposal}, WellKeyed r → AllSteps step NewInItsSecond r calls →
    r.proposals[id]? = some p → ∃ q, (run step r calls).proposals[id]? = some q ∧ SameContent p q
      ∧ ∀ voter approve, Counted voter approve p →
          AllSteps step (fun r call => ¬VotesAgain id voter r call) r calls →
          Counted voter approve q
  | [], _, p, _, _, hget => ⟨p, hget, rfl, fun _ _ hcounted _ => hcounted⟩
  | call :: calls, r, p, hkeyed, ⟨hnew, hrest⟩, hget => by
    obtain ⟨q, hq, hcontent, hcounted⟩ := proposal_step hkeyed hnew hget
    obtain ⟨t, ht, hcontent', hcounted'⟩ := proposal_run (hkeyed.step call) hrest hq
    refine ⟨t, ht, hcontent.trans hcontent', ?_⟩
    rintro voter approve hvote ⟨hnot, hnots⟩
    exact hcounted' voter approve (hcounted voter approve hvote hnot) hnots

lemma application_run : ∀ {calls : List RegistryCall} {r : OrganizationRegistry}, WellKeyed r →
      AllSteps step NewInItsSecond r calls → r.charterApplications[id]? = some a →
      (run step r calls).charterApplications[id]? = some a
  | [], _, _, _, hget => hget
  | call :: calls, r, hkeyed, ⟨hnew, hrest⟩, hget => by
    rw [run_cons]
    exact application_run (hkeyed.step call) hrest (application_step hkeyed hnew hget)

/-- **NOTHING IS REPLACED**: in a run in which no two proposals and no two applications of one
organization fall into one second, what a create call returned stays stored with its
content, and an accepted vote stays counted until the voter votes again. -/
theorem proposals_and_votes_kept (before after : List RegistryCall) (call : RegistryCall)
    (hnew : AllSteps step NewInItsSecond .default (before ++ call :: after))
    (answer : RegistryAnswer) (r : OrganizationRegistry)
    (hperform : perform (run step .default before) call = .ok (answer, r)) :
    (∀ now spec p, call = .createProposal now spec → answer = .proposal p →
      ∃ q, (run step .default (before ++ call :: after)).proposals[p.proposalId]? = some q
        ∧ SameContent p q)
    ∧ (∀ now id requestedBy sponsor track a,
        call = .createSubnetCharterApplication now id requestedBy sponsor track →
        answer = .application a →
        (run step .default (before ++ call :: after)).charterApplications[a.applicationId]?
          = some a)
    ∧ (∀ id voter approve, call = .voteProposal id voter approve →
        AllSteps step (fun r call => ¬VotesAgain id voter r call) r after →
        ∃ q, (run step .default (before ++ call :: after)).proposals[id]? = some q
          ∧ Counted voter approve q) := by
  have hstep : step (run step .default before) call = r := by rw [step, hperform]
  have hrun : run step .default (before ++ call :: after) = run step r after := by
    rw [run_append, run_cons, hstep]
  have hkeyed : WellKeyed r := hstep ▸ (wellKeyed_run before).step call
  have hafter : AllSteps step NewInItsSecond r after := by
    have hrest := ((allSteps_append _ _ _).mp hnew).2.2
    rw [hstep] at hrest
    exact hrest
  have heffect := effect_of_perform hperform
  rw [hrun]
  refine ⟨?_, ?_, ?_⟩
  · rintro now spec p rfl rfl
    cases heffect with
    | elsewhere hcall => exact hcall.elim
    | proposed _ _ _ hproposals _ =>
      have hget : r.proposals[p.proposalId]? = some p := by
        rw [hproposals, getElem?_insert, if_pos rfl]
      obtain ⟨q, hq, hcontent, -⟩ := proposal_run hkeyed hafter hget
      exact ⟨q, hq, hcontent⟩
  · rintro now id requestedBy sponsor track a rfl rfl
    cases heffect with
    | elsewhere hcall => exact hcall.elim
    | applied _ _ _ _ _ happlications =>
      have hget : r.charterApplications[a.applicationId]? = some a := by
        rw [happlications, getElem?_insert, if_pos rfl]
      exact application_run hkeyed hafter hget
  · rintro id voter approve rfl hnots
    cases heffect with
    | elsewhere hcall => exact hcall.elim
    | @voted _ _ _ proposal _ hproposals _ =>
      have hget : r.proposals[id]?
          = some (countVote proposal voter approve) := by
        rw [hproposals, getElem?_insert, if_pos rfl]
      obtain ⟨q, hq, -, hcounted⟩ := proposal_run hkeyed hafter hget
      exact ⟨q, hq, hcounted voter approve (counted_countVote proposal voter approve) hnots⟩

/-! ## Two proposals in one second -/

def toyOrganization : OrganizationCreateSpec where
  organizationId := "guild"
  name := "Guild"
  kind := .guild
  summary := ""
  factionAlignment := none
  homeSubnetId := none
  homeZoneId := none
  founderPublicId := "ada"

def toyProposal (title : String) : OrganizationProposalCreateSpec where
  organizationId := "guild"
  kind := .subnetCharter
  title
  summary := ""
  proposedSubnetId := some "subnet"
  proposedSubnetName := some "Subnet"
  createdByPublicId := "ada"

/-- A guild, a proposal at 100 with a vote on it, and a second proposal at `second`. -/
def toyCalls (second : Int64) : List RegistryCall :=
  [.createOrganization 99 99 toyOrganization, .createProposal 100 (toyProposal "first"),
   .voteProposal "guild-proposal-100" "ada" true,
   .createProposal second (toyProposal "second")]

theorem proposals_and_votes_kept_next_second :
    ∃ q, (run step .default (toyCalls 101)).proposals["guild-proposal-100"]? = some q
      ∧ Counted "ada" true q := by
  have hperform : (perform (run step .default [.createOrganization 99 99 toyOrganization,
      .createProposal 100 (toyProposal "first")])
      (.voteProposal "guild-proposal-100" "ada" true)).toOption.isSome = true := by
    decide +kernel
  cases hresult : perform (run step .default [.createOrganization 99 99 toyOrganization,
      .createProposal 100 (toyProposal "first")])
      (.voteProposal "guild-proposal-100" "ada" true) with
  | error error =>
    rw [hresult] at hperform
    cases hperform
  | ok result =>
    obtain ⟨answer, r⟩ := result
    refine (proposals_and_votes_kept
      [.createOrganization 99 99 toyOrganization, .createProposal 100 (toyProposal "first")]
      [.createProposal 101 (toyProposal "second")]
      (.voteProposal "guild-proposal-100" "ada" true) (by decide +kernel) answer r hresult).2.2
      "guild-proposal-100" "ada" true rfl ⟨?_, trivial⟩
    rintro ⟨approve, answer, r', hcall, -⟩
    cases hcall

/-- In the same second the second proposal takes the first one's place, and its vote is gone. -/
theorem second_proposal_replaces_first : (run step .default (toyCalls 100)).proposals.toList.map
        (fun entry => (entry.1, entry.2.title, entry.2.votesFor.card))
      = [("guild-proposal-100", "second", 0)]
    ∧ ((run step .default ((toyCalls 100).take 3)).proposals["guild-proposal-100"]?).map
        (fun p => (p.title, p.votesFor.card)) = some ("first", 1) := by
  decide +kernel

end WattOrganizations
