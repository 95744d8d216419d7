import Wattetheria.GovernanceStepProofs

/-!
# The approvals of a planet

`create_planet` compares the signers of the approvals as texts, while the signatures are
verified under the keys these texts are decoded to, and one key has several texts.  So a
list that names no key by two texts gives what `create_planet` wants of it, and only such a
list does for every number of approvals the guard accepts (`genesis_keys_iff`); two texts of
one key can stand for two approvals (`one_key_twice`).
-/

namespace WattGenesis

open WattText WattRuns WattSigning WattGovernance GovernanceEngine List

variable (crates : Crates) {approvals : List GenesisApproval}

/-- The public key an approval names as its signer. -/
def signerKey (approval : GenesisApproval) : Option (List UInt8) :=
  (decodePublicKeyFromRef crates.toSigningCrates approval.signerAgentDid).toOption

/-- The approval is a valid signature over the genesis payload under the key it names. -/
def Approves (request : PlanetCreationRequest) (approval : GenesisApproval) : Prop :=
  ∃ key message signature, signerKey crates approval = some key
    ∧ crates.canonicalGenesis (genesisPayload request) = .ok message
    ∧ crates.base64Decode approval.signature = .ok signature
    ∧ crates.verify key message signature = true

/-- No key is named by two different texts. -/
def NamedOnce (approvals : List GenesisApproval) : Prop :=
  ∀ a ∈ approvals, ∀ b ∈ approvals, signerKey crates a = signerKey crates b →
    a.signerAgentDid = b.signerAgentDid

/-- Among the approvals are `count` valid ones by pairwise different keys. -/
def ManyKeys (request : PlanetCreationRequest) (approvals : List GenesisApproval) (count : Nat) :
    Prop :=
  ∃ chosen : List GenesisApproval, chosen.Sublist approvals ∧ count ≤ chosen.length
    ∧ (∀ approval ∈ chosen, Approves crates request approval)
    ∧ (chosen.map (signerKey crates)).Nodup

/-- The keys the approvals name. -/
def approvalKeys (approvals : List GenesisApproval) : Finset (Option (List UInt8)) :=
  (approvals.map (signerKey crates)).toFinset

/-- Of the elements with one value under `f`, the last is chosen. -/
lemma exists_sublist_distinct {α β : Type} [DecidableEq β] (f : α → β) (xs : List α) :
    ∃ chosen : List α, chosen.Sublist xs ∧ (chosen.map f).Nodup
      ∧ (chosen.map f).toFinset = (xs.map f).toFinset := by
  induction xs with
  | nil => exact ⟨[], .slnil, nodup_nil, rfl⟩
  | cons x xs ih =>
    obtain ⟨chosen, hsub, hnodup, hsame⟩ := ih
    by_cases hx : f x ∈ (xs.map f).toFinset
    · refine ⟨chosen, hsub.cons x, hnodup, ?_⟩
      rw [map_cons, toFinset_cons, Finset.insert_eq_of_mem hx, hsame]
    · refine ⟨x :: chosen, hsub.cons_cons x, ?_, ?_⟩
      · rw [map_cons, nodup_cons]
        exact ⟨fun h => hx (hsame ▸ mem_toFinset.mpr h), hnodup⟩
      · rw [map_cons, map_cons, toFinset_cons, toFinset_cons, hsame]

/-- The gates a planet has passed: enough texts, and every approval verified. -/
lemma createPlanet_ok {crates : Crates} {engine : GovernanceEngine}
    {request : PlanetCreationRequest} {licensedAt bondedAt : Int64} {planet : SubnetPlanet}
    (h : (engine.createPlanet crates request approvals licensedAt bondedAt).1 = .ok planet) :
    request.minApprovals ≤ (uniqueSigners approvals).card
      ∧ ∀ approval ∈ approvals, Approves crates request approval := by
  unfold createPlanet at h
  cases hcheck : engine.checkGenesis crates request approvals licensedAt bondedAt with
  | error text =>
    rw [hcheck] at h
    cases h
  | ok u =>
    simp only [checkGenesis, bind_eq_ok, bailIf_eq_ok, decide_eq_false_iff_not, not_lt] at hcheck
    obtain ⟨-, -, -, -, -, henough, hverified⟩ := hcheck
    refine ⟨henough, fun approval hmem => ?_⟩
    have happroval := forM_eq_ok.mp hverified approval hmem
    simp only [verifyApproval, bind_eq_ok, bailIf_eq_ok, withContext_eq_ok,
      Bool.not_eq_false'] at happroval
    obtain ⟨verified, hverify, rfl⟩ := happroval
    obtain ⟨key, message, signature, hkey, hmessage, hsignature, hvalid⟩ :=
      verifyPayload_ok hverify
    refine ⟨key, message, signature, ?_, hmessage, hsignature, hvalid⟩
    rw [signerKey, hkey]
    rfl

/-- Of `min_approvals` only the guard makes use. -/
lemma createPlanet_minApprovals {crates : Crates} {engine : GovernanceEngine}
    {request : PlanetCreationRequest} {licensedAt bondedAt : Int64} {planet : SubnetPlanet}
    {count : Nat}
    (h : (engine.createPlanet crates request approvals licensedAt bondedAt).1 = .ok planet)
    (hcount : count ≤ (uniqueSigners approvals).card) :
    (engine.createPlanet crates { request with minApprovals := count } approvals licensedAt
      bondedAt).1 = .ok planet := by
  unfold createPlanet at h ⊢
  cases hcheck : engine.checkGenesis crates request approvals licensedAt bondedAt with
  | error text =>
    rw [hcheck] at h
    cases h
  | ok u =>
    have hother : engine.checkGenesis crates { request with minApprovals := count } approvals
        licensedAt bondedAt = .ok () := by
      simp only [checkGenesis, bind_eq_ok, bailIf_eq_ok, decide_eq_false_iff_not, not_lt] at hcheck ⊢
      obtain ⟨u, hnew, v, hstanding, w, -, hverified⟩ := hcheck
      exact ⟨u, hnew, v, hstanding, w, hcount, hverified⟩
    rw [hcheck] at h
    rw [hother]
    exact h

/-- The keys are the images of the texts. -/
lemma approvalKeys_eq_image {crates : Crates} : approvalKeys crates approvals
      = (uniqueSigners approvals).image fun signer =>
          (decodePublicKeyFromRef crates.toSigningCrates signer).toOption := by
  ext k
  simp [approvalKeys, uniqueSigners, signerKey]

/-- As many keys as texts, exactly when no key is named twice. -/
lemma card_approvalKeys_iff {crates : Crates} :
    (uniqueSigners approvals).card ≤ (approvalKeys crates approvals).card
      ↔ NamedOnce crates approvals := by
  rw [approvalKeys_eq_image]
  constructor
  · intro h a ha b hb hab
    have hinjective := Finset.card_image_iff.mp (Finset.card_image_le.antisymm h)
    exact hinjective (mem_toFinset.mpr (mem_map_of_mem ha)) (mem_toFinset.mpr (mem_map_of_mem hb))
      hab
  · intro h
    refine (Finset.card_image_of_injOn fun a ha b hb hab => ?_).ge
    obtain ⟨approval, hmem, rfl⟩ := mem_map.mp (mem_toFinset.mp ha)
    obtain ⟨approval', hmem', rfl⟩ := mem_map.mp (mem_toFinset.mp hb)
    exact h approval hmem approval' hmem' hab

/-- Where all approvals are valid, their keys are what counts. -/
lemma manyKeys_iff {crates : Crates} {request : PlanetCreationRequest} {count : Nat}
    (happroves : ∀ approval ∈ approvals, Approves crates request approval) :
    ManyKeys crates request approvals count ↔ count ≤ (approvalKeys crates approvals).card := by
  constructor
  · rintro ⟨chosen, hsub, hlength, -, hnodup⟩
    calc count ≤ (chosen.map (signerKey crates)).length := by
          rw [length_map]
          exact hlength
      _ = (chosen.map (signerKey crates)).toFinset.card :=
          (toFinset_card_of_nodup hnodup).symm
      _ ≤ (approvalKeys crates approvals).card := by
          refine Finset.card_le_card fun key hkey => ?_
          exact mem_toFinset.mpr ((hsub.map _).subset (mem_toFinset.mp hkey))
  · intro hkeys
    obtain ⟨chosen, hsub, hnodup, hsame⟩ := exists_sublist_distinct (signerKey crates) approvals
    refine ⟨chosen, hsub, ?_, fun approval hmem => happroves approval (hsub.subset hmem), hnodup⟩
    rw [approvalKeys, ← hsame, toFinset_card_of_nodup hnodup, length_map] at hkeys
    exact hkeys

/-- **DIFFERENT KEYS**: for every engine and every list of approvals, if `create_planet`
succeeds and no key among the signers is named by two different texts, then the required number
of the approvals are valid signatures over the planet under pairwise different keys.  And this
is so for every number with which the call succeeds only if no key is named twice. -/
theorem genesis_keys_iff (engine : GovernanceEngine)
    (request : PlanetCreationRequest) (approvals : List GenesisApproval)
    (licensedAt bondedAt : Int64) (planet : SubnetPlanet)
    (h : (engine.createPlanet crates request approvals licensedAt bondedAt).1 = .ok planet) :
    (NamedOnce crates approvals → ManyKeys crates request approvals request.minApprovals)
      ∧ ((∀ count, (engine.createPlanet crates { request with minApprovals := count } approvals
            licensedAt bondedAt).1 = .ok planet → ManyKeys crates request approvals count)
          ↔ NamedOnce crates approvals) := by
  obtain ⟨henough, happroves⟩ := createPlanet_ok h
  have hmany {count : Nat} (hcount : count ≤ (uniqueSigners approvals).card)
      (hnames : NamedOnce crates approvals) : ManyKeys crates request approvals count :=
    (manyKeys_iff happroves).mpr (hcount.trans (card_approvalKeys_iff.mpr hnames))
  refine ⟨hmany henough, fun hall => ?_, fun hnames count hok => ?_⟩
  · -- the guard accepts as many approvals as there are texts
    have hmost := hall (uniqueSigners approvals).card (createPlanet_minApprovals h le_rfl)
    exact card_approvalKeys_iff.mp ((manyKeys_iff happroves).mp hmost)
  · exact hmany (createPlanet_ok hok).1 hnames

def licensedEngine : GovernanceEngine :=
  run (step toyCrates) .empty [.issueLicense "alice" "alice" "proof" 7 100,
    .lockBond "alice" 100 30 100]

/-- Two approvals by two agents. -/
theorem genesis_keys_two_agents : ManyKeys toyCrates (toyRequest 2)
    [⟨"did:key:zbob", "sig:bob"⟩, ⟨"carol", "sig:carol"⟩] 2 := by
  have hok : (licensedEngine.createPlanet toyCrates (toyRequest 2)
      [⟨"did:key:zbob", "sig:bob"⟩, ⟨"carol", "sig:carol"⟩] 100 100).1
        = .ok (genesis (toyRequest 2) {"did:key:zbob", "carol"}) := by
    decide +kernel
  refine (genesis_keys_iff toyCrates licensedEngine (toyRequest 2) _ 100 100 _ hok).1 ?_
  unfold NamedOnce
  decide +kernel

/-- Two approvals by one key, once as a `did:key` and once as base64: the planet is created,
with one key for two approvals. -/
theorem one_key_twice : (licensedEngine.createPlanet toyCrates (toyRequest 2)
        [⟨"did:key:zbob", "sig:bob"⟩, ⟨"bob", "sig:bob"⟩] 100 100).1
          = .ok (genesis (toyRequest 2) {"did:key:zbob", "bob"})
      ∧ signerKey toyCrates ⟨"did:key:zbob", "sig:bob"⟩
          = signerKey toyCrates ⟨"bob", "sig:bob"⟩ := by
  decide +kernel

end WattGenesis
