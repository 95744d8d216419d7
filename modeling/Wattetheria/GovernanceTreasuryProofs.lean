import Wattetheria.GovernanceStepProofs
import Wattetheria.WrappingInt

/-!
# Treasuries and stability

A treasury against exact books: what was funded minus what was spent, over the
integers.  A spending is checked against the balance, but a funding is added in 64 bits
without a check, so the books agree with the treasuries in every state of a run exactly
when every funding fits (`treasury_exact_iff`, `treasury_wraps`).  Stability stays
between 0 and 100 whatever is added to it, because it is clamped after the sum has
wrapped.
-/

namespace WattTreasury

open WattRuns WattKeyed WattInt64 WattGovernance GovernanceEngine

/-! ## The books -/

/-- The engine with exact books beside it. -/
structure Audit where
  engine : GovernanceEngine
  booked : String → Int

variable (engine : GovernanceEngine)

/-- What a successful operation adds to the books of a planet. -/
def entry : GovernanceOp → String → Int
  | .fundTreasury subnetId amount, id =>
    if id = subnetId ∧ (engine.fundTreasury subnetId amount).1.isOk then amount.toInt else 0
  | .spendTreasury subnetId amount, id =>
    if id = subnetId ∧ (engine.spendTreasury subnetId amount).1.isOk then -amount.toInt else 0
  | _, _ => 0

variable (crates : Crates) (a : Audit) (op : GovernanceOp)

/-- A step of the engine and of the books. -/
def audit : Audit where
  engine := step crates a.engine op
  booked id := a.booked id + entry a.engine op id

def Audit.start : Audit := ⟨.empty, fun _ => 0⟩

variable (ops : List GovernanceOp)

/-- The successful fundings of a planet minus its successful spendings, over a run. -/
def booked (id : String) : Int :=
  (run (audit crates) .start ops).booked id

/-! ## Stability -/

variable (stability : Int64)

/-- Between 0 and 100. -/
def Steady : Prop := 0 ≤ stability.toInt ∧ stability.toInt ≤ 100

instance (stability : Int64) : Decidable (Steady stability) := inferInstanceAs (Decidable (_ ∧ _))

lemma toInt_hundred : (100 : Int64).toInt = 100 := by decide

lemma steady_clamp : Steady (clampStability stability) := by
  unfold clampStability
  split
  · exact ⟨by decide, by decide⟩
  · next hlow =>
    split
    · exact ⟨by decide, by decide⟩
    · next hhigh =>
      rw [lt_iff, toInt_zero] at hlow
      rw [lt_iff, toInt_hundred] at hhigh
      exact ⟨by omega, by omega⟩

variable {stability : Int64}

lemma steady_raise (h : Steady stability) : Steady (min (stability + 2) 100) := by
  have htwo : (2 : Int64).toInt = 2 := by decide
  have hsum : (stability + 2).toInt = stability.toInt + 2 := by
    rw [← htwo, toInt_add_eq_iff, htwo, Fits]
    obtain ⟨hlow, hhigh⟩ := h
    omega
  obtain ⟨hlow, hhigh⟩ := h
  rw [Steady, toInt_min, hsum, toInt_hundred]
  omega

lemma steady_min (h : Steady stability) : Steady (min stability 25) := by
  have hbound : (25 : Int64).toInt = 25 := by decide
  obtain ⟨hlow, hhigh⟩ := h
  rw [Steady, toInt_min, hbound]
  omega

lemma steady_max (h : Steady stability) : Steady (max stability 50) := by
  have hbound : (50 : Int64).toInt = 50 := by decide
  obtain ⟨hlow, hhigh⟩ := h
  rw [Steady, toInt_max, hbound]
  omega

lemma steady_takeover : Steady 40 := by decide

/-! ## One step -/

/-- The treasury of a planet is what the books say and not negative, and its stability is
between 0 and 100. -/
structure Exact (booked : Int) (planet : SubnetPlanet) : Prop where
  nonneg : 0 ≤ planet.treasuryWatt.toInt
  exact : planet.treasuryWatt.toInt = booked
  steady : Steady planet.stability

lemma exact_genesis (request : PlanetCreationRequest) (signers : Finset String) :
    Exact 0 (genesis request signers) where
  nonneg := (by decide : (0 : Int) ≤ (0 : Int64).toInt)
  exact := toInt_zero
  steady := (by decide : Steady 75)

/-- Every planet is exact. -/
def AllExact : Prop :=
  ∀ (id : String) (planet : SubnetPlanet), a.engine.planets[id]? = some planet →
    Exact (a.booked id) planet

/-- Nothing is booked for a planet before it is created. -/
def Unbooked : Prop := ∀ id : String, a.engine.planets[id]? = none → a.booked id = 0

/-- A funding that goes through fits in 64 bits. -/
def fundingFits : GovernanceOp → Prop
  | .fundTreasury subnetId amount => ∀ planet, engine.planets[subnetId]? = some planet →
      0 < amount.toInt → planet.treasuryWatt.toInt + amount.toInt < 2 ^ 63
  | _ => True

lemma exact_rewrites {op : GovernanceOp} {id : String} {planet planet' : SubnetPlanet}
    {booked : Int} (h : Rewrites op id planet planet')
    (hfund : ∀ amount, op ≠ .fundTreasury id amount)
    (hspend : ∀ amount, op ≠ .spendTreasury id amount) (hexact : Exact booked planet) :
    Exact booked planet' := by
  obtain ⟨hnonneg, hexact, hsteady⟩ := hexact
  cases h with
  | tax | rotate | startRecall => exact ⟨hnonneg, hexact, hsteady⟩
  | fund => exact absurd rfl (hfund _)
  | spend => exact absurd rfl (hspend _)
  | adjust => exact ⟨hnonneg, hexact, steady_clamp _⟩
  | resolveRecall => exact ⟨hnonneg, hexact, steady_clamp _⟩
  | enterCustody => exact ⟨hnonneg, hexact, steady_min hsteady⟩
  | @releaseCustody _ successor =>
    cases successor with
    | none => exact ⟨hnonneg, hexact, steady_max hsteady⟩
    | some agentDid => exact ⟨hnonneg, hexact, steady_max hsteady⟩
  | hostileTakeover => exact ⟨hnonneg, hexact, steady_takeover⟩

variable {a : Audit} {a' : Audit}

lemma allExact_quiet {crates : Crates} {op : GovernanceOp}
    (hentry : ∀ id, entry a.engine op id = 0) (hfund : ∀ id amount, op ≠ .fundTreasury id amount)
    (hspend : ∀ id amount, op ≠ .spendTreasury id amount) (h : AllExact a)
    (hunbooked : Unbooked a) : AllExact (audit crates a op) := by
  intro id planet' hplanet'
  have hbooked : (audit crates a op).booked id = a.booked id := by
    show a.booked id + entry a.engine op id = a.booked id
    rw [hentry, add_zero]
  rw [hbooked]
  cases planet_step crates a.engine op id with
  | same hsame => exact h id planet' (hsame ▸ hplanet')
  | create request approvals licensedAt bondedAt hop hid hfresh hnew =>
    obtain rfl := Option.mem_unique hnew hplanet'
    -- a new planet starts with an empty treasury, and so do its books
    rw [hunbooked id hfresh]
    exact exact_genesis request _
  | rewrite planet planet'' hold hnew hrewrites =>
    obtain rfl := Option.mem_unique hnew hplanet'
    exact exact_rewrites hrewrites (hfund id) (hspend id) (h id planet hold)

lemma allExact_same (hengine : a'.engine = a.engine)
    (hbooked : ∀ id, a'.booked id = a.booked id) (h : AllExact a) : AllExact a' := by
  intro id planet hplanet
  rw [hbooked]
  exact h id planet (hengine ▸ hplanet)

variable {subnetId missing : String} {body : SubnetPlanet → Except String SubnetPlanet}

/-- A write to one planet that is booked keeps the books right exactly when it is exact. -/
lemma allExact_booked {d : Int} (h : AllExact a)
    (hengine : a'.engine = (a.engine.withPlanet subnetId missing body).2)
    (hbooked : ∀ id, a'.booked id = a.booked id + if id = subnetId
      ∧ (a.engine.withPlanet subnetId missing body).1.isOk then d else 0) :
    AllExact a' ↔ ∀ planet planet', a.engine.planets[subnetId]? = some planet →
      body planet = .ok planet' → Exact (a.booked subnetId + d) planet' := by
  rcases withPlanet_cases a.engine subnetId missing body with
    ⟨text, hfail, hnone⟩ | ⟨planet, planet', hplanet, hbody, hwrite⟩
  · rw [hfail] at hengine hbooked
    refine iff_of_true (allExact_same hengine (fun id => ?_) h) fun planet planet' hplanet hbody => ?_
    · simpa [Except.isOk, Except.toBool] using hbooked id
    · cases (hnone planet hplanet).symm.trans hbody
  · rw [hwrite] at hengine hbooked
    simp only [Except.isOk, Except.toBool, and_true] at hbooked
    have hhere := hbooked subnetId
    rw [if_pos rfl] at hhere
    constructor
    · intro hall planet₁ planet₂ hplanet₁ hbody₁
      obtain rfl := Option.mem_unique hplanet hplanet₁
      cases hbody.symm.trans hbody₁
      rw [← hhere]
      refine hall subnetId planet' ?_
      rw [hengine, planets_putPlanet, if_pos rfl]
    · intro hexact id planet₁ hplanet₁
      rw [hengine, planets_putPlanet] at hplanet₁
      rw [hbooked id]
      by_cases hid : id = subnetId
      · rw [if_pos hid] at hplanet₁ ⊢
        cases hplanet₁
        rw [hid]
        exact hexact planet planet' hplanet hbody
      · rw [if_neg hid] at hplanet₁ ⊢
        rw [add_zero]
        exact h id planet₁ hplanet₁

variable (subnetId) (amount : Int64)

lemma allExact_fund {crates : Crates} (h : AllExact a) :
    AllExact (audit crates a (.fundTreasury subnetId amount))
      ↔ fundingFits a.engine (.fundTreasury subnetId amount) := by
  by_cases hamount : amount ≤ 0
  · have hfail : a.engine.fundTreasury subnetId amount
        = (.error "treasury funding amount must be positive", a.engine) := if_pos hamount
    rw [le_iff, toInt_zero] at hamount
    refine iff_of_true (allExact_same (congrArg Prod.snd hfail) (fun id => ?_) h) ?_
    · simp [audit, entry, hfail, Except.isOk, Except.toBool]
    · exact fun _ _ hpos => absurd hpos (not_lt.mpr hamount)
  · have hcall : a.engine.fundTreasury subnetId amount = a.engine.withPlanet subnetId
        "subnet not found for treasury funding" _ := if_neg hamount
    rw [le_iff, toInt_zero] at hamount
    rw [allExact_booked h (congrArg Prod.snd hcall) (d := amount.toInt)
      fun id => by rw [← hcall]; rfl]
    constructor
    · intro hexact planet hplanet _
      have hsum := (hexact planet _ hplanet rfl).exact
      rw [← (h subnetId planet hplanet).exact] at hsum
      exact (toInt_add_eq_iff.mp hsum).2
    · rintro hfits planet _ hplanet ⟨⟩
      obtain ⟨hnonneg, hexact, hsteady⟩ := h subnetId planet hplanet
      have hsum : (planet.treasuryWatt + amount).toInt
          = planet.treasuryWatt.toInt + amount.toInt := by
        rw [toInt_add_eq_iff]
        exact ⟨by omega, hfits planet hplanet (not_le.mp hamount)⟩
      refine ⟨?_, hexact ▸ hsum, steady_raise hsteady⟩
      show 0 ≤ (planet.treasuryWatt + amount).toInt
      omega

lemma allExact_spend {crates : Crates} (h : AllExact a) :
    AllExact (audit crates a (.spendTreasury subnetId amount)) := by
  by_cases hamount : amount ≤ 0
  · have hfail : a.engine.spendTreasury subnetId amount
        = (.error "treasury spend amount must be positive", a.engine) := if_pos hamount
    refine allExact_same (congrArg Prod.snd hfail) (fun id => ?_) h
    simp [audit, entry, hfail, Except.isOk, Except.toBool]
  · have hcall : a.engine.spendTreasury subnetId amount = a.engine.withPlanet subnetId
        "subnet not found for treasury spend" _ := if_neg hamount
    rw [le_iff, toInt_zero] at hamount
    refine (allExact_booked h (congrArg Prod.snd hcall) (d := -amount.toInt)
      fun id => by rw [← hcall]; rfl).mpr fun planet planet' hplanet hbody => ?_
    obtain ⟨hfunds, ⟨⟩⟩ := guarded_ok hbody
    obtain ⟨hnonneg, hexact, hsteady⟩ := h subnetId planet hplanet
    rw [lt_iff] at hfunds
    have hrest : (planet.treasuryWatt - amount).toInt
        = planet.treasuryWatt.toInt - amount.toInt := by
      rw [toInt_sub_eq_iff]
      have hbound := planet.treasuryWatt.toInt_lt
      exact ⟨by omega, by omega⟩
    refine ⟨?_, hexact ▸ hrest, hsteady⟩
    show 0 ≤ (planet.treasuryWatt - amount).toInt
    omega

lemma allExact_step (a : Audit) (op : GovernanceOp) (h : AllExact a)
    (hunbooked : Unbooked a) : AllExact (audit crates a op) ↔ fundingFits a.engine op := by
  cases op with
  | fundTreasury subnetId amount => exact allExact_fund subnetId amount h
  | spendTreasury subnetId amount => exact iff_of_true (allExact_spend subnetId amount h) trivial
  | _ =>
    refine iff_of_true (allExact_quiet (fun _ => rfl) ?_ ?_ h hunbooked) trivial
    · exact fun _ _ hop => nomatch hop
    · exact fun _ _ hop => nomatch hop

/-- Without its planet a treasury operation fails. -/
lemma entry_of_none {id : String} (h : engine.planets[id]? = none) (op : GovernanceOp) :
    entry engine op id = 0 := by
  cases op with
  | fundTreasury | spendTreasury =>
    refine if_neg ?_
    rintro ⟨rfl, hok⟩
    simp only [fundTreasury, spendTreasury] at hok
    split at hok
    · cases hok
    · rw [withPlanet, h] at hok
      cases hok
  | _ => rfl

lemma unbooked_step (a : Audit) (op : GovernanceOp) (h : Unbooked a) :
    Unbooked (audit crates a op) := by
  intro id hnone
  have hold : a.engine.planets[id]? = none := by
    cases planet_step crates a.engine op id with
    | same hsame => exact hsame.symm.trans hnone
    | create request approvals licensedAt bondedAt hop hid hfresh hnew => exact hfresh
    | rewrite planet planet' hold hnew hrewrites => cases hnew.symm.trans hnone
  show a.booked id + entry a.engine op id = 0
  rw [h id hold, entry_of_none a.engine hold, add_zero]

/-! ## Whole runs -/

/-- **EXACT TREASURIES**: for every run with any 64-bit amounts, in every state reached,
every treasury is nonnegative and the exact sum of the successful fundings minus the
successful spendings of its planet, and every stability is between 0 and 100, if and
only if every funding that goes through fits in 64 bits. -/
theorem treasury_exact_iff :
    (∀ pre post, ops = pre ++ post → ∀ (id : String) (planet : SubnetPlanet),
        (run (step crates) .empty pre).planets[id]? = some planet →
          0 ≤ planet.treasuryWatt.toInt ∧ planet.treasuryWatt.toInt = booked crates pre id
          ∧ 0 ≤ planet.stability.toInt ∧ planet.stability.toInt ≤ 100)
      ↔ AllSteps (step crates) fundingFits .empty ops := by
  have hengine : ∀ a op, (audit crates a op).engine = step crates a.engine op := fun _ _ => rfl
  have hempty : AllExact .start := by
    intro id planet hplanet
    cases hplanet
  have hunbooked : AllSteps (audit crates) (fun a _ => Unbooked a) .start ops :=
    allSteps_of_inv (P := Unbooked) (fun a op h _ => unbooked_step crates a op h)
      (fun _ _ h _ => h) (fun _ _ => rfl) (allSteps_true _ _)
  have hexact : Always (audit crates) AllExact .start ops
      ↔ AllSteps (step crates) fundingFits .empty ops := by
    rw [always_iff_allSteps (fun a op h hun => allExact_step crates a op h hun) hempty hunbooked]
    exact allSteps_proj hengine .start ops
  rw [← hexact]
  constructor
  · intro h pre post hops id planet hplanet
    rw [run_proj hengine] at hplanet
    obtain ⟨hnonneg, hbooked, hsteady⟩ := h pre post hops id planet hplanet
    exact ⟨hnonneg, hbooked, hsteady⟩
  · intro h pre post hops id planet hplanet
    have hplanet' : (run (audit crates) .start pre).engine.planets[id]? = some planet := by
      rw [run_proj hengine]
      exact hplanet
    obtain ⟨hnonneg, hbooked, hsteady⟩ := h pre post hops id planet hplanet'
    exact ⟨hnonneg, hbooked, hsteady⟩

/-- A treasury that is funded up to the limit, and once more. -/
def wrappedFunding : List GovernanceOp :=
  toyGenesis [] ++ [.fundTreasury "p-1" Int64.maxValue, .fundTreasury "p-1" 1]

/-- It ends below zero, while the books say `2 ^ 63`. -/
theorem treasury_wraps : ((run (step toyCrates) .empty wrappedFunding).planets["p-1"]?).map
        (fun planet => planet.treasuryWatt.toInt) = some (-2 ^ 63)
      ∧ booked toyCrates wrappedFunding "p-1" = 2 ^ 63 := by
  decide +kernel

end WattTreasury
