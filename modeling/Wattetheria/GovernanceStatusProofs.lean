import Wattetheria.GovernanceStepProofs

/-!
# Recall and custody

A planet is in recall while a recall process is recorded and in custody while a custody
period is; entering custody ends a recall and a takeover ends both.  Opening a recall
does not end a custody, so the status and the two records agree in every state of a run
exactly when no recall is opened on a planet in custody
(`status_agrees_iff`, `recall_in_custody`).
-/

namespace WattPlanetStatus

open WattRuns WattKeyed WattGovernance GovernanceEngine

/-- The status of a planet says which of the two records it has. -/
structure Agrees (planet : SubnetPlanet) : Prop where
  inRecall : planet.governmentStatus = .recall ↔ planet.activeRecall.isSome = true
  inCustody : planet.governmentStatus = .custody ↔ planet.custody.isSome = true
  notBoth : ¬ (planet.activeRecall.isSome = true ∧ planet.custody.isSome = true)

variable (engine : GovernanceEngine)

/-- Every planet of the engine agrees. -/
def AllAgree : Prop :=
  ∀ (id : String) (planet : SubnetPlanet), engine.planets[id]? = some planet → Agrees planet

/-- The step opens no recall on a planet in custody: there is no such planet, or the recall
is refused. -/
def recallsOutsideCustody : GovernanceOp → Prop
  | .startRecall subnetId initiatedBy _ threshold _ =>
    ∀ planet, engine.planets[subnetId]? = some planet → planet.governmentStatus = .custody →
      threshold < planet.stability ∨ initiatedBy ≠ planet.creator ∧ initiatedBy ∉ planet.validators
  | _ => True

lemma agrees_genesis (request : PlanetCreationRequest) (signers : Finset String) :
    Agrees (genesis request signers) := by
  refine ⟨?_, ?_, ?_⟩ <;> simp [genesis]

lemma agrees_rewrites {op : GovernanceOp} {id : String} {planet planet' : SubnetPlanet}
    (h : Rewrites op id planet planet') (hagrees : Agrees planet)
    (hrecall : ∀ initiatedBy reason threshold now,
      op = .startRecall id initiatedBy reason threshold now → ¬ threshold < planet.stability →
      ¬ (initiatedBy ≠ planet.creator ∧ initiatedBy ∉ planet.validators) →
      planet.governmentStatus ≠ .custody) : Agrees planet' := by
  obtain ⟨hr, hc, ha⟩ := hagrees
  cases h with
  | tax | rotate | fund | spend | adjust => exact ⟨hr, hc, ha⟩
  | startRecall hstability hallowed =>
    have hcustody : planet.custody.isSome = false := by
      rw [Bool.eq_false_iff, ne_eq, ← hc]
      exact hrecall _ _ _ _ rfl hstability hallowed
    refine ⟨?_, ?_, ?_⟩ <;> simp [hcustody]
  | resolveRecall hstatus =>
    have hcustody : planet.custody.isSome = false := by
      rw [Bool.eq_false_iff, ne_eq, ← hc, hstatus]
      exact GovernmentStatus.noConfusion
    refine ⟨?_, ?_, ?_⟩ <;> simp [seat, hcustody]
  | enterCustody =>
    refine ⟨?_, ?_, ?_⟩ <;> simp
  | @releaseCustody _ successor _ _ _ _ hstatus =>
    have hrecall' : planet.activeRecall.isSome = false := by
      rw [Bool.eq_false_iff, ne_eq, ← hr, hstatus]
      exact GovernmentStatus.noConfusion
    cases successor with
    | none => refine ⟨?_, ?_, ?_⟩ <;> simp [hrecall']
    | some agentDid => refine ⟨?_, ?_, ?_⟩ <;> simp [seat, hrecall']
  | hostileTakeover =>
    refine ⟨?_, ?_, ?_⟩ <;> simp

lemma planets_startRecall {engine : GovernanceEngine} {subnetId initiatedBy : String}
    {threshold : Int64} {planet : SubnetPlanet} (hplanet : engine.planets[subnetId]? = some planet)
    (hstability : ¬ threshold < planet.stability)
    (hallowed : ¬ (initiatedBy ≠ planet.creator ∧ initiatedBy ∉ planet.validators))
    (reason : String) (now : Int64) :
    (engine.startRecall subnetId initiatedBy reason threshold now).2.planets[subnetId]?
      = some { planet with
          governmentStatus := .recall
          activeRecall := some ⟨initiatedBy, reason, now, threshold⟩ } := by
  simp only [startRecall, withPlanet, hplanet, if_neg hstability, if_neg hallowed]
  rw [planets_putPlanet, if_pos rfl]

variable (crates : Crates)

/-- One step keeps every status right exactly when it opens no recall in custody. -/
lemma allAgree_step (engine : GovernanceEngine) (op : GovernanceOp) (h : AllAgree engine) :
    AllAgree (step crates engine op) ↔ recallsOutsideCustody engine op := by
  constructor
  · intro hnext
    cases op with
    | startRecall subnetId initiatedBy reason threshold now =>
      intro planet hplanet hstatus
      by_contra hpasses
      obtain ⟨hstability, hallowed⟩ := not_or.mp hpasses
      have hagrees := hnext subnetId _ (planets_startRecall hplanet hstability hallowed reason now)
      -- the recall is opened beside the custody period
      have hcustody := (h subnetId planet hplanet).inCustody.mp hstatus
      exact hagrees.notBoth ⟨rfl, hcustody⟩
    | _ => exact trivial
  · intro hok id planet' hplanet'
    cases planet_step crates engine op id with
    | same hsame => exact h id planet' (hsame ▸ hplanet')
    | create request approvals licensedAt bondedAt hop hid hfresh hnew =>
      obtain rfl := Option.mem_unique hnew hplanet'
      exact agrees_genesis _ _
    | rewrite planet planet'' hold hnew hrewrites =>
      obtain rfl := Option.mem_unique hnew hplanet'
      refine agrees_rewrites hrewrites (h id planet hold) ?_
      rintro initiatedBy reason threshold now rfl hstability hallowed hstatus
      exact (hok planet hold hstatus).elim hstability hallowed

/-- **STATUS AND RECORDS**: for every run, in every state reached, every planet is in recall
exactly when it has a recall process and in custody exactly when it has a custody
period, and never has both, if and only if no step of the run opens a recall on a planet
in custody. -/
theorem status_agrees_iff (ops : List GovernanceOp) : Always (step crates)
        (fun engine => ∀ (id : String) (planet : SubnetPlanet), engine.planets[id]? = some planet →
          (planet.governmentStatus = .recall ↔ planet.activeRecall.isSome = true)
          ∧ (planet.governmentStatus = .custody ↔ planet.custody.isSome = true)
          ∧ ¬ (planet.activeRecall.isSome = true ∧ planet.custody.isSome = true)) .empty ops
      ↔ AllSteps (step crates) recallsOutsideCustody .empty ops := by
  have hempty : AllAgree .empty := by
    intro id planet hplanet
    cases hplanet
  rw [← always_iff_allSteps (P := AllAgree) (W := fun _ _ => True)
    (fun engine op h _ => allAgree_step crates engine op h) hempty (allSteps_true _ _)]
  constructor
  · intro h pre post hops id planet hplanet
    obtain ⟨hr, hc, ha⟩ := h pre post hops id planet hplanet
    exact ⟨hr, hc, ha⟩
  · intro h pre post hops id planet hplanet
    have hagrees := h pre post hops id planet hplanet
    exact ⟨hagrees.inRecall, hagrees.inCustody, hagrees.notBoth⟩

/-- A planet in custody on which its creator opens a recall. -/
def recallInCustody : List GovernanceOp :=
  toyGenesis [] ++ [.enterCustody "p-1" "administration" none 101,
    .startRecall "p-1" "alice" "collapse" 25 102]

/-- It is in recall and still has its custody period. -/
theorem recall_in_custody : ((run (step toyCrates) .empty recallInCustody).planets["p-1"]?).map
      (fun planet => (planet.governmentStatus, planet.activeRecall.isSome, planet.custody.isSome))
        = some (.recall, true, true) := by
  decide +kernel

end WattPlanetStatus
