import Wattetheria.EscrowPayoutProofs

/-!
# No stranded Watt

As long as an escrow is locked, or its lock is on its way, the board holds its id on a
mission that is not settled, in every interleaving of the handlers, the sweep, crashes
and the ledger (`escrow_tracked`).

A handler that the ledger answers "no such escrow" forgets the escrow once it is stale,
on the ground that the lock can no longer land: `forgetsLapsed` says that this ground
holds.  Without it the Watt is stranded (`forgotten_escrow_locked`).
-/

namespace WattCustody

open WattText WattJson WattThreads WattRuns WattAsync WattMission WattEscrow WattMissions
open WattPayout WattPayoutSpec WattBounty

/-! ## The condition on forgetting -/

variable (id : String)

/-- The next step sends the lock of the escrow. -/
def sendsLock (t : Place) : Prop :=
  ∃ payer amount, t.spot = .sendRequest id (.lock payer amount)

variable (pool : NodePool)

/-- An escrow that the ledger does not know is forgotten only when its lock can no longer
land: it is not on its way, did not land in the meantime, and no other handler is about
to send it. -/
def forgetsLapsed : NodeEvent → Prop
  | .exec i _ => ∀ t ∈ standsAt pool i, t.spot = .clearMissionEscrow .missing id →
      ¬ Owed pool.shared id ∧ ∀ j t', j ≠ i → standsAt pool j = some t' → ¬ sendsLock id t'
  | .spawn .. | .stop .. | .env .. => True

/-- The escrow is not forgotten as missing. -/
def forgetsNone : NodeEvent → Prop
  | .exec i _ => ∀ t ∈ standsAt pool i, t.spot ≠ .clearMissionEscrow .missing id
  | .spawn .. | .stop .. | .env .. => True

instance (id : String) (pool : NodePool) : (ev : NodeEvent) → Decidable (forgetsNone id pool ev)
  | .exec i _ => inferInstanceAs (Decidable (∀ t ∈ standsAt pool i,
      t.spot ≠ .clearMissionEscrow .missing id))
  | .spawn .. | .stop .. | .env .. => inferInstanceAs (Decidable True)

variable (ev : NodeEvent)

lemma forgetsLapsed_of_none (h : forgetsNone id pool ev) : forgetsLapsed id pool ev := by
  cases ev with
  | exec i e => exact fun t ht hspot => absurd hspot (h t ht)
  | spawn | stop | env => exact trivial

lemma admits_kept (h : (freshUuid pool ev ∧ settlesPaid id pool ev) ∧ forgetsLapsed id pool ev) :
    (discipline (· = id) (fun _ => False) (· = id)).Admits pool ev := by
  cases ev with
  | exec i e =>
    intro t ht
    refine ⟨⟨h.1.1 t ht, ?_, fun _ ha => ha.elim, ?_⟩, fun j t' hj ht' => ⟨fun _ ha => ha.elim, ?_⟩⟩
    · rintro _ rfl hspot mission hm
      exact h.1.2 t ht hspot mission hm
    · rintro _ rfl hspot
      exact (h.2 t ht hspot).1
    · rintro _ rfl hspot
      exact (h.2 t ht hspot).2 j t' hj ht'
  | spawn | stop | env => exact trivial

/-! ## The result -/

/-- **NO STRANDED WATT**: in every interleaving, cut anywhere, in which publications draw
new uuids, no settlement of the mission that found nothing to pay goes through, and its
escrow is forgotten as missing only when its lock can no longer land, the board holds
the escrow on a mission that is not settled, as long as the ledger holds it locked or
a lock request is unanswered. -/
theorem escrow_tracked (cfg : Config) (events : List NodeEvent) (id : String)
    (hfresh : AllSteps (node cfg).step freshUuid (Pool.idle .empty) events)
    (hpaid : AllSteps (node cfg).step (settlesPaid id) (Pool.idle .empty) events)
    (hlapsed : AllSteps (node cfg).step (forgetsLapsed id) (Pool.idle .empty) events) :
    Always (node cfg).step (fun pool =>
        ((∃ payer amount, pool.shared.ledger id = .locked payer amount) ∨ ∃ c ∈ pool.shared.calls,
              c.escrowId = id ∧ c.request.isLock = true ∧ c.reply = none) →
        ∃ mission, pool.shared.board.get id = some mission
          ∧ mission.escrowId = some id ∧ mission.status ≠ .settled) (Pool.idle .empty) events := by
  intro pre post hops howed
  have hadmits := ((hfresh.and hpaid).and hlapsed).mono (admits_kept id)
  obtain ⟨-, -, -, hkept⟩ := inv_always cfg _ _ _ hadmits pre post hops
  exact hkept id rfl rfl howed

/-- In the run that pays, the escrow is locked when the publication returns, and the board
holds it. -/
theorem escrow_tracked_paidRun :
    ∃ payer amount, (run (node toyConfig).step (Pool.idle .empty) (paidRun.take 7)).shared.ledger
        "m-1" = .locked payer amount
      ∧ ∃ mission, (run (node toyConfig).step (Pool.idle .empty)
          (paidRun.take 7)).shared.board.get "m-1" = some mission
        ∧ mission.escrowId = some "m-1" ∧ mission.status ≠ .settled := by
  have hlocked : (run (node toyConfig).step (Pool.idle .empty) (paidRun.take 7)).shared.ledger
      "m-1" = .locked "did:alice" 50 := by
    decide +kernel
  have hnone : AllSteps (node toyConfig).step (forgetsNone "m-1") (Pool.idle .empty) paidRun := by
    decide +kernel
  exact ⟨_, _, hlocked, escrow_tracked toyConfig paidRun "m-1" (by decide +kernel)
    (by decide +kernel) (hnone.mono (forgetsLapsed_of_none "m-1")) (paidRun.take 7)
    (paidRun.drop 7) (List.take_append_drop 7 paidRun).symm (.inl ⟨_, _, hlocked⟩)⟩

/-- A lock whose outcome is uncertain; the node stops, an hour later a cancellation learns
that the ledger has no such escrow and forgets it, and then the lock lands. -/
def lateLock : List NodeEvent :=
  [.spawn 0 (.publish toySpec none), .exec 0 (tick 100), .exec 0 (tick 101), .exec 0 (tick 102),
    .exec 0 (timeout 130), .exec 0 (timeout 140), .exec 0 (tick 141), .stop 0,
    .spawn 1 (.cancel "m-1"), .exec 1 (tick 5000), .exec 1 (tick 5001), .exec 1 (tick 5002),
    .env (1, none), .exec 1 (tick 5003), .exec 1 (tick 5004), .exec 1 (tick 5005), .env (0, none)]

/-- A mission that is settled before its publication locks the bounty. -/
def lateIntent : List NodeEvent :=
  earlySettlement ++ [.exec 0 (tick 104), .exec 0 (tick 105), .env (0, none)]

/-- The first leaves the Watt locked and forgotten, the second locked on a settled
mission. -/
theorem forgotten_escrow_locked :
    AllSteps (node toyConfig).step freshUuid (Pool.idle .empty) lateLock
    ∧ (run (node toyConfig).step (Pool.idle .empty) lateLock).shared.ledger "m-1"
        = .locked "did:alice" 50
    ∧ ((run (node toyConfig).step (Pool.idle .empty) lateLock).shared.board.get "m-1").map
        (fun mission => (mission.status, mission.escrowId)) = some (.cancelled, none)
    ∧ AllSteps (node toyConfig).step freshUuid (Pool.idle .empty) lateIntent
    ∧ (run (node toyConfig).step (Pool.idle .empty) lateIntent).shared.ledger "m-1"
        = .locked "did:alice" 50
    ∧ ((run (node toyConfig).step (Pool.idle .empty) lateIntent).shared.board.get "m-1").map
        (fun mission => (mission.status, mission.escrowId)) = some (.settled, some "m-1") := by
  decide +kernel

end WattCustody
