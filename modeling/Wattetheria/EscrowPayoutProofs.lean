import Wattetheria.EscrowHandlerProofs

/-!
# Bounties of settled missions, refunds and releases

Two results about every interleaving of the mission handlers with each other, with
relayed notices, with the sweep and with the ledger, cut anywhere: a settled mission with
a bounty has been paid out (`settled_bounty_paid`), and a refund or a release is asked for
in the status it belongs to and never both (`requests_fair`).  Each needs a condition on
the schedule: a mission can be completed before its escrow is recorded
(`settled_without_release`), or leave completed while it is paid out
(`refund_and_release_asked`).
-/

namespace WattBounty

open WattText WattJson WattThreads WattRuns WattAsync WattMission WattEscrow WattMissions Pool
open WattPayout WattPayoutSpec

/-! ## Conditions on a run -/

variable (pool : NodePool)

/-- Where a handler stands. -/
def standsAt (i : Nat) : Option Place :=
  (pool.threads i).bind Async.tag?

/-- A publication draws a uuid that is new to the board. -/
def freshUuid : NodeEvent → Prop
  | .exec i e => ∀ t ∈ standsAt pool i, t.spot = .publishMissionOnBoard →
      pool.shared.board.get e.uuid = none
  | .spawn .. | .stop .. | .env .. => True

variable (id : String) (pool : NodePool)

/-- No settlement of the mission that found nothing to pay goes through while the
mission has a bounty. -/
def settlesPaid : NodeEvent → Prop
  | .exec i _ => ∀ t ∈ standsAt pool i, t.spot = .settleMissionBoard id none →
      ∀ mission ∈ pool.shared.board.get id, mission.status = .completed → bounty mission ≤ 0
  | .spawn .. | .stop .. | .env .. => True

/-- The publication of the mission does not find it completed when it withdraws it after
an uncertain lock. -/
def withdrawsInTime : NodeEvent → Prop
  | .exec i _ => ∀ t ∈ standsAt pool i, t.spot = .cancelOnBoard .uncertain id →
      ∀ mission ∈ pool.shared.board.get id, mission.status ≠ .completed ∧ mission.status ≠ .settled
  | .spawn .. | .stop .. | .env .. => True

/-- The mission does not leave completed while another handler has seen it completed and
not yet asked for its payout. -/
def undisturbed : NodeEvent → Prop
  | .exec i _ => ∀ t ∈ standsAt pool i, leaves t.spot pool.shared id →
      ∀ j t', j ≠ i → standsAt pool j = some t' → t'.settling ≠ some id
  | .spawn .. | .stop .. | .env .. => True

/-! ## Concrete runs -/

instance (pool : NodePool) : (ev : NodeEvent) → Decidable (freshUuid pool ev)
  | .exec i e => inferInstanceAs (Decidable (∀ t ∈ standsAt pool i,
      t.spot = .publishMissionOnBoard → pool.shared.board.get e.uuid = none))
  | .spawn .. | .stop .. | .env .. => inferInstanceAs (Decidable True)

instance (id : String) (pool : NodePool) : (ev : NodeEvent) → Decidable (settlesPaid id pool ev)
  | .exec i _ => inferInstanceAs (Decidable (∀ t ∈ standsAt pool i,
      t.spot = .settleMissionBoard id none → ∀ mission ∈ pool.shared.board.get id,
        mission.status = .completed → bounty mission ≤ 0))
  | .spawn .. | .stop .. | .env .. => inferInstanceAs (Decidable True)

instance (id : String) (pool : NodePool) : (ev : NodeEvent) → Decidable (withdrawsInTime id pool ev)
  | .exec i _ => inferInstanceAs (Decidable (∀ t ∈ standsAt pool i,
      t.spot = .cancelOnBoard .uncertain id → ∀ mission ∈ pool.shared.board.get id,
        mission.status ≠ .completed ∧ mission.status ≠ .settled))
  | .spawn .. | .stop .. | .env .. => inferInstanceAs (Decidable True)

def toyConfig : Config := ⟨"did:alice", true⟩

def toyAgent : Did := ⟨"did:bob", by decide⟩

def tick (now : Int) : Outcome := ⟨"m-1", now, now, none⟩

def timeout (now : Int) : Outcome := ⟨"m-1", now, now, some "operation timed out"⟩

/-! ## The invariant of all interleavings -/

variable (paid apart kept : String → Prop)

lemma inv_empty : (discipline paid apart kept).inv .empty := by
  refine ⟨⟨?_, ?_, ?_, ?_, ?_, ?_, ?_, ?_, ?_, ?_⟩, ?_, ?_, ?_⟩
  · exact fun _ _ h => nomatch h
  · exact fun _ _ h => nomatch h
  · exact fun _ h => nomatch h
  · exact fun _ h => nomatch h
  · exact fun _ h => nomatch h
  · exact fun _ _ h => nomatch h
  · exact fun _ h => absurd rfl h
  · exact fun _ _ _ _ h => nomatch h
  · exact fun _ h => nomatch h
  · exact fun _ _ h => nomatch h
  · exact fun _ _ _ h => nomatch h
  · exact fun _ h => nomatch h
  · rintro id _ _ (⟨_, _, h⟩ | ⟨_, h, _⟩)
    · cases h
    · cases h

variable (cfg : Config)

/-- **ALL INTERLEAVINGS**: admitted events keep the invariant of the discipline. -/
lemma inv_always (paid apart kept : String → Prop) {events : List NodeEvent}
    (h : AllSteps (node cfg).step (discipline paid apart kept).Admits (idle .empty) events) :
    Always (node cfg).step (fun pool => (discipline paid apart kept).inv pool.shared)
      (idle .empty) events := by
  intro pre post hops
  have hpool := always_of_inv
    ((discipline paid apart kept).poolInv_step (fun i q s _ => safe_request cfg q s)
      fun service s hs => serve_ok service hs)
    (poolInv_idle (inv_empty paid apart kept)) h pre post hops
  exact hpool.1

lemma admits_fresh (pool : NodePool) (ev : NodeEvent) (h : freshUuid pool ev) :
    (discipline (fun _ => False) (fun _ => False) fun _ => False).Admits pool ev := by
  cases ev with
  | exec i e =>
    exact fun t ht => ⟨⟨h t ht, fun _ hp => hp.elim, fun _ ha => ha.elim, fun _ hk => hk.elim⟩,
      fun _ _ _ _ => ⟨fun _ ha => ha.elim, fun _ hk => hk.elim⟩⟩
  | spawn | stop | env => exact trivial

/-- **SOUND REQUESTS**: every interleaving, cut anywhere, in which publications draw new uuids
asks the ledger at most once to lock an escrow, only for a mission with a bounty, and for releases
to the executor only, whatever the ledger answers. -/
theorem requests_sound {events : List NodeEvent}
    (hfresh : AllSteps (node cfg).step freshUuid (idle .empty) events) :
    Always (node cfg).step (fun pool => Sound pool.shared) (idle .empty) events :=
  fun pre post hops => (inv_always cfg _ _ _ (hfresh.mono admits_fresh) pre post hops).1

/-! ## Settled missions are paid out -/

lemma admits_paid (pool : NodePool) (ev : NodeEvent)
    (h : freshUuid pool ev ∧ settlesPaid id pool ev) :
    (discipline (· = id) (fun _ => False) fun _ => False).Admits pool ev := by
  cases ev with
  | exec i e =>
    intro t ht
    refine ⟨⟨h.1 t ht, ?_, fun _ ha => ha.elim, fun _ hk => hk.elim⟩,
      fun _ _ _ _ => ⟨fun _ ha => ha.elim, fun _ hk => hk.elim⟩⟩
    rintro _ rfl hspot mission hm
    exact h.2 t ht hspot mission hm
  | spawn | stop | env => exact trivial

variable (events : List NodeEvent)

/-- **SETTLED MEANS PAID**: in every interleaving, cut anywhere, in which publications
draw new uuids and no settlement of the mission that found nothing to pay goes
through, the escrow of the mission, if it has a bounty and is settled, is released to
its executor, or refunded when the executor on record is blank. -/
theorem settled_bounty_paid (id : String)
    (hfresh : AllSteps (node cfg).step freshUuid (idle .empty) events)
    (hpaid : AllSteps (node cfg).step (settlesPaid id) (idle .empty) events) :
    Always (node cfg).step (fun pool => ∀ mission, pool.shared.board.get id = some mission →
        mission.status = .settled → 0 < bounty mission → ∃ agent, mission.completedBy = some agent
          ∧ pool.shared.ledger id = if isEmpty (trim agent) then .refunded else .released agent)
      (idle .empty) events := by
  intro pre post hops
  have hadmits := (hfresh.and hpaid).mono (admits_paid id)
  exact (inv_always cfg _ _ _ hadmits pre post hops).2.1 id rfl

/-- A mission published, executed by another node's agent and settled, one request
after the other. -/
def paidRun : List NodeEvent :=
  [.spawn 0 (.publish toySpec none), .exec 0 (tick 100), .exec 0 (tick 101), .exec 0 (tick 102),
    .env (0, none), .exec 0 (tick 103), .exec 0 (tick 104),
    .spawn 0 (.sync "m-1" .missionCompleted toyAgent none none), .exec 0 (tick 105),
    .spawn 0 (.settle "m-1" none), .exec 0 (tick 106), .exec 0 (tick 107), .exec 0 (tick 108),
    .env (1, none), .exec 0 (tick 109), .exec 0 (tick 110)]

/-- The settlement of that run pays the agent. -/
theorem settled_bounty_paid_paidRun :
    ∃ mission, (run (node toyConfig).step (idle .empty) paidRun).shared.board.get "m-1"
        = some mission ∧ mission.status = .settled ∧ 0 < bounty mission
      ∧ ∃ agent, mission.completedBy = some agent
        ∧ (run (node toyConfig).step (idle .empty) paidRun).shared.ledger "m-1"
          = if isEmpty (trim agent) then .refunded else .released agent := by
  obtain ⟨mission, hget, hstatus, hbounty⟩ : ∃ mission,
      (run (node toyConfig).step (idle .empty) paidRun).shared.board.get "m-1" = some mission
        ∧ mission.status = .settled ∧ 0 < bounty mission :=
    ⟨_, rfl, by decide +kernel, by decide +kernel⟩
  exact ⟨mission, hget, hstatus, hbounty,
    settled_bounty_paid toyConfig paidRun "m-1" (by decide +kernel) (by decide +kernel) paidRun []
      (List.append_nil _).symm mission hget hstatus hbounty⟩

theorem requests_sound_paidRun :
    ∃ c ∈ (run (node toyConfig).step (idle .empty) paidRun).shared.calls,
      c.escrowId = "m-1" ∧ c.request.isLock = true ∧ c.reply = some (.ok ()) :=
  (requests_sound toyConfig (by decide +kernel) paidRun [] (List.append_nil _).symm).landed "m-1"
    (by decide +kernel)

/-- A mission that is completed before its escrow is recorded, and settled. -/
def earlySettlement : List NodeEvent :=
  [.spawn 0 (.publish toySpec none), .exec 0 (tick 100),
    .spawn 1 (.sync "m-1" .missionCompleted toyAgent none none), .exec 1 (tick 101),
    .spawn 2 (.settle "m-1" none), .exec 2 (tick 102), .exec 2 (tick 103)]

/-- A mission claimed and completed in the name of a blank agent, and settled. -/
def blankSettlement : List NodeEvent :=
  paidRun.take 7 ++
  [.spawn 0 (.transition "m-1" (.claim "" none)), .exec 0 (tick 105), .exec 0 (tick 106),
    .spawn 0 (.transition "m-1" (.complete "" none)), .exec 0 (tick 107), .exec 0 (tick 108)] ++
  paidRun.drop 9

/-- The first is settled with a bounty of 50 Watt that nobody ever locked, the second by a
refund. -/
theorem settled_without_release :
    AllSteps (node toyConfig).step freshUuid (idle .empty) earlySettlement
    ∧ ((run (node toyConfig).step (idle .empty) earlySettlement).shared.board.get "m-1").map
        (fun mission => (mission.status, bounty mission, mission.completedBy))
          = some (.settled, 50, some "did:bob")
    ∧ (run (node toyConfig).step (idle .empty) earlySettlement).shared.ledger "m-1" = .absent
    ∧ AllSteps (node toyConfig).step freshUuid (idle .empty) blankSettlement
    ∧ ((run (node toyConfig).step (idle .empty) blankSettlement).shared.board.get "m-1").map
        (fun mission => (mission.status, bounty mission, mission.completedBy))
          = some (.settled, 50, some "")
    ∧ (run (node toyConfig).step (idle .empty) blankSettlement).shared.ledger "m-1"
        = .refunded := by
  decide +kernel

/-! ## Refunds and releases -/

lemma admits_apart (pool : NodePool) (ev : NodeEvent)
    (h : (freshUuid pool ev ∧ withdrawsInTime id pool ev) ∧ undisturbed id pool ev) :
    (discipline (fun _ => False) (· = id) fun _ => False).Admits pool ev := by
  cases ev with
  | exec i e =>
    intro t ht
    refine ⟨⟨h.1.1 t ht, fun _ hp => hp.elim, ?_, fun _ hk => hk.elim⟩,
      fun j t' hj ht' => ⟨?_, fun _ hk => hk.elim⟩⟩
    · rintro _ rfl hspot mission hm
      exact h.1.2 t ht hspot mission hm
    · rintro _ rfl hid hleaves
      exact h.2 t ht hleaves j t' hj ht' hid
  | spawn | stop | env => exact trivial

lemma payee_none_of_blank {mission : CivilMission} (h : Blank mission) :
    payee mission none = none := by
  obtain ⟨agent, hagent, hblank⟩ := h
  simp [payee, hagent, Option.filter, hblank]

lemma not_both_of_fair {apart : String → Prop} {s : Shared} (hfair : Fair apart s) {c c' : Call}
    (hc : c ∈ s.calls) (hc' : c' ∈ s.calls) (hid : c'.escrowId = c.escrowId)
    (hapart : apart c.escrowId) (hrefund : c.request = .refund) (agent : String) :
    c'.request ≠ .release agent := by
  intro hrelease
  obtain ⟨mission, hm, hasked⟩ := hfair c hc hapart
  obtain ⟨mission', hm', hasked'⟩ := hfair c' hc' (hid ▸ hapart)
  rw [hid] at hm'
  obtain rfl := Option.mem_unique hm hm'
  rw [Asked, hrefund] at hasked
  rw [Asked, hrelease] at hasked'
  obtain ⟨-, hnonblank, hagent, hstatus, -⟩ := hasked'
  rcases hasked.2 with hcancelled | ⟨agent', hagent', hblank⟩
  · -- firm is not cancelled
    rw [hcancelled] at hstatus
    rcases hstatus with h | h <;> cases h
  · obtain rfl := Option.mem_unique hagent hagent'
    exact absurd hblank (by rw [hnonblank]; decide)

/-- **REFUNDS AND RELEASES**: in every interleaving, cut anywhere, in which publications
draw new uuids, the publication of the mission does not withdraw it completed after an
uncertain lock, and the mission does not leave completed while another handler is
about to pay it out, every refund of its escrow is asked for while the mission is
cancelled, or completed without an executor, every release while it is completed, and
not both. -/
theorem requests_fair (id : String)
    (hfresh : AllSteps (node cfg).step freshUuid (idle .empty) events)
    (hwithdraws : AllSteps (node cfg).step (withdrawsInTime id) (idle .empty) events)
    (hundisturbed : AllSteps (node cfg).step (undisturbed id) (idle .empty) events) :
    Always (node cfg).step (fun pool => ∀ c ∈ pool.shared.calls, c.escrowId = id →
        (c.request = .refund → (∃ mission, c.mission = some mission ∧ mission.missionId = id
            ∧ (mission.status = .cancelled
              ∨ mission.status = .completed ∧ payee mission none = none))
          ∧ ∀ c' ∈ pool.shared.calls, c'.escrowId = id → ∀ agent, c'.request ≠ .release agent)
        ∧ (∀ agent, c.request = .release agent →
          ∃ mission, c.mission = some mission ∧ mission.missionId = id
            ∧ mission.status = .completed)) (idle .empty) events := by
  intro pre post hops c hc hid
  have hadmits := ((hfresh.and hwithdraws).and hundisturbed).mono (admits_apart id)
  obtain ⟨hsound, -, hfair, -⟩ := inv_always cfg _ _ _ hadmits pre post hops
  obtain ⟨mission, -, hasked⟩ := hfair c hc hid
  subst hid
  refine ⟨fun hrefund => ⟨?_, ?_⟩, fun agent hrelease => ?_⟩
  · rw [Asked, hrefund] at hasked
    obtain ⟨then_, hthen, hstatus⟩ := hasked.1
    refine ⟨then_, hthen, hsound.about c hc then_ hthen, hstatus.imp id fun h => ?_⟩
    exact ⟨h.1, payee_none_of_blank h.2⟩
  · intro c' hc' hid
    exact not_both_of_fair hfair hc hc' hid rfl hrefund
  · rw [Asked, hrelease] at hasked
    obtain ⟨then_, hthen, hstatus⟩ := hasked.1
    exact ⟨then_, hthen, hsound.about c hc then_ hthen, hstatus⟩

/-- A run that uses one handler number works through its requests one at a time. -/
lemma undisturbed_of_lone {cfg : Config} {events : List NodeEvent}
    (h : ∀ ev ∈ events, ∀ i ∈ ev.handler, i = 0) :
    AllSteps (node cfg).step (undisturbed id) (idle .empty) events := by
  refine allSteps_of_inv (P := fun pool : NodePool => ∀ j, j ≠ 0 → pool.threads j = none)
    ?_ ?_ (fun _ _ => rfl) (allSteps_of_forall h _)
  · intro pool ev hpool hev j hj
    rw [step_threads_of_ne _ _ fun hhandler => hj (hev j hhandler)]
    exact hpool j hj
  · intro pool ev hpool hev
    cases ev with
    | exec i e =>
      intro t _ _ j t' hj ht'
      have hi : i = 0 := hev i rfl
      rw [standsAt, hpool j (by rw [← hi]; exact hj)] at ht'
      cases ht'
    | spawn | stop | env => exact trivial

/-- The run that pays asks for one release and no refund. -/
theorem requests_fair_paidRun :
    ∃ c ∈ (run (node toyConfig).step (idle .empty) paidRun).shared.calls,
      c.escrowId = "m-1" ∧ c.request = .release "did:bob"
        ∧ ∃ mission, c.mission = some mission ∧ mission.missionId = "m-1"
          ∧ mission.status = .completed := by
  obtain ⟨c, hc, hid, hrequest⟩ :
      ∃ c ∈ (run (node toyConfig).step (idle .empty) paidRun).shared.calls,
        c.escrowId = "m-1" ∧ c.request = .release "did:bob" := by
    decide +kernel
  have hfair := requests_fair toyConfig paidRun "m-1" (by decide +kernel) (by decide +kernel)
    (undisturbed_of_lone "m-1" (by decide)) paidRun [] (List.append_nil _).symm
  exact ⟨c, hc, hid, hrequest, (hfair c hc hid).2 "did:bob" hrequest⟩

/-- A relayed completion while the outcome of the lock is uncertain: the publication
cannot withdraw the mission and asks for the refund all the same, while a settlement
asks for the release. -/
def uncertainLock : List NodeEvent :=
  [.spawn 0 (.publish toySpec none), .exec 0 (tick 100), .exec 0 (tick 101), .exec 0 (tick 102),
    .spawn 1 (.sync "m-1" .missionCompleted toyAgent none none), .exec 1 (tick 103),
    .exec 0 (timeout 130), .exec 0 (timeout 140), .exec 0 (tick 141), .env (0, none),
    .spawn 2 (.settle "m-1" none), .exec 2 (tick 142), .exec 2 (tick 143), .exec 2 (tick 144),
    .exec 2 (tick 145), .exec 2 (tick 146), .exec 0 (tick 147), .exec 0 (tick 148)]

/-- Two settlements of one mission, of which the second asks for its release when the
first has settled. -/
def doubleSettlement : List NodeEvent :=
  paidRun.take 9 ++
  [.spawn 1 (.settle "m-1" none), .exec 1 (tick 106), .exec 1 (tick 107)] ++
  paidRun.drop 9 ++ [.exec 1 (tick 111)]

/-- A refund of a completed mission with an executor beside a release of the same escrow,
and a release for a settled mission. -/
theorem refund_and_release_asked :
    AllSteps (node toyConfig).step freshUuid (idle .empty) uncertainLock
    ∧ (run (node toyConfig).step (idle .empty) uncertainLock).shared.calls.map
        (fun c => (c.escrowId, c.request, c.mission.map fun mission =>
          (mission.status, payee mission none)))
      = [("m-1", .lock "did:alice" 50, some (.open, none)),
          ("m-1", .release "did:bob", some (.completed, some "did:bob")),
          ("m-1", .refund, some (.completed, some "did:bob"))]
    ∧ AllSteps (node toyConfig).step freshUuid (idle .empty) doubleSettlement
    ∧ (run (node toyConfig).step (idle .empty) doubleSettlement).shared.calls.map
        (fun c => (c.request, c.mission.map fun mission => mission.status))
      = [(.lock "did:alice" 50, some .open), (.release "did:bob", some .completed),
          (.release "did:bob", some .settled)] := by
  decide +kernel

end WattBounty
