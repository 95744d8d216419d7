import Wattetheria.SocialUnblockProofs

/-!
# What brings a removed friendship back

A removed friendship is the only one that can become active again, and stale data must
not do it.  On the calls about one pair there is one friendship (`OnePair`).  No view but an
accepted one writes an active friendship, and an accepted view is checked against the listed
requests and the time of the removal before it writes (`revived_reconcileView`).
-/

namespace WattRevival

open WattRuns WattRows WattJournal Program WattSocial WattBlocks WattBlockEffect WattUnblock
  FriendRequestService

/-! ## The calls about one pair -/

variable (owner remote : String)

/-- The call is about the pair. -/
def About : RelationshipCall → Prop
  | .action input => input.localPublicId = owner ∧ input.counterpart.counterpartPublicId = remote
  | .reconcile localId views => localId = owner
      ∧ ∀ view ∈ views, view.counterpart.counterpartPublicId = remote

/-- The store after a call, whether it succeeds or not. -/
def call (s : Store) (call : RelationshipCall) : Store := after call.program s

variable (s : Store)

/-- Every friendship is the one of the pair, under its id. -/
def OnePair : Prop :=
  ∀ friendship ∈ s.friendships.rows, friendship.friendshipId = pairId (owner, remote)
    ∧ friendship.localPublicId = owner ∧ friendship.remotePublicId = remote

/-- Every request is one of the owner. -/
def OwnRequests (owner : String) (s : Store) : Prop :=
  ∀ request ∈ s.friendRequests.rows, request.localPublicId = owner

section Pair

variable {owner remote : String} {c : RelationshipCall}

lemma onePair_invariant :
    FriendshipInvariant (fun row => row.friendshipId = pairId (owner, remote)
      ∧ row.localPublicId = owner ∧ row.remotePublicId = remote) (OnePair owner remote) where
  only := by
    intro s s' hsame hs
    unfold OnePair
    rw [hsame]
    exact hs
  rows hs row hmem _ hid howner hremote _ := by
    rw [hid, howner, hremote]
    exact hs row hmem
  kept := by
    intro friendship hid
    refine keeps_upsertFriendship fun s hs _ row hrow => ?_
    rcases Table.mem_upsert.mp hrow with rfl | ⟨hrow, -⟩
    · obtain ⟨hrow, howner, hremote, -⟩ := landed_friendship friendship s.friendships
      rw [hrow, howner, hremote]
      exact hid
    · exact hs row hrow

lemma ownRequests_write (s : Store) (w : Write) (hw : Within owner relationshipParts w)
    (hs : OwnRequests owner s) : OwnRequests owner (s.apply w) := by
  cases w with
  | upsertFriendRequest request =>
    have hrequest : request.localPublicId = owner := hw.own _ rfl
    intro row hrow
    rcases Table.mem_upsert.mp hrow with rfl | ⟨hrow, -⟩
    · rw [(landed_fields request s.friendRequests).2.2.1]
      exact hrequest
    · exact hs row hrow
  | _ => exact hs

lemma onePair_call (hc : About owner remote c) : Keeps (OnePair owner remote) c.program := by
  refine keeps_program onePair_invariant (.relationship c) fun pair hpair row hid hlocal hrow => ?_
  rw [hid, hlocal, hrow]
  cases c with
  | action input =>
    obtain rfl := List.mem_singleton.mp hpair
    obtain ⟨howner, hremote⟩ := hc
    rw [howner, hremote]
    exact ⟨rfl, rfl, rfl⟩
  | reconcile localId views =>
    obtain ⟨view, hview, rfl⟩ := List.mem_map.mp hpair
    obtain ⟨howner, hremote⟩ := hc
    rw [howner, hremote view hview]
    exact ⟨rfl, rfl, rfl⟩

lemma ownRequests_call (hc : About owner remote c) : Keeps (OwnRequests owner) c.program := by
  cases c with
  | action input =>
    obtain ⟨rfl, -⟩ := hc
    exact keeps_of_allWrites ownRequests_write within_persistRelationshipAction
  | reconcile localId views =>
    obtain ⟨rfl, -⟩ := hc
    exact keeps_of_allWrites ownRequests_write within_reconcileRelationshipViews

/-- **RUNS ABOUT ONE PAIR** store its friendship and requests of the owner only. -/
lemma pair_run {calls : List RelationshipCall} (hcalls : ∀ c ∈ calls, About owner remote c) :
    OnePair owner remote (run call .empty calls) ∧ OwnRequests owner (run call .empty calls) := by
  refine inv_run (P := fun s => OnePair owner remote s ∧ OwnRequests owner s) ?_ ?_
    (allSteps_of_forall hcalls _)
  · rintro s c ⟨hpair, hown⟩ hc
    exact ⟨onePair_call hc s hpair, ownRequests_call hc s hown⟩
  · exact ⟨fun _ h => (nomatch h), fun _ h => (nomatch h)⟩

end Pair

/-! ## What writes an active friendship -/

/-- No friendship is active. -/
def Dormant : Prop := ∀ friendship ∈ s.friendships.rows, friendship.state ≠ .active

/-- Only an active friendship that is stored ends it. -/
lemma dormant_invariant : FriendshipInvariant (fun row => row.state ≠ .active) Dormant where
  only := by
    intro s s' hsame hs
    unfold Dormant
    rw [hsame]
    exact hs
  rows _ _ _ _ _ _ _ hstate := by
    rw [hstate]
    exact FriendshipState.noConfusion
  kept := by
    intro friendship hstate
    refine keeps_upsertFriendship fun s hs _ row hrow => ?_
    rcases Table.mem_upsert.mp hrow with rfl | ⟨hrow, -⟩
    · rw [(landed_friendship friendship s.friendships).2.2.2]
      exact hstate
    · exact hs row hrow

section View

variable {localId : String} {view : RelationshipSyncView} {facts : ViewFacts}
  {listed : List FriendRequest} {s : Store}

lemma dormant_applyView (h : view.relationshipState ≠ "accepted") :
    Keeps Dormant (applyView localId view facts listed) :=
  keeps_applyView dormant_invariant fun _ _ _ _ hactive hstate => h (hactive hstate)

lemma dormant_establishAccepted (hblank : blank facts.requestId = true) :
    Keeps Dormant (establishAccepted localId view facts) := by
  unfold establishAccepted
  refine keeps_bind (keeps_retireAliasFriendships dormant_invariant) fun _ => ?_
  have hinvalid : validateFriendRequest (viewRequest localId view facts .accepted
      (some "accepted")) = .error (.invalidInput "request_id is required") := by
    unfold validateFriendRequest
    have hid : blank (viewRequest localId view facts .accepted (some "accepted")).requestId
        = true := hblank
    rw [hid]
    rfl
  have hstops : ∀ s, result (ignoreConflict (upsertFriendRequest (viewRequest localId view
      facts .accepted (some "accepted")))) s = .error (.invalidInput "request_id is required") := by
    intro s
    refine result_forgive_of_error (e := SocialError.invalidInput "request_id is required") ?_
    unfold upsertFriendRequest
    rw [hinvalid]
    rfl
  intro s hs
  rw [after_bind_error (hstops s)]
  exact keeps_elsewhere dormant_invariant (by decide) within_viewRequest s hs

/-- An accepted view is not stale when its request was not listed as accepted and it is
later than the removal. -/
lemma isStaleAccept_eq_false {friendship : Friendship} (hremoved : friendship.state = .removed) :
    isStaleAccept facts listed friendship = false
      ↔ (∀ request ∈ listed, request.requestId = facts.requestId → request.state ≠ .accepted)
        ∧ asMillis friendship.updatedAt < asMillis facts.updatedAt := by
  unfold isStaleAccept
  simp only [hremoved, decide_true, Bool.true_and, Bool.or_eq_false_iff, List.any_eq_false,
    Bool.and_eq_true, decide_eq_true_eq, decide_eq_false_iff_not, not_le, not_and]

/-- A dormant friendship becomes active only under a request id, and if it is not stale. -/
lemma revived_applyAccepted (hs : Dormant s)
    (hrevived : ¬ Dormant (after (applyAccepted localId view facts listed) s)) :
    blank facts.requestId = false
      ∧ (s.findFriendship localId view.counterpart.counterpartPublicId).any
          (isStaleAccept facts listed) = false := by
  have hrelated : Touches localId [.requests] (acceptRelatedFriendRequests
      localId view.counterpart.ref facts.updatedAt) := within_acceptRelated
  have hsame := friendships_after (by decide) hrelated s
  have hdormant := dormant_invariant.only hsame hs
  have hfind := findFriendship_congr hsame localId view.counterpart.counterpartPublicId
  unfold applyAccepted at hrevived
  cases hresult : result (acceptRelatedFriendRequests localId view.counterpart.ref
      facts.updatedAt) s with
  | error e =>
    rw [after_bind_error hresult] at hrevived
    exact absurd hdormant hrevived
  | ok u =>
    rw [after_bind_ok hresult, after_read_bind, hfind] at hrevived
    dsimp only at hrevived
    constructor
    · by_contra hblank
      rw [Bool.not_eq_false] at hblank
      split at hrevived
      · exact hrevived hdormant
      · exact hrevived (dormant_establishAccepted hblank _ hdormant)
    · by_contra hstale
      rw [Bool.not_eq_false] at hstale
      rw [if_pos hstale] at hrevived
      exact hrevived hdormant

/-- The time of the answer a view tells of, not before its request. -/
def responseTime (view : RelationshipSyncView) : Int :=
  max (view.respondedAt.getD view.updatedAt) (view.requestedAt.getD view.updatedAt)

/-- **ONE VIEW**: a dormant friendship becomes active only by an accepted view that is not
stale. -/
lemma revived_reconcileView (hs : Dormant s)
    (hrevived : ¬ Dormant (after (reconcileView localId view listed) s)) :
    view.relationshipState = "accepted" ∧ blank localId = false
      ∧ blank (viewRequestId localId view listed) = false ∧ ∀ friendship,
        s.findFriendship localId view.counterpart.counterpartPublicId = some friendship →
          friendship.state = .removed →
          (∀ request ∈ listed, request.requestId = viewRequestId localId view listed →
              request.state ≠ .accepted)
          ∧ asMillis friendship.updatedAt < asMillis (responseTime view) := by
  have hdormant :=
    keeps_elsewhere dormant_invariant (by decide) (within_cached view.counterpart) s hs
  by_cases hread : ViewRead localId view s
  · obtain ⟨thread, -, happly⟩ := @after_reconcileView _ _ listed _ hread
    rw [happly] at hrevived
    have haccepted : view.relationshipState = "accepted" := by
      by_contra hstate
      exact hrevived (dormant_applyView hstate _ hdormant)
    have hbranch : applyView localId view (viewFacts localId view listed thread) listed
        = applyAccepted localId view
          (viewFacts localId view listed thread) listed := by
      simp only [applyView, haccepted]
    rw [hbranch] at hrevived
    obtain ⟨hblank, hstale⟩ := revived_applyAccepted hdormant hrevived
    refine ⟨haccepted, hread.2.1, hblank, fun friendship hfind hremoved => ?_⟩
    -- of an accepted view, `updated_at` is the later of the response and the request
    have htime : (viewFacts localId view listed thread).updatedAt
        = responseTime view := by
      unfold viewFacts responseTime
      simp [haccepted]
    rw [findFriendship_congr (friendships_cache view.counterpart s), hfind,
      Option.any_some, isStaleAccept_eq_false hremoved, htime] at hstale
    exact hstale
  · rw [after_reconcileView_unread hread] at hrevived
    exact absurd hdormant hrevived

end View

/-! ## Whole runs -/

lemma dormant_of_removed {owner remote : String} {s : Store} {removed : Friendship}
    (hpair : OnePair owner remote s) (hfind : s.findFriendship owner remote = some removed)
    (hremoved : removed.state = .removed) : Dormant s := by
  have hmem := (Store.findFriendship_some hfind).1
  intro friendship hfriendship
  have hsame : friendship = removed := Table.eq_of_key hfriendship hmem
    ((hpair friendship hfriendship).1.trans (hpair removed hmem).1.symm)
  rw [hsame, hremoved]
  exact FriendshipState.noConfusion

lemma mem_listedRequests_decided {s : Store} {localId : String} {request : FriendRequest}
    (hlocal : blank localId = false) (hmem : request ∈ s.friendRequests.rows)
    (howner : request.localPublicId = localId) (hid : notBlank request.requestId = true)
    (hdecided : request.state ≠ .pending) : request ∈ listedRequests s localId := by
  rw [listedRequests_eq hlocal]
  refine mem_keepFirstPending _ _ ((List.mem_insertionSort _).mpr ?_) fun hpending =>
    absurd hpending hdecided
  exact Store.mem_listFriendRequests.mpr ⟨hmem, howner, hid⟩

/-- **NO STALE REVIVAL**: after every run of calls about one pair, a reconciliation takes
its friendship from removed to active only at an accepted view, under a request id that
was not accepted in the store before the call, and with an answer later than the
removal. -/
theorem revived_only_by_new_acceptance (calls : List RelationshipCall)
    (hcalls : ∀ c ∈ calls, About owner remote c) (done : List RelationshipSyncView)
    (view : RelationshipSyncView) (hdone : About owner remote (.reconcile owner done))
    (hview : view.counterpart.counterpartPublicId = remote) (removed active : Friendship)
    (hbefore : (after (reconcileRelationshipViews owner done)
      (run call .empty calls)).findFriendship owner remote = some removed)
    (hremoved : removed.state = .removed)
    (hafter : (after (reconcileRelationshipViews owner (done ++ [view]))
      (run call .empty calls)).findFriendship owner remote = some active)
    (hactive : active.state = .active) : view.relationshipState = "accepted"
      ∧ (∀ request ∈ (run call .empty calls).friendRequests.rows, request.requestId
              = viewRequestId owner view (listedRequests (run call .empty calls) owner) →
            request.state ≠ .accepted)
      ∧ asMillis removed.updatedAt < asMillis (responseTime view) := by
  obtain ⟨hpair, hown⟩ := pair_run hcalls
  obtain ⟨before, hstore⟩ : ∃ before, run call .empty calls = before := ⟨_, rfl⟩
  rw [hstore] at hbefore hafter hpair hown ⊢
  have honly := onePair_call hdone before hpair
  have hdormant : Dormant (after (reconcileRelationshipViews owner done) before) :=
    dormant_of_removed honly hbefore hremoved
  have hrevived : ¬ Dormant (after (reconcileRelationshipViews owner (done ++ [view])) before) :=
    fun h => h active (Store.findFriendship_some hafter).1 hactive
  -- a loop that stopped before the last view would have left the friendship removed
  have hlast : after (reconcileRelationshipViews owner (done ++ [view])) before
      = after (reconcileView owner view (listedRequests before owner))
          (after (reconcileRelationshipViews owner done) before) := by
    unfold reconcileRelationshipViews at hrevived hdormant ⊢
    rw [after_read_bind] at hrevived hdormant ⊢
    rw [after_read_bind]
    rcases after_forEach_snoc (fun view => reconcileView owner view (listedRequests before owner))
      view done before with h | h
    · exact h
    · rw [h] at hrevived
      exact absurd hdormant hrevived
  rw [hlast] at hrevived
  obtain ⟨haccepted, hlocal, hblank, hstale⟩ := revived_reconcileView hdormant hrevived
  rw [hview] at hstale
  obtain ⟨hfresh, hlater⟩ := hstale removed hbefore hremoved
  refine ⟨haccepted, fun request hrequest hid hstate => ?_, hlater⟩
  refine hfresh request (mem_listedRequests_decided hlocal hrequest (hown request hrequest) ?_ ?_)
    hid hstate
  · rw [hid]
    exact notBlank_of_blank hblank
  · rw [hstate]
    exact FriendRequestState.noConfusion

/-- Alice and Bob were friends until the removal at 20; the acceptance of a new request at
40 brings the friendship back. -/
theorem revived_by_second_request :
    (toyView "accepted" none "remote" "bob" 40).relationshipState = "accepted"
      ∧ asMillis 20 < asMillis (responseTime (toyView "accepted" none "remote" "bob" 40)) := by
  have h := revived_only_by_new_acceptance "alice" "bob"
    [.action (toyAction .accept "alice" "bob" (some "r1") 10),
      .action (toyAction .remove "alice" "bob" none 20)] (by
        intro c hc
        fin_cases hc <;> exact ⟨rfl, rfl⟩) []
    { toyView "accepted" none "remote" "bob" 40 with requestId := some "r2" }
    ⟨rfl, fun _ h => (nomatch h)⟩ rfl
    ⟨"friendship:alice:bob", "alice", "bob", none, .removed, some "r1", some "dm:alice:bob", 10, 20⟩
    ⟨"friendship:alice:bob", "alice", "bob", none, .active, some "r2", some "dm:alice:bob", 10, 40⟩
    (by decide +kernel) rfl (by decide +kernel) rfl
  exact ⟨h.1, h.2.2⟩

end WattRevival
