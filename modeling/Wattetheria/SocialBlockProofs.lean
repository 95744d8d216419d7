import Wattetheria.SocialServiceProofs

/-!
# How long a block stands

A block is one row, written by a block action or by a view of a block initiated
here, and deleted by an unblock (`blocks_advance`).  It stands until its owner lifts it
exactly when no step in between records the block of another pair under the same id, and no
view of an unblock that was not initiated here is applied (`blocks_stand_iff`).
-/

namespace WattBlocks

open WattRuns WattRows WattJournal Program WattSocial FriendRequestService ThreadService
  BlockService

/-! ## Steps and calls -/

/-- One action, or one view of a reconciliation. -/
inductive Step where
  | action (input : PersistRelationshipActionInput)
  | report (localId : String) (listed : List FriendRequest) (view : RelationshipSyncView)

def Step.program : Step → Social Unit
  | .action input => persistRelationshipAction input
  | .report localId listed view => reconcileView localId view listed

variable (s : Store) (step : Step)

/-- The store after a step, whether it succeeds or not. -/
def advance : Store := after step.program s

/-- A call: one action, or a reconciliation of a list of views. -/
inductive RelationshipCall where
  | action (input : PersistRelationshipActionInput)
  | reconcile (localId : String) (views : List RelationshipSyncView)

def RelationshipCall.program : RelationshipCall → Social Unit
  | .action input => persistRelationshipAction input
  | .reconcile localId views => reconcileRelationshipViews localId views

/-- The views a reconciliation gets to: it stops at the first error. -/
def viewSteps (localId : String) (listed : List FriendRequest) :
    Store → List RelationshipSyncView → List Step
  | _, [] => []
  | s, view :: views =>
    .report localId listed view ::
      match result (reconcileView localId view listed) s with
      | .ok _ => viewSteps localId listed (after (reconcileView localId view listed) s) views
      | .error _ => []

/-- The steps of a call. -/
def RelationshipCall.steps : RelationshipCall → List Step
  | .action input => [.action input]
  | .reconcile localId views =>
    viewSteps localId (listedRequests s localId) s views

/-- The steps of some calls. -/
def trace : Store → List RelationshipCall → List Step
  | _, [] => []
  | s, call :: calls => call.steps s ++ trace (after call.program s) calls

variable (localId : String)

lemma run_viewSteps (listed : List FriendRequest) (views : List RelationshipSyncView) :
    ∀ s, run advance s (viewSteps localId listed s views)
      = after (forEach views fun view => reconcileView localId view listed) s := by
  induction views with
  | nil => intro s; rfl
  | cons view views ih =>
    intro s
    rw [viewSteps, run_cons]
    show run advance (after (reconcileView localId view listed) s) _ = _
    cases h : result (reconcileView localId view listed) s with
    | error e =>
      rw [forEach, after_bind_error h]
      rfl
    | ok u =>
      rw [forEach, after_bind_ok h]
      exact ih _

lemma run_steps (call : RelationshipCall) :
    run advance s (call.steps s) = after call.program s := by
  cases call with
  | action input => rfl
  | reconcile localId views =>
    rw [RelationshipCall.steps, run_viewSteps, RelationshipCall.program,
      reconcileRelationshipViews, after_read_bind]

lemma run_trace (calls : List RelationshipCall) : ∀ s, run advance s (trace s calls)
      = run (fun s (call : RelationshipCall) => after call.program s) s calls := by
  induction calls with
  | nil => intro s; rfl
  | cons call calls ih =>
    intro s
    rw [trace, run_append, run_steps, run_cons, ih]

/-! ## What a step does to the blocks -/

variable (owner blocked : String)

/-- `find_block(owner, blocked)` is `Some`. -/
def Held (s : Store) : Prop := (s.findBlock owner blocked).isSome = true

instance (owner blocked : String) (s : Store) : Decidable (Held owner blocked s) :=
  inferInstanceAs (Decidable (_ = true))

/-- The request a block action stores. -/
def blockedRequest (input : PersistRelationshipActionInput) (s : Store) : FriendRequest :=
  actionRequest input (actionRequestId input s) .inbound .blocked (some "blocked")

/-- A view gets to its `match`. -/
def ViewRead (view : RelationshipSyncView) (s : Store) : Prop :=
  result (cacheCounterpart view.counterpart) s = .ok () ∧ blank localId = false
    ∧ blank view.counterpart.counterpartPublicId = false

/-- The step records a block of the pair. -/
def Records (s : Store) : Step → Prop
  | .action input => input.action = .block ∧ input.localPublicId = owner
      ∧ input.counterpart.counterpartPublicId = blocked
      ∧ result (cacheCounterpart input.counterpart) s = .ok ()
      ∧ result (upsertFriendRequest (blockedRequest input s)) s = .ok ()
  | .report localId listed view => view.relationshipState = "blocked"
      ∧ view.initiatedBy = "local" ∧ localId = owner
      ∧ view.counterpart.counterpartPublicId = blocked ∧ ViewRead localId view s
      ∧ blank (viewRequestId localId view listed) = false

/-- The step deletes the block of the pair. -/
def Lifts (s : Store) : Step → Prop
  | .action input => input.action = .unblock ∧ input.localPublicId = owner
      ∧ input.counterpart.counterpartPublicId = blocked
      ∧ result (cacheCounterpart input.counterpart) s = .ok ()
      ∧ blank owner = false ∧ blank blocked = false
  | .report localId _ view => view.relationshipState = "none"
      ∧ view.lastAction = some "unblock" ∧ localId = owner
      ∧ view.counterpart.counterpartPublicId = blocked ∧ ViewRead localId view s

/-- The owner's own unblock: their action, or a view of an unblock initiated here. -/
def OwnUnblock : Step → Prop
  | .action input => input.action = .unblock ∧ input.localPublicId = owner
      ∧ input.counterpart.counterpartPublicId = blocked
  | .report localId _ view => view.relationshipState = "none"
      ∧ view.lastAction = some "unblock" ∧ view.initiatedBy = "local"
      ∧ localId = owner ∧ view.counterpart.counterpartPublicId = blocked

/-- The step loses the block of the pair: another pair's block is recorded under the
id it is stored under, or it is deleted. -/
def Loses (s : Store) (step : Step) : Prop :=
  (∃ owner' blocked', Records owner' blocked' s step ∧ (owner', blocked') ≠ (owner, blocked)
      ∧ ∀ block ∈ s.blocks.rows, SocialBlock.between owner blocked block = true →
        block.blockId = stablePairId "block" owner' blocked')
    ∨ Lifts owner blocked s step

/-- What a step makes of the blocks: it records one pair's block under the id of the
pair, deletes one pair's block, or neither. -/
inductive Moves (s : Store) (step : Step) : Table SocialBlock → Prop
  | records (block : SocialBlock)
      (h : Records block.ownerPublicId block.blockedPublicId s step)
      (hid : block.blockId = stablePairId "block" block.ownerPublicId block.blockedPublicId) :
      Moves s step (s.blocks.upsert block)
  | lifts (owner blocked : String) (h : Lifts owner blocked s step) :
      Moves s step (s.blocks.delete (SocialBlock.between owner blocked))
  | same (hrecords : ∀ owner blocked, ¬ Records owner blocked s step)
      (hlifts : ∀ owner blocked, ¬ Lifts owner blocked s step) : Moves s step s.blocks

/-! ### Actions -/

section Action

variable {input : PersistRelationshipActionInput} {s : Store} {requestId : String}

lemma listedRequests_congr {s s' : Store} (h : s'.friendRequests = s.friendRequests)
    (localId : String) : listedRequests s' localId = listedRequests s localId := by
  simp only [listedRequests, listFriendRequests, Store.listFriendRequests,
    Store.ownFriendRequests, h]

lemma actionRequestId_congr {s s' : Store} (h : s'.friendRequests = s.friendRequests) :
    actionRequestId input s' = actionRequestId input s := by
  simp only [actionRequestId, listedRequests_congr h]

lemma result_upsertFriendRequest_congr {s s' : Store} (h : s'.friendRequests = s.friendRequests)
    (request : FriendRequest) : result (upsertFriendRequest request) s' = .ok ()
      ↔ result (upsertFriendRequest request) s = .ok () := by
  rw [result_upsertFriendRequest_eq_ok, result_upsertFriendRequest_eq_ok]
  simp only [FriendRequestService.Refused, Store.listFriendRequests, Store.ownFriendRequests, h]

lemma check_pairBlock {block : SocialBlock}
    (hid : block.blockId = stablePairId "block" block.ownerPublicId block.blockedPublicId)
    (howner : blank block.ownerPublicId = false) (hblocked : blank block.blockedPublicId = false)
    (htimes : block.createdAt ≤ block.updatedAt) : BlockService.check block = .ok () := by
  rw [BlockService.check, check_bind_eq_ok, check_bind_eq_ok, refuseIf_eq_ok, refuseIf_eq_ok,
    refuseIf_eq_ok, howner, hblocked, hid]
  exact ⟨blank_stablePairId (c := 'b') (by decide) (by decide) _ _, rfl,
    decide_eq_false (not_lt.mpr htimes)⟩

lemma check_actionBlock (hvalid : validateFriendRequest
      (actionRequest input requestId .inbound .blocked (some "blocked")) = .ok ()) :
    BlockService.check (actionBlock input) = .ok () := by
  obtain ⟨-, hlocal, hremote, -⟩ := validateFriendRequest_eq_ok.mp hvalid
  exact check_pairBlock rfl hlocal hremote le_rfl

/-- A block action that gets as far as the block stores it; what comes after it leaves
the blocks alone. -/
lemma blocks_persistBlock (hrequest : result (upsertFriendRequest
      (actionRequest input requestId .inbound .blocked (some "blocked"))) s = .ok ()) :
    (after (persistBlock input requestId) s).blocks = s.blocks.upsert (actionBlock input) := by
  have hcheck := check_actionBlock (result_upsertFriendRequest_eq_ok.mp hrequest).1
  unfold persistBlock
  rw [after_bind_ok hrequest, after_bind_ok (result_upsertBlock_eq_ok.mpr hcheck)]
  have hrest : Touches input.localPublicId [.requests, .friendships, .threads] (do
        FriendshipService.upsertFriendship (actionFriendship input requestId .blocked)
        upsertThread (actionThread input (actionThreadId input) .blocked)
        settleRelatedOutboundFriendRequests input.localPublicId
          input.counterpart.ref .blocked "blocked" input.occurredAt) := by
    refine allWrites_bind (allWithin_mono (by decide) (within_upsertFriendship rfl)) fun _ => ?_
    refine allWrites_bind (allWithin_mono (by decide) (within_upsertThreadChecked rfl)) fun _ => ?_
    exact allWithin_mono (by decide) within_settleRelated
  rw [blocks_after (by decide) hrest, after_upsertBlock hcheck]
  exact congrArg (Table.upsert _) (blocks_after (by decide) (within_upsertFriendRequest rfl) s)

lemma blocks_persistBlock_refused {e : SocialError} (hrequest : result (upsertFriendRequest
      (actionRequest input requestId .inbound .blocked (some "blocked"))) s = .error e) :
    (after (persistBlock input requestId) s).blocks = s.blocks := by
  unfold persistBlock
  rw [after_bind_error hrequest]
  exact blocks_after (by decide) (within_upsertFriendRequest rfl) s

lemma after_persistRelationshipAction
    (hcache : result (cacheCounterpart input.counterpart) s = .ok ()) :
    after (persistRelationshipAction input) s
      = after (persistAction input (actionRequestId input s))
          (after (cacheCounterpart input.counterpart) s) := by
  unfold persistRelationshipAction
  rw [after_bind_ok hcache, after_read_bind, actionRequestId_congr (friendRequests_cache _ _)]

lemma moves_action (input : PersistRelationshipActionInput) (s : Store) :
    Moves s (.action input) (advance s (.action input)).blocks := by
  show Moves _ _ (after (persistRelationshipAction input) s).blocks
  cases hcache : result (cacheCounterpart input.counterpart) s with
  | error e =>
    unfold persistRelationshipAction
    rw [after_bind_error hcache, blocks_cache]
    exact .same (fun _ _ h => nomatch hcache.symm.trans h.2.2.2.1)
      fun _ _ h => nomatch hcache.symm.trans h.2.2.2.1
  | ok u =>
    rw [after_persistRelationshipAction hcache]
    by_cases hblock : input.action = .block
    · have hcongr := result_upsertFriendRequest_congr (friendRequests_cache input.counterpart s)
        (blockedRequest input s)
      rw [persistAction, hblock]
      dsimp only
      cases hrequest : result (upsertFriendRequest (blockedRequest input s))
          (after (cacheCounterpart input.counterpart) s) with
      | error e =>
        rw [blocks_persistBlock_refused hrequest, blocks_cache]
        refine .same (fun _ _ h => ?_) fun _ _ h => nomatch hblock.symm.trans h.1
        exact nomatch hrequest.symm.trans (hcongr.mpr h.2.2.2.2)
      | ok u =>
        rw [blocks_persistBlock hrequest, blocks_cache]
        exact .records (actionBlock input) ⟨hblock, rfl, rfl, hcache, hcongr.mp hrequest⟩ rfl
    · have hrecords : ∀ owner blocked, ¬ Records owner blocked s (.action input) :=
        fun _ _ h => hblock h.1
      by_cases hunblock : input.action = .unblock
      · rw [persistAction, hunblock]
        dsimp only
        rw [blocks_removeBlock, blocks_cache]
        split
        · next hblank =>
            refine .same hrecords ?_
            rintro _ _ ⟨-, rfl, rfl, -, howner, hblocked⟩
            simp [howner, hblocked] at hblank
        · next hblank => exact .lifts _ _ ⟨hunblock, rfl, rfl, hcache, by simpa using hblank⟩
      · rw [blocks_after (by decide) (within_persistAction_noBlocks hblock hunblock), blocks_cache]
        exact .same hrecords fun _ _ h => hunblock h.1

end Action

/-! ### Views -/

section View

variable {localId : String} {view : RelationshipSyncView}
  {listed : List FriendRequest} {s : Store}

/-- A view that gets to its `match`. -/
lemma after_reconcileView (hread : ViewRead localId view s) :
    ∃ thread, thread = s.findThread localId view.counterpart.counterpartPublicId
      ∧ after (reconcileView localId view listed) s = after (applyView localId view (viewFacts localId view listed thread) listed)
          (after (cacheCounterpart view.counterpart) s) := by
  obtain ⟨hcache, hlocal, hremote⟩ := hread
  have hfind : ∀ store : Store, findThread store localId view.counterpart.counterpartPublicId
        = .ok (store.findThread localId view.counterpart.counterpartPublicId) := by
    exact fun _ => refuseIf_return.mpr ⟨by rw [hlocal, hremote]; rfl, rfl⟩
  refine ⟨(after (cacheCounterpart view.counterpart) s).findThread localId
    view.counterpart.counterpartPublicId, findThread_congr (threads_cache _ _) _ _, ?_⟩
  unfold reconcileView
  rw [after_bind_ok hcache, after_read_bind, ofExcept_bind (hfind _)]

lemma after_reconcileView_unread (hread : ¬ ViewRead localId view s) :
    after (reconcileView localId view listed) s = after (cacheCounterpart view.counterpart) s := by
  unfold reconcileView
  cases hcache : result (cacheCounterpart view.counterpart) s with
  | error e => rw [after_bind_error hcache]
  | ok u =>
    rw [after_bind_ok hcache, after_read_bind]
    have hblank : (blank localId || blank view.counterpart.counterpartPublicId) = true := by
      cases h : blank localId || blank view.counterpart.counterpartPublicId with
      | true => rfl
      | false =>
        rw [Bool.or_eq_false_iff] at h
        exact absurd ⟨hcache, h⟩ hread
    unfold findThread refuseIf
    rw [hblank]
    rfl

lemma viewFacts_times (localId : String) (view : RelationshipSyncView)
    (listed : List FriendRequest) (thread : Option DirectThread) :
    (viewFacts localId view listed thread).requestedAt
      ≤ (viewFacts localId view listed thread).updatedAt := by
  unfold viewFacts
  dsimp only
  split
  · exact le_max_right ..
  · exact le_max_right ..

lemma validate_viewRequest {thread : Option DirectThread} {state : FriendRequestState}
    {reason : Option String} (hlocal : blank localId = false)
    (hremote : blank view.counterpart.counterpartPublicId = false)
    (hreason : state ≠ .pending → reason.isSome = true) :
    validateFriendRequest (viewRequest localId view
        (viewFacts localId view listed thread) state reason) = .ok ()
      ↔ blank (viewRequestId localId view listed) = false := by
  rw [validateFriendRequest_eq_ok]
  exact ⟨fun h => h.1, fun h => ⟨h, hlocal, hremote, viewFacts_times localId view listed thread,
    hreason⟩⟩

section Blocked

variable {facts : ViewFacts}

/-- After its request row, a blocked view stores a block if it was initiated here. -/
lemma blocks_applyBlocked (hrequest : result (ignoreConflict (upsertFriendRequest
      (viewRequest localId view facts .blocked (some "blocked")))) s = .ok ()) :
    (after (applyBlocked localId view facts) s).blocks
      = if view.initiatedBy = "local" then s.blocks.upsert (viewBlock localId view facts)
        else s.blocks := by
  have hvalid := result_ignoreConflict_upsert.mp hrequest
  obtain ⟨-, hlocal, hremote, htimes, -⟩ :=
    validateFriendRequest_eq_ok.mp hvalid
  have hcheck : BlockService.check (viewBlock localId view facts) = .ok () :=
    check_pairBlock rfl hlocal hremote htimes
  have hblock : result (onlyIf (view.initiatedBy = "local") (ignoreConflict
      (upsertBlock (viewBlock localId view facts))))
      (after (ignoreConflict (upsertFriendRequest
        (viewRequest localId view facts .blocked (some "blocked")))) s) = .ok () := by
    unfold onlyIf
    split
    · exact result_forgive_of_ok (result_upsertBlock_eq_ok.mpr hcheck)
    · rfl
  have hrest : Touches localId [.requests, .friendships] (do
        ignoreConflict (FriendshipService.upsertFriendship
          (viewFriendship localId view facts .blocked))
        settleRelatedOutboundFriendRequests localId
          view.counterpart.ref .blocked "blocked" facts.updatedAt
        clearFriendRequestRetry facts.requestId) := by
    refine allWrites_bind (allWithin_mono (by decide)
      (allWrites_forgive (within_upsertFriendship rfl))) fun _ => ?_
    refine allWrites_bind (allWithin_mono (by decide) within_settleRelated) fun _ => ?_
    exact allWithin_mono (by decide) within_clearRetry
  unfold applyBlocked
  rw [after_bind_ok hrequest, after_bind_ok hblock, blocks_after (by decide) hrest]
  unfold onlyIf
  by_cases hlocal : view.initiatedBy = "local"
  · rw [if_pos (decide_eq_true hlocal), if_pos hlocal, ignoreConflict, after_forgive,
      after_upsertBlock hcheck]
    exact congrArg (Table.upsert _) (blocks_after (by decide) within_viewRequest s)
  · rw [if_neg (by simpa using hlocal), if_neg hlocal, after_pure]
    exact blocks_after (by decide) within_viewRequest s

lemma blocks_applyBlocked_refused {e : SocialError}
    (hrequest : result (ignoreConflict (upsertFriendRequest
      (viewRequest localId view facts .blocked (some "blocked")))) s = .error e) :
    (after (applyBlocked localId view facts) s).blocks = s.blocks := by
  unfold applyBlocked
  rw [after_bind_error hrequest]
  exact blocks_after (by decide) within_viewRequest s

end Blocked

lemma moves_report : Moves s (.report localId listed view)
    (advance s (.report localId listed view)).blocks := by
  show Moves _ _ (after (reconcileView localId view listed) s).blocks
  by_cases hread : ViewRead localId view s
  · obtain ⟨thread, -, hafter⟩ := @after_reconcileView _ _ listed _ hread
    rw [hafter]
    by_cases hblocked : view.relationshipState = "blocked"
    · have hlifts : ∀ owner blocked, ¬ Lifts owner blocked s (.report localId listed view) :=
        fun _ _ h => absurd (hblocked.symm.trans h.1) (by decide)
      rw [applyView, hblocked]
      show Moves _ _ (after (applyBlocked localId view _) _).blocks
      cases hrequest : result (ignoreConflict (upsertFriendRequest
          (viewRequest localId view (viewFacts localId view listed thread)
            .blocked (some "blocked")))) (after (cacheCounterpart view.counterpart) s) with
      | error e =>
        rw [blocks_applyBlocked_refused hrequest, blocks_cache]
        refine .same (fun _ _ h => ?_) hlifts
        refine nomatch hrequest.symm.trans (result_ignoreConflict_upsert.mpr ?_)
        exact (validate_viewRequest hread.2.1 hread.2.2 fun _ => rfl).mpr h.2.2.2.2.2
      | ok u =>
        have hvalid := result_ignoreConflict_upsert.mp hrequest
        rw [blocks_applyBlocked hrequest, blocks_cache]
        split
        · next hinitiated =>
            exact .records (viewBlock localId view (viewFacts localId view listed thread))
              ⟨hblocked, hinitiated, rfl, rfl, hread, (validateFriendRequest_eq_ok.mp hvalid).1⟩ rfl
        · next hinitiated => exact .same (fun _ _ h => hinitiated h.2.1) hlifts
    · have hrecords : ∀ owner blocked, ¬ Records owner blocked s (.report localId listed view) :=
        fun _ _ h => hblocked h.1
      by_cases hunblock : view.relationshipState = "none" ∧ view.lastAction = some "unblock"
      · rw [applyView, hunblock.1, hunblock.2]
        show Moves _ _ (after (applyUnblocked localId view) _).blocks
        rw [applyUnblocked, ignoreConflict, after_forgive, blocks_removeBlock, hread.2.1, hread.2.2,
          blocks_cache]
        exact .lifts _ _ ⟨hunblock.1, hunblock.2, rfl, rfl, hread⟩
      · rw [blocks_after (by decide) (within_applyView_noBlocks hblocked hunblock), blocks_cache]
        exact .same hrecords fun _ _ h => hunblock ⟨h.1, h.2.1⟩
  · rw [after_reconcileView_unread hread, blocks_cache]
    exact .same (fun _ _ h => hread h.2.2.2.2.1) fun _ _ h => hread h.2.2.2.2

end View

/-! ## One step, and every run -/

lemma blocks_advance : Moves s step (advance s step).blocks := by
  cases step with
  | action input => exact moves_action input s
  | report localId listed view => exact moves_report

variable {owner blocked : String} {s : Store}

lemma held_iff : Held owner blocked s ↔ ∃ block ∈ s.blocks.rows, block.ownerPublicId = owner
      ∧ block.blockedPublicId = blocked := Store.findBlock_isSome

variable {step : Step}

variable {blocked' : String} {owner' : String}

lemma records_pair (h : Records owner blocked s step)
    (h' : Records owner' blocked' s step) : owner = owner' ∧ blocked = blocked' := by
  cases step with
  | action input => exact ⟨h.2.1.symm.trans h'.2.1, h.2.2.1.symm.trans h'.2.2.1⟩
  | report localId listed view =>
    exact ⟨h.2.2.1.symm.trans h'.2.2.1, h.2.2.2.1.symm.trans h'.2.2.2.1⟩

lemma lifts_pair (h : Lifts owner blocked s step)
    (h' : Lifts owner' blocked' s step) : owner = owner' ∧ blocked = blocked' := by
  cases step with
  | action input => exact ⟨h.2.1.symm.trans h'.2.1, h.2.2.1.symm.trans h'.2.2.1⟩
  | report localId listed view =>
    exact ⟨h.2.2.1.symm.trans h'.2.2.1, h.2.2.2.1.symm.trans h'.2.2.2.1⟩

lemma not_lifts_of_records (h : Records owner blocked s step) : ¬ Lifts owner' blocked' s step := by
  intro h'
  cases step with
  | action input => cases h.1.symm.trans h'.1
  | report localId listed view =>
    exact absurd (h.1.symm.trans h'.1) (by decide)

lemma held_of_records (h : Records owner blocked s step) : Held owner blocked (advance s step) := by
  have hmoves := blocks_advance s step
  rw [held_iff]
  generalize (advance s step).blocks = blocks at hmoves ⊢
  cases hmoves with
  | records block hrecords =>
    obtain ⟨rfl, rfl⟩ := records_pair h hrecords
    refine ⟨_, Table.mem_upsert_landed block s.blocks, ?_⟩
    unfold Table.landed
    split <;> exact ⟨rfl, rfl⟩
  | lifts _ _ hlifts => exact absurd hlifts (not_lifts_of_records h)
  | same hrecords => exact absurd h (hrecords _ _)

lemma between_eq_true {block : SocialBlock} : SocialBlock.between owner blocked block = true
      ↔ block.ownerPublicId = owner ∧ block.blockedPublicId = blocked := by
  rw [SocialBlock.between, Bool.and_eq_true, decide_eq_true_eq, decide_eq_true_eq]

/-- **ONE STEP**: a held block is still held exactly when the step does not lose it. -/
lemma held_advance_iff (hheld : Held owner blocked s) (step : Step) :
    Held owner blocked (advance s step) ↔ ¬ Loses owner blocked s step := by
  have hmoves := blocks_advance s step
  rw [held_iff]
  generalize hafter : (advance s step).blocks = blocks at hmoves
  cases hmoves with
  | records block hrecords hid =>
    -- of this pair, or of another one under some id
    by_cases hpair : (block.ownerPublicId, block.blockedPublicId) = (owner, blocked)
    · obtain ⟨rfl, rfl⟩ := Prod.mk.inj hpair
      refine iff_of_true (hafter ▸ held_iff.mp (held_of_records hrecords)) ?_
      rintro (⟨owner', blocked', hrecords', hne, -⟩ | hlifts)
      · obtain ⟨rfl, rfl⟩ := records_pair hrecords hrecords'
        exact hne rfl
      · exact not_lifts_of_records hrecords hlifts
    · constructor
      · rintro ⟨row, hrow, howner, hblocked⟩ (⟨owner', blocked', hrecords', -, hkeys⟩ | hlifts)
        · rcases Table.mem_upsert.mp hrow with rfl | ⟨hold, hkey⟩
          · refine hpair ?_
            rw [← howner, ← hblocked]
            unfold Table.landed
            split <;> rfl
          · obtain ⟨rfl, rfl⟩ := records_pair hrecords hrecords'
            exact hkey ((hkeys row hold (between_eq_true.mpr ⟨howner, hblocked⟩)).trans hid.symm)
        · exact not_lifts_of_records hrecords hlifts
      · intro hloses
        -- some row of the pair is stored under another id
        by_contra hnone
        refine hloses (.inl ⟨_, _, hrecords, hpair, fun row hrow hbetween => ?_⟩)
        by_contra hkey
        exact hnone ⟨row, Table.mem_upsert.mpr (.inr ⟨hrow, fun h => hkey (h.trans hid)⟩),
          between_eq_true.mp hbetween⟩
  | lifts owner' blocked' hlifts =>
    by_cases hpair : (owner', blocked') = (owner, blocked)
    · obtain ⟨rfl, rfl⟩ := Prod.mk.inj hpair
      refine iff_of_false ?_ fun h => h (.inr hlifts)
      rintro ⟨row, hrow, hpair⟩
      exact nomatch (Table.mem_delete.mp hrow).2.symm.trans (between_eq_true.mpr hpair)
    · refine iff_of_true ?_ ?_
      · obtain ⟨row, hrow, howner, hblocked⟩ := held_iff.mp hheld
        refine ⟨row, Table.mem_delete.mpr ⟨hrow, ?_⟩, howner, hblocked⟩
        rw [← Bool.not_eq_true, between_eq_true]
        rintro ⟨howner', hblocked'⟩
        exact hpair (by rw [← howner', ← hblocked', howner, hblocked])
      · rintro (⟨_, _, hrecords, -, -⟩ | hlifts')
        · exact not_lifts_of_records hrecords hlifts
        · obtain ⟨rfl, rfl⟩ := lifts_pair hlifts hlifts'
          exact hpair rfl
  | same hrecords hlifts =>
    refine iff_of_true (held_iff.mp hheld) ?_
    rintro (⟨owner', blocked', hrecords', -, -⟩ | hlifts')
    · exact hrecords _ _ hrecords'
    · exact hlifts _ _ hlifts'

/-- **BLOCKS STAND, EXACTLY**: a step that records a block leaves it held; and over any
run of actions and reconciliations, every held block stays held until its owner's
own unblock exactly when no other step records the block of another pair under the
id the block is stored under, or deletes it. -/
theorem blocks_stand_iff (s : Store) (calls : List RelationshipCall) :
    (∀ owner blocked (s : Store) (step : Step),
        Records owner blocked s step → Held owner blocked (advance s step))
      ∧ ((∀ owner blocked, AlwaysWhile advance (fun _ step => ¬ OwnUnblock owner blocked step)
            (fun s s' => Held owner blocked s → Held owner blocked s') s (trace s calls))
          ↔ AllSteps advance (fun s step => ∀ owner blocked, Held owner blocked s →
              ¬ OwnUnblock owner blocked step → ¬ Loses owner blocked s step) s (trace s calls)) := by
  refine ⟨fun owner blocked s step => held_of_records, ?_⟩
  have hpair : ∀ owner blocked, AlwaysWhile advance (fun _ step => ¬ OwnUnblock owner blocked step)
      (fun s s' => Held owner blocked s → Held owner blocked s') s (trace s calls)
        ↔ AllSteps advance (fun s step => Held owner blocked s → ¬ OwnUnblock owner blocked step →
            ¬ Loses owner blocked s step) s (trace s calls) := by
    intro owner blocked
    rw [while_iff_allSteps (fun _ h => h) (fun hab hbc h => hbc (hab h))]
    refine allSteps_congr (W := fun _ _ => True) (fun s step _ => ?_) (allSteps_true s _)
    constructor
    · intro h hheld hown
      exact (held_advance_iff hheld step).mp (h hown hheld)
    · intro h hown hheld
      exact (held_advance_iff hheld step).mpr (h hheld hown)
  simp only [hpair, allSteps_forall]

/-- Alice has blocked Bob.  A view of an unblock that Bob's side initiated deletes
Alice's block, and so does Bob, as another local identity, by blocking Alice. -/
theorem block_lost_to_others :
    Held "alice" "bob" (toyStore [toyAction .block "alice" "bob" (some "r1") 1])
      ∧ (∀ listed, ¬ OwnUnblock "alice" "bob" (.report "alice" listed
          (toyView "none" (some "unblock") "remote" "bob" 2)))
      ∧ ¬ Held "alice" "bob" (after (RelationshipCall.reconcile "alice"
          [toyView "none" (some "unblock") "remote" "bob" 2]).program
            (toyStore [toyAction .block "alice" "bob" (some "r1") 1]))
      ∧ ¬ OwnUnblock "alice" "bob" (.action (toyAction .block "bob" "alice" (some "r2") 2))
      ∧ ¬ Held "alice" "bob" (after (RelationshipCall.action
          (toyAction .block "bob" "alice" (some "r2") 2)).program
            (toyStore [toyAction .block "alice" "bob" (some "r1") 1])) := by
  refine ⟨by decide +kernel, ?_, by decide +kernel, ?_, by decide +kernel⟩
  · rintro listed ⟨-, -, hinitiated, -⟩
    exact absurd hinitiated (by decide)
  · rintro ⟨haction, -⟩
    cases haction

end WattBlocks
