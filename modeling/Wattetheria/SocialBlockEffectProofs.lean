import Wattetheria.SocialBlockProofs

/-!
# When a block takes effect

A block action writes five things in a row: the request, the block, the
friendship, the thread and the outbound requests it settles.  Each has its own
transition rule, and the first one that refuses ends the action with the
statements before it in place.  `block_takes_effect_iff` says from which stores a block
goes through and leaves nothing of the relationship behind.
-/

namespace WattBlockEffect

open WattRows WattJournal Program WattSocial WattBlocks FriendRequestService

/-! ## What is asked of a block -/

variable (owner remote : String)

/-- A friendship of the pair that is `Active`. -/
def ActiveBetween (friendship : Friendship) : Prop :=
  friendship.localPublicId = owner ∧ friendship.remotePublicId = remote ∧ friendship.state = .active

/-- A thread of the pair that is `Ready`. -/
def ReadyBetween (thread : DirectThread) : Prop :=
  thread.localPublicId = owner ∧ thread.remotePublicId = remote ∧ thread.state = .ready

variable (request : FriendRequest)

/-- An outbound request of the pair that is `Pending`. -/
def PendingTo : Prop :=
  request.localPublicId = owner ∧ request.remotePublicId = remote
    ∧ request.direction = .outbound ∧ request.state = .pending

/-- Nothing of the relationship is left but the block. -/
@[mk_iff blocked_def] structure Blocked (owner remote : String) (s : Store) : Prop where
  held : Held owner remote s
  friendship : ∀ friendship ∈ s.friendships.rows, ¬ ActiveBetween owner remote friendship
  thread : ∀ thread ∈ s.threads.rows, ¬ ReadyBetween owner remote thread
  requests : ∀ request ∈ s.friendRequests.rows, ¬ PendingTo owner remote request

/-- The action returns `Ok(())` and leaves the pair blocked. -/
structure TakesEffect (input : PersistRelationshipActionInput) (s : Store) : Prop where
  ok : result (persistRelationshipAction input) s = .ok ()
  blocked : Blocked input.localPublicId input.counterpart.counterpartPublicId
    (after (persistRelationshipAction input) s)

/-! ## What a block action needs -/

variable (s : Store)

/-- The store as the request row of the action leaves it. -/
def withRequest (request : FriendRequest) : Store :=
  match storedRow s request with
  | none => s
  | some row => s.apply (.upsertFriendRequest row)

/-- No part of the action is refused. -/
@[mk_iff] structure GoesThrough (input : PersistRelationshipActionInput) (request : FriendRequest)
    (s : Store) : Prop where
  wellFormed : validateFriendRequest request = .ok ()
  undecided : ¬ Refused s request
  friendship : ∀ friendship,
    s.findFriendship input.localPublicId input.counterpart.counterpartPublicId
      = some friendship → friendship.state ≠ .removed
  thread : ∀ thread, s.findThread input.localPublicId input.counterpart.counterpartPublicId
      = some thread → thread.state ≠ .closed
  related : ∀ x ∈ settledNow (withRequest s request) input.localPublicId input.counterpart.ref,
    validateFriendRequest (settled .blocked "blocked" input.occurredAt x) = .ok ()

/-- Every row the block has to change is one it does change: the friendship and the
thread are stored under the ids of the pair, and the pending outbound requests are
still listed once the request of the action is stored. -/
@[mk_iff] structure Reaches (input : PersistRelationshipActionInput) (request : FriendRequest)
    (s : Store) : Prop where
  friendship : ∀ friendship ∈ s.friendships.rows,
    ActiveBetween input.localPublicId input.counterpart.counterpartPublicId friendship →
      friendship.friendshipId = actionFriendshipId input
  thread : ∀ thread ∈ s.threads.rows,
    ReadyBetween input.localPublicId input.counterpart.counterpartPublicId thread →
      thread.threadId = actionThreadId input
  requests : ∀ x ∈ (withRequest s request).friendRequests.rows,
    PendingTo input.localPublicId input.counterpart.counterpartPublicId x →
      x ∈ listedRequests (withRequest s request) input.localPublicId

section Congr

variable {s s' : Store}

lemma storedRow_congr (h : s'.friendRequests = s.friendRequests) (request : FriendRequest) :
    storedRow s' request = storedRow s request := by
  simp only [storedRow, Store.listFriendRequests, Store.ownFriendRequests, h]

lemma withRequest_congr (h : s'.friendRequests = s.friendRequests) (request : FriendRequest) :
    (withRequest s' request).friendRequests = (withRequest s request).friendRequests := by
  unfold withRequest
  rw [storedRow_congr h]
  cases storedRow s request with
  | none => exact h
  | some row => exact congrArg (Table.upsert row) h

lemma settledNow_congr (h : s'.friendRequests = s.friendRequests) (localId : String)
    (counterpart : FriendRequestCounterpartRef) :
    settledNow s' localId counterpart = settledNow s localId counterpart := by
  rw [settledNow, settledNow, listedRequests_congr h]

end Congr

/-! ## The five parts -/

lemma withRequest_others (request : FriendRequest) : (withRequest s request).blocks = s.blocks
      ∧ (withRequest s request).friendships = s.friendships
      ∧ (withRequest s request).threads = s.threads := by
  unfold withRequest
  cases storedRow s request <;> exact ⟨rfl, rfl, rfl⟩

lemma and_congr_of_imp {a a' b b' : Prop} (ha : a ↔ a') (hb : a → (b ↔ b')) : a ∧ b ↔ a' ∧ b' := by
  rw [← ha]
  exact and_congr_right hb

lemma after_upsertFriendRequest {request : FriendRequest} {s : Store}
    (hstate : request.state ≠ .pending) (hvalid : validateFriendRequest request = .ok ()) :
    after (upsertFriendRequest request) s = withRequest s request := by
  unfold after withRequest
  rw [writes_decided hstate hvalid]
  cases storedRow s request <;> rfl

lemma refuses_blocked {next existing : Friendship} (hnext : next.state = .blocked) :
    FriendshipService.refuses next existing = false ↔ existing.state ≠ .removed := by
  unfold FriendshipService.refuses Friendship.canTransitionTo Friendship.isReestablishedBy
  rw [hnext]
  cases existing.state <;> simp

lemma canTransitionTo_blocked {existing : DirectThread} :
    existing.canTransitionTo .blocked = true ↔ existing.state ≠ .closed := by
  unfold DirectThread.canTransitionTo
  cases existing.state <;> simp

section Parts

variable {input : PersistRelationshipActionInput} {requestId : String} {s : Store}

section Named

variable (hlocal : blank input.localPublicId = false)
  (hremote : blank input.counterpart.counterpartPublicId = false)

include hlocal hremote

lemma check_actionFriendship (state : FriendshipState) :
    FriendshipService.check (actionFriendship input requestId state) = .ok () := by
  rw [FriendshipService.check, check_bind_eq_ok, check_bind_eq_ok, refuseIf_eq_ok,
    refuseIf_eq_ok, refuseIf_eq_ok]
  exact ⟨blank_stablePairId (c := 'f') (by decide) (by decide) _ _,
    Bool.or_eq_false_iff.mpr ⟨hlocal, hremote⟩, decide_eq_false (lt_irrefl _)⟩

lemma check_actionThread (state : ThreadState) :
    ThreadService.check (actionThread input (actionThreadId input) state) = .ok () := by
  have hid : blank (actionThreadId input) = false :=
    blank_stablePairId (c := 'd') (by decide) (by decide) _ _
  rw [ThreadService.check, check_bind_eq_ok, check_bind_eq_ok, check_bind_eq_ok,
    check_bind_eq_ok, refuseIf_eq_ok, refuseIf_eq_ok, refuseIf_eq_ok, refuseIf_eq_ok,
    refuseIf_eq_ok]
  exact ⟨hid, Bool.or_eq_false_iff.mpr ⟨hlocal, hremote⟩, hid, decide_eq_false (lt_irrefl _), rfl⟩

lemma result_blockFriendship :
    result (FriendshipService.upsertFriendship (actionFriendship input requestId .blocked)) s
        = .ok () ↔ ∀ friendship,
        s.findFriendship input.localPublicId input.counterpart.counterpartPublicId
          = some friendship → friendship.state ≠ .removed := by
  rw [result_upsertFriendship_eq_ok, and_iff_right (check_actionFriendship hlocal hremote _)]
  exact forall_congr' fun _ => forall_congr' fun _ => refuses_blocked rfl

lemma result_blockThread :
    result (ThreadService.upsertThread (actionThread input (actionThreadId input) .blocked)) s
        = .ok () ↔ ∀ thread, s.findThread input.localPublicId input.counterpart.counterpartPublicId
          = some thread → thread.state ≠ .closed := by
  rw [result_upsertThread_eq_ok, and_iff_right (check_actionThread hlocal hremote _)]
  exact forall_congr' fun _ => forall_congr' fun _ => canTransitionTo_blocked

end Named

/-- What a block action leaves in each table. -/
structure Leaves (input : PersistRelationshipActionInput) (request : FriendRequest)
    (s s' : Store) : Prop where
  blocks : s'.blocks = s.blocks.upsert (actionBlock input)
  friendships : s'.friendships
    = s.friendships.upsert (actionFriendship input request.requestId .blocked)
  threads : s'.threads = s.threads.upsert (actionThread input (actionThreadId input) .blocked)
  requests : SettledRows (settledNow (withRequest s request) input.localPublicId
      input.counterpart.ref) .blocked (withRequest s request).friendRequests.rows
    s'.friendRequests.rows

lemma settle_of_same {s s' : Store} (hsame : s'.friendRequests = s.friendRequests)
    (hlocal : blank input.localPublicId = false) :
    (result (settleRelatedOutboundFriendRequests input.localPublicId input.counterpart.ref
          .blocked "blocked" input.occurredAt) s' = .ok ()
        ↔ ∀ x ∈ settledNow s input.localPublicId input.counterpart.ref,
          validateFriendRequest (settled .blocked "blocked" input.occurredAt x) = .ok ())
      ∧ (result (settleRelatedOutboundFriendRequests input.localPublicId input.counterpart.ref
          .blocked "blocked" input.occurredAt) s' = .ok () →
        SettledRows (settledNow s input.localPublicId input.counterpart.ref) .blocked
          s.friendRequests.rows
          (after (settleRelatedOutboundFriendRequests input.localPublicId input.counterpart.ref
            .blocked "blocked" input.occurredAt) s').friendRequests.rows) := by
  rw [← settledNow_congr hsame, ← hsame]
  exact settleRelatedOutbound_spec hlocal _ FriendRequestState.noConfusion _ _

/-- **THE BLOCK ACTION**: it returns `Ok(())` exactly when no part is refused. -/
lemma result_persistBlock_eq_ok : result (persistBlock input requestId) s = .ok ()
      ↔ GoesThrough input (actionRequest input requestId .inbound .blocked (some "blocked")) s := by
  rw [persistBlock, result_seq_eq_ok, result_upsertFriendRequest_eq_ok, and_assoc, goesThrough_iff]
  refine and_congr_right fun hvalid => and_congr_right fun _ => ?_
  obtain ⟨-, hlocal, hremote, -⟩ := validateFriendRequest_eq_ok.mp hvalid
  have hcheck := check_actionBlock hvalid
  obtain ⟨-, hfriendships, hthreads⟩ := withRequest_others s
    (actionRequest input requestId .inbound .blocked (some "blocked"))
  rw [after_upsertFriendRequest FriendRequestState.noConfusion hvalid, result_seq_eq_ok,
    result_upsertBlock_eq_ok, and_iff_right hcheck, after_upsertBlock hcheck, result_seq_eq_ok,
    ← findFriendship_congr hfriendships, ← findThread_congr hthreads]
  refine and_congr_of_imp (result_blockFriendship hlocal hremote) fun hfriendship => ?_
  rw [after_upsertFriendship hfriendship, result_seq_eq_ok]
  refine and_congr_of_imp (result_blockThread hlocal hremote) fun hthread => ?_
  rw [after_upsertThread hthread]
  refine (settle_of_same (s := withRequest s _) ?_ hlocal).1
  rfl

lemma leaves_persistBlock (hok : result (persistBlock input requestId) s = .ok ()) :
    Leaves input (actionRequest input requestId .inbound .blocked (some "blocked")) s
      (after (persistBlock input requestId) s) := by
  obtain ⟨hblocks, hfriendships, hthreads⟩ := withRequest_others s
    (actionRequest input requestId .inbound .blocked (some "blocked"))
  rw [persistBlock, result_seq_eq_ok] at hok
  obtain ⟨hrequest, hok⟩ := hok
  have hvalid := (result_upsertFriendRequest_eq_ok.mp hrequest).1
  obtain ⟨-, hlocal, hremote, -⟩ := validateFriendRequest_eq_ok.mp hvalid
  have hcheck := check_actionBlock hvalid
  rw [persistBlock, after_bind_ok hrequest]
  rw [after_upsertFriendRequest FriendRequestState.noConfusion hvalid] at hok ⊢
  rw [result_seq_eq_ok] at hok
  rw [after_bind_ok hok.1]
  rw [after_upsertBlock hcheck, result_seq_eq_ok] at hok
  obtain ⟨-, hfriendship, hok⟩ := hok
  rw [after_upsertBlock hcheck, after_bind_ok hfriendship]
  rw [after_upsertFriendship hfriendship, result_seq_eq_ok] at hok
  obtain ⟨hthread, hok⟩ := hok
  rw [after_upsertFriendship hfriendship, after_bind_ok hthread]
  rw [after_upsertThread hthread] at hok ⊢
  have hsettle : Touches input.localPublicId [.requests]
      (settleRelatedOutboundFriendRequests input.localPublicId input.counterpart.ref .blocked
        "blocked" input.occurredAt) := within_settleRelated
  refine ⟨?_, ?_, ?_, ?_⟩
  · rw [blocks_after (by decide) hsettle, ← hblocks]
    rfl
  · rw [friendships_after (by decide) hsettle, ← hfriendships]
    rfl
  · rw [threads_after (by decide) hsettle, ← hthreads]
    rfl
  · refine (settle_of_same (s := withRequest s _) ?_ hlocal).2 hok
    rfl

end Parts

/-! ## What is left of the relationship -/

section Left

variable {input : PersistRelationshipActionInput} {request : FriendRequest} {s s' : Store}

/-- An outbound request to the counterpart matches the keys the action settles by. -/
lemma settles_of_pendingTo {x : FriendRequest}
    (hremote : blank input.counterpart.counterpartPublicId = false)
    (h : PendingTo input.localPublicId input.counterpart.counterpartPublicId x) :
    settles (counterpartMatchKeys input.counterpart.ref) x = true := by
  obtain ⟨-, hto, hdirection, hstate⟩ := h
  have hkey : WattText.trim x.remotePublicId ∈ counterpartMatchKeys input.counterpart.ref := by
    rw [hto, counterpartMatchKeys, List.mem_filter]
    refine ⟨List.mem_cons_self, ?_⟩
    rw [Bool.not_eq_true']
    exact hremote
  rw [settles, hdirection, hstate, requestMatchesCounterpart, List.contains_iff_mem.mpr hkey]
  rfl

variable (h : Leaves input request s s')

include h

lemma held_of_leaves : Held input.localPublicId input.counterpart.counterpartPublicId s' := by
  rw [held_iff, h.blocks]
  refine ⟨_, Table.mem_upsert_landed (actionBlock input) s.blocks, ?_⟩
  unfold Table.landed
  split
  · exact ⟨rfl, rfl⟩
  · exact ⟨rfl, rfl⟩

lemma noPending_iff (hremote : blank input.counterpart.counterpartPublicId = false) :
    (∀ x ∈ s'.friendRequests.rows,
        ¬ PendingTo input.localPublicId input.counterpart.counterpartPublicId x)
      ↔ ∀ x ∈ (withRequest s request).friendRequests.rows,
        PendingTo input.localPublicId input.counterpart.counterpartPublicId x →
          x ∈ listedRequests (withRequest s request) input.localPublicId := by
  constructor
  · intro hnone x hx hpending
    by_contra hunlisted
    refine hnone x (h.requests.kept x hx fun y hy hid => hunlisted ?_) hpending
    have hy' := (List.mem_filter.mp hy).1
    rwa [Table.eq_of_key hx (mem_listedRequests hy').1 hid]
  · intro hlisted x hx hpending
    rcases h.requests.only x hx with ⟨hx, hids⟩ | ⟨-, -, -, hstate⟩
    · exact hids x (List.mem_filter.mpr ⟨hlisted x hx hpending,
        settles_of_pendingTo hremote hpending⟩) rfl
    · cases hstate.symm.trans hpending.2.2.2

lemma blocked_iff (hremote : blank input.counterpart.counterpartPublicId = false) :
    Blocked input.localPublicId input.counterpart.counterpartPublicId s'
      ↔ Reaches input request s := by
  rw [blocked_def, reaches_iff, and_iff_right (held_of_leaves h), h.friendships, h.threads,
    Table.none_upsert_iff, Table.none_upsert_iff, noPending_iff h hremote]
  · exact Iff.rfl
  -- neither row that the block stores is in the way
  · unfold Table.landed
    split
    · exact fun hready => nomatch hready.2.2
    · exact fun hready => nomatch hready.2.2
  · unfold Table.landed
    split
    · exact fun hactive => nomatch hactive.2.2
    · exact fun hactive => nomatch hactive.2.2

end Left

/-! ## When a block takes effect -/

section Cached

variable {input : PersistRelationshipActionInput} {request : FriendRequest} {s : Store}

lemma refused_congr {s s' : Store} (h : s'.friendRequests = s.friendRequests)
    (request : FriendRequest) : Refused s' request ↔ Refused s request := by
  simp only [Refused, Store.listFriendRequests, Store.ownFriendRequests, h]

variable (snapshot : CounterpartSnapshot)

lemma goesThrough_cached : GoesThrough input request (after (cacheCounterpart snapshot) s)
      ↔ GoesThrough input request s := by
  have hrequests := friendRequests_cache snapshot s
  rw [goesThrough_iff, goesThrough_iff, refused_congr hrequests,
    findFriendship_congr (friendships_cache snapshot s),
    findThread_congr (threads_cache snapshot s),
    settledNow_congr (withRequest_congr hrequests request)]

lemma reaches_cached :
    Reaches input request (after (cacheCounterpart snapshot) s) ↔ Reaches input request s := by
  have hrequests := withRequest_congr (friendRequests_cache snapshot s) request
  rw [reaches_iff, reaches_iff, friendships_cache, threads_cache, hrequests,
    listedRequests_congr hrequests]

end Cached

/-- A block from which nothing is left over. -/
structure Effective (input : PersistRelationshipActionInput) (s : Store) : Prop where
  cached : result (cacheCounterpart input.counterpart) s = .ok ()
  goes : GoesThrough input (blockedRequest input s) s
  reaches : Reaches input (blockedRequest input s) s

/-- **A BLOCK TAKES EFFECT** exactly when no part of it is refused and every row it has
to change is stored or listed where it looks. -/
theorem block_takes_effect_iff (input : PersistRelationshipActionInput) (s : Store)
    (hblock : input.action = .block) : TakesEffect input s ↔ Effective input s := by
  have hresult : result (persistRelationshipAction input) s = .ok ()
      ↔ result (cacheCounterpart input.counterpart) s = .ok ()
        ∧ GoesThrough input (blockedRequest input s) s := by
    rw [persistRelationshipAction, result_seq_eq_ok, result_read_bind,
      actionRequestId_congr (friendRequests_cache _ _), persistAction, hblock]
    exact and_congr_right' (result_persistBlock_eq_ok.trans (goesThrough_cached _))
  have hblocked : result (cacheCounterpart input.counterpart) s = .ok () →
      GoesThrough input (blockedRequest input s) s →
      (Blocked input.localPublicId input.counterpart.counterpartPublicId
          (after (persistRelationshipAction input) s)
        ↔ Reaches input (blockedRequest input s) s) := by
    intro hcached hgoes
    obtain ⟨-, -, hremote, -⟩ := validateFriendRequest_eq_ok.mp hgoes.wellFormed
    rw [after_persistRelationshipAction hcached, persistAction, hblock,
      ← reaches_cached input.counterpart]
    refine blocked_iff (leaves_persistBlock (result_persistBlock_eq_ok.mpr ?_)) hremote
    exact (goesThrough_cached _).mpr hgoes
  constructor
  · rintro ⟨hok, heffect⟩
    obtain ⟨hcached, hgoes⟩ := hresult.mp hok
    exact ⟨hcached, hgoes, (hblocked hcached hgoes).mp heffect⟩
  · rintro ⟨hcached, hgoes, hreaches⟩
    exact ⟨hresult.mpr ⟨hcached, hgoes⟩, (hblocked hcached hgoes).mpr hreaches⟩

/-- Alice and Bob are friends, and Alice has asked once more. -/
def friends : Store :=
  toyStore [toyAction .accept "alice" "bob" (some "r1") 1,
    toyAction .request "alice" "bob" (some "r3") 3]

/-- A block that takes an active friendship, its thread and a pending request with it. -/
theorem block_takes_effect_friends : friends.friendships.rows.map (·.state) = [.active]
    ∧ friends.threads.rows.map (·.state) = [.ready]
    ∧ friends.friendRequests.rows.map (·.state) = [.accepted, .pending]
    ∧ TakesEffect (toyAction .block "alice" "bob" (some "r4") 4) friends := by
  have hfriendship : ∀ friendship ∈ friends.findFriendship "alice" "bob",
      friendship.state ≠ .removed := by decide +kernel
  have hthread : ∀ thread ∈ friends.findThread "alice" "bob", thread.state ≠ .closed := by
    decide +kernel
  refine ⟨by decide +kernel, by decide +kernel, by decide +kernel,
    (block_takes_effect_iff _ _ rfl).mpr ⟨by decide +kernel, ⟨by decide +kernel, ?_, hfriendship,
      hthread, by decide +kernel⟩, ?_, ?_, ?_⟩⟩
  · rintro ⟨existing, hfind, -⟩
    have hnone : (friends.listFriendRequests "alice").find? (fun item => item.requestId = "r4")
        = none := by decide +kernel
    cases hnone.symm.trans hfind
  · simp only [ActiveBetween]
    decide +kernel
  · simp only [ReadyBetween]
    decide +kernel
  · simp only [PendingTo]
    decide +kernel

/-- Alice has accepted Bob and blocks them: the accepted request refuses, and nothing is
blocked.  Alice has asked Bob to be a friend and blocks them under another request
id: the blocked request hides the pending one, which stays pending. -/
theorem block_without_effect : ¬ TakesEffect (toyAction .block "alice" "bob" none 2)
        (toyStore [toyAction .accept "alice" "bob" (some "r1") 1])
      ∧ result (persistRelationshipAction (toyAction .block "alice" "bob" none 2))
          (toyStore [toyAction .accept "alice" "bob" (some "r1") 1])
        = .error (.conflict "invalid friend request transition: Accepted -> Blocked")
      ∧ ¬ Held "alice" "bob" (toyStore [toyAction .accept "alice" "bob" (some "r1") 1,
          toyAction .block "alice" "bob" none 2])
      ∧ ¬ TakesEffect (toyAction .block "alice" "bob" (some "r2") 2)
        (toyStore [toyAction .request "alice" "bob" (some "r1") 1])
      ∧ result (persistRelationshipAction (toyAction .block "alice" "bob" (some "r2") 2))
          (toyStore [toyAction .request "alice" "bob" (some "r1") 1]) = .ok ()
      ∧ ((toyStore [toyAction .request "alice" "bob" (some "r1") 1,
          toyAction .block "alice" "bob" (some "r2") 2]).friendRequests.rows.map
            fun request => (request.requestId, request.direction, request.state))
        = [("r1", .outbound, .pending), ("r2", .inbound, .blocked)] := by
  have haccepted : result (persistRelationshipAction (toyAction .block "alice" "bob" none 2))
      (toyStore [toyAction .accept "alice" "bob" (some "r1") 1])
        = .error (.conflict "invalid friend request transition: Accepted -> Blocked") := by
    decide +kernel
  have hpending : ∃ request ∈ (toyStore [toyAction .request "alice" "bob" (some "r1") 1,
      toyAction .block "alice" "bob" (some "r2") 2]).friendRequests.rows,
        request.localPublicId = "alice" ∧ request.remotePublicId = "bob"
          ∧ request.direction = .outbound ∧ request.state = .pending := by
    decide +kernel
  refine ⟨fun h => ?_, haccepted, by decide +kernel, fun h => ?_, by decide +kernel,
    by decide +kernel⟩
  · cases haccepted.symm.trans h.ok
  · obtain ⟨request, hmem, howner, hremote, hdirection, hstate⟩ := hpending
    exact h.blocked.requests request hmem ⟨howner, hremote, hdirection, hstate⟩

end WattBlockEffect
