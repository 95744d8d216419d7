import Wattetheria.SocialBlockEffectProofs

/-!
# What an unblock gives back

A block leaves its traces in four tables, and an unblock deletes one row: the
block.  A blocked request of the pair shuts out new pending ones (`listedPending_iff`), and a
blocked friendship never becomes active again, whatever the calls do
(`unblock_lifts_only_the_block`).
-/

namespace WattUnblock

open WattRuns WattRows WattJournal Program WattSocial WattBlocks WattBlockEffect List
  FriendRequestService FriendshipService Table

/-! ## Calls -/

/-- The calls that make up the life of a store. -/
inductive SocialCall where
  | relationship (call : RelationshipCall)
  | dmThreads (localId : String) (views : List DmThreadSyncView)
  | dmMessage (input : PersistDmMessageInput)

namespace SocialCall

def program : SocialCall → Social Unit
  | .relationship call => call.program
  | .dmThreads localId views => reconcileDmThreads localId views
  | .dmMessage input => persistDmMessage input

/-- The pairs a call is about. -/
def pairs : SocialCall → List (String × String)
  | .relationship (.action input) =>
    [(input.localPublicId, input.counterpart.counterpartPublicId)]
  | .relationship (.reconcile localId views) =>
    views.map fun view => (localId, view.counterpart.counterpartPublicId)
  | .dmThreads _ _ | .dmMessage _ => []

end SocialCall

variable (s : Store)

/-- The store after a call, whether it succeeds or not. -/
def proceed (call : SocialCall) : Store := after call.program s

/-! ## What the calls do to the friendships -/

/-- An invariant of the friendships that every allowed upsert keeps; the removal of a row
that is there is allowed. -/
structure FriendshipInvariant (allowed : Friendship → Prop) (I : Store → Prop) : Prop where
  only : ∀ {s s' : Store}, s'.friendships = s.friendships → I s → I s'
  rows : ∀ {s : Store}, I s → ∀ row ∈ s.friendships.rows, ∀ friendship : Friendship,
    friendship.friendshipId = row.friendshipId → friendship.localPublicId = row.localPublicId →
      friendship.remotePublicId = row.remotePublicId → friendship.state = .removed →
        allowed friendship
  kept : ∀ {friendship : Friendship}, allowed friendship → Keeps I (upsertFriendship friendship)

section Keeps

lemma listFriendships_eq_ok {s : Store} {localId : String} {items : List Friendship}
    (h : listFriendships s localId = .ok items) :
    ∀ friendship ∈ items, friendship ∈ s.friendships.rows ∧ friendship.localPublicId = localId := by
  rw [← (refuseIf_return.mp h).2]
  exact fun friendship hmem => Store.mem_listFriendships.mp hmem

variable {allowed : Friendship → Prop} {I : Store → Prop}
  (h : FriendshipInvariant allowed I)

include h

lemma keeps_elsewhere {owner : String} {parts : List Part}
    {α : Type} {p : Social α} (hparts : Part.friendships ∉ parts)
    (hp : Touches owner parts p) : Keeps I p :=
  fun s hs => h.only (friendships_after hparts hp s) hs

lemma keeps_markCounterpart {counterpart : String} {active : Bool} {updatedAt : Int} :
    Keeps I (markCounterpartIdentityState counterpart active updatedAt) := by
  have hmark : Touches "" [.counterparts]
      (markCounterpartIdentityState counterpart active updatedAt) :=
    within_markCounterpart
  exact keeps_elsewhere h (by decide) hmark

lemma keeps_clearRetry {requestId : String} : Keeps I (clearFriendRequestRetry requestId) := by
  have hclear : Touches "" [.requests] (clearFriendRequestRetry requestId) :=
    within_clearRetry
  exact keeps_elsewhere h (by decide) hclear

section View

variable {localId : String} {view : RelationshipSyncView} {facts : ViewFacts}
  {listed : List FriendRequest}

lemma keeps_retireAliasFriendships {canonical node requestId : String} {updatedAt : Int} :
    Keeps I (retireAliasFriendships localId canonical node requestId updatedAt) := by
  refine keeps_read_bind fun store hstore => keeps_ofExcept_bind fun items hitems => ?_
  refine keeps_forEach fun friendship hfriendship => h.kept ?_
  exact h.rows hstore friendship
    (listFriendships_eq_ok hitems friendship (mem_filter.mp hfriendship).1).1 _ rfl rfl rfl rfl

/-- A removal is of the friendship it found, or of one under the id of the pair. -/
lemma allowed_removed {s : Store} (hs : I s) {friendshipId : String} {items : List Friendship}
    {row : Friendship} (hitems : listFriendships s row.localPublicId = .ok items)
    (hid : row.friendshipId = ((items.find? fun friendship =>
      friendship.remotePublicId = row.remotePublicId).map (·.friendshipId)).getD friendshipId)
    (hstate : row.state = .removed) (hallowed : row.friendshipId = friendshipId → allowed row) :
    allowed row := by
  cases hfind : items.find? fun friendship => friendship.remotePublicId = row.remotePublicId with
  | none =>
    rw [hfind] at hid
    exact hallowed hid
  | some friendship =>
    rw [hfind] at hid
    obtain ⟨hmem, howner⟩ :=
      listFriendships_eq_ok hitems friendship (mem_of_find?_eq_some hfind)
    have hremote : friendship.remotePublicId = row.remotePublicId := by
      simpa using List.find?_some hfind
    exact h.rows hs friendship hmem row hid howner.symm hremote.symm hstate

section Allowed

variable (hrow : ∀ row : Friendship, row.friendshipId = facts.friendshipId →
  row.localPublicId = localId → row.remotePublicId = view.counterpart.counterpartPublicId →
    (row.state = .active → view.relationshipState = "accepted") → allowed row)

include hrow

lemma keeps_applyAccepted (hstate : view.relationshipState = "accepted") :
    Keeps I (applyAccepted localId view facts listed) := by
  refine keeps_bind (keeps_elsewhere h (by decide) within_acceptRelated) fun _ => ?_
  refine keeps_read_bind fun store _ => keeps_ite (keeps_pure ()) ?_
  refine keeps_bind (keeps_retireAliasFriendships h) fun _ => ?_
  refine keeps_bind (keeps_elsewhere h (by decide) within_viewRequest) fun _ => ?_
  refine keeps_bind (keeps_forgive (h.kept (hrow _ rfl rfl rfl fun _ => hstate))) fun _ => ?_
  refine keeps_bind (keeps_elsewhere h (by decide)
    within_reopenThreadOfActiveFriendship) fun _ => ?_
  exact keeps_bind (keeps_markCounterpart h) fun _ =>
    keeps_clearRetry h

lemma keeps_applyBlocked : Keeps I (applyBlocked localId view facts) := by
  refine keeps_bind (keeps_elsewhere h (by decide) within_viewRequest) fun _ => ?_
  have hblock : Touches localId [.blocks] (onlyIf (view.initiatedBy = "local")
      (ignoreConflict (BlockService.upsertBlock (viewBlock localId view facts)))) :=
    allWrites_onlyIf (allWrites_forgive (within_upsertBlock rfl))
  refine keeps_bind (keeps_elsewhere h (by decide) hblock) fun _ => ?_
  refine keeps_bind (keeps_forgive (h.kept (hrow _ rfl rfl rfl (nofun)))) fun _ => ?_
  refine keeps_bind (keeps_elsewhere h (by decide) within_settleRelated) fun _ => ?_
  exact keeps_clearRetry h

lemma keeps_applyRemoved : Keeps I (applyRemoved localId view facts) := by
  refine keeps_read_bind fun store hstore => keeps_ofExcept_bind fun items hitems => ?_
  refine keeps_ite (keeps_pure ()) (keeps_ofExcept_bind fun thread _ => ?_)
  refine keeps_bind (keeps_forgive (h.kept (allowed_removed h hstore hitems rfl rfl fun hid =>
    hrow _ hid rfl rfl (nofun)))) fun _ => ?_
  have hthread : Touches localId [.threads] (ignoreConflict
      (ThreadService.upsertThread (closedThread localId view facts (items.find? fun friendship =>
          friendship.remotePublicId = view.counterpart.counterpartPublicId) thread))) :=
    allWrites_forgive (within_upsertThreadChecked rfl)
  exact keeps_bind (keeps_elsewhere h (by decide) hthread) fun _ =>
    keeps_markCounterpart h

lemma keeps_applyView : Keeps I (applyView localId view facts listed) := by
  unfold applyView
  split
  · exact keeps_elsewhere h (by decide) within_viewRequest
  · next hstate => exact keeps_applyAccepted h hrow hstate
  · exact keeps_elsewhere h (by decide) within_applyRejected
  · exact keeps_applyBlocked h hrow
  · exact keeps_applyRemoved h hrow
  · exact keeps_elsewhere h (by decide) within_applyCancelled
  · exact keeps_elsewhere h (by decide) within_applyUnblocked
  · exact keeps_pure ()

end Allowed

end View

section Action

variable {input : PersistRelationshipActionInput} {requestId : String}
  (hrow : ∀ row : Friendship, row.friendshipId = actionFriendshipId input →
    row.localPublicId = input.localPublicId →
      row.remotePublicId = input.counterpart.counterpartPublicId → allowed row)

include hrow

lemma keeps_persistAccept : Keeps I (persistAccept input requestId) := by
  refine keeps_bind (keeps_elsewhere h (by decide) (within_upsertFriendRequest rfl)) fun _ => ?_
  refine keeps_bind (h.kept (hrow _ rfl rfl rfl)) fun _ => ?_
  refine keeps_bind (keeps_elsewhere h (by decide) (within_upsertThreadChecked rfl)) fun _ => ?_
  refine keeps_bind (keeps_markCounterpart h) fun _ => ?_
  exact keeps_elsewhere h (by decide) within_acceptRelated

lemma keeps_persistRemove : Keeps I (persistRemove input) := by
  refine keeps_read_bind fun store hstore => keeps_ofExcept_bind fun items hitems => ?_
  refine keeps_bind (h.kept (allowed_removed h hstore hitems rfl rfl fun hid =>
    hrow _ hid rfl rfl)) fun _ => ?_
  refine keeps_bind (keeps_elsewhere h (by decide) (within_upsertThreadChecked rfl)) fun _ => ?_
  exact keeps_markCounterpart h

lemma keeps_persistBlock : Keeps I (persistBlock input requestId) := by
  refine keeps_bind (keeps_elsewhere h (by decide) (within_upsertFriendRequest rfl)) fun _ => ?_
  refine keeps_bind (keeps_elsewhere h (by decide) (within_upsertBlock rfl)) fun _ => ?_
  refine keeps_bind (h.kept (hrow _ rfl rfl rfl)) fun _ => ?_
  refine keeps_bind (keeps_elsewhere h (by decide) (within_upsertThreadChecked rfl)) fun _ => ?_
  exact keeps_elsewhere h (by decide) within_settleRelated

lemma keeps_persistRelationshipAction : Keeps I (persistRelationshipAction input) := by
  have hcache : Touches "" [.counterparts] (cacheCounterpart input.counterpart) :=
    within_cache
  refine keeps_bind (keeps_elsewhere h (by decide) hcache) fun _ => keeps_read_bind fun _ _ => ?_
  unfold persistAction
  split
  · exact keeps_elsewhere h (by decide) (within_upsertFriendRequest rfl)
  · exact keeps_persistAccept h hrow
  · exact keeps_elsewhere h (by decide) within_persistReject
  · exact keeps_elsewhere h (by decide) (within_upsertFriendRequest rfl)
  · exact keeps_persistRemove h hrow
  · exact keeps_persistBlock h hrow
  · exact keeps_elsewhere h (by decide) within_removeBlock

end Action

/-- The id a friendship of the pair is stored under. -/
def pairId (pair : String × String) : String := stablePairId "friendship" pair.1 pair.2

/-- **ONE CALL** keeps every invariant that allows the friendships of its pairs. -/
lemma keeps_program (call : SocialCall)
    (hpairs : ∀ pair ∈ call.pairs, ∀ row : Friendship, row.friendshipId = pairId pair →
      row.localPublicId = pair.1 → row.remotePublicId = pair.2 → allowed row) :
    Keeps I call.program := by
  cases call with
  | relationship call =>
    cases call with
    | action input =>
      exact keeps_persistRelationshipAction h
        (hpairs (input.localPublicId, input.counterpart.counterpartPublicId) mem_cons_self)
    | reconcile localId views =>
      refine keeps_read_bind fun store _ => keeps_forEach fun view hview => ?_
      refine keeps_bind (keeps_elsewhere h (by decide) (within_cached view.counterpart)) fun _ => ?_
      refine keeps_read_bind fun _ _ => keeps_ofExcept_bind fun _ _ => keeps_applyView h ?_
      exact fun row hid howner hremote _ =>
        hpairs (localId, view.counterpart.counterpartPublicId) (mem_map_of_mem hview) row hid howner
          hremote
  | dmThreads localId views =>
    exact keeps_elsewhere h (by decide) within_reconcileDmThreads
  | dmMessage input => exact keeps_elsewhere h (by decide) within_persistDmMessage

end Keeps

/-! ## A blocked friendship stays blocked -/

/-- Every friendship is stored under the id of its pair. -/
def Keyed : Prop :=
  ∀ friendship ∈ s.friendships.rows, friendship.friendshipId
    = pairId (friendship.localPublicId, friendship.remotePublicId)

variable (owner remote : String) {friendship : Friendship}

/-- The friendship of the pair is `Blocked`. -/
def BlockedBetween (s : Store) : Prop :=
  ∃ friendship ∈ s.friendships.rows, friendship.localPublicId = owner
    ∧ friendship.remotePublicId = remote ∧ friendship.state = .blocked

/-- The id and the pair of the row that landed are those of the row that was given. -/
lemma landed_friendship (friendship : Friendship) (t : Table Friendship) :
    (landed friendship t).friendshipId = friendship.friendshipId
      ∧ (landed friendship t).localPublicId = friendship.localPublicId
      ∧ (landed friendship t).remotePublicId = friendship.remotePublicId
      ∧ (landed friendship t).state = friendship.state := by
  unfold landed
  split
  · exact ⟨rfl, rfl, rfl, rfl⟩
  · exact ⟨rfl, rfl, rfl, rfl⟩

lemma keyed_upsert {s : Store} (hs : Keyed s) (hid : friendship.friendshipId
      = pairId (friendship.localPublicId, friendship.remotePublicId)) :
    Keyed (s.apply (.upsertFriendship friendship)) := by
  intro row hrow
  rcases mem_upsert.mp hrow with rfl | ⟨hrow, -⟩
  · obtain ⟨hrow, howner, hremote, -⟩ := landed_friendship friendship s.friendships
    rw [hrow, howner, hremote]
    exact hid
  · exact hs row hrow

lemma keeps_upsertFriendship {I : Store → Prop}
    (h : ∀ s, I s → result (upsertFriendship friendship) s = .ok () →
      I (s.apply (.upsertFriendship friendship))) : Keeps I (upsertFriendship friendship) :=
  keeps_checked h

lemma keyed_invariant : FriendshipInvariant
      (fun row => row.friendshipId = pairId (row.localPublicId, row.remotePublicId)) Keyed where
  only := by
    intro s s' hsame hs
    unfold Keyed
    rw [hsame]
    exact hs
  rows hs row hmem friendship hid howner hremote _ := by
    rw [hid, howner, hremote, hs row hmem]
  kept hid := keeps_upsertFriendship fun _ hs _ => keyed_upsert hs hid

section Sticky

variable {owner remote : String} {friendship : Friendship}

lemma findFriendship_of_blocked {s : Store} (hkeyed : Keyed s)
    (hblocked : BlockedBetween owner remote s) :
    ∃ friendship, s.findFriendship owner remote = some friendship
      ∧ friendship.state = .blocked := by
  obtain ⟨row, hrow, rfl, rfl, hstate⟩ := hblocked
  cases hfind : s.findFriendship row.localPublicId row.remotePublicId with
  | none =>
    have hnone := List.find?_eq_none.mp hfind row hrow
    simp at hnone
  | some found =>
    obtain ⟨hmem, howner, hremote⟩ := Store.findFriendship_some hfind
    have hkey : found.friendshipId = row.friendshipId := by
      rw [hkeyed found hmem, hkeyed row hrow, howner, hremote]
    rw [eq_of_key hmem hrow hkey]
    exact ⟨row, rfl, hstate⟩

lemma pair_of_id {s : Store} (hkeyed : Keyed s) (hblocked : BlockedBetween owner remote s)
    (hmem : friendship ∈ s.friendships.rows)
    (hid : friendship.friendshipId = pairId (owner, remote)) :
    friendship.localPublicId = owner ∧ friendship.remotePublicId = remote := by
  obtain ⟨row, hrow, rfl, rfl, -⟩ := hblocked
  rw [eq_of_key hmem hrow (hid.trans (hkeyed row hrow).symm)]
  exact ⟨rfl, rfl⟩

lemma state_of_not_refused {next existing : Friendship} (hstate : existing.state = .blocked)
    (h : refuses next existing = false) : next.state = .blocked := by
  unfold refuses Friendship.canTransitionTo Friendship.isReestablishedBy at h
  rw [hstate] at h
  cases hnext : next.state <;> rw [hnext] at h <;> simp at h

lemma blocked_upsert {s : Store} (hkeyed : Keyed s) (hblocked : BlockedBetween owner remote s)
    (hid : friendship.friendshipId = pairId (owner, remote) →
      friendship.localPublicId = owner ∧ friendship.remotePublicId = remote)
    (hok : result (upsertFriendship friendship) s = .ok ()) :
    BlockedBetween owner remote (s.apply (.upsertFriendship friendship)) := by
  by_cases hsame : friendship.friendshipId = pairId (owner, remote)
  · obtain ⟨rfl, rfl⟩ := hid hsame
    obtain ⟨existing, hfind, hstate⟩ := findFriendship_of_blocked hkeyed hblocked
    have hrefuses := (result_upsertFriendship_eq_ok.mp hok).2 existing hfind
    obtain ⟨-, howner, hremote, hlanded⟩ := landed_friendship friendship s.friendships
    exact ⟨_, mem_upsert_landed friendship s.friendships, howner, hremote,
      hlanded.trans (state_of_not_refused hstate hrefuses)⟩
  · obtain ⟨row, hrow, rfl, rfl, hstate⟩ := hblocked
    refine ⟨row, mem_upsert.mpr (.inr ⟨hrow, fun hkey => hsame ?_⟩), rfl, rfl, hstate⟩
    exact hkey.symm.trans (hkeyed row hrow)

/-- A blocked friendship survives every upsert that is not of another pair under the
same id. -/
lemma blocked_invariant : FriendshipInvariant
      (fun row => row.friendshipId = pairId (row.localPublicId, row.remotePublicId)
        ∧ (row.friendshipId = pairId (owner, remote) →
          row.localPublicId = owner ∧ row.remotePublicId = remote))
      (fun s => Keyed s ∧ BlockedBetween owner remote s) where
  only := by
    intro s s' hsame hs
    unfold Keyed BlockedBetween
    rw [hsame]
    exact hs
  rows hs row hmem friendship hid howner hremote _ := by
    rw [hid, howner, hremote]
    exact ⟨hs.1 row hmem, pair_of_id hs.1 hs.2 hmem⟩
  kept hallowed := keeps_upsertFriendship fun _ hs hok =>
    ⟨keyed_upsert hs.1 hallowed.1, blocked_upsert hs.1 hs.2 hallowed.2 hok⟩

/-- The calls of the run are about the pair itself or about pairs whose friendship has
another id. -/
def Apart (owner remote : String) (calls : List SocialCall) : Prop :=
  ∀ call ∈ calls, ∀ pair ∈ call.pairs, pairId pair = pairId (owner, remote) → pair = (owner, remote)

lemma keyed_run (calls : List SocialCall) : Keyed (run proceed Store.empty calls) := by
  have hempty : Keyed Store.empty := by
    intro friendship hmem
    cases hmem
  refine inv_run (fun s call hs _ => ?_) hempty (allSteps_true Store.empty calls)
  refine keeps_program keyed_invariant call (fun pair _ row hid howner hremote => ?_) s hs
  rw [hid, howner, hremote]

/-- **EVERY RUN**: a blocked friendship is blocked ever after. -/
lemma blocked_run {s : Store} (hkeyed : Keyed s) (hblocked : BlockedBetween owner remote s)
    {calls : List SocialCall} (hapart : Apart owner remote calls) :
    Keyed (run proceed s calls) ∧ BlockedBetween owner remote (run proceed s calls) := by
  refine inv_run (P := fun s => Keyed s ∧ BlockedBetween owner remote s)
    (fun s call hs hcall => ?_) ⟨hkeyed, hblocked⟩ (allSteps_of_forall hapart s)
  refine keeps_program blocked_invariant call (fun pair hpair row hid howner hremote => ?_) s hs
  rw [hid, howner, hremote]
  exact ⟨rfl, fun hsame => Prod.mk.inj (hcall pair hpair hsame)⟩

end Sticky

/-! ## A request under a new id -/

/-- A listed request of the pair that lets no new one be pending. -/
def ShutOut (s : Store) : Prop :=
  ∃ item ∈ s.listFriendRequests owner, item.remotePublicId = remote
    ∧ blocksNewPendingRequest item.state = true

/-- The request is listed as `Pending`. -/
def ListedPending (owner remote requestId : String) (s : Store) : Prop :=
  ∃ request ∈ listedRequests s owner, request.requestId = requestId
    ∧ request.remotePublicId = remote ∧ request.state = .pending

/-- No request is stored under the id. -/
def Fresh (requestId : String) (s : Store) : Prop :=
  ∀ request ∈ s.friendRequests.rows, request.requestId ≠ requestId

section NewRequest

open FriendRequestService

/-- A request is listed if it is decided, or the only pending one of its pair and direction
and its pair is not shut out. -/
lemma mem_keepFirstPending {blocking : List (String × String)} {request : FriendRequest} :
    ∀ (items : List FriendRequest) (seen : List (String × String × FriendRequestDirection)),
      request ∈ items →
      (request.state = .pending → (request.localPublicId, request.remotePublicId) ∉ blocking
          ∧ (request.localPublicId, request.remotePublicId, request.direction) ∉ seen
          ∧ ∀ item ∈ items, item.state = .pending →
            (item.localPublicId, item.remotePublicId, item.direction)
              = (request.localPublicId, request.remotePublicId, request.direction) →
            item = request) → request ∈ keepFirstPending blocking seen items := by
  intro items
  induction items with
  | nil => intro seen hmem; cases hmem
  | cons item items ih =>
    intro seen hmem hopen
    by_cases heq : request = item
    · subst heq
      unfold keepFirstPending
      split
      · exact mem_cons_self
      · next hpending =>
          obtain ⟨hfree, hseen, -⟩ := hopen (not_not.mp hpending)
          rw [if_neg hfree, if_neg hseen]
          exact mem_cons_self
    · have hrest := (mem_cons.mp hmem).resolve_left heq
      have hopen' : ∀ seen', (∀ key ∈ seen', key ∈ seen ∨ item.state = .pending
          ∧ key = (item.localPublicId, item.remotePublicId, item.direction)) →
          request ∈ keepFirstPending blocking seen' items := by
        intro seen' hseen'
        refine ih seen' hrest fun hpending => ?_
        obtain ⟨hfree, hseen, honly⟩ := hopen hpending
        obtain ⟨hitem, honly⟩ := forall_mem_cons.mp honly
        refine ⟨hfree, fun hkey => ?_, honly⟩
        rcases hseen' _ hkey with hkey | ⟨hitemPending, hkey⟩
        · exact hseen hkey
        · exact heq (hitem hitemPending hkey.symm).symm
      unfold keepFirstPending
      split
      · exact mem_cons_of_mem _ (hopen' seen fun _ hkey => .inl hkey)
      · next hpending =>
          split
          · exact hopen' seen fun _ hkey => .inl hkey
          · split
            · exact hopen' seen fun _ hkey => .inl hkey
            · refine mem_cons_of_mem _ (hopen' _ fun key hkey => ?_)
              rcases mem_cons.mp hkey with hkey | hkey
              · exact .inr ⟨not_not.mp hpending, hkey⟩
              · exact .inl hkey

section Pending

variable {request : FriendRequest} {s : Store}

lemma sameIdentityPair_iff {item : FriendRequest} :
    sameIdentityPair item request = true ↔ item.localPublicId = request.localPublicId
      ∧ item.remotePublicId = request.remotePublicId := by
  rw [sameIdentityPair, Bool.and_eq_true, decide_eq_true_eq, decide_eq_true_eq]

lemma coalesce_of_shutOut (hpending : request.state = .pending)
    (h : ShutOut request.localPublicId request.remotePublicId s) :
    coalesceFriendRequest (s.existing request) request = none := by
  obtain ⟨item, hitem, hremote, hblocks⟩ := h
  unfold coalesceFriendRequest
  rw [if_pos hpending, if_pos]
  refine any_eq_true.mpr ⟨item, hitem, ?_⟩
  rw [Bool.and_eq_true, sameIdentityPair_iff]
  exact ⟨⟨(Store.mem_listFriendRequests.mp hitem).2.1, hremote⟩, hblocks⟩

lemma coalesce_of_free (hpending : request.state = .pending) (hfresh : Fresh request.requestId s)
    (h : ¬ ShutOut request.localPublicId request.remotePublicId s) :
    coalesceFriendRequest (s.existing request) request = some request := by
  unfold coalesceFriendRequest
  rw [if_pos hpending, if_neg]
  · have hfind : (s.existing request).find? (fun item =>
        item.requestId = request.requestId && sameRequestPair item request
          && item.state = .pending) = none := by
      rw [List.find?_eq_none]
      intro item hitem
      have hid := hfresh item (Store.mem_listFriendRequests.mp hitem).1
      simp [hid]
    rw [hfind]
  · intro hany
    obtain ⟨item, hitem, hblocks⟩ := any_eq_true.mp hany
    rw [Bool.and_eq_true, sameIdentityPair_iff] at hblocks
    exact h ⟨item, hitem, hblocks.1.2, hblocks.2⟩

lemma find_fresh (hfresh : Fresh request.requestId s) : (s.existing request).find?
      (fun item => item.requestId = request.requestId) = none := by
  rw [List.find?_eq_none]
  intro item hitem
  have hid := hfresh item (Store.mem_listFriendRequests.mp hitem).1
  simp [hid]

lemma storedRow_fresh (hfresh : Fresh request.requestId s) :
    storedRow s request = coalesceFriendRequest (s.existing request) request := by
  rw [storedRow, find_fresh hfresh]

variable (hpending : request.state = .pending)
  (hvalid : validateFriendRequest request = .ok ()) (hfresh : Fresh request.requestId s)

include hpending hvalid hfresh

lemma after_upsert_shutOut (h : ShutOut request.localPublicId request.remotePublicId s) :
    after (upsertFriendRequest request) s = s := by
  rw [Program.after, writes_upsertFriendRequest hvalid, storedRow_fresh hfresh,
    coalesce_of_shutOut hpending h]
  rfl

/-- Otherwise the row is stored as it was given, and what it supersedes is cancelled. -/
lemma rows_upsert_free (h : ¬ ShutOut request.localPublicId request.remotePublicId s) :
    ∃ rows, SettledRows (supersededNow request s) .cancelled s.friendRequests.rows rows
      ∧ ∀ r, r ∈ (after (upsertFriendRequest request) s).friendRequests.rows
        ↔ r = request ∨ r ∈ rows := by
  rw [Program.after, writes_upsertFriendRequest hvalid, storedRow_fresh hfresh,
    coalesce_of_free hpending hfresh h,
    Option.elim_some, superseding, if_pos hpending, replay_append]
  have hrows := supersedeAll request (supersededNow request s) s
  generalize replay s (map (Write.upsertFriendRequest <| superseded request ·) _) = mid at hrows ⊢
  refine ⟨mid.friendRequests.rows, hrows, fun r => ?_⟩
  -- the new id is still free once the other requests are superseded
  have hfresh' : Fresh request.requestId mid := by
    intro old hold
    rcases hrows.only old hold with ⟨hold, -⟩ | ⟨x, hx, hid, -⟩
    · exact hfresh old hold
    · rw [hid]
      exact hfresh x (Store.mem_listFriendRequests.mp (mem_filter.mp hx).1).1
  refine mem_upsert.trans ?_
  rw [landed_of_fresh hfresh']
  exact or_congr_right (and_iff_left_of_imp fun hr => hfresh' r hr)

/-- **A NEW REQUEST** is listed as pending exactly when its pair is not shut out. -/
lemma listedPending_iff :
    ListedPending request.localPublicId request.remotePublicId request.requestId
        (after (upsertFriendRequest request) s)
      ↔ ¬ ShutOut request.localPublicId request.remotePublicId s := by
  obtain ⟨hid, hlocal, -⟩ := validateFriendRequest_eq_ok.mp hvalid
  constructor
  · rintro ⟨row, hrow, hrowId, -⟩ hshut
    rw [after_upsert_shutOut hpending hvalid hfresh hshut] at hrow
    exact hfresh row (mem_listedRequests hrow).1 hrowId
  · intro hfree
    obtain ⟨rows, hrows, hafter⟩ := rows_upsert_free hpending hvalid hfresh hfree
    have hmem : request ∈ (after (upsertFriendRequest request) s).listFriendRequests
        request.localPublicId :=
      Store.mem_listFriendRequests.mpr ⟨(hafter request).mpr (.inl rfl), rfl, notBlank_of_blank hid⟩
    refine ⟨request, ?_, rfl, rfl, hpending⟩
    rw [listedRequests_eq hlocal]
    refine mem_keepFirstPending _ _ ((mem_insertionSort _).mpr hmem) fun _ =>
      ⟨?_, not_mem_nil, ?_⟩
    · -- no request of the pair blocks it
      intro hblocking
      obtain ⟨item, hitem, hpair⟩ := mem_map.mp hblocking
      obtain ⟨hitem, hblocks⟩ := mem_filter.mp hitem
      obtain ⟨hrow, howner, hnamed⟩ := Store.mem_listFriendRequests.mp hitem
      rcases (hafter item).mp hrow with rfl | hrow
      · rw [hpending] at hblocks
        cases hblocks
      · rcases hrows.only item hrow with ⟨hrow, -⟩ | ⟨x, -, -, hstate⟩
        · exact hfree ⟨item, Store.mem_listFriendRequests.mpr ⟨hrow, howner, hnamed⟩,
            (Prod.mk.inj hpair).2, hblocks⟩
        · rw [hstate] at hblocks
          cases hblocks
    · -- and no other pending request of the pair and direction is left
      intro item hitem hitemPending hkey
      obtain ⟨hrow, howner, hnamed⟩ :=
        Store.mem_listFriendRequests.mp ((mem_insertionSort _).mp hitem)
      rcases (hafter item).mp hrow with rfl | hrow
      · rfl
      · rcases hrows.only item hrow with ⟨hrow, hids⟩ | ⟨x, -, -, hstate⟩
        · refine absurd rfl (hids item (mem_filter.mpr
            ⟨Store.mem_listFriendRequests.mpr ⟨hrow, howner, hnamed⟩, ?_⟩))
          obtain ⟨hlocal, hkey⟩ := Prod.mk.inj hkey
          obtain ⟨hremote, hdirection⟩ := Prod.mk.inj hkey
          rw [supersedes, sameRequestPair, sameIdentityPair, hlocal, hremote, hdirection,
            hitemPending]
          simpa using hfresh item hrow
        · cases hstate.symm.trans hitemPending

end Pending

/-- The step asks for a friendship of the pair under the id: a request action, or a view
of a request, whose inputs are accepted. -/
def Asks (owner remote requestId : String) (s : Store) : Step → Prop
  | .action input => input.action = .request ∧ input.localPublicId = owner
      ∧ input.counterpart.counterpartPublicId = remote ∧ input.requestId = some requestId
      ∧ result (cacheCounterpart input.counterpart) s = .ok ()
      ∧ blank owner = false ∧ blank remote = false ∧ blank requestId = false
  | .report localId _ view => view.relationshipState = "requested"
      ∧ localId = owner ∧ view.counterpart.counterpartPublicId = remote
      ∧ view.requestId = some requestId ∧ ViewRead localId view s
      ∧ blank requestId = false

/-- Such a step is the upsert of one pending request, once its counterpart is cached. -/
lemma advance_asks {owner remote requestId : String} {s : Store} {step : Step}
    (h : Asks owner remote requestId s step) :
    ∃ request s0, request.localPublicId = owner ∧ request.remotePublicId = remote
      ∧ request.requestId = requestId ∧ request.state = .pending
      ∧ validateFriendRequest request = .ok () ∧ s0.friendRequests = s.friendRequests
      ∧ advance s step = after (upsertFriendRequest request) s0 := by
  cases step with
  | action input =>
    obtain ⟨haction, rfl, rfl, hid, hcache, hlocal, hremote, hblank⟩ := h
    refine ⟨actionRequest input requestId .outbound .pending none,
      after (cacheCounterpart input.counterpart) s, rfl, rfl, rfl, rfl, ?_,
      friendRequests_cache _ _, ?_⟩
    · rw [validateFriendRequest_eq_ok]
      refine ⟨?_, ?_, ?_, le_rfl, fun hne => absurd rfl hne⟩
      · exact hblank
      · exact hlocal
      · exact hremote
    · show after (persistRelationshipAction input) s = _
      have hrequest : actionRequestId input s = requestId := by
        simp only [actionRequestId, haction, hid]
        rfl
      rw [after_persistRelationshipAction hcache, persistAction, haction, hrequest]
  | report localId listed view =>
    obtain ⟨hstate, rfl, rfl, hid, hread, hblank⟩ := h
    obtain ⟨thread, -, hafter⟩ := @after_reconcileView _ _ listed _ hread
    have hrequest : viewRequestId localId view listed = requestId := by
      simp only [viewRequestId, hid]
      rfl
    refine ⟨viewRequest localId view (viewFacts localId view listed thread)
      .pending none, after (cacheCounterpart view.counterpart) s, rfl, rfl, hrequest, rfl, ?_,
      friendRequests_cache _ _, ?_⟩
    · refine (validate_viewRequest hread.2.1 hread.2.2 fun hne => absurd rfl hne).mpr ?_
      rw [hrequest]
      exact hblank
    · show after (reconcileView localId view listed) s = _
      rw [hafter, applyView, hstate]
      show after (ignoreConflict (upsertFriendRequest _)) _ = _
      rw [ignoreConflict, after_forgive]

lemma shutOut_congr {owner remote : String} {s s' : Store}
    (h : s'.friendRequests = s.friendRequests) :
    ShutOut owner remote s' ↔ ShutOut owner remote s := by
  simp only [ShutOut, Store.listFriendRequests, Store.ownFriendRequests, h]

/-- **ASKING AGAIN**: the request is listed as pending exactly when the pair is not shut
out; if it is, the requests stay as they are. -/
lemma asks_iff {owner remote requestId : String} {s : Store} {step : Step}
    (hasks : Asks owner remote requestId s step) (hfresh : Fresh requestId s) :
    (ListedPending owner remote requestId (advance s step) ↔ ¬ ShutOut owner remote s)
      ∧ (ShutOut owner remote s → (advance s step).friendRequests = s.friendRequests) := by
  obtain ⟨request, s0, rfl, rfl, rfl, hpending, hvalid, hsame, hafter⟩ := advance_asks hasks
  have hfresh0 : Fresh request.requestId s0 := by
    unfold Fresh
    rw [hsame]
    exact hfresh
  rw [hafter, ← shutOut_congr hsame]
  refine ⟨listedPending_iff hpending hvalid hfresh0, fun hshut => ?_⟩
  rw [after_upsert_shutOut hpending hvalid hfresh0 hshut, hsame]

end NewRequest

/-! ## What a block leaves behind, and an unblock too -/

lemma others_of_blocks {owner : String} (p : Social Unit)
    (hp : Touches owner [.blocks] p) (snapshot : CounterpartSnapshot) (s : Store) :
    (after p (after (cacheCounterpart snapshot) s)).friendRequests = s.friendRequests
      ∧ (after p (after (cacheCounterpart snapshot) s)).friendships = s.friendships
      ∧ (after p (after (cacheCounterpart snapshot) s)).threads = s.threads := by
  rw [friendRequests_after (by decide) hp, friendships_after (by decide) hp,
    threads_after (by decide) hp]
  exact ⟨friendRequests_cache _ _, friendships_cache _ _, threads_cache _ _⟩

lemma lifts_others {owner remote : String} {s : Store} {step : Step}
    (h : Lifts owner remote s step) : (advance s step).friendRequests = s.friendRequests
      ∧ (advance s step).friendships = s.friendships ∧ (advance s step).threads = s.threads := by
  cases step with
  | action input =>
    obtain ⟨haction, rfl, rfl, hcache, -⟩ := h
    have hafter : advance s (.action input)
        = after (BlockService.removeBlock input.localPublicId input.counterpart.counterpartPublicId)
            (after (cacheCounterpart input.counterpart) s) := by
      show after (persistRelationshipAction input) s = _
      rw [after_persistRelationshipAction hcache, persistAction, haction]
    rw [hafter]
    exact others_of_blocks _ within_removeBlock _ _
  | report localId listed view =>
    obtain ⟨hstate, haction, rfl, rfl, hread⟩ := h
    obtain ⟨thread, -, hafter⟩ := @after_reconcileView _ _ listed _ hread
    rw [applyView, hstate, haction] at hafter
    unfold advance Step.program
    rw [hafter]
    exact others_of_blocks (applyUnblocked localId view) within_applyUnblocked _ _

section Left

open FriendRequestService

variable {input : PersistRelationshipActionInput} {request : FriendRequest} {s s' : Store}

lemma blockedBetween_of_leaves (h : Leaves input request s s') :
    BlockedBetween input.localPublicId input.counterpart.counterpartPublicId s' := by
  unfold BlockedBetween
  rw [h.friendships]
  obtain ⟨-, howner, hremote, hstate⟩ :=
    landed_friendship (actionFriendship input request.requestId .blocked) s.friendships
  exact ⟨_, mem_upsert_landed _ _, howner, hremote, hstate⟩

lemma shutOut_of_leaves (h : Leaves input request s s')
    (hlocal : request.localPublicId = input.localPublicId)
    (hremote : request.remotePublicId = input.counterpart.counterpartPublicId)
    (hstate : request.state = .blocked) (hid : blank request.requestId = false)
    (hstored : storedRow s request ≠ none) :
    ShutOut input.localPublicId input.counterpart.counterpartPublicId s' := by
  obtain ⟨row, hrow⟩ := Option.ne_none_iff_exists'.mp hstored
  obtain ⟨hrowLocal, hrowRemote, -, hrowState⟩ :=
    coalesceFriendRequest_same (storedRow_some hrow).1
  have hwith : withRequest s request = s.apply (.upsertFriendRequest row) := by
    unfold withRequest
    rw [hrow]
  obtain ⟨hlandedId, hlandedState, hlandedLocal, hlandedRemote, -⟩ :=
    landed_fields row s.friendRequests
  have hmem : landed row s.friendRequests ∈ (withRequest s request).friendRequests.rows := by
    rw [hwith]
    exact mem_upsert_landed row s.friendRequests
  have hblocked : (landed row s.friendRequests).state = .blocked :=
    hlandedState.trans (hrowState.trans hstate)
  -- the row is not pending, so the settling leaves it alone
  have hkept : landed row s.friendRequests ∈ s'.friendRequests.rows := by
    refine h.requests.kept _ hmem fun x hx hsame => ?_
    obtain ⟨hlisted, hsettles⟩ := mem_filter.mp hx
    rw [settles, Bool.and_eq_true, Bool.and_eq_true, decide_eq_true_eq, decide_eq_true_eq]
      at hsettles
    have hxrow := eq_of_key hmem (mem_listedRequests hlisted).1 hsame
    rw [hxrow, hsettles.1.2] at hblocked
    cases hblocked
  refine ⟨_, Store.mem_listFriendRequests.mpr ⟨hkept, ?_, ?_⟩, ?_, ?_⟩
  · exact hlandedLocal.trans (hrowLocal.trans hlocal)
  · rw [hlandedId]
    exact named_storedRow hid hrow
  · exact hlandedRemote.trans (hrowRemote.trans hremote)
  · rw [hblocked]
    rfl

/-- What a block action that goes through leaves, from a store where its counterpart is
not cached yet. -/
lemma leaves_action (hblock : input.action = .block)
    (hok : result (persistRelationshipAction input) s = .ok ()) :
    ∃ s0, s0.friendRequests = s.friendRequests ∧ validateFriendRequest (blockedRequest input s)
        = .ok ()
      ∧ Leaves input (blockedRequest input s) s0 (after (persistRelationshipAction input) s) := by
  have hsame := friendRequests_cache input.counterpart s
  rw [persistRelationshipAction, result_seq_eq_ok, result_read_bind, actionRequestId_congr hsame,
    persistAction, hblock] at hok
  refine ⟨after (cacheCounterpart input.counterpart) s, hsame,
    (result_persistBlock_eq_ok.mp hok.2).wellFormed, ?_⟩
  rw [after_persistRelationshipAction hok.1, persistAction, hblock]
  exact leaves_persistBlock hok.2

end Left

/-! ## After a block, and whatever comes later -/

/-- The store after some calls, a relationship action and some more calls. -/
def storeAfter (before : List SocialCall) (input : PersistRelationshipActionInput)
    (later : List SocialCall) : Store :=
  run proceed Store.empty (before ++ .relationship (.action input) :: later)

/-- **AN UNBLOCK LIFTS ONLY THE BLOCK.**  Take any store reached from an empty one, a
block of the pair that returns `Ok(())`, and any calls after it, unblocks, requests
and accepts among them, none of which is about another pair with the same
friendship id.  Then an unblock changes no request, friendship or thread; a request
under a new id is listed as pending exactly when no request of the pair is
`DecisionPending` or `Blocked`; and the friendship of the pair is `Blocked`.  The
block itself shuts the pair out whenever it stores its request. -/
theorem unblock_lifts_only_the_block (before later : List SocialCall)
    (input : PersistRelationshipActionInput) (hblock : input.action = .block)
    (hok : result (persistRelationshipAction input) (run proceed Store.empty before) = .ok ())
    (hapart : Apart input.localPublicId input.counterpart.counterpartPublicId later) :
    (∀ step, Lifts input.localPublicId input.counterpart.counterpartPublicId
          (storeAfter before input later) step →
        (advance (storeAfter before input later) step).friendRequests
            = (storeAfter before input later).friendRequests
          ∧ (advance (storeAfter before input later) step).friendships
            = (storeAfter before input later).friendships
          ∧ (advance (storeAfter before input later) step).threads
            = (storeAfter before input later).threads)
      ∧ (∀ requestId step, Asks input.localPublicId input.counterpart.counterpartPublicId requestId
            (storeAfter before input later) step → Fresh requestId (storeAfter before input later) →
          (ListedPending input.localPublicId input.counterpart.counterpartPublicId requestId
              (advance (storeAfter before input later) step)
            ↔ ¬ ShutOut input.localPublicId input.counterpart.counterpartPublicId
              (storeAfter before input later)))
      ∧ (∃ friendship, (storeAfter before input later).findFriendship input.localPublicId
            input.counterpart.counterpartPublicId = some friendship ∧ friendship.state = .blocked)
      ∧ (storedRow (run proceed Store.empty before)
            (blockedRequest input (run proceed Store.empty before)) ≠ none →
          ShutOut input.localPublicId input.counterpart.counterpartPublicId
            (storeAfter before input [])) := by
  obtain ⟨s0, hrequests, hvalid, hleaves⟩ := leaves_action hblock hok
  have hafter : ∀ later, storeAfter before input later
      = run proceed (after (persistRelationshipAction input) (run proceed Store.empty before))
          later := by
    intro later
    rw [storeAfter, run_append, run_cons]
    rfl
  have hkeyed : Keyed (storeAfter before input []) := keyed_run _
  have hblocked : BlockedBetween input.localPublicId input.counterpart.counterpartPublicId
      (storeAfter before input []) := by
    rw [hafter]
    exact blockedBetween_of_leaves hleaves
  refine ⟨fun step => lifts_others, fun requestId step hasks hfresh => (asks_iff hasks hfresh).1,
    ?_, fun hstored => ?_⟩
  · obtain ⟨hkeyed', hblocked'⟩ := blocked_run hkeyed hblocked hapart
    rw [hafter] at hkeyed' hblocked'
    rw [hafter]
    exact findFriendship_of_blocked hkeyed' hblocked'
  · rw [hafter]
    refine shutOut_of_leaves hleaves rfl rfl rfl (validateFriendRequest_eq_ok.mp hvalid).1 ?_
    rwa [storedRow_congr hrequests]

/-- Alice blocks Bob and unblocks them: the friendship is still blocked. -/
theorem friendship_blocked_after_unblock :
    ∃ friendship, (storeAfter [] (toyAction .block "alice" "bob" (some "r1") 1)
        [.relationship (.action (toyAction .unblock "alice" "bob" none 2))]).findFriendship
          "alice" "bob" = some friendship ∧ friendship.state = .blocked := by
  refine (unblock_lifts_only_the_block [] _ (toyAction .block "alice" "bob" (some "r1") 1) rfl
    (by decide +kernel) ?_).2.2.1
  intro call hcall pair hpair _
  rw [mem_singleton.mp hcall] at hpair
  exact mem_singleton.mp hpair

/-- Alice blocks Bob, unblocks them and asks Bob to be a friend, or Bob asks: no request
is listed as pending.  Alice and Bob were friends, Alice blocks Bob under another
request id, unblocks them and asks again: now the request is listed, but accepting it
leaves the friendship blocked. -/
theorem unblock_does_not_undo_block :
    ¬ ListedPending "alice" "bob" "r2" (toyStore [toyAction .block "alice" "bob" (some "r1") 1,
        toyAction .unblock "alice" "bob" none 2, toyAction .request "alice" "bob" (some "r2") 3])
      ∧ ¬ ListedPending "alice" "bob" "r2" (after (reconcileRelationshipViews "alice"
          [{ toyView "requested" none "remote" "bob" 3 with requestId := some "r2" }])
          (toyStore [toyAction .block "alice" "bob" (some "r1") 1,
            toyAction .unblock "alice" "bob" none 2]))
      ∧ ListedPending "alice" "bob" "r3" (toyStore [toyAction .accept "alice" "bob" (some "r1") 1,
          toyAction .block "alice" "bob" (some "r2") 2, toyAction .unblock "alice" "bob" none 3,
          toyAction .request "alice" "bob" (some "r3") 4])
      ∧ result (persistRelationshipAction (toyAction .accept "alice" "bob" (some "r3") 5))
          (toyStore [toyAction .accept "alice" "bob" (some "r1") 1,
            toyAction .block "alice" "bob" (some "r2") 2, toyAction .unblock "alice" "bob" none 3,
            toyAction .request "alice" "bob" (some "r3") 4])
        = .error (.conflict "invalid friendship transition: Blocked -> Active") := by
  unfold ListedPending
  decide +kernel

end WattUnblock
