import Wattetheria.SocialOrchestration

/-!
# What the social services write

One lemma for each service says which parts of the store it can change and
whose rows it names, from whatever store it starts (`Within`); the callers are
read off by the rules of `JournaledPrograms`.  A part that no statement of a
program changes is the same afterwards (`blocks_after`, …).
-/

namespace WattSocial

open WattText WattJson WattRows WattJournal Program FriendRequestService List Option

/-! ## Kinds of statements -/

/-- The part of the store a statement changes. -/
inductive Part where
  | counterparts
  | requests
  | friendships
  | blocks
  | threads
  | messages
  deriving DecidableEq

/-- The part of the store a statement changes. -/
def Write.part : Write → Part
  | .upsertRemoteIdentity _ | .upsertTransportBinding _ => .counterparts
  | .upsertFriendRequest _ | .clearReliabilityTask _ _ => .requests
  | .upsertFriendship _ => .friendships
  | .upsertBlock _ | .removeBlock _ _ => .blocks
  | .upsertThread _ => .threads
  | .upsertMessage _ | .upsertMessageReceipt _ => .messages

/-- The local identity whose relationship row a statement names. -/
def Write.owner : Write → Option String
  | .upsertFriendRequest request => some request.localPublicId
  | .upsertFriendship friendship => some friendship.localPublicId
  | .upsertBlock block => some block.ownerPublicId
  | .removeBlock ownerPublicId _ => some ownerPublicId
  | .upsertThread thread => some thread.localPublicId
  | .upsertRemoteIdentity _ | .upsertTransportBinding _ | .clearReliabilityTask _ _
  | .upsertMessage _ | .upsertMessageReceipt _ => none

/-- A statement within some parts of the store, for the rows of one identity. -/
structure Within (owner : String) (parts : List Part) (w : Write) : Prop where
  part : w.part ∈ parts
  own : ∀ o ∈ w.owner, o = owner

/-- Every statement of the program is. -/
abbrev Touches {α : Type} (owner : String) (parts : List Part) (p : Social α) : Prop :=
  AllWrites (Within owner parts) p

section Within

variable {owner : String} {parts parts' : List Part} {α : Type} {p : Social α} {part : Part}
  {w : Write}

lemma allWithin_mono (hparts : parts ⊆ parts') (hp : Touches owner parts p) :
    Touches owner parts' p :=
  hp.mono fun _ hw => ⟨hparts hw.part, hw.own⟩

/-- A part of the program within fewer parts of the store, and the rest of it. -/
lemma within_seq {β : Type} {f : α → Social β} (hparts : parts ⊆ parts')
    (hp : Touches owner parts p) (hf : ∀ a, Touches owner parts' (f a)) :
    Touches owner parts' (p >>= f) :=
  allWrites_bind (allWithin_mono hparts hp) hf

lemma within_free (hpart : w.part = part) (hfree : w.owner = none) : Within owner [part] w :=
  ⟨mem_singleton.mpr hpart, fun o ho => by rw [hfree] at ho; cases ho⟩

lemma within_own {o : String} (hpart : w.part = part)
    (hown : w.owner = some o) (howner : o = owner) : Within owner [part] w := by
  refine ⟨mem_singleton.mpr hpart, fun o' ho' => ?_⟩
  rw [hown] at ho'
  exact (some.inj ho').symm.trans howner

lemma part_after {τ : Type} {view : Store → τ}
    (hview : ∀ s w, Write.part w ≠ part → view (s.apply w) = view s) (hpart : part ∉ parts)
    (hp : Touches owner parts p) (s : Store) : view (after p s) = view s := by
  refine view_after (Q := Within owner parts) (fun s w hw => hview s w ?_) hp s
  intro heq
  exact hpart (heq ▸ hw.part)

lemma friendRequests_after (hpart : Part.requests ∉ parts)
    (hp : Touches owner parts p) (s : Store) : (after p s).friendRequests = s.friendRequests :=
  part_after (fun s w hw => by cases w <;> first | rfl | exact absurd rfl hw) hpart hp s

lemma friendships_after (hpart : Part.friendships ∉ parts)
    (hp : Touches owner parts p) (s : Store) : (after p s).friendships = s.friendships :=
  part_after (fun s w hw => by cases w <;> first | rfl | exact absurd rfl hw) hpart hp s

lemma blocks_after (hpart : Part.blocks ∉ parts) (hp : Touches owner parts p)
    (s : Store) : (after p s).blocks = s.blocks :=
  part_after (fun s w hw => by cases w <;> first | rfl | exact absurd rfl hw) hpart hp s

lemma threads_after (hpart : Part.threads ∉ parts) (hp : Touches owner parts p)
    (s : Store) : (after p s).threads = s.threads :=
  part_after (fun s w hw => by cases w <;> first | rfl | exact absurd rfl hw) hpart hp s

end Within

lemma refuseIf_return {α : Type} {c : Bool} {text : String} {a b : α} :
    (do refuseIf c text; return a) = Except.ok b ↔ c = false ∧ a = b := by
  cases c with
  | true => exact ⟨fun h => (by cases h), fun h => (by cases h.1)⟩
  | false => exact ⟨fun h => ⟨rfl, Except.ok.inj h⟩, fun h => congrArg Except.ok h.2⟩

section Congr

variable {s s' : Store}

lemma findFriendship_congr (h : s'.friendships = s.friendships) (owner remote : String) :
    s'.findFriendship owner remote = s.findFriendship owner remote := by
  simp only [Store.findFriendship, h]

lemma findThread_congr (h : s'.threads = s.threads) (owner remote : String) :
    s'.findThread owner remote = s.findThread owner remote := by
  simp only [Store.findThread, h]

end Congr

/-! ## Identities and bindings -/

variable {owner : String}

lemma within_upsertRemoteIdentity {identity : RemoteIdentityProfile} :
    Touches owner [.counterparts] (RemoteIdentityService.upsertRemoteIdentity identity) :=
  allWrites_ofExcept_bind fun _ => allWrites_write (within_free rfl rfl)

lemma within_cache {snapshot : CounterpartSnapshot} :
    Touches owner [.counterparts] (cacheCounterpart snapshot) := by
  refine allWrites_bind ?_ fun _ =>
    allWrites_ofExcept_bind fun _ => allWrites_write (within_free rfl rfl)
  unfold cacheIdentity
  split
  · exact allWrites_pure ()
  · exact allWrites_read_bind fun _ => within_upsertRemoteIdentity

variable (snapshot : CounterpartSnapshot)

lemma within_cached : Touches "" [.counterparts] (cacheCounterpart snapshot) := within_cache

variable (s : Store) {updatedAt : Int}

lemma friendRequests_cache :
    (after (cacheCounterpart snapshot) s).friendRequests = s.friendRequests :=
  friendRequests_after (by decide) (within_cached snapshot) s

lemma blocks_cache : (after (cacheCounterpart snapshot) s).blocks = s.blocks :=
  blocks_after (by decide) (within_cached snapshot) s

lemma friendships_cache : (after (cacheCounterpart snapshot) s).friendships = s.friendships :=
  friendships_after (by decide) (within_cached snapshot) s

lemma threads_cache : (after (cacheCounterpart snapshot) s).threads = s.threads :=
  threads_after (by decide) (within_cached snapshot) s

lemma within_markCounterpart {counterpart : String} {active : Bool} :
    Touches owner [.counterparts] (markCounterpartIdentityState counterpart active updatedAt) := by
  refine allWrites_read_bind fun store => ?_
  split
  · exact allWrites_pure ()
  · exact within_upsertRemoteIdentity

/-! ## Friend requests -/

namespace FriendRequestService

variable {items : List FriendRequest} {request : FriendRequest} {row : FriendRequest}

/-- Where the stored row comes from: the request as it is, or a stored request of the same
id; a decision under a new id is merged into one that is pending, or in the state
asked for. -/
lemma coalesce_source (h : coalesceFriendRequest items request = some row) :
    row = request ∨ ∃ existing ∈ items, row = mergeFriendRequest existing request
      ∧ (existing.requestId = request.requestId
        ∨ ((request.state ≠ .pending ∧ ∀ item ∈ items, item.requestId ≠ request.requestId)
          ∧ (existing.state = .pending ∨ existing.state = request.state))) := by
  unfold coalesceFriendRequest at h
  split at h
  · split at h
    · cases h
    · split at h
      · next existing hfind =>
          have hfound := List.find?_some hfind
          simp only [Bool.and_eq_true, decide_eq_true_eq] at hfound
          exact .inr ⟨existing, mem_of_find?_eq_some hfind, (some.inj h).symm, .inl hfound.1.1⟩
      · exact .inl (some.inj h).symm
  · next hstate =>
      split at h
      · next existing hfind =>
          exact .inr ⟨existing, mem_of_find?_eq_some hfind, (some.inj h).symm,
            .inl (by simpa using List.find?_some hfind)⟩
      · next hnone =>
          have hnew : ∀ item ∈ items, item.requestId ≠ request.requestId := by
            simpa using hnone
          split at h
          · next existing hfind =>
              have hfound := List.find?_some hfind
              simp only [Bool.and_eq_true, decide_eq_true_eq] at hfound
              exact .inr ⟨existing, mem_of_find?_eq_some hfind, (some.inj h).symm,
                .inr ⟨⟨hstate, hnew⟩, .inl hfound.2⟩⟩
          · split at h
            · next existing hfind =>
                split at h
                · next hsame =>
                    exact .inr ⟨existing, mem_of_find?_eq_some hfind,
                      (some.inj h).symm, .inr ⟨⟨hstate, hnew⟩, .inr hsame⟩⟩
                · cases h
            · exact .inl (some.inj h).symm

/-- A request that the identity already has under its id stays under it, and so does a
pending one. -/
lemma coalesce_id (h : coalesceFriendRequest items request = some row)
    (hid : request.state = .pending ∨ ∃ item ∈ items, item.requestId = request.requestId) :
    row.requestId = request.requestId := by
  rcases coalesce_source h with rfl | ⟨existing, -, rfl, hsame | ⟨⟨hstate, hnew⟩, -⟩⟩
  · rfl
  · exact hsame
  · obtain ⟨item, hitem, hitemId⟩ := hid.resolve_left hstate
    exact absurd hitemId (hnew item hitem)

/-- Merging changes the id and the times of a request, not whose it is or its state. -/
lemma coalesceFriendRequest_same {coalesced : FriendRequest}
    (h : coalesceFriendRequest items request = some coalesced) :
    coalesced.localPublicId = request.localPublicId
      ∧ coalesced.remotePublicId = request.remotePublicId
      ∧ coalesced.direction = request.direction ∧ coalesced.state = request.state := by
  rcases coalesce_source h with rfl | ⟨existing, -, rfl, -⟩
  · exact ⟨rfl, rfl, rfl, rfl⟩
  · exact ⟨rfl, rfl, rfl, rfl⟩

lemma keepFirstPending_sublist (blocking : List (String × String)) :
    ∀ (items : List FriendRequest) (seen : List (String × String × FriendRequestDirection)),
      (keepFirstPending blocking seen items).Sublist items := by
  intro items
  induction items with
  | nil => intro seen; exact List.Sublist.refl []
  | cons item items ih =>
    intro seen
    unfold keepFirstPending
    split
    · exact (ih _).cons_cons item
    · split
      · exact (ih _).cons item
      · split
        · exact (ih _).cons item
        · exact (ih _).cons_cons item

variable {localId : String} {counterpart : FriendRequestCounterpartRef} {time : Int}

lemma mem_of_listFriendRequests {store : Store}
    (h : listFriendRequests store localId = .ok items) (hmem : request ∈ items) :
    request ∈ store.listFriendRequests localId := by
  rw [← (refuseIf_return.mp h).2] at hmem
  exact (mem_insertionSort _).mp ((keepFirstPending_sublist _ _ _).subset hmem)

lemma within_upsertFriendRequest {owner : String} (howner : request.localPublicId = owner) :
    Touches owner [.requests] (upsertFriendRequest request) := by
  subst howner
  refine allWrites_ofExcept_bind fun _ => allWrites_read_bind fun store => ?_
  have hstore : Touches request.localPublicId [.requests]
      (storeCoalesced (store.listFriendRequests request.localPublicId) request) := by
    unfold storeCoalesced
    split
    · exact allWrites_pure ()
    · next coalesced hcoalesced =>
        refine allWrites_bind (allWrites_onlyIf (allWrites_forEach fun item hitem => ?_))
          fun _ => allWrites_write (within_own rfl rfl (coalesceFriendRequest_same hcoalesced).1)
        have hitem := (mem_filter.mp hitem).1
        exact allWrites_write (within_own rfl rfl (Store.mem_listFriendRequests.mp hitem).2.1)
  dsimp only
  split
  · exact hstore
  · exact allWrites_ite hstore (allWrites_ite (allWrites_pure ()) (allWrites_ofExcept _))

lemma within_clearRetry {owner requestId : String} :
    Touches owner [.requests] (clearFriendRequestRetry requestId) :=
  allWrites_write (within_free rfl rfl)

lemma within_acceptRelated : Touches localId [.requests]
      (acceptRelatedFriendRequests localId counterpart time) := by
  refine allWrites_read_bind fun store => allWrites_forEach fun request hrequest => ?_
  unfold acceptRelated
  refine allWrites_ite (allWrites_pure ()) (allWrites_bind (allWrites_onlyIf ?_) fun _ => ?_)
  · exact allWrites_write (within_own rfl rfl (Store.mem_listFriendRequests.mp hrequest).2.1)
  · exact allWrites_onlyIf within_clearRetry

lemma within_settleRelated {state : FriendRequestState} {reason : String} :
    Touches localId [.requests] (settleRelatedOutboundFriendRequests localId
      counterpart state reason time) := by
  refine allWrites_read_bind fun store => ?_
  refine allWrites_bind_of (allWrites_ofExcept _) fun _ items hitems => ?_
  refine allWrites_forEach fun request hrequest => allWrites_bind ?_ fun _ =>
    within_clearRetry
  have hmem := mem_of_listFriendRequests hitems (mem_filter.mp hrequest).1
  exact within_upsertFriendRequest (Store.mem_listFriendRequests.mp hmem).2.1

end FriendRequestService

/-! ## Friendships, threads and blocks -/

lemma within_upsertFriendship {friendship : Friendship}
    (howner : friendship.localPublicId = owner) :
    Touches owner [.friendships] (FriendshipService.upsertFriendship friendship) :=
  allWrites_ofExcept_bind fun _ => allWrites_read_bind fun _ =>
    allWrites_ofExcept_bind fun _ => allWrites_write (within_own rfl rfl howner)

variable {localId : String}

lemma within_retireAliasFriendships {canonical node requestId : String} :
    Touches localId [.friendships]
      (retireAliasFriendships localId canonical node requestId updatedAt) := by
  refine allWrites_read_bind fun store => ?_
  refine allWrites_bind_of (allWrites_ofExcept _) fun _ items hitems => ?_
  refine allWrites_forEach fun friendship hfriendship => ?_
  have hmem := (mem_filter.mp hfriendship).1
  rw [← (refuseIf_return.mp hitems).2] at hmem
  exact within_upsertFriendship (Store.mem_listFriendships.mp hmem).2

lemma within_upsertThreadChecked {thread : DirectThread} (howner : thread.localPublicId = owner)
    {reopenClosed : Bool} :
    Touches owner [.threads] (ThreadService.upsertThreadChecked thread reopenClosed) :=
  allWrites_ofExcept_bind fun _ => allWrites_read_bind fun _ =>
    allWrites_ofExcept_bind fun _ => allWrites_write (within_own rfl rfl howner)

lemma within_reopenThreadOfActiveFriendship {remotePublicId : String} : Touches localId [.threads]
      (reopenThreadOfActiveFriendship localId remotePublicId updatedAt) := by
  refine allWrites_read_bind fun store => ?_
  refine allWrites_bind_of (allWrites_ofExcept _) fun _ found hfound => ?_
  split
  · exact allWrites_pure ()
  · next thread =>
      refine allWrites_ite (allWrites_pure ()) (within_upsertThreadChecked ?_)
      exact (Store.findThread_some (refuseIf_return.mp hfound).2).2.1

lemma within_upsertBlock {block : SocialBlock} (howner : block.ownerPublicId = owner) :
    Touches owner [.blocks] (BlockService.upsertBlock block) :=
  allWrites_ofExcept_bind fun _ => allWrites_write (within_own rfl rfl howner)

lemma within_removeBlock {blocked : String} :
    Touches owner [.blocks] (BlockService.removeBlock owner blocked) :=
  allWrites_ofExcept_bind fun _ => allWrites_write (within_own rfl rfl rfl)

/-! ## Views -/

section View

variable {localId : String} {view : RelationshipSyncView} {facts : ViewFacts}
  {listed : List FriendRequest}

lemma within_viewRequest {state : FriendRequestState} {reason : Option String} :
    Touches localId [.requests] (ignoreConflict
      (upsertFriendRequest (viewRequest localId view facts state reason))) :=
  allWrites_forgive (within_upsertFriendRequest rfl)

lemma within_applyAccepted : Touches localId [.counterparts, .requests, .friendships, .threads]
      (applyAccepted localId view facts listed) := by
  refine within_seq (by decide) within_acceptRelated fun _ => ?_
  refine allWrites_read_bind fun store => allWrites_ite (allWrites_pure ()) ?_
  refine within_seq (by decide) within_retireAliasFriendships fun _ => ?_
  refine within_seq (by decide) within_viewRequest fun _ => ?_
  refine within_seq (by decide) (allWrites_forgive (within_upsertFriendship rfl)) fun _ => ?_
  refine within_seq (by decide) within_reopenThreadOfActiveFriendship fun _ => ?_
  refine within_seq (by decide) within_markCounterpart fun _ => ?_
  exact allWithin_mono (by decide) within_clearRetry

lemma within_applyRejected : Touches localId [.requests] (applyRejected localId view facts) :=
  allWrites_bind within_viewRequest fun _ => allWrites_bind
    within_settleRelated fun _ =>
      within_clearRetry

lemma within_applyBlocked : Touches localId [.requests, .blocks, .friendships]
      (applyBlocked localId view facts) := by
  refine within_seq (by decide) within_viewRequest fun _ => ?_
  refine within_seq (by decide) (allWrites_onlyIf (allWrites_forgive (within_upsertBlock rfl)))
    fun _ => ?_
  refine within_seq (by decide) (allWrites_forgive (within_upsertFriendship rfl)) fun _ => ?_
  refine within_seq (by decide) within_settleRelated fun _ => ?_
  exact allWithin_mono (by decide) within_clearRetry

lemma within_applyRemoved : Touches localId [.counterparts, .friendships, .threads]
      (applyRemoved localId view facts) := by
  refine allWrites_read_bind fun store => allWrites_ofExcept_bind fun _ => ?_
  refine allWrites_ite (allWrites_pure ()) (allWrites_ofExcept_bind fun _ => ?_)
  refine within_seq (by decide) (allWrites_forgive (within_upsertFriendship rfl)) fun _ => ?_
  refine within_seq (by decide) (allWrites_forgive (within_upsertThreadChecked rfl)) fun _ => ?_
  exact allWithin_mono (by decide) within_markCounterpart

lemma within_applyCancelled : Touches localId [.requests] (applyCancelled localId view facts) :=
  allWrites_bind within_viewRequest fun _ =>
    within_clearRetry

lemma within_applyUnblocked : Touches localId [.blocks] (applyUnblocked localId view) :=
  allWrites_forgive within_removeBlock

lemma within_applyView_noBlocks (hblocked : view.relationshipState ≠ "blocked")
    (hunblock : ¬ (view.relationshipState = "none" ∧ view.lastAction = some "unblock")) :
    Touches localId [.counterparts, .requests, .friendships, .threads]
      (applyView localId view facts listed) := by
  unfold applyView
  split
  · exact allWithin_mono (by decide) within_viewRequest
  · exact within_applyAccepted
  · exact allWithin_mono (by decide) within_applyRejected
  · next hstate => exact absurd hstate hblocked
  · exact allWithin_mono (by decide) within_applyRemoved
  · exact allWithin_mono (by decide) within_applyCancelled
  · next hstate haction => exact absurd ⟨hstate, haction⟩ hunblock
  · exact allWrites_pure ()

/-- What relationship calls may change. -/
abbrev relationshipParts : List Part := [.counterparts, .requests, .friendships, .blocks, .threads]

lemma within_applyView : Touches localId relationshipParts
      (applyView localId view facts listed) := by
  unfold applyView
  split
  · exact allWithin_mono (by decide) within_viewRequest
  · exact allWithin_mono (by decide) within_applyAccepted
  · exact allWithin_mono (by decide) within_applyRejected
  · exact allWithin_mono (by decide) within_applyBlocked
  · exact allWithin_mono (by decide) within_applyRemoved
  · exact allWithin_mono (by decide) within_applyCancelled
  · exact allWithin_mono (by decide) within_applyUnblocked
  · exact allWrites_pure ()

lemma within_reconcileView : Touches localId relationshipParts
      (reconcileView localId view listed) :=
  within_seq (by decide) within_cache fun _ =>
    allWrites_read_bind fun _ => allWrites_ofExcept_bind fun _ =>
      within_applyView

end View

lemma within_reconcileRelationshipViews {views : List RelationshipSyncView} :
    Touches localId relationshipParts (reconcileRelationshipViews localId views) :=
  allWrites_read_bind fun _ => allWrites_forEach fun _ _ => within_reconcileView

/-! ## Actions and messages -/

section Action

variable {input : PersistRelationshipActionInput} {requestId : String}

lemma within_persistAccept :
    Touches input.localPublicId [.counterparts, .requests, .friendships, .threads]
      (persistAccept input requestId) := by
  refine within_seq (by decide) (within_upsertFriendRequest rfl) fun _ => ?_
  refine within_seq (by decide) (within_upsertFriendship rfl) fun _ => ?_
  refine within_seq (by decide) (within_upsertThreadChecked rfl) fun _ => ?_
  refine within_seq (by decide) within_markCounterpart fun _ => ?_
  exact allWithin_mono (by decide) within_acceptRelated

lemma within_persistReject :
    Touches input.localPublicId [.requests] (persistReject input requestId) :=
  allWrites_bind (within_upsertFriendRequest rfl) fun _ =>
    within_settleRelated

lemma within_persistRemove : Touches input.localPublicId [.counterparts, .friendships, .threads]
      (persistRemove input) := by
  refine allWrites_read_bind fun store => allWrites_ofExcept_bind fun _ => ?_
  refine within_seq (by decide) (within_upsertFriendship rfl) fun _ => ?_
  refine within_seq (by decide) (within_upsertThreadChecked rfl) fun _ => ?_
  exact allWithin_mono (by decide) within_markCounterpart

lemma within_persistBlock : Touches input.localPublicId [.requests, .blocks, .friendships, .threads]
      (persistBlock input requestId) := by
  refine within_seq (by decide) (within_upsertFriendRequest rfl) fun _ => ?_
  refine within_seq (by decide) (within_upsertBlock rfl) fun _ => ?_
  refine within_seq (by decide) (within_upsertFriendship rfl) fun _ => ?_
  refine within_seq (by decide) (within_upsertThreadChecked rfl) fun _ => ?_
  exact allWithin_mono (by decide) within_settleRelated

lemma within_persistAction_noBlocks (hblock : input.action ≠ .block)
    (hunblock : input.action ≠ .unblock) :
    Touches input.localPublicId [.counterparts, .requests, .friendships, .threads]
      (persistAction input requestId) := by
  unfold persistAction
  split
  · exact allWithin_mono (by decide) (within_upsertFriendRequest rfl)
  · exact within_persistAccept
  · exact allWithin_mono (by decide) within_persistReject
  · exact allWithin_mono (by decide) (within_upsertFriendRequest rfl)
  · exact allWithin_mono (by decide) within_persistRemove
  · next haction => exact absurd haction hblock
  · next haction => exact absurd haction hunblock

lemma within_persistAction :
    Touches input.localPublicId relationshipParts (persistAction input requestId) := by
  by_cases hblock : input.action = .block
  · unfold persistAction
    rw [hblock]
    exact allWithin_mono (by decide) within_persistBlock
  · by_cases hunblock : input.action = .unblock
    · unfold persistAction
      rw [hunblock]
      exact allWithin_mono (by decide) within_removeBlock
    · exact allWithin_mono (by decide) (within_persistAction_noBlocks hblock hunblock)

lemma within_persistRelationshipAction : Touches input.localPublicId relationshipParts
      (persistRelationshipAction input) :=
  within_seq (by decide) within_cache fun _ =>
    allWrites_read_bind fun _ => within_persistAction

end Action

lemma within_reconcileDmThreads {views : List DmThreadSyncView} :
    Touches localId [.counterparts, .threads] (reconcileDmThreads localId views) := by
  refine allWrites_forEach fun view _ => ?_
  refine within_seq (by decide) within_cache fun _ => ?_
  refine allWrites_read_bind fun store => allWrites_ofExcept_bind fun _ => ?_
  exact allWithin_mono (by decide) (allWrites_forgive (within_upsertThreadChecked rfl))

lemma within_upsertMessage {message : DirectMessage} :
    Touches owner [.messages] (MessageService.upsertMessage message) :=
  allWrites_ofExcept_bind fun _ => allWrites_read_bind fun _ =>
    allWrites_ofExcept_bind fun _ => allWrites_write (within_free rfl rfl)

lemma within_receipt {receipt : MessageReceipt} :
    Touches owner [.messages] (ReceiptService.upsertMessageReceipt receipt) :=
  allWrites_ofExcept_bind fun _ => allWrites_write (within_free rfl rfl)

lemma within_persistDmMessage {input : PersistDmMessageInput} :
    Touches input.localPublicId [.counterparts, .threads, .messages] (persistDmMessage input) := by
  refine within_seq (by decide) within_cache fun _ => ?_
  refine allWrites_read_bind fun store => allWrites_ofExcept_bind fun _ => ?_
  refine within_seq (by decide) (within_upsertThreadChecked rfl) fun _ => ?_
  exact allWithin_mono (by decide) (allWrites_bind within_upsertMessage fun _ => within_receipt)

end WattSocial
