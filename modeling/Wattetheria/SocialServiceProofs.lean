import Wattetheria.SocialWriteProofs

/-!
# When the social services succeed, and what they leave

The result of each service as a condition on the row and the store, and the
table it leaves: a friendship, block or thread is upserted as it was given,
a friend request as it was merged.
-/

namespace WattSocial

open WattText WattJson WattRows WattJournal Program ThreadService FriendshipService BlockService
  Table

/-! ## Checks -/

variable {text : String}

lemma refuseIf_eq_ok {c : Bool} {u : Unit} : refuseIf c text = .ok u ↔ c = false := by
  cases c <;> simp [refuseIf]

lemma conflictIf_eq_ok {c : Bool} {u : Unit} : conflictIf c text = .ok u ↔ c = false := by
  cases c <;> simp [conflictIf]

lemma check_bind_eq_ok {x y : Except SocialError Unit} :
    (x >>= fun _ => y) = .ok () ↔ x = .ok () ∧ y = .ok () := by
  cases x with
  | error e =>
    refine ⟨fun h => ?_, fun h => ?_⟩
    · cases h
    · cases h.1
  | ok u => exact ⟨fun h => ⟨rfl, h⟩, fun h => h.2⟩

/-- A check that only refuses its input. -/
def RefusesInput (x : Except SocialError Unit) : Prop :=
  ∀ e, x = .error e → ∃ text, e = .invalidInput text

lemma refusesInput_refuseIf (c : Bool) (text : String) : RefusesInput (refuseIf c text) := by
  intro e h
  cases c with
  | false => cases h
  | true => exact ⟨text, (Except.error.inj h).symm⟩

lemma RefusesInput.bind {x y : Except SocialError Unit} (hx : RefusesInput x)
    (hy : RefusesInput y) : RefusesInput (x >>= fun _ => y) := by
  intro e h
  cases x with
  | error e' => exact hx e (by cases h; rfl)
  | ok u => exact hy e h

lemma blank_eq_false {c : Char} (hc : c ∈ text.toList)
    (hspace : isWhitespace c = false) : blank text = false := by
  rw [blank, isEmpty, trim, String.toList_ofList, trimChars]
  rw [List.isEmpty_eq_false_iff, ne_eq, List.reverse_eq_nil_iff, List.dropWhile_eq_nil_iff]
  intro hall
  -- `c` is still there after the leading white space is dropped
  have hdrop : c ∈ text.toList.dropWhile isWhitespace := by
    rcases List.mem_append.mp ((List.takeWhile_append_dropWhile (p := isWhitespace)
      (l := text.toList)).symm ▸ hc) with hfront | hback
    · rw [List.mem_takeWhile_imp hfront] at hspace
      cases hspace
    · exact hback
  rw [hall c (List.mem_reverse.mpr hdrop)] at hspace
  cases hspace

lemma blank_stablePairId {kind : String} {c : Char} (hc : c ∈ kind.toList)
    (hspace : isWhitespace c = false) (left right : String) :
    blank (stablePairId kind left right) = false := by
  refine blank_eq_false (c := c) ?_ hspace
  unfold stablePairId
  split <;> simp [hc]

/-- What the store lists for the identity of a request. -/
abbrev Store.existing (store : Store) (request : FriendRequest) : List FriendRequest :=
  store.listFriendRequests request.localPublicId

namespace FriendRequestService

variable {request : FriendRequest}

lemma validateFriendRequest_eq_ok : validateFriendRequest request = .ok ()
      ↔ blank request.requestId = false ∧ blank request.localPublicId = false
        ∧ blank request.remotePublicId = false ∧ request.createdAt ≤ request.updatedAt
        ∧ (request.state ≠ .pending → request.decisionReason.isSome = true) := by
  rw [validateFriendRequest, check_bind_eq_ok, check_bind_eq_ok, check_bind_eq_ok,
    check_bind_eq_ok, refuseIf_eq_ok, refuseIf_eq_ok, refuseIf_eq_ok, refuseIf_eq_ok,
    refuseIf_eq_ok, decide_eq_false_iff_not, Int.not_lt]
  refine and_congr_right' (and_congr_right' (and_congr_right' (and_congr_right' ?_)))
  cases request.decisionReason <;> simp

lemma refusesInput_validateFriendRequest (request : FriendRequest) :
    RefusesInput (validateFriendRequest request) :=
  (refusesInput_refuseIf _ _).bind <| (refusesInput_refuseIf _ _).bind <|
    (refusesInput_refuseIf _ _).bind <| (refusesInput_refuseIf _ _).bind (refusesInput_refuseIf _ _)

variable (store : Store)

/-- The stored request under the same id, if the identity has one, is past the state
the new one asks for. -/
def Refused (request : FriendRequest) : Prop :=
  ∃ existing, (store.listFriendRequests request.localPublicId).find?
      (fun item => item.requestId = request.requestId) = some existing
    ∧ existing.canTransitionTo request.state = false ∧ request.state ≠ .pending

/-- The row that is stored for a request; `none` when the stored request under its id
is decided, or when the pair has a request that the new one adds nothing to. -/
def storedRow (request : FriendRequest) : Option FriendRequest :=
  match (store.listFriendRequests request.localPublicId).find?
      (fun item => item.requestId = request.requestId) with
  | none => coalesceFriendRequest (store.listFriendRequests request.localPublicId) request
  | some existing =>
    if existing.canTransitionTo request.state then
      coalesceFriendRequest (store.listFriendRequests request.localPublicId) request
    else none

variable {store : Store} {row : FriendRequest}

lemma storedRow_of_found {existing : FriendRequest} (hstate : request.state ≠ .pending)
    (hfind : (store.existing request).find?
      (fun item => item.requestId = request.requestId) = some existing)
    (hcan : existing.canTransitionTo request.state = true) :
    storedRow store request = some (mergeFriendRequest existing request) := by
  unfold storedRow coalesceFriendRequest
  simp only [hfind, hcan, if_neg hstate, if_true]

lemma storedRow_some (h : storedRow store request = some row) :
    coalesceFriendRequest (store.existing request) request = some row
      ∧ ∀ existing ∈ store.existing request, existing.requestId = request.requestId →
          existing.canTransitionTo request.state = true := by
  unfold storedRow at h
  cases hfind : (store.existing request).find?
      (fun item => item.requestId = request.requestId) with
  | none =>
    rw [hfind] at h
    refine ⟨h, fun existing hexisting hid => ?_⟩
    exact absurd hid (by simpa using List.find?_eq_none.mp hfind existing hexisting)
  | some found =>
    rw [hfind] at h
    dsimp only at h
    split at h
    · next hcan =>
        refine ⟨h, fun existing hexisting hid => ?_⟩
        have hfoundId : found.requestId = request.requestId := by
          simpa using List.find?_some hfind
        have hsame : existing = found := eq_of_key (Store.mem_listFriendRequests.mp hexisting).1
          (Store.mem_listFriendRequests.mp (List.mem_of_find?_eq_some hfind)).1
          (hid.trans hfoundId.symm)
        rw [hsame]
        exact hcan
    · cases h

lemma result_storeCoalesced (items : List FriendRequest) (request : FriendRequest)
    (store : Store) : result (storeCoalesced items request) store = .ok () := by
  unfold storeCoalesced
  split
  · rfl
  · refine (result_bind_ok (a := ()) ?_).trans rfl
    unfold onlyIf
    split
    · exact result_forEach_write _ _ _
    · rfl

/-- **WHEN A REQUEST IS STORED**: the row is well formed and the stored request under
its id does not refuse it. -/
lemma result_upsertFriendRequest_eq_ok : result (upsertFriendRequest request) store = .ok ()
      ↔ validateFriendRequest request = .ok () ∧ ¬ Refused store request := by
  unfold upsertFriendRequest Refused
  rw [result_seq_eq_ok, result_ofExcept, after_ofExcept, result_read_bind]
  refine and_congr_right fun _ => ?_
  dsimp only
  cases hfind : (store.existing request).find?
      (fun item => item.requestId = request.requestId) with
  | none => simp [result_storeCoalesced]
  | some existing =>
    cases hcan : existing.canTransitionTo request.state with
    | true => simp [hcan, result_storeCoalesced]
    | false =>
      by_cases hpending : request.state = .pending
      · rw [hpending] at hcan
        simp [hcan, hpending]
      · simp [hcan, hpending]

lemma result_upsertFriendRequest_cases (store : Store)
    (hvalid : validateFriendRequest request = .ok ()) :
    result (upsertFriendRequest request) store = .ok ()
      ∨ ∃ text, result (upsertFriendRequest request) store = .error (.conflict text) := by
  unfold upsertFriendRequest
  rw [ofExcept_bind hvalid, result_read_bind]
  dsimp only
  split
  · exact .inl (result_storeCoalesced ..)
  · split
    · exact .inl (result_storeCoalesced ..)
    · split
      · exact .inl rfl
      · exact .inr ⟨_, rfl⟩

lemma result_ignoreConflict_upsert :
    result (ignoreConflict (upsertFriendRequest request)) store = .ok ()
      ↔ validateFriendRequest request = .ok () := by
  cases hvalid : validateFriendRequest request with
  | ok u =>
    rcases result_upsertFriendRequest_cases store hvalid with hok | ⟨text, herror⟩
    · exact ⟨fun _ => rfl, fun _ => result_forgive_of_ok hok⟩
    · exact ⟨fun _ => rfl, fun _ => result_forgive_of_error herror⟩
  | error e =>
    have herror : result (upsertFriendRequest request) store = .error e := by
      unfold upsertFriendRequest
      rw [hvalid]
      rfl
    obtain ⟨text, rfl⟩ := refusesInput_validateFriendRequest request e hvalid
    have hforgive : result (ignoreConflict (upsertFriendRequest request)) store
        = .error (.invalidInput text) := result_forgive_of_error herror
    rw [hforgive]

/-- The requests a new pending one takes the place of. -/
abbrev supersededNow (request : FriendRequest) (s : Store) : List FriendRequest :=
  (s.existing request).filter (supersedes request)

/-- Those that storing the request cancels. -/
def superseding (request : FriendRequest) (s : Store) : List FriendRequest :=
  if request.state = .pending then supersededNow request s else []

lemma mem_superseding {x : FriendRequest} (h : x ∈ superseding request store) :
    x ∈ store.existing request ∧ x.state = .pending := by
  unfold superseding at h
  split at h
  · obtain ⟨hlisted, hsupersedes⟩ := List.mem_filter.mp h
    simp only [supersedes, Bool.and_eq_true, decide_eq_true_eq] at hsupersedes
    exact ⟨hlisted, hsupersedes.2⟩
  · cases h

/-- **WHAT A VALID REQUEST WRITES**: the requests it supersedes, and the row it is merged into. -/
lemma writes_upsertFriendRequest (hvalid : validateFriendRequest request = .ok ()) :
    writes (upsertFriendRequest request) store = (storedRow store request).elim [] fun row =>
      (superseding request store).map (.upsertFriendRequest <| superseded request ·)
        ++ [.upsertFriendRequest row] := by
  have hstore : writes (storeCoalesced (store.existing request) request) store
      = (coalesceFriendRequest (store.existing request) request).elim [] fun row =>
        (superseding request store).map (.upsertFriendRequest <| superseded request ·)
          ++ [.upsertFriendRequest row] := by
    unfold storeCoalesced onlyIf superseding
    cases coalesceFriendRequest (store.existing request) request with
    | none => rfl
    | some row =>
      by_cases hpending : request.state = .pending
      · simp only [hpending, decide_true, if_true]
        rw [writes_bind_ok (result_forEach_write ..), writes_forEach_write]
        rfl
      · simp only [hpending, decide_false, if_false]
        rfl
  unfold upsertFriendRequest storedRow
  rw [ofExcept_bind hvalid, writes_read_bind]
  dsimp only
  cases (store.existing request).find? (fun item => item.requestId = request.requestId) with
  | none => exact hstore
  | some existing =>
    dsimp only
    split
    · exact hstore
    · split <;> rfl

lemma writes_decided (hstate : request.state ≠ .pending)
    (hvalid : validateFriendRequest request = .ok ()) : writes (upsertFriendRequest request) store
      = (storedRow store request).toList.map .upsertFriendRequest := by
  rw [writes_upsertFriendRequest hvalid, superseding, if_neg hstate]
  cases storedRow store request <;> rfl

/-! ### Settling the outbound requests -/

lemma canTransitionTo_of_pending (h : request.state = .pending) (next : FriendRequestState) :
    request.canTransitionTo next = true := by
  cases next <;> simp [FriendRequest.canTransitionTo, h]

lemma notBlank_of_blank {text : String} (h : blank text = false) : notBlank text = true := by
  by_contra hall
  rw [notBlank, Bool.not_eq_true, List.any_eq_false] at hall
  have hspaces : ∀ c ∈ text.toList, isWhitespace c = true := by
    intro c hc
    have hspace : c = ' ' := by simpa using hall c hc
    rw [hspace]
    decide
  rw [blank, isEmpty, trim, String.toList_ofList, trimChars,
    List.dropWhile_eq_nil_iff.mpr hspaces] at h
  cases h

lemma named_storedRow (hid : blank request.requestId = false)
    (h : storedRow store request = some row) : notBlank row.requestId = true := by
  rcases coalesce_source (storedRow_some h).1 with rfl | ⟨existing, hexisting, rfl, -⟩
  · exact notBlank_of_blank hid
  · exact (Store.mem_listFriendRequests.mp hexisting).2.2

/-- The row that lands is the row that was given, but for the time it was created. -/
lemma landed_fields (row : FriendRequest) (t : Table FriendRequest) :
    (landed row t).requestId = row.requestId ∧ (landed row t).state = row.state
      ∧ (landed row t).localPublicId = row.localPublicId
      ∧ (landed row t).remotePublicId = row.remotePublicId
      ∧ (landed row t).direction = row.direction := by
  unfold landed
  split
  · exact ⟨rfl, rfl, rfl, rfl, rfl⟩
  · exact ⟨rfl, rfl, rfl, rfl, rfl⟩

/-- A stored pending request of the identity. -/
structure StoredPending (store : Store) (localId : String) (request : FriendRequest) :
    Prop where
  mem : request ∈ store.friendRequests.rows
  owner : request.localPublicId = localId
  named : notBlank request.requestId = true
  pending : request.state = .pending

variable {localId : String}

lemma find_stored (h : StoredPending store localId request) :
    (store.listFriendRequests localId).find?
      (fun item => item.requestId = request.requestId) = some request := by
  have hmem : request ∈ store.listFriendRequests localId :=
    Store.mem_listFriendRequests.mpr ⟨h.mem, h.owner, h.named⟩
  cases hfind : (store.listFriendRequests localId).find?
      (fun item => item.requestId = request.requestId) with
  | none =>
    have := List.find?_eq_none.mp hfind request hmem
    simp at this
  | some found =>
    have hfound := Store.mem_listFriendRequests.mp (List.mem_of_find?_eq_some hfind)
    have hid : found.requestId = request.requestId := by simpa using List.find?_some hfind
    rw [eq_of_key hfound.1 h.mem hid]

section Settle

variable {store : Store} {localId : String} {state : FriendRequestState}
  {reason : String} {time : Int} {request : FriendRequest}

/-- A pending request is settled exactly when its row is still well formed then. -/
lemma result_settle_one (h : StoredPending store localId request) :
    result (upsertFriendRequest (settled state reason time request)) store = .ok ()
      ↔ validateFriendRequest (settled state reason time request) = .ok () := by
  rw [result_upsertFriendRequest_eq_ok]
  refine and_iff_left_of_imp fun _ => ?_
  rintro ⟨existing, hfind, hcan, -⟩
  have hsame : existing = request := by
    have hstored := find_stored h
    rw [← h.owner] at hstored
    exact Option.mem_unique hfind hstored
  rw [hsame, canTransitionTo_of_pending h.pending] at hcan
  cases hcan

lemma mem_settle_one (h : StoredPending store localId request) (hstate : state ≠ .pending)
    (hvalid : validateFriendRequest (settled state reason time request) = .ok ()) :
    ∃ row : FriendRequest, row.requestId = request.requestId ∧ row.state = state
      ∧ ∀ r, r ∈ (after (upsertFriendRequest (settled state reason time request))
            store).friendRequests.rows
          ↔ r = row ∨ (r ∈ store.friendRequests.rows ∧ r.requestId ≠ request.requestId) := by
  have hfind := find_stored h
  rw [← h.owner] at hfind
  have hrow : storedRow store (settled state reason time request)
      = some (mergeFriendRequest request (settled state reason time request)) :=
    storedRow_of_found hstate hfind (canTransitionTo_of_pending h.pending _)
  have hlanded : landed (mergeFriendRequest request
      (settled state reason time request)) store.friendRequests
        = Row.merge request (mergeFriendRequest request
            (settled state reason time request)) :=
    landed_of_mem h.mem rfl
  refine ⟨landed (mergeFriendRequest request
    (settled state reason time request)) store.friendRequests, ?_, ?_, fun r => ?_⟩
  · rw [hlanded]
    rfl
  · rw [hlanded]
    rfl
  · unfold after
    rw [writes_decided hstate hvalid, hrow]
    exact mem_upsert

lemma result_settleOne (h : StoredPending store localId request) :
    result (settleOne state reason time request) store = .ok ()
      ↔ validateFriendRequest (settled state reason time request) = .ok () := by
  unfold settleOne
  rw [result_seq_eq_ok, result_settle_one h]
  exact and_iff_left rfl

lemma friendRequests_clearRetry (requestId : String) (store : Store) :
    (after (clearFriendRequestRetry requestId) store).friendRequests = store.friendRequests := rfl

lemma friendRequests_settleOne
    (hok : result (upsertFriendRequest (settled state reason time request)) store = .ok ()) :
    (after (settleOne state reason time request) store).friendRequests
      = (after (upsertFriendRequest (settled state reason time request)) store).friendRequests := by
  unfold settleOne
  rw [after_bind_ok hok]
  exact friendRequests_clearRetry _ _

/-- What is left of the rows after some of them were settled. -/
structure SettledRows (settledOnes : List FriendRequest) (state : FriendRequestState)
    (rows rows' : List FriendRequest) : Prop where
  kept : ∀ r ∈ rows, (∀ x ∈ settledOnes, r.requestId ≠ x.requestId) → r ∈ rows'
  only : ∀ r ∈ rows', (r ∈ rows ∧ ∀ x ∈ settledOnes, r.requestId ≠ x.requestId)
    ∨ ∃ x ∈ settledOnes, r.requestId = x.requestId ∧ r.state = state

lemma SettledRows.nil {rows : List FriendRequest} : SettledRows [] state rows rows := by
  refine ⟨fun r hr _ => hr, fun r hr => .inl ⟨hr, fun x hx => ?_⟩⟩
  cases hx

lemma SettledRows.cons {x row : FriendRequest} {xs rows rows1 rows' : List FriendRequest}
    (hid : row.requestId = x.requestId) (hrow : row.state = state)
    (hmem : ∀ r, r ∈ rows1 ↔ r = row ∨ (r ∈ rows ∧ r.requestId ≠ x.requestId))
    (h : SettledRows xs state rows1 rows') : SettledRows (x :: xs) state rows rows' := by
  constructor
  · intro r hr hrids
    obtain ⟨hrx, hrxs⟩ := List.forall_mem_cons.mp hrids
    exact h.kept r ((hmem r).mpr (.inr ⟨hr, hrx⟩)) hrxs
  · intro r hr
    rcases h.only r hr with ⟨hr, hrxs⟩ | ⟨y, hy, hry⟩
    · rcases (hmem r).mp hr with rfl | ⟨hr, hrx⟩
      · exact .inr ⟨x, List.mem_cons_self, hid, hrow⟩
      · exact .inl ⟨hr, List.forall_mem_cons.mpr ⟨hrx, hrxs⟩⟩
    · exact .inr ⟨y, List.mem_cons_of_mem x hy, hry⟩

/-- **SETTLING**: the loop succeeds exactly when every row it settles is well formed, and
then it changes those rows and no other. -/
lemma settleAll (hstate : state ≠ .pending) : ∀ (xs : List FriendRequest) (store : Store),
    (∀ x ∈ xs, StoredPending store localId x) → (xs.map FriendRequest.requestId).Nodup →
    (result (forEach xs (settleOne state reason time)) store = .ok ()
        ↔ ∀ x ∈ xs, validateFriendRequest (settled state reason time x) = .ok ())
      ∧ (result (forEach xs (settleOne state reason time)) store = .ok () →
          SettledRows xs state store.friendRequests.rows
            (after (forEach xs (settleOne state reason time)) store).friendRequests.rows) := by
  intro xs
  induction xs with
  | nil =>
    intro store _ _
    refine ⟨⟨fun _ x hx => ?_, fun _ => rfl⟩, fun _ => SettledRows.nil⟩
    cases hx
  | cons x xs ih =>
    intro store hstored hids
    obtain ⟨hx, hxs⟩ := List.forall_mem_cons.mp hstored
    obtain ⟨hfresh, hids⟩ := List.nodup_cons.mp hids
    have hne : ∀ y ∈ xs, y.requestId ≠ x.requestId := by
      intro y hy heq
      exact hfresh (heq ▸ List.mem_map_of_mem hy)
    rw [forEach, result_seq_eq_ok, result_settleOne hx, List.forall_mem_cons]
    -- once the first row is settled, the others are still stored as they were
    have hnext : validateFriendRequest (settled state reason time x) = .ok () →
        ∃ row : FriendRequest, row.requestId = x.requestId ∧ row.state = state
          ∧ ∀ r, r ∈ (after (settleOne state reason time x) store).friendRequests.rows
            ↔ r = row ∨ (r ∈ store.friendRequests.rows ∧ r.requestId ≠ x.requestId) := by
      intro hvalid
      obtain ⟨row, hid, hrow, hmem⟩ := mem_settle_one hx hstate hvalid
      rw [friendRequests_settleOne ((result_settle_one hx).mpr hvalid)]
      exact ⟨row, hid, hrow, hmem⟩
    have hrest : validateFriendRequest (settled state reason time x) = .ok () →
        ∀ y ∈ xs, StoredPending (after (settleOne state reason time x) store) localId y := by
      intro hvalid y hy
      obtain ⟨row, -, -, hmem⟩ := hnext hvalid
      have hy' := hxs y hy
      exact ⟨(hmem y).mpr (.inr ⟨hy'.mem, hne y hy⟩), hy'.owner, hy'.named, hy'.pending⟩
    constructor
    · refine and_congr_right fun hvalid => (ih _ (hrest hvalid) hids).1
    · rintro ⟨hvalid, hok⟩
      obtain ⟨row, hid, hrow, hmem⟩ := hnext hvalid
      rw [after_bind_ok ((result_settleOne hx).mpr hvalid)]
      exact SettledRows.cons hid hrow hmem ((ih _ (hrest hvalid) hids).2 hok)

end Settle

/-- Superseding changes the superseded rows to `Cancelled` and no other. -/
lemma supersedeAll (request : FriendRequest) (xs : List FriendRequest) : ∀ s : Store,
    SettledRows xs .cancelled s.friendRequests.rows
      (replay s (xs.map (Write.upsertFriendRequest <| superseded request ·))).friendRequests.rows := by
  induction xs with
  | nil => exact fun s => SettledRows.nil
  | cons x xs ih =>
    intro s
    obtain ⟨hid, hcancelled, -⟩ := landed_fields (superseded request x) s.friendRequests
    exact SettledRows.cons hid hcancelled (fun r => mem_upsert)
      (ih (s.apply (.upsertFriendRequest (superseded request x))))

lemma listedRequests_eq (h : blank localId = false) : listedRequests store localId
      = dedupeFriendRequests (store.listFriendRequests localId) := by
  unfold listedRequests listFriendRequests refuseIf
  rw [h]
  rfl

lemma listFriendRequests_eq (h : blank localId = false) :
    listFriendRequests store localId = .ok (listedRequests store localId) :=
  refuseIf_return.mpr ⟨h, (listedRequests_eq h).symm⟩

lemma listedRequests_sublist (store : Store) (localId : String) :
    ∃ items, (listedRequests store localId).Sublist items
      ∧ items.Perm (store.ownFriendRequests localId) := by
  unfold listedRequests
  cases hblank : blank localId with
  | true =>
    refine ⟨store.ownFriendRequests localId, ?_, List.Perm.refl _⟩
    unfold listFriendRequests refuseIf
    rw [hblank]
    exact List.nil_sublist _
  | false =>
    refine ⟨(store.listFriendRequests localId).insertionSort dedupeOrder, ?_, ?_⟩
    · unfold listFriendRequests refuseIf
      rw [hblank]
      exact keepFirstPending_sublist _ _ _
    · exact (List.perm_insertionSort _ _).trans (List.perm_insertionSort _ _)

lemma mem_listedRequests (h : request ∈ listedRequests store localId) :
    request ∈ store.friendRequests.rows ∧ request.localPublicId = localId
      ∧ notBlank request.requestId = true := by
  obtain ⟨items, hsub, hperm⟩ := listedRequests_sublist store localId
  have hmem := hperm.mem_iff.mp (hsub.subset h)
  rwa [Store.ownFriendRequests, List.mem_filter, Bool.and_eq_true, decide_eq_true_eq] at hmem

lemma nodup_listedRequests (store : Store) (localId : String) :
    ((listedRequests store localId).map FriendRequest.requestId).Nodup := by
  obtain ⟨items, hsub, hperm⟩ := listedRequests_sublist store localId
  have hown : ((store.ownFriendRequests localId).map FriendRequest.requestId).Nodup :=
    store.friendRequests.nodup.sublist (List.filter_sublist.map _)
  exact ((hperm.map _).nodup_iff.mpr hown).sublist (hsub.map _)

/-- The requests that `settle_related_outbound_friend_requests` decides. -/
def settledNow (store : Store) (localId : String)
    (counterpart : FriendRequestCounterpartRef) : List FriendRequest :=
  (listedRequests store localId).filter (settles (counterpartMatchKeys counterpart))

lemma settleRelatedOutbound_spec (hblank : blank localId = false)
    (counterpart : FriendRequestCounterpartRef) {state : FriendRequestState}
    (hstate : state ≠ .pending) (reason : String) (time : Int) :
    (result (settleRelatedOutboundFriendRequests localId counterpart state reason
          time) store = .ok () ↔ ∀ x ∈ settledNow store localId counterpart,
          validateFriendRequest (settled state reason time x) = .ok ())
      ∧ (result (settleRelatedOutboundFriendRequests localId counterpart state reason
          time) store = .ok () → SettledRows (settledNow store localId counterpart) state
            store.friendRequests.rows
            (after (settleRelatedOutboundFriendRequests localId counterpart state
              reason time) store).friendRequests.rows) := by
  unfold settleRelatedOutboundFriendRequests
  rw [result_read_bind, after_read_bind, ofExcept_bind (listFriendRequests_eq hblank)]
  refine @settleAll localId _ _ _ hstate _ store (fun x hx => ?_) ?_
  · obtain ⟨hlisted, hsettles⟩ := List.mem_filter.mp hx
    obtain ⟨hmem, howner, hnamed⟩ := mem_listedRequests hlisted
    rw [settles, Bool.and_eq_true, Bool.and_eq_true, decide_eq_true_eq, decide_eq_true_eq]
      at hsettles
    exact ⟨hmem, howner, hnamed, hsettles.1.2⟩
  · exact (nodup_listedRequests store localId).sublist (List.filter_sublist.map _)

end FriendRequestService

/-! ## Friendships, blocks and threads -/

lemma result_cacheCounterpart_eq_ok {snapshot : CounterpartSnapshot} {s : Store} :
    result (cacheCounterpart snapshot) s = .ok ()
      ↔ (∀ agentDid, counterpartAgentDid snapshot = some agentDid →
          RemoteIdentityService.check (cachedIdentity s snapshot agentDid) = .ok ())
        ∧ TransportBindingService.check (cachedBinding snapshot) = .ok () := by
  unfold cacheCounterpart TransportBindingService.upsertTransportBinding
  rw [result_seq_eq_ok, result_seq_eq_ok, result_ofExcept, result_write, and_iff_left rfl]
  refine and_congr_left fun _ => ?_
  unfold cacheIdentity RemoteIdentityService.upsertRemoteIdentity
  cases counterpartAgentDid snapshot with
  | none => simp
  | some agentDid =>
    dsimp only
    rw [result_read_bind, result_seq_eq_ok, result_ofExcept, result_write, and_iff_left rfl]
    simp

variable {store : Store} {block : SocialBlock} {friendship : Friendship} {thread : DirectThread}

lemma result_upsertBlock_eq_ok :
    result (upsertBlock block) store = .ok () ↔ BlockService.check block = .ok () := by
  unfold upsertBlock
  rw [result_seq_eq_ok, result_ofExcept]
  exact and_iff_left rfl

lemma after_upsertBlock (h : BlockService.check block = .ok ()) :
    after (upsertBlock block) store = store.apply (.upsertBlock block) := by
  unfold upsertBlock
  rw [ofExcept_bind h]
  rfl

/-- An unblock deletes the block of the pair, unless it is refused for a blank id. -/
lemma blocks_removeBlock (owner blocked : String) (store : Store) :
    (after (removeBlock owner blocked) store).blocks
      = if blank owner || blank blocked then store.blocks
        else store.blocks.delete (SocialBlock.between owner blocked) := by
  unfold removeBlock refuseIf
  split
  · rfl
  · rfl

section Checked

variable {check : Except SocialError Unit} {transition : Store → Except SocialError Unit}
  {w : Write} {s : Store}

/-- A service that checks its row, then the transition, and then stores it. -/
abbrev checkedUpsert (check : Except SocialError Unit)
    (transition : Store → Except SocialError Unit) (w : Write) : Social Unit := do
  ofExcept check
  ofExcept (transition (← read))
  write w

lemma result_checked_eq_ok : result (checkedUpsert check transition w) s = .ok ()
      ↔ check = .ok () ∧ transition s = .ok () := by
  rw [result_seq_eq_ok, result_ofExcept, after_ofExcept, result_read_bind, result_seq_eq_ok,
    result_ofExcept, after_ofExcept, result_write, and_iff_left rfl]

lemma result_checked : result (checkedUpsert check transition w) s
      = check.bind fun _ => transition s := by
  cases check with
  | error e => rfl
  | ok u =>
    show result (ofExcept (transition s) >>= fun _ => write w : Social Unit) s = transition s
    cases transition s <;> rfl

lemma result_ignoreConflict_checked (hcheck : RefusesInput check)
    (htransition : ∀ e, transition s = .error e → ∃ text, e = .conflict text) :
    result (ignoreConflict (checkedUpsert check transition w)) s = .ok () ↔ check = .ok () := by
  cases hc : check with
  | error e =>
    obtain ⟨text, rfl⟩ := hcheck e hc
    rw [ignoreConflict, result_forgive_of_error result_checked]
    exact ⟨fun h => (nomatch h), fun h => (nomatch h)⟩
  | ok u =>
    refine iff_of_true ?_ rfl
    cases ht : transition s with
    | ok u => exact result_forgive_of_ok (result_checked.trans ht)
    | error e =>
      obtain ⟨text, rfl⟩ := htransition e ht
      have hrefused : result (checkedUpsert (.ok u) transition w) s = .error (.conflict text) :=
        result_checked.trans ht
      rw [ignoreConflict, result_forgive_of_error hrefused]
      rfl

lemma after_checked_ok (hcheck : check = .ok ()) (htransition : transition s = .ok ()) :
    after (checkedUpsert check transition w) s = s.apply w := by
  unfold checkedUpsert
  rw [ofExcept_bind hcheck, after_read_bind, ofExcept_bind htransition]
  rfl

lemma after_checked_error (h : check ≠ .ok () ∨ transition s ≠ .ok ()) :
    after (checkedUpsert check transition w) s = s := by
  unfold checkedUpsert
  cases hc : check with
  | error e => rfl
  | ok u =>
    cases ht : transition s with
    | error e =>
      show after (ofExcept (transition s) >>= fun _ => write w : Social Unit) s = s
      rw [ht]
      rfl
    | ok u => exact absurd ht (h.resolve_left (not_not.mpr hc))

lemma keeps_checked {I : Store → Prop} (h : ∀ s, I s →
      result (checkedUpsert check transition w) s = .ok () → I (s.apply w)) :
    Keeps I (checkedUpsert check transition w) := by
  intro s hs
  by_cases hok : check = .ok () ∧ transition s = .ok ()
  · rw [after_checked_ok hok.1 hok.2]
    exact h s hs (result_checked_eq_ok.mpr hok)
  · rwa [after_checked_error (not_and_or.mp hok)]

end Checked

lemma result_upsertFriendship_eq_ok : result (upsertFriendship friendship) store = .ok ()
      ↔ FriendshipService.check friendship = .ok ()
        ∧ ∀ existing, store.findFriendship friendship.localPublicId friendship.remotePublicId
            = some existing → FriendshipService.refuses friendship existing = false := by
  refine result_checked_eq_ok.trans (and_congr_right fun _ => ?_)
  unfold FriendshipService.checkTransition
  cases store.findFriendship friendship.localPublicId friendship.remotePublicId with
  | none => simp
  | some existing => simp [conflictIf_eq_ok]

lemma after_upsertFriendship (h : result (upsertFriendship friendship) store = .ok ()) :
    after (upsertFriendship friendship) store = store.apply (.upsertFriendship friendship) :=
  after_checked_ok (result_checked_eq_ok.mp h).1 (result_checked_eq_ok.mp h).2

lemma result_upsertThread_eq_ok : result (upsertThread thread) store = .ok ()
      ↔ ThreadService.check thread = .ok ()
        ∧ ∀ existing, store.findThread thread.localPublicId thread.remotePublicId = some existing →
            existing.canTransitionTo thread.state = true := by
  refine result_checked_eq_ok.trans (and_congr_right fun _ => ?_)
  unfold ThreadService.checkTransition
  cases store.findThread thread.localPublicId thread.remotePublicId with
  | none => simp
  | some existing => simp [conflictIf_eq_ok, ThreadService.refuses]

lemma after_upsertThread (h : result (upsertThread thread) store = .ok ()) :
    after (upsertThread thread) store = store.apply (.upsertThread thread) :=
  after_checked_ok (result_checked_eq_ok.mp h).1 (result_checked_eq_ok.mp h).2

end WattSocial
