import Wattetheria.SocialServiceProofs

/-!
# What friend requests go through

Runs of the four calls of `friend_request_service` that change requests.  A
request is looked up among those of its own identity, so it moves along
`can_transition_to` as long as it stays with that identity; but its id is the
primary key of the whole table.  Never are two requests of one pair and direction pending,
and decided requests stay decided exactly when no upsert lands on one of another identity
(`requests_kept_iff`).
-/

namespace WattFriendRequests

open WattRuns WattRows WattJournal Program WattSocial FriendRequestService Table Option

/-! ## Runs of the request service -/

/-- The calls that change requests. -/
inductive RequestCall where
  | upsert (request : FriendRequest)
  | queue (input : QueueFriendRequestDecisionInput)
  | accept (localId : String) (counterpart : FriendRequestCounterpartRef) (time : Int)
  | settle (localId : String) (counterpart : FriendRequestCounterpartRef)
      (state : FriendRequestState) (reason : String) (time : Int)

/-- What a call runs. -/
def RequestCall.program : RequestCall → Social Unit
  | .upsert request => upsertFriendRequest request
  | .queue input => queueFriendRequestDecision input
  | .accept localId counterpart time =>
    acceptRelatedFriendRequests localId counterpart time
  | .settle localId counterpart state reason time =>
    settleRelatedOutboundFriendRequests localId counterpart state reason time

variable (s : Store) (call : RequestCall)

def step : Store := after call.program s

/-- At most one request of a pair and direction is pending. -/
def OnePending : Prop :=
  ∀ r ∈ s.friendRequests.rows, ∀ r' ∈ s.friendRequests.rows, r.state = .pending →
    r'.state = .pending → r.localPublicId = r'.localPublicId →
    r.remotePublicId = r'.remotePublicId → r.direction = r'.direction → r = r'

def finalStates : List FriendRequestState := [.accepted, .rejected, .blocked, .expired]

/-- A request in a final state keeps it. -/
def FinalKept (s s' : Store) : Prop :=
  ∀ old ∈ s.friendRequests.rows, old.state ∈ finalStates →
    ∃ new ∈ s'.friendRequests.rows, new.requestId = old.requestId ∧ new.state = old.state

/-- A cancelled request stays cancelled or, if it was superseded, is accepted. -/
def CancelledKept (s s' : Store) : Prop :=
  ∀ old ∈ s.friendRequests.rows, old.state = .cancelled →
    ∃ new ∈ s'.friendRequests.rows, new.requestId = old.requestId
      ∧ (new.state = .cancelled ∨ (new.state = .accepted
        ∧ old.decisionReason = some "superseded_by_new_request"))

/-- The states a stored request may be in next. -/
def MayBecome (old : FriendRequest) (next : FriendRequestState) : Prop :=
  (old.state ∈ finalStates → next = old.state)
    ∧ (old.state = .cancelled → next = .cancelled ∨ (next = .accepted
      ∧ old.decisionReason = some "superseded_by_new_request"))

/-- What an upsert stores does not land on a decided request of another identity. -/
def Spares (request : FriendRequest) : Prop :=
  ∀ row, validateFriendRequest request = .ok () → storedRow s request = some row →
    ∀ old ∈ s.friendRequests.rows, old.requestId = row.requestId →
      old.localPublicId ≠ request.localPublicId → MayBecome old request.state

variable (input : QueueFriendRequestDecisionInput)

/-- The request a decision is queued for. -/
def listedUnder : Option FriendRequest :=
  (listedRequests s input.localPublicId).find? fun request => request.requestId = input.requestId

/-- The request a call hands to `upsert_friend_request`. -/
def submitted : RequestCall → Option FriendRequest
  | .upsert request => some request
  | .queue input =>
    if blank input.localPublicId || (listedUnder s input).any fun request =>
        request.state ≠ .pending && request.state ≠ .decisionPending then none
    else some (queuedDecision input (listedUnder s input))
  | .accept _ _ _ | .settle _ _ _ _ _ => none

/-- The condition on one call. -/
def SparesOthers : Prop :=
  ∀ request, submitted s call = some request → Spares s request

/-! ## States -/

/-- Past every state that waits for a decision. -/
def Decided (state : FriendRequestState) : Prop :=
  state ≠ .pending ∧ state ≠ .decisionPending

section States

variable {old : FriendRequest} {next : FriendRequestState}

lemma mayBecome_same (old : FriendRequest) : MayBecome old old.state :=
  ⟨fun _ => rfl, .inl⟩

lemma mayBecome_open (h : ¬ Decided old.state) : MayBecome old next := by
  constructor
  · intro hfinal
    refine absurd ⟨?_, ?_⟩ h
    · intro hstate; rw [hstate] at hfinal; exact absurd hfinal (by decide)
    · intro hstate; rw [hstate] at hfinal; exact absurd hfinal (by decide)
  · intro hcancelled
    rw [hcancelled] at h
    exact absurd ⟨by decide, by decide⟩ h

lemma mayBecome_pending (h : old.state = .pending) : MayBecome old next :=
  mayBecome_open fun hdecided => hdecided.1 h

lemma canTransitionTo_decided (hdecided : Decided old.state)
    (h : old.canTransitionTo next = true) : next = old.state := by
  unfold FriendRequest.canTransitionTo at h
  cases hstate : old.state <;> simp_all [Decided]

lemma mayBecome_of_canTransitionTo (h : old.canTransitionTo next = true) : MayBecome old next := by
  by_cases hdecided : Decided old.state
  · rw [canTransitionTo_decided hdecided h]
    exact mayBecome_same old
  · exact mayBecome_open hdecided

end States

/-! ## What a call may leave of a request -/

/-- Every request is still there, in a state it may be in. -/
def Follows (t t' : Table FriendRequest) : Prop :=
  ∀ old ∈ t.rows, ∃ new ∈ t'.rows, new.requestId = old.requestId ∧ MayBecome old new.state

variable {s : Store} (p : Social Unit)

lemma id_persists {old : FriendRequest} (hold : old ∈ s.friendRequests.rows) :
    ∃ new ∈ (after p s).friendRequests.rows, new.requestId = old.requestId := by
  have hall : AllWrites (fun _ => True) p := fun _ _ _ => trivial
  have hkeeps : Keeps (fun s : Store =>
      ∃ new ∈ s.friendRequests.rows, new.requestId = old.requestId) p := by
    refine keeps_of_allWrites (fun s w _ h => ?_) hall
    cases w with
    | upsertFriendRequest request =>
      obtain ⟨new, hnew, hid⟩ := h
      obtain ⟨new', hnew', hid'⟩ := exists_key_upsert request hnew
      exact ⟨new', hnew', hid'.trans hid⟩
    | _ => exact h
  exact hkeeps s ⟨old, hold, rfl⟩

lemma kept_iff_follows (s : Store) : FinalKept s (after p s) ∧ CancelledKept s (after p s)
      ↔ Follows s.friendRequests (after p s).friendRequests := by
  constructor
  · rintro ⟨hfinal, hcancelled⟩ old hold
    obtain ⟨new, hnew, hid⟩ := id_persists p hold
    -- the row under an id is unique
    have hsame : ∀ new' ∈ (after p s).friendRequests.rows, new'.requestId = old.requestId →
        new' = new := fun new' hnew' hid' => eq_of_key hnew' hnew (hid'.trans hid.symm)
    refine ⟨new, hnew, hid, fun hstate => ?_, fun hstate => ?_⟩
    · obtain ⟨new', hnew', hid', hkept⟩ := hfinal old hold hstate
      rw [← hsame new' hnew' hid']
      exact hkept
    · obtain ⟨new', hnew', hid', hkept⟩ := hcancelled old hold hstate
      rw [← hsame new' hnew' hid']
      exact hkept
  · intro h
    constructor
    · intro old hold hstate
      obtain ⟨new, hnew, hid, hmay⟩ := h old hold
      exact ⟨new, hnew, hid, hmay.1 hstate⟩
    · intro old hold hstate
      obtain ⟨new, hnew, hid, hmay⟩ := h old hold
      exact ⟨new, hnew, hid, hmay.2 hstate⟩

/-! ## Upserts -/

section Upsert

variable {request row : FriendRequest} {s : Store} {old : FriendRequest}

/-- **WHAT AN UPSERT LEAVES**: nothing new, or the superseded requests cancelled and the
row it is merged into. -/
lemma rows_upsert (request : FriendRequest) (s : Store) :
    ((after (upsertFriendRequest request) s).friendRequests = s.friendRequests
        ∧ ∀ row, validateFriendRequest request = .ok () → storedRow s request ≠ some row)
      ∨ ∃ row, ∃ mid : Table FriendRequest, validateFriendRequest request = .ok ()
        ∧ storedRow s request = some row
        ∧ SettledRows (superseding request s) .cancelled s.friendRequests.rows mid.rows
        ∧ (after (upsertFriendRequest request) s).friendRequests = mid.upsert row := by
  cases hvalid : validateFriendRequest request with
  | error e =>
    left
    unfold upsertFriendRequest
    rw [hvalid]
    exact ⟨rfl, fun _ h => (nomatch h)⟩
  | ok u =>
    unfold after
    rw [writes_upsertFriendRequest hvalid]
    cases storedRow s request with
    | none => exact .inl ⟨rfl, fun _ _ h => (nomatch h)⟩
    | some row =>
      rw [elim_some, replay_append]
      exact .inr ⟨row, _, rfl, rfl, supersedeAll request _ s, rfl⟩

lemma landed_state (h : storedRow s request = some row) (mid : Table FriendRequest) :
    (landed row mid).state = request.state :=
  (landed_fields row mid).2.1.trans (coalesceFriendRequest_same (storedRow_some h).1).2.2.2

/-- An own request under the id of the stored row may be in the state asked for. -/
lemma mayBecome_own (h : storedRow s request = some row) (hold : old ∈ s.existing request)
    (hid : old.requestId = row.requestId) : MayBecome old request.state := by
  obtain ⟨hcoalesce, hcan⟩ := storedRow_some h
  rcases coalesce_source hcoalesce with rfl | ⟨existing, hexisting, rfl, hsource⟩
  · exact mayBecome_of_canTransitionTo (hcan old hold hid)
  · have hsame : old = existing := eq_of_key (Store.mem_listFriendRequests.mp hold).1
      (Store.mem_listFriendRequests.mp hexisting).1 hid
    subst hsame
    rcases hsource with hrequest | ⟨-, hpending | hstate⟩
    · exact mayBecome_of_canTransitionTo (hcan old hold hrequest)
    · exact mayBecome_pending hpending
    · rw [← hstate]
      exact mayBecome_same old

/-- A request under another id than the row is kept, unless it is superseded. -/
lemma mem_upsert_other {mid : Table FriendRequest}
    (hmid : SettledRows (superseding request s) .cancelled s.friendRequests.rows mid.rows)
    (hold : old ∈ s.friendRequests.rows) (hid : old.requestId ≠ row.requestId)
    (hstate : old.state ≠ .pending) : old ∈ (mid.upsert row).rows := by
  refine mem_upsert.mpr (.inr ⟨hmid.kept old hold fun x hx hxid => ?_, hid⟩)
  obtain ⟨hlisted, hpending⟩ := mem_superseding hx
  rw [eq_of_key hold (Store.mem_listFriendRequests.mp hlisted).1 hxid] at hstate
  exact hstate hpending

/-- Every stored request has an id. -/
def Named (s : Store) : Prop := ∀ r ∈ s.friendRequests.rows, notBlank r.requestId = true

/-- **ONE UPSERT** follows the states exactly when it does not land on a decided request
of another identity. -/
lemma follows_upsert_iff (hnamed : Named s) :
    Follows s.friendRequests (after (upsertFriendRequest request) s).friendRequests
      ↔ Spares s request := by
  rcases rows_upsert request s with ⟨hsame, hnone⟩ | ⟨row, mid, hvalid, hrow, hmid, hafter⟩
  · rw [hsame]
    refine ⟨fun _ row hvalid hrow => absurd hrow (hnone row hvalid), fun _ old hold => ?_⟩
    exact ⟨old, hold, rfl, mayBecome_same old⟩
  · constructor
    · intro h row' _ hrow' old hold hid _
      obtain rfl : row' = row := mem_unique hrow' hrow
      obtain ⟨new, hnew, hnewId, hmay⟩ := h old hold
      rw [hafter] at hnew
      have hlanded : new = landed row' mid := by
        rcases mem_upsert.mp hnew with hnew | ⟨-, hne⟩
        · exact hnew
        · exact absurd (hnewId.trans hid) hne
      rw [hlanded, landed_state hrow] at hmay
      exact hmay
    · intro h old hold
      rw [hafter]
      by_cases hid : old.requestId = row.requestId
      · refine ⟨landed row mid, mem_upsert_landed row mid, (key_landed row mid).trans hid.symm, ?_⟩
        rw [landed_state hrow]
        by_cases hown : old.localPublicId = request.localPublicId
        · exact mayBecome_own hrow
            (Store.mem_listFriendRequests.mpr ⟨hold, hown, hnamed old hold⟩) hid
        · exact h row hvalid hrow old hold hid hown
      · by_cases hpending : old.state = .pending
        · obtain ⟨new, hnew, hnewId⟩ := id_persists (upsertFriendRequest request) hold
          rw [hafter] at hnew
          exact ⟨new, hnew, hnewId, mayBecome_pending hpending⟩
        · exact ⟨old, mem_upsert_other hmid hold hid hpending, rfl, mayBecome_same old⟩

end Upsert

/-! ## Pending requests -/

/-- What every state of a run has. -/
structure Tidy (s : Store) : Prop where
  named : Named s
  onePending : OnePending s

lemma tidy_empty : Tidy .empty := ⟨fun _ hr => (nomatch hr), fun _ hr => (nomatch hr)⟩

lemma tidy_congr {s' : Store} (h : s'.friendRequests = s.friendRequests) (hs : Tidy s) :
    Tidy s' := by
  obtain ⟨hnamed, hone⟩ := hs
  refine ⟨?_, ?_⟩
  · unfold Named
    rw [h]
    exact hnamed
  · unfold OnePending
    rw [h]
    exact hone

/-- A statement that stores no pending request. -/
def StoresDecided (w : Write) : Prop :=
  ∀ request, w = .upsertFriendRequest request →
    notBlank request.requestId = true ∧ request.state ≠ .pending

lemma tidy_storesDecided {w : Write} (hw : StoresDecided w) (hs : Tidy s) : Tidy (s.apply w) := by
  cases w with
  | upsertFriendRequest request =>
    obtain ⟨hid, hstate⟩ := hw request rfl
    obtain ⟨hlandedId, hlandedState, -⟩ := landed_fields request s.friendRequests
    -- a pending row of the new table was there before
    have hpending : ∀ r ∈ (s.friendRequests.upsert request).rows, r.state = .pending →
        r ∈ s.friendRequests.rows := by
      intro r hr hrpending
      rcases mem_upsert.mp hr with rfl | ⟨hr, -⟩
      · exact absurd (hlandedState.symm.trans hrpending) hstate
      · exact hr
    constructor
    · intro r hr
      rcases mem_upsert.mp hr with rfl | ⟨hr, -⟩
      · rw [hlandedId]
        exact hid
      · exact hs.named r hr
    · intro r hr r' hr' hrpending hr'pending
      exact hs.onePending r (hpending r hr hrpending) r' (hpending r' hr' hr'pending) hrpending
        hr'pending
  | _ => exact ⟨hs.named, hs.onePending⟩

section OnePending

variable {s : Store} {request row : FriendRequest} {mid : Table FriendRequest} {r : FriendRequest}

lemma landed_request (hrow : storedRow s request = some row) (t : Table FriendRequest) :
    (landed row t).localPublicId = request.localPublicId
      ∧ (landed row t).remotePublicId = request.remotePublicId
      ∧ (landed row t).direction = request.direction := by
  obtain ⟨hlocal, hremote, hdirection, -⟩ := coalesceFriendRequest_same (storedRow_some hrow).1
  obtain ⟨-, -, hlandedLocal, hlandedRemote, hlandedDirection⟩ := landed_fields row t
  exact ⟨hlandedLocal.trans hlocal, hlandedRemote.trans hremote, hlandedDirection.trans hdirection⟩

/-- Superseding only cancels, so a request that is pending afterwards was there before. -/
lemma pending_of_superseded
    (hmid : SettledRows (superseding request s) .cancelled s.friendRequests.rows mid.rows)
    (hr : r ∈ mid.rows) (hpending : r.state = .pending) :
    r ∈ s.friendRequests.rows ∧ ∀ x ∈ superseding request s, r.requestId ≠ x.requestId := by
  rcases hmid.only r hr with hkept | ⟨x, -, -, hcancelled⟩
  · exact hkept
  · cases hcancelled.symm.trans hpending

/-- No request that is pending after the superseding is of the pair and direction of a
pending one, but for the row that one is stored in. -/
lemma direction_ne_of_superseded (hnamed : Named s) (hrow : storedRow s request = some row)
    (hmid : SettledRows (superseding request s) .cancelled s.friendRequests.rows mid.rows)
    (hrequest : request.state = .pending) (hr : r ∈ mid.rows)
    (hid : r.requestId ≠ row.requestId) (hpending : r.state = .pending)
    (hlocal : r.localPublicId = request.localPublicId)
    (hremote : r.remotePublicId = request.remotePublicId) : r.direction ≠ request.direction := by
  intro hdirection
  obtain ⟨hmem, hfree⟩ := pending_of_superseded hmid hr hpending
  refine hfree r ?_ rfl
  rw [superseding, if_pos hrequest]
  refine List.mem_filter.mpr ⟨Store.mem_listFriendRequests.mpr ⟨hmem, hlocal, hnamed r hmem⟩, ?_⟩
  -- a pending request is stored under its own id
  rw [coalesce_id (storedRow_some hrow).1 (.inl hrequest)] at hid
  simp [supersedes, sameRequestPair, sameIdentityPair, hid, hlocal, hremote, hdirection, hpending]

/-- **ONE PENDING REQUEST**: the others of the pair and direction are superseded before
a new one is stored. -/
lemma keeps_upsert (request : FriendRequest) : Keeps Tidy (upsertFriendRequest request) := by
  intro s hs
  rcases rows_upsert request s with ⟨hsame, -⟩ | ⟨row, mid, hvalid, hrow, hmid, hafter⟩
  · exact tidy_congr hsame hs
  obtain ⟨hlandedLocal, hlandedRemote, hlandedDirection⟩ := landed_request hrow mid
  constructor
  · intro r hr
    rw [hafter] at hr
    rcases mem_upsert.mp hr with rfl | ⟨hr, -⟩
    · rw [(landed_fields row mid).1]
      exact named_storedRow (validateFriendRequest_eq_ok.mp hvalid).1 hrow
    · rcases hmid.only r hr with ⟨hr, -⟩ | ⟨x, hx, hid, -⟩
      · exact hs.named r hr
      · rw [hid]
        exact (Store.mem_listFriendRequests.mp (mem_superseding hx).1).2.2
  · intro r hr r' hr' hrpending hr'pending hrlocal hrremote hrdirection
    rw [hafter] at hr hr'
    -- either request may be the row that landed; two others were pending before
    rcases mem_upsert.mp hr with rfl | ⟨hr, hid⟩
    · rcases mem_upsert.mp hr' with rfl | ⟨hr', hid'⟩
      · rfl
      · rw [landed_state hrow] at hrpending
        exact absurd (hrdirection.symm.trans hlandedDirection)
          (direction_ne_of_superseded hs.named hrow hmid hrpending hr' hid' hr'pending
            (hrlocal.symm.trans hlandedLocal) (hrremote.symm.trans hlandedRemote))
    · rcases mem_upsert.mp hr' with rfl | ⟨hr', hid'⟩
      · rw [landed_state hrow] at hr'pending
        exact absurd (hrdirection.trans hlandedDirection)
          (direction_ne_of_superseded hs.named hrow hmid hr'pending hr hid hrpending
            (hrlocal.trans hlandedLocal) (hrremote.trans hlandedRemote))
      · exact hs.onePending r (pending_of_superseded hmid hr hrpending).1 r'
          (pending_of_superseded hmid hr' hr'pending).1 hrpending hr'pending hrlocal hrremote
          hrdirection

end OnePending

lemma keeps_clearRetry (requestId : String) :
    Keeps Tidy (clearFriendRequestRetry requestId) := fun _ hs => ⟨hs.named, hs.onePending⟩

lemma keeps_accept (localId : String) (counterpart : FriendRequestCounterpartRef) (time : Int) :
    Keeps Tidy (acceptRelatedFriendRequests localId counterpart time) := by
  refine keeps_of_allWrites (fun s w hw hs => tidy_storesDecided hw hs) ?_
  refine allWrites_read_bind fun store => allWrites_forEach fun request hrequest => ?_
  unfold acceptRelated
  refine allWrites_ite (allWrites_pure ()) (allWrites_bind (allWrites_onlyIf ?_) fun _ => ?_)
  · refine allWrites_write fun stored hstored => ?_
    cases hstored
    exact ⟨(Store.mem_listFriendRequests.mp hrequest).2.2, fun h => (nomatch h)⟩
  · exact allWrites_onlyIf (allWrites_write fun stored hstored => (nomatch hstored))

lemma keeps_program : Keeps Tidy call.program := by
  cases call with
  | upsert request => exact keeps_upsert request
  | queue input =>
    refine keeps_read_bind fun store _ => keeps_ofExcept_bind fun requests _ => ?_
    exact keeps_ite (keeps_pure ()) (keeps_upsert _)
  | accept localId counterpart time =>
    exact keeps_accept localId counterpart time
  | settle localId counterpart state reason time =>
    refine keeps_read_bind fun store _ => keeps_ofExcept_bind fun requests _ => ?_
    exact keeps_forEach fun request _ => keeps_bind (keeps_upsert _) fun _ =>
      keeps_clearRetry _

/-! ## The bulk calls -/

def toyRequest (localPublicId remotePublicId : String) (direction : FriendRequestDirection)
    (state : FriendRequestState) : FriendRequest where
  requestId := "r1"
  localPublicId
  remotePublicId
  remoteNodeId := none
  direction
  state
  decisionReason := some "decided"
  correlationId := none
  createdAt := 1
  updatedAt := 1
  expiresAt := none

/-! ### Accepting -/

section Accept

variable {counterpartKeys : List String} {time : Int}

/-- The row an acceptance stores. -/
abbrev acceptedRow (time : Int) (request : FriendRequest) : FriendRequest :=
  { request with
    state := .accepted
    decisionReason := some "accepted"
    updatedAt := max request.updatedAt time }

/-- What an acceptance applies to. -/
def acceptable (x : FriendRequest) : Bool :=
  x.state = .pending || x.state = .decisionPending
    || (x.state = .cancelled && x.decisionReason = some "superseded_by_new_request")

/-- The request is with the counterpart, and not of a time after the acceptance. -/
def covered (counterpartKeys : List String) (time : Int) (x : FriendRequest) : Bool :=
  requestMatchesCounterpart x counterpartKeys && asMillis x.createdAt ≤ acceptedAt time

/-- What the acceptance makes of a request. -/
def settledBy (counterpartKeys : List String) (time : Int) (x : FriendRequest) : FriendRequest :=
  if covered counterpartKeys time x && acceptable x then acceptedRow time x else x

variable {x y : FriendRequest} {s : Store}

lemma settledBy_requestId : (settledBy counterpartKeys time x).requestId = x.requestId := by
  unfold settledBy
  split <;> rfl

lemma mayBecome_settledBy : MayBecome x (settledBy counterpartKeys time x).state := by
  unfold settledBy
  split
  · next h =>
      simp only [acceptable, Bool.and_eq_true, Bool.or_eq_true, decide_eq_true_eq] at h
      rcases h.2 with (hpending | hqueued) | ⟨hcancelled, hreason⟩
      · exact mayBecome_pending hpending
      · exact mayBecome_open fun hdecided => hdecided.2 hqueued
      · refine ⟨fun hfinal => ?_, fun _ => .inr ⟨rfl, hreason⟩⟩
        rw [hcancelled] at hfinal
        exact absurd hfinal (by decide)
  · exact mayBecome_same x

lemma result_acceptRelated : result (acceptRelated counterpartKeys time x) s = .ok () := by
  have honly : ∀ (c : Bool) (w : Write) (s : Store),
      result (onlyIf c (write w) : Social Unit) s = .ok () := by
    intro c w s
    cases c <;> rfl
  unfold acceptRelated
  split
  · rfl
  · exact (result_bind_ok (honly ..)).trans (honly ..)

lemma friendRequests_acceptRelated (x : FriendRequest) (s : Store) :
    (after (acceptRelated counterpartKeys time x) s).friendRequests
      = if covered counterpartKeys time x && acceptable x then
          s.friendRequests.upsert (acceptedRow time x) else s.friendRequests := by
  -- clearing the retry leaves the requests alone
  have hclear : ∀ (c : Bool) (s : Store),
      (after (onlyIf c (clearFriendRequestRetry x.requestId)) s).friendRequests
        = s.friendRequests := by
    intro c s
    cases c <;> rfl
  unfold acceptRelated
  split
  · next hskip =>
      have hcovered : covered counterpartKeys time x = false := by
        simpa [covered, or_iff_not_imp_left] using hskip
      rw [hcovered]
      rfl
  · next hskip =>
      have hcovered : covered counterpartKeys time x = true := by simpa [covered] using hskip
      rw [hcovered, Bool.true_and]
      dsimp only
      cases haccept : acceptable x with
      | false | true =>
        unfold acceptable at haccept
        rw [haccept, after_bind_ok (a := ()) rfl]
        exact hclear _ _

lemma mem_acceptRelated (hx : x ∈ s.friendRequests.rows) :
    ∀ y ∈ s.friendRequests.rows, (if y = x then settledBy counterpartKeys time x else y)
      ∈ (after (acceptRelated counterpartKeys time x) s).friendRequests.rows := by
  intro y hy
  have hlanded : landed (acceptedRow time x) s.friendRequests = acceptedRow time x :=
    landed_of_mem hx rfl
  rw [friendRequests_acceptRelated, settledBy]
  split
  · split
    · exact mem_upsert.mpr (.inl hlanded.symm)
    · next hne => exact mem_upsert.mpr (.inr ⟨hy, fun hid => hne (eq_of_key hy hx hid)⟩)
  · split
    · exact hx
    · exact hy

lemma mem_acceptAll : ∀ (xs : List FriendRequest) (s : Store),
    (∀ x ∈ xs, x ∈ s.friendRequests.rows) → (xs.map FriendRequest.requestId).Nodup →
    ∀ y ∈ s.friendRequests.rows, (if y ∈ xs then settledBy counterpartKeys time y else y)
      ∈ (after (forEach xs (acceptRelated counterpartKeys time)) s).friendRequests.rows := by
  intro xs
  induction xs with
  | nil => exact fun s _ _ y hy => hy
  | cons x xs ih =>
    intro s hmem hids y hy
    obtain ⟨hx, hxs⟩ := List.forall_mem_cons.mp hmem
    obtain ⟨hfresh, hids⟩ := List.nodup_cons.mp hids
    have hnew : ∀ z ∈ xs, z.requestId ≠ x.requestId := fun z hz heq =>
      hfresh (heq ▸ List.mem_map_of_mem hz)
    rw [forEach, after_bind_ok result_acceptRelated]
    have hfirst := @mem_acceptRelated counterpartKeys time x s hx
    have hrest := ih _ (fun z hz => by
      have hz' := hfirst z (hxs z hz)
      rwa [if_neg fun heq => hnew z hz (congrArg _ heq)] at hz') hids _ (hfirst y hy)
    by_cases hyx : y = x
    · subst hyx
      rw [if_pos rfl, if_neg fun hz => hnew _ hz settledBy_requestId] at hrest
      rwa [if_pos List.mem_cons_self]
    · rw [if_neg hyx] at hrest
      simpa [hyx] using hrest

variable (localId : String) (counterpart : FriendRequestCounterpartRef)

/-- **THE ACCEPTANCE** makes of every stored request what it is to make of it. -/
lemma mem_acceptRelatedFriendRequests (time : Int) (hy : y ∈ s.friendRequests.rows) :
    (if y ∈ s.listFriendRequests localId then settledBy (counterpartMatchKeys counterpart) time y
        else y)
      ∈ (after (acceptRelatedFriendRequests localId counterpart time) s).friendRequests.rows := by
  refine mem_acceptAll _ s (fun x hx => (Store.mem_listFriendRequests.mp hx).1) ?_ y hy
  have hperm : (s.listFriendRequests localId).Perm (s.ownFriendRequests localId) :=
    List.perm_insertionSort _ _
  exact (hperm.map _).nodup_iff.mpr (s.friendRequests.nodup.sublist (List.filter_sublist.map _))

lemma follows_accept (time : Int) (s : Store) : Follows s.friendRequests
      (after (acceptRelatedFriendRequests localId counterpart time) s).friendRequests := by
  intro old hold
  refine ⟨_, mem_acceptRelatedFriendRequests localId counterpart time hold, ?_⟩
  split
  · exact ⟨settledBy_requestId, mayBecome_settledBy⟩
  · exact ⟨rfl, mayBecome_same old⟩

/-- The timestamp is of the instant, in milliseconds or in seconds as its magnitude says. -/
def Tells (timestamp instant : Int) : Prop :=
  (timestamp = instant ∧ 10000000000 < timestamp)
    ∨ (timestamp = instant / 1000 ∧ timestamp ≤ 10000000000 ∧ -2 ^ 63 ≤ timestamp * 1000)

/-- An acceptance settles the open requests with the counterpart up to its instant, and none
of a later second. -/
theorem acceptance_settles {created accepted : Int} (hx : x ∈ s.friendRequests.rows)
    (hcreated : Tells x.createdAt created) (haccepted : Tells time accepted) :
    (created ≤ accepted → x ∈ s.listFriendRequests localId →
        requestMatchesCounterpart x (counterpartMatchKeys counterpart) = true →
        x.state = .pending ∨ x.state = .decisionPending → acceptedRow time x
          ∈ (after (acceptRelatedFriendRequests localId counterpart time) s).friendRequests.rows)
      ∧ (accepted / 1000 < created / 1000 →
        x ∈ (after (acceptRelatedFriendRequests localId counterpart time) s).friendRequests.rows) := by
  have hwithin : asMillis x.createdAt ≤ acceptedAt time
      ↔ if 10000000000 < time ∧ 10000000000 < x.createdAt then created ≤ accepted
        else created / 1000 ≤ accepted / 1000 := by
    unfold Tells at hcreated haccepted
    unfold acceptedAt asMillis saturate
    grind
  have hafter := mem_acceptRelatedFriendRequests localId counterpart time hx
  refine ⟨fun hbefore hlisted hmatches hopen => ?_, fun hlater => ?_⟩
  · have hwithin := hwithin.mpr (by split <;> omega)
    have hsettled : settledBy (counterpartMatchKeys counterpart) time x = acceptedRow time x :=
      if_pos (by simp [covered, acceptable, hmatches, hwithin, hopen])
    rwa [if_pos hlisted, hsettled] at hafter
  · have hpast : ¬ asMillis x.createdAt ≤ acceptedAt time := by
      rw [hwithin]
      split <;> omega
    have hkept : settledBy (counterpartMatchKeys counterpart) time x = x :=
      if_neg (by simp [covered, hpast])
    rwa [hkept, ite_self] at hafter

theorem acceptance_settles_same_second : acceptedRow 1 (toyRequest "alice" "bob" .inbound .pending)
      ∈ (after (acceptRelatedFriendRequests "alice" ⟨"bob", "", ""⟩ 1)
        (run step .empty [.upsert (toyRequest "alice" "bob" .inbound .pending)])).friendRequests.rows :=
  have hsecond : ∀ instant : Int, 1 = instant / 1000 → Tells 1 instant := fun _ h =>
    Or.inr ⟨h, by decide⟩
  (acceptance_settles "alice" ⟨"bob", "", ""⟩ (by decide +kernel) (hsecond 1500 rfl)
    (hsecond 1600 rfl)).1 (by decide) (by decide +kernel) (by decide +kernel) (.inl rfl)

/-- Milliseconds of the first months of 1970 are taken for seconds, seconds after the year
2286 for milliseconds, and seconds that are too early for `i64` are all the same. -/
theorem units_mistaken :
    ([(5000, 6), (10000000001, 10000000), (1 - 2 ^ 63, -2 ^ 63)] : List (Int × Int)).map
      (fun (created, accepted) => (run step .empty
        [.upsert { toyRequest "alice" "bob" .inbound .pending with
            createdAt := created, updatedAt := created },
          .accept "alice" ⟨"bob", "", ""⟩ accepted]).friendRequests.rows.map (·.state))
      = [[.pending], [.accepted], [.accepted]] := by
  decide +kernel

end Accept

/-! ### Settling -/

section Settle

variable {state : FriendRequestState} {reason : String} {time : Int}

/-- Every request in one of the states keeps it. -/
def Kept (states : FriendRequestState → Prop) (t t' : Table FriendRequest) : Prop :=
  ∀ old ∈ t.rows, states old.state →
    ∃ new ∈ t'.rows, new.requestId = old.requestId ∧ new.state = old.state

variable {states : FriendRequestState → Prop}

lemma kept_refl (t : Table FriendRequest) : Kept states t t :=
  fun old hold _ => ⟨old, hold, rfl, rfl⟩

lemma Kept.trans {t t' t'' : Table FriendRequest} (h : Kept states t t')
    (h' : Kept states t' t'') : Kept states t t'' := by
  intro old hold hstate
  obtain ⟨mid, hmid, hmidId, hmidState⟩ := h old hold hstate
  obtain ⟨new, hnew, hnewId, hnewState⟩ := h' mid hmid (hmidState ▸ hstate)
  exact ⟨new, hnew, hnewId.trans hmidId, hnewState.trans hmidState⟩

/-- Decided requests stay decided. -/
abbrev StatesKept := Kept Decided

lemma follows_of_statesKept {p : Social Unit} {s : Store}
    (h : StatesKept s.friendRequests (after p s).friendRequests) :
    Follows s.friendRequests (after p s).friendRequests := by
  intro old hold
  by_cases hdecided : Decided old.state
  · obtain ⟨new, hnew, hid, hstate⟩ := h old hold hdecided
    exact ⟨new, hnew, hid, hstate ▸ mayBecome_same old⟩
  · obtain ⟨new, hnew, hid⟩ := id_persists p hold
    exact ⟨new, hnew, hid, mayBecome_open hdecided⟩

/-- The identity has a request under the id. -/
def Holds (localId requestId : String) (s : Store) : Prop :=
  ∃ y ∈ s.friendRequests.rows, y.requestId = requestId ∧ y.localPublicId = localId

lemma keeps_holds {localId requestId : String} {p : Social Unit}
    (hp : Touches localId [.requests] p) : Keeps (Holds localId requestId) p := by
  refine keeps_of_allWrites (fun s w hw h => ?_) hp
  cases w with
  | upsertFriendRequest request =>
    obtain ⟨y, hy, hid, hlocal⟩ := h
    by_cases hkey : y.requestId = request.requestId
    · refine ⟨_, mem_upsert_landed request s.friendRequests, ?_, ?_⟩
      · exact (landed_fields request s.friendRequests).1.trans (hkey.symm.trans hid)
      · exact (landed_fields request s.friendRequests).2.2.1.trans (hw.own _ rfl)
    · exact ⟨y, mem_upsert.mpr (.inr ⟨hy, hkey⟩), hid, hlocal⟩
  | _ => exact h

lemma statesKept_upsert {request : FriendRequest} {s : Store} (hnamed : Named s)
    (hholds : Holds request.localPublicId request.requestId s) :
    StatesKept s.friendRequests (after (upsertFriendRequest request) s).friendRequests := by
  rcases rows_upsert request s with ⟨hsame, -⟩ | ⟨row, mid, -, hrow, hmid, hafter⟩
  · rw [hsame]
    exact kept_refl _
  obtain ⟨y, hy, hyId, hyLocal⟩ := hholds
  have hlisted := Store.mem_listFriendRequests.mpr ⟨hy, hyLocal, hnamed y hy⟩
  obtain ⟨hcoalesce, hcan⟩ := storedRow_some hrow
  have hrowId := coalesce_id hcoalesce (.inr ⟨y, hlisted, hyId⟩)
  intro old hold hdecided
  rw [hafter]
  by_cases hid : old.requestId = row.requestId
  · obtain rfl : old = y := eq_of_key hold hy (hid.trans (hrowId.trans hyId.symm))
    refine ⟨_, mem_upsert_landed row mid, (key_landed row mid).trans hid.symm, ?_⟩
    rw [landed_state hrow]
    exact canTransitionTo_decided hdecided (hcan old hlisted hyId)
  · exact ⟨old, mem_upsert_other hmid hold hid hdecided.1, rfl, rfl⟩

/-- The loop so far: every request to settle is still with its identity. -/
structure Settling (t : Table FriendRequest) (localId : String) (xs : List FriendRequest)
    (s : Store) : Prop where
  tidy : Tidy s
  kept : StatesKept t s.friendRequests
  holds : ∀ x ∈ xs, Holds localId x.requestId s

lemma keeps_settling {t : Table FriendRequest} {localId : String} {xs : List FriendRequest}
    {x : FriendRequest} (hx : x ∈ xs) (hlocal : x.localPublicId = localId) :
    Keeps (Settling t localId xs) (settleOne state reason time x) := by
  have howner : (settled state reason time x).localPublicId = localId := hlocal
  refine keeps_bind (fun s hs => ⟨keeps_upsert _ s hs.tidy, hs.kept.trans ?_, fun y hy => ?_⟩) ?_
  · refine statesKept_upsert hs.tidy.named ?_
    rw [howner]
    exact hs.holds x hx
  · exact keeps_holds (within_upsertFriendRequest howner) s (hs.holds y hy)
  · exact fun _ s hs => ⟨keeps_clearRetry _ s hs.tidy, hs.kept, hs.holds⟩

lemma statesKept_settle (localId : String) (counterpart : FriendRequestCounterpartRef)
    (state : FriendRequestState) (reason : String) (time : Int) {s : Store} (hs : Tidy s) :
    StatesKept s.friendRequests (after (settleRelatedOutboundFriendRequests localId
      counterpart state reason time) s).friendRequests := by
  unfold settleRelatedOutboundFriendRequests
  rw [after_read_bind]
  cases hlist : listFriendRequests s localId with
  | error e => exact kept_refl _
  | ok requests =>
    rw [ofExcept_bind rfl]
    have hown : ∀ x ∈ requests, x ∈ s.friendRequests.rows ∧ x.localPublicId = localId := by
      intro x hx
      obtain ⟨hrow, hlocal, -⟩ :=
        Store.mem_listFriendRequests.mp (mem_of_listFriendRequests hlist hx)
      exact ⟨hrow, hlocal⟩
    refine (keeps_forEach (I := Settling s.friendRequests localId requests) (fun x hx => ?_) s
      ⟨hs, kept_refl _, fun x hx => ?_⟩).kept
    · have hx := (List.mem_filter.mp hx).1
      exact keeps_settling hx (hown x hx).2
    · exact ⟨x, (hown x hx).1, rfl, (hown x hx).2⟩

end Settle

/-! ## One call -/

lemma follows_refl (t : Table FriendRequest) : Follows t t :=
  fun old hold => ⟨old, hold, rfl, mayBecome_same old⟩

/-- The store after the request a call hands over, if it hands over one. -/
abbrev afterSubmitted (s : Store) (request : Option FriendRequest) : Store :=
  request.elim s fun request => after (upsertFriendRequest request) s

lemma after_queue (s : Store) :
    after (queueFriendRequestDecision input) s = afterSubmitted s (submitted s (.queue input)) := by
  unfold queueFriendRequestDecision
  rw [after_read_bind]
  cases hblank : blank input.localPublicId with
  | true =>
    have hlist : listFriendRequests s input.localPublicId
        = .error (.invalidInput "local_public_id is required") := by
      unfold listFriendRequests refuseIf
      rw [hblank]
      rfl
    rw [hlist]
    simp only [submitted, hblank, Bool.true_or]
    rfl
  | false =>
    rw [ofExcept_bind (listFriendRequests_eq hblank)]
    simp only [submitted, hblank, Bool.false_or]
    unfold listedUnder
    split
    · rfl
    · rw [afterSubmitted, elim_some]

lemma follows_submitted_iff (hs : Tidy s) (request : Option FriendRequest) :
    Follows s.friendRequests (afterSubmitted s request).friendRequests
      ↔ ∀ r, request = some r → Spares s r := by
  cases request with
  | none => exact ⟨fun _ _ h => (nomatch h), fun _ => follows_refl _⟩
  | some request =>
    rw [afterSubmitted, elim_some, follows_upsert_iff hs.named]
    simp only [some.injEq, forall_eq']

/-- **ONE CALL** keeps the decided requests exactly when it spares those of the other
identities. -/
lemma kept_iff_spares (hs : Tidy s) (call : RequestCall) :
    FinalKept s (step s call) ∧ CancelledKept s (step s call) ↔ SparesOthers s call := by
  unfold step SparesOthers
  rw [kept_iff_follows]
  cases call with
  | upsert request => exact follows_submitted_iff hs (some request)
  | queue input =>
    rw [RequestCall.program, after_queue]
    exact follows_submitted_iff hs _
  | accept localId counterpart time =>
    exact ⟨fun _ _ h => (nomatch h), fun _ =>
      follows_accept localId counterpart time s⟩
  | settle localId counterpart state reason time =>
    exact ⟨fun _ _ h => (nomatch h), fun _ =>
      follows_of_statesKept (statesKept_settle localId counterpart state reason time hs)⟩

/-! ## The whole run -/

/-- **FRIEND REQUESTS OVER A RUN**: from an empty store there is never more than one
pending request of a pair and direction; and final states are kept from any moment
to any later one, and cancelled requests at every call, exactly when every call
spares the decided requests of the other identities. -/
theorem requests_kept_iff (calls : List RequestCall) : Always step OnePending .empty calls
      ∧ (AlwaysRelated step FinalKept .empty calls
          ∧ AllSteps step (fun s call => CancelledKept s (step s call)) .empty calls
        ↔ AllSteps step SparesOthers .empty calls) := by
  have hstep : ∀ s call, Tidy s → True → Tidy (step s call) :=
    fun s call hs _ => keeps_program call s hs
  constructor
  · intro pre post hcalls
    exact (always_of_inv hstep tidy_empty (allSteps_true _ calls) pre post hcalls).onePending
  · rw [related_iff_allSteps (R := FinalKept) (fun _ => kept_refl _) fun h h' => Kept.trans h h']
    -- every call is taken in a tidy store, so the single-call theorem applies to it
    have htidy : AllSteps step (fun s _ => Tidy s) .empty calls :=
      allSteps_of_inv hstep (fun _ _ hs _ => hs) tidy_empty (allSteps_true _ calls)
    refine Iff.trans ?_ (allSteps_congr (fun s call hs => kept_iff_spares hs call) htidy)
    exact ⟨fun h => h.1.and h.2, fun h => ⟨h.mono fun _ _ hkept => hkept.1,
      h.mono fun _ _ hkept => hkept.2⟩⟩

/-- Two identities of one node befriend each other: what one of them has accepted is
pending again when the other one stores its own side. -/
theorem accepted_reopened :
    let accepted := run step .empty [.upsert (toyRequest "alice" "bob" .inbound .accepted)]
    let both := run step accepted [.upsert (toyRequest "bob" "alice" .outbound .pending)]
    accepted.friendRequests.rows.map (fun r => (r.requestId, r.localPublicId, r.state))
        = [("r1", "alice", .accepted)]
      ∧ both.friendRequests.rows.map (fun r => (r.requestId, r.localPublicId, r.state))
        = [("r1", "bob", .pending)] := by
  decide +kernel

end WattFriendRequests
