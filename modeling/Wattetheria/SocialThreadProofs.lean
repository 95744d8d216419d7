import Wattetheria.SocialDmProofs

/-!
# The last message time of a thread

Every action and every sync writes the row of a thread as a whole, the time of
its last message included.  The two syncs put in the later of the time they find
and the time they bring, a sent message its own time, and an accept, a removal and
a block put in none.  So the time can be lost, and it stays as long as no row that
is let in is behind the row it replaces (`last_message_times_kept`).
-/

namespace WattThreadTimes

open WattText WattRows WattRuns WattJournal WattSocial WattDmSync Program ThreadService Option
  FriendRequestService Table

/-! ## Operations and what is kept -/

/-- The operations that write threads and messages. -/
inductive ThreadCall where
  | action (input : PersistRelationshipActionInput)
  | dmMessage (input : PersistDmMessageInput)
  | dmThreads (localId : String) (views : List DmThreadSyncView)
  | dmMessages (localId : String) (views : List DmMessageSyncView)

/-- What a call runs. -/
def ThreadCall.program : ThreadCall → Social Unit
  | .action input => persistRelationshipAction input
  | .dmMessage input => persistDmMessage input
  | .dmThreads localId views => reconcileDmThreads localId views
  | .dmMessages localId views => reconcileDmMessages localId views

variable (s : Store)

/-- The store after a call, also when it ends with an error. -/
abbrev perform (call : ThreadCall) : Store := after call.program s

/-- Every thread with stored messages has the time of a last message, and none of them
is later. -/
def Remembers : Prop :=
  ∀ thread ∈ s.threads.rows, ∀ message ∈ s.messages.rows, message.threadId = thread.threadId →
    ∃ time, thread.lastMessageAt = some time ∧ message.createdAt ≤ time

/-- No thread is lost, forgets its last message time or moves it back. -/
def Advances (s s' : Store) : Prop :=
  ∀ thread ∈ s.threads.rows, ∃ thread' ∈ s'.threads.rows,
    thread'.threadId = thread.threadId ∧ thread.lastMessageAt ≤ thread'.lastMessageAt

/-- The thread of the message is stored, and its time is not before the message. -/
def Placed (message : DirectMessage) : Prop :=
  ∃ thread ∈ s.threads.rows, thread.threadId = message.threadId
    ∧ some message.createdAt ≤ thread.lastMessageAt

/-- Every stored message is placed. -/
def Filed : Prop := ∀ message ∈ s.messages.rows, Placed s message

/-! ## When a call keeps the times -/

variable (row : DirectThread)

/-- The row is not behind the one it replaces. -/
def Overtakes : Prop :=
  ∀ old ∈ s.threads.rows, old.threadId = row.threadId → old.lastMessageAt ≤ row.lastMessageAt

/-- If the thread service lets the row in, it is not behind the one it replaces. -/
def TimelyRow (reopenClosed : Bool) : Prop :=
  check row = .ok () → checkTransition s row reopenClosed = .ok () → Overtakes s row

variable (input : PersistRelationshipActionInput)

/-- The thread of the friendship that a removal ends. -/
def removedThreadId : String :=
  (((s.listFriendships input.localPublicId).find? fun friendship =>
      friendship.remotePublicId = input.counterpart.counterpartPublicId).bind (·.threadId)).getD
    (actionThreadId input)

/-- The thread row of an action, and whether it may reopen the thread. -/
def actionRow : Option (DirectThread × Bool) :=
  match input.action with
  | .accept => some (actionThread input (actionThreadId input) .ready, true)
  | .remove => some (actionThread input (removedThreadId s input) .closed, false)
  | .block => some (actionThread input (actionThreadId input) .blocked, false)
  | .request | .reject | .cancel | .unblock => none

variable (localId : String)

/-- A session view whose pair has a thread moves it forward anyway. -/
def TimelyThread (s : Store) (view : DmThreadSyncView) : Prop :=
  s.findThread localId view.counterpart.counterpartPublicId = none →
    TimelyRow s (syncedThread localId view none) false

/-- So does a message view, unless the thread of its pair is closed or blocked: then the
message is stored and the thread stays behind. -/
structure TimelyMessage (localId : String) (s : Store) (view : DmMessageSyncView) :
    Prop where
  fresh : pairThread localId s view = none → TimelyRow s (importedThread localId view none) false
  shut : ensureInboundDmAllowed localId view s = .ok () →
    ∀ existing, pairThread localId s view = some existing → refuses false .ready existing = true →
        Stored s.messages (filed localId s view) ∨ some view.createdAt ≤ existing.lastMessageAt

/-- The store after one round of `reconcile_dm_threads`. -/
abbrev threadStep (s : Store) (view : DmThreadSyncView) : Store :=
  after (reconcileDmThread localId view) s

/-- The condition on a call, in the store it is made in; the views of a batch each in
the store they are looked at in. -/
def Timely : ThreadCall → Prop
  | .action input => ∀ row ∈ actionRow s input, TimelyRow s row.1 row.2
  | .dmMessage input =>
    TimelyRow s (messageThread input
      (s.findThread input.localPublicId input.counterpart.counterpartPublicId)) false
  | .dmThreads localId views =>
    AllSteps (threadStep localId) (TimelyThread localId) s views
  | .dmMessages localId views =>
    AllSteps (syncStep localId) (TimelyMessage localId) s views

/-! ## Threads under the writes of a program -/

section Threads

variable {s s' s'' : Store} {row : DirectThread} {α β : Type}

-- no time is before every time, as `None` is in the source's order
lemma time_le_refl (time : Option Int) : time ≤ time := by
  cases time with
  | none => exact none_le
  | some t => exact some_le_some.mpr (le_refl t)

lemma time_le_trans {a b c : Option Int} (h : a ≤ b) (h' : b ≤ c) : a ≤ c := by
  cases a <;> cases b <;> cases c <;> simp_all
  exact h.trans h'

lemma le_maxOptionalI64 (a b : Option Int) : a ≤ maxOptionalI64 a b := by
  cases a with
  | none => exact none_le
  | some t =>
    cases b with
    | none => exact time_le_refl _
    | some t' => exact some_le_some.mpr (le_max_left t t')

lemma le_someMax (a : Option Int) (t : Int) : a ≤ some (max (a.getD t) t) := by
  cases a with
  | none => exact none_le
  | some t' => exact some_le_some.mpr (le_max_left t' t)

lemma Advances.refl (s : Store) : Advances s s :=
  fun thread hthread => ⟨thread, hthread, rfl, time_le_refl _⟩

lemma Advances.trans (h : Advances s s') (h' : Advances s' s'') : Advances s s'' := by
  intro thread hthread
  obtain ⟨thread', hthread', hid, hle⟩ := h thread hthread
  obtain ⟨thread'', hthread'', hid', hle'⟩ := h' thread' hthread'
  exact ⟨thread'', hthread'', hid'.trans hid, time_le_trans hle hle'⟩

lemma lastMessageAt_landed (row : DirectThread) (t : Table DirectThread) :
    (landed row t).lastMessageAt = row.lastMessageAt := by
  unfold landed
  split
  · rfl
  · rfl

lemma advances_apply_thread (h : Advances s s') (hrow : Overtakes s row) :
    Advances s (s'.apply (.upsertThread row)) := by
  intro thread hthread
  by_cases hid : thread.threadId = row.threadId
  · refine ⟨landed row s'.threads, mem_upsert_landed _ _,
      (key_landed row s'.threads).trans hid.symm, ?_⟩
    rw [lastMessageAt_landed]
    exact hrow thread hthread hid
  · obtain ⟨thread', hthread', hid', hle⟩ := h thread hthread
    refine ⟨thread', mem_upsert.mpr (.inr ⟨hthread', fun hkey => hid ?_⟩), hid', hle⟩
    exact hid'.symm.trans hkey

lemma advances_of_threads (h : s'.threads = s.threads) : Advances s s' := by
  unfold Advances
  rw [h]
  exact Advances.refl s

/-- **THREADS MOVE FORWARD** under a program that is started with the threads of a store. -/
def Forward (s : Store) (p : Social α) : Prop :=
  ∀ s', s'.threads = s.threads → Advances s (after p s')

variable {p : Social α} {f : α → Social β} {parts : List Part} {owner : String} {reopenClosed : Bool}

lemma keeps_advances (hp : Touches owner parts p) (hparts : Part.threads ∉ parts) :
    Keeps (Advances s) p :=
  fun s' h => h.trans (advances_of_threads (threads_after hparts hp s'))

lemma forward_elsewhere (hp : Touches owner parts p) (hparts : Part.threads ∉ parts) :
    Forward s p := fun s' hthreads => keeps_advances hp hparts s' (advances_of_threads hthreads)

/-- The first part of a sequence leaves the threads as they are. -/
lemma forward_later (hp : Touches owner parts p) (hparts : Part.threads ∉ parts)
    (hf : ∀ a, Forward s (f a)) : Forward s (p >>= f) := by
  intro s' hthreads
  cases hresult : result p s' with
  | error e =>
    rw [after_bind_error hresult]
    exact forward_elsewhere hp hparts s' hthreads
  | ok a =>
    rw [after_bind_ok hresult]
    exact hf a _ ((threads_after hparts hp s').trans hthreads)

lemma forward_first (hp : Forward s p) (hf : ∀ a, Keeps (Advances s) (f a)) :
    Forward s (p >>= f) := by
  intro s' hthreads
  have hmoved := hp s' hthreads
  cases hresult : result p s' with
  | error e => rwa [after_bind_error hresult]
  | ok a =>
    rw [after_bind_ok hresult]
    exact hf a _ hmoved

lemma forward_upsertThread (h : TimelyRow s row reopenClosed) :
    Forward s (upsertThreadChecked row reopenClosed) := by
  intro s' hthreads
  have hsame := advances_of_threads hthreads
  have htransition : checkTransition s' row reopenClosed = checkTransition s row reopenClosed := by
    simp only [checkTransition, findThread_congr hthreads]
  by_cases hlet : check row = .ok () ∧ checkTransition s row reopenClosed = .ok ()
  · have hafter : after (upsertThreadChecked row reopenClosed) s' = s'.apply (.upsertThread row) :=
      after_checked_ok hlet.1 (htransition.trans hlet.2)
    rw [hafter]
    exact advances_apply_thread hsame (h hlet.1 hlet.2)
  · rw [← htransition] at hlet
    have hafter : after (upsertThreadChecked row reopenClosed) s' = s' :=
      after_checked_error (not_and_or.mp hlet)
    rwa [hafter]

lemma overtakes_of_mem {existing : DirectThread} (hmem : existing ∈ s.threads.rows)
    (hid : row.threadId = existing.threadId)
    (hle : existing.lastMessageAt ≤ row.lastMessageAt) : Overtakes s row := by
  intro old hold hkey
  have hsame : old = existing := eq_of_key hold hmem (hkey.trans hid)
  rw [hsame]
  exact hle

end Threads

/-- The thread row of an action is the one of `actionRow`. -/
lemma advances_action {s s' : Store} {input : PersistRelationshipActionInput} {requestId : String}
    (hthreads : s'.threads = s.threads) (hfriendships : s'.friendships = s.friendships)
    (ht : ∀ row ∈ actionRow s input, TimelyRow s row.1 row.2) :
    Advances s (after (persistAction input requestId) s') := by
  unfold actionRow at ht
  unfold persistAction
  split at ht <;> simp only [*]
  · exact forward_later (within_upsertFriendRequest rfl) (by decide) (fun _ => forward_later
      (within_upsertFriendship rfl) (by decide) fun _ => forward_first
        (forward_upsertThread (ht _ rfl)) fun _ => keeps_bind
          (keeps_advances (@within_markCounterpart "" _ _ _) (by decide)) fun _ =>
            keeps_advances within_acceptRelated (by decide)) s' hthreads
  · unfold persistRemove
    rw [after_read_bind]
    have hrow := ht _ rfl
    rw [removedThreadId, Store.listFriendships, ← hfriendships] at hrow
    cases hlist : FriendshipService.listFriendships s' input.localPublicId with
    | error e => exact advances_of_threads hthreads
    | ok friendships =>
      rw [ofExcept_bind rfl]
      obtain rfl := (refuseIf_return.mp hlist).2
      refine forward_later (within_upsertFriendship rfl) (by decide) (fun _ => forward_first
        (forward_upsertThread hrow) fun _ => ?_) s' hthreads
      exact keeps_advances (@within_markCounterpart "" _ _ _) (by decide)
  · exact forward_later (within_upsertFriendRequest rfl) (by decide) (fun _ => forward_later
      (within_upsertBlock rfl) (by decide) fun _ => forward_later (within_upsertFriendship rfl)
        (by decide) fun _ => forward_first (forward_upsertThread (ht _ rfl)) fun _ =>
          keeps_advances within_settleRelated (by decide)) s' hthreads
  · exact forward_elsewhere (within_upsertFriendRequest rfl) (by decide) s' hthreads
  · exact forward_elsewhere within_persistReject (by decide) s' hthreads
  · exact forward_elsewhere (within_upsertFriendRequest rfl) (by decide) s' hthreads
  · exact forward_elsewhere within_removeBlock (by decide) s' hthreads

/-! ## Messages and their threads -/

section Messages

variable {s s' : Store} {message : DirectMessage} {w : Write}

/-- The statement stores this message or a receipt. -/
def Delivers (message : DirectMessage) (w : Write) : Prop :=
  w = .upsertMessage message ∨ ∃ receipt, w = .upsertMessageReceipt receipt

lemma within_of_delivers (h : Delivers message w) : Within "" [.messages] w := by
  rcases h with rfl | ⟨receipt, rfl⟩
  · exact within_free rfl rfl
  · exact within_free rfl rfl

lemma delivers_upsertMessage (message : DirectMessage) :
    AllWrites (Delivers message) (MessageService.upsertMessage message) :=
  allWrites_ofExcept_bind fun _ => allWrites_read_bind fun _ =>
    allWrites_ofExcept_bind fun _ => allWrites_write (.inl rfl)

lemma delivers_receipt (receipt : MessageReceipt) :
    AllWrites (Delivers message) (ReceiptService.upsertMessageReceipt receipt) :=
  allWrites_ofExcept_bind fun _ => allWrites_write (.inr ⟨receipt, rfl⟩)

lemma delivers_importReceipts (view : DmMessageSyncView) :
    AllWrites (Delivers message) (importReceipts view) := by
  refine allWrites_bind (allWrites_onlyIf (allWrites_forgive (delivers_receipt _))) fun _ => ?_
  split
  · exact allWrites_pure ()
  · exact allWrites_forgive (delivers_receipt _)

lemma Placed.advance (h : Placed s message) (hadvances : Advances s s') : Placed s' message := by
  obtain ⟨thread, hthread, hid, hle⟩ := h
  obtain ⟨thread', hthread', hid', hle'⟩ := hadvances thread hthread
  exact ⟨thread', hthread', hid'.trans hid, time_le_trans hle hle'⟩

lemma Filed.advance (h : Filed s) (hadvances : Advances s s')
    (hmessages : s'.messages = s.messages) : Filed s' := by
  intro message hmessage
  rw [hmessages] at hmessage
  exact (h message hmessage).advance hadvances

/-- The message can be stored: it has its place, or it is there already and keeps the
time it was first stored with. -/
structure Ready (message : DirectMessage) (s : Store) : Prop where
  filed : Filed s
  place : Stored s.messages message ∨ Placed s message

lemma Ready.apply (h : Ready message s) (hw : Delivers message w) : Ready message (s.apply w) := by
  rcases hw with rfl | ⟨receipt, rfl⟩
  · constructor
    · intro row hrow
      rcases mem_upsert.mp hrow with hlanded | ⟨hrow, -⟩
      · by_cases hstored : Stored s.messages message
        · obtain ⟨old, hold, hkey⟩ := hstored
          rw [hlanded, landed_of_mem hold hkey]
          have hid : old.threadId = message.threadId := congrArg Prod.fst hkey
          obtain ⟨thread, hthread, hthreadId, hle⟩ := h.filed old hold
          exact ⟨thread, hthread, hthreadId.trans hid, hle⟩
        · rw [hlanded, landed_of_fresh fun old hold hkey => hstored ⟨old, hold, hkey⟩]
          exact h.place.resolve_left hstored
      · exact h.filed row hrow
    · rcases h.place with ⟨old, hold, hkey⟩ | hplaced
      · obtain ⟨row, hrow, hrowKey⟩ := exists_key_upsert message hold
        exact .inl ⟨row, hrow, hrowKey.trans hkey⟩
      · exact .inr hplaced
  · exact ⟨h.filed, h.place⟩

/-- Filed messages stay filed, and threads move forward. -/
structure Tracks (s s' : Store) : Prop where
  filed : Filed s'
  advances : Advances s s'

/-- **A MESSAGE IS STORED AFTER ITS THREAD**: the thread is written first, and what comes
then only runs if the message has its place. -/
lemma tracks_deliver {p rest : Social Unit} (h : Filed s) (hadvances : Advances s (after p s'))
    (hmessages : (after p s').messages = s.messages)
    (hplace : result p s' = .ok () → Stored s.messages message ∨ Placed (after p s') message)
    (hrest : AllWrites (Delivers message) rest) : Tracks s (after (p >>= fun _ => rest) s') := by
  have hfiled : Filed (after p s') := h.advance hadvances hmessages
  cases hp : result p s' with
  | error e =>
    rw [after_bind_error hp]
    exact ⟨hfiled, hadvances⟩
  | ok u =>
    rw [after_bind_ok hp]
    have hready : Ready message (after p s') := by
      refine ⟨hfiled, ?_⟩
      rw [hmessages]
      exact hplace hp
    have hkeeps : Keeps (Ready message) rest :=
      keeps_of_allWrites (fun _ _ hw hs => hs.apply hw) hrest
    exact ⟨(hkeeps _ hready).filed,
      keeps_advances (hrest.mono fun _ => within_of_delivers) (by decide) _ hadvances⟩

lemma placed_apply_thread {row : DirectThread} (hid : row.threadId = message.threadId)
    (hle : some message.createdAt ≤ row.lastMessageAt) :
    Placed (s.apply (.upsertThread row)) message := by
  refine ⟨landed row s.threads, mem_upsert_landed _ _, (key_landed row s.threads).trans hid, ?_⟩
  rw [lastMessageAt_landed]
  exact hle

end Messages

/-! ## The calls -/

section Calls

variable {s s' : Store} {localId : String}

/-- The same threads, messages and friendships. -/
structure Alike (s s' : Store) : Prop where
  threads : s'.threads = s.threads
  messages : s'.messages = s.messages
  friendships : s'.friendships = s.friendships

lemma Alike.tracks (h : Alike s s') (hfiled : Filed s) : Tracks s s' :=
  ⟨hfiled.advance (advances_of_threads h.threads) h.messages, advances_of_threads h.threads⟩

lemma tracks_cached {snapshot : CounterpartSnapshot} {f : Store → Social Unit} (h : Filed s)
    (hf : ∀ s', Alike s s' → Tracks s (after (f s') s')) :
    Tracks s (after (cacheCounterpart snapshot >>= fun _ => read >>= f) s) := by
  have halike : Alike s (after (cacheCounterpart snapshot) s) :=
    ⟨threads_cache snapshot s, messages_elsewhere (elsewhere_cacheCounterpart snapshot) s,
      friendships_cache snapshot s⟩
  cases hcache : result (cacheCounterpart snapshot) s with
  | error e =>
    rw [after_bind_error hcache]
    exact halike.tracks h
  | ok u =>
    rw [after_bind_ok hcache, after_read_bind]
    exact hf _ halike

lemma tracks_checked {α : Type} {x : Except SocialError α} {f : α → Social Unit} (h : Tracks s s')
    (hf : ∀ a, x = .ok a → Tracks s (after (f a) s')) : Tracks s (after (ofExcept x >>= f) s') := by
  cases x with
  | error e => exact h
  | ok a => exact hf a rfl

lemma found_eq {remotePublicId : String} {existing : Option DirectThread}
    (halike : Alike s s') (hfind : findThread s' localId remotePublicId = .ok existing) :
    existing = s.findThread localId remotePublicId :=
  (findThread_eq_ok.mp hfind).2.trans (findThread_congr halike.threads _ _)

/-- An action writes no message. -/
lemma tracks_action {input : PersistRelationshipActionInput} (h : Filed s)
    (ht : Timely s (.action input)) : Tracks s (perform s (.action input)) := by
  refine tracks_cached h fun s' halike => ?_
  have hadvances : Advances s (after (persistAction input (actionRequestId input s')) s') :=
    advances_action halike.threads halike.friendships ht
  refine ⟨h.advance hadvances (Eq.trans ?_ halike.messages), hadvances⟩
  exact part_after (fun s w hw => by cases w <;> first | rfl | exact absurd rfl hw)
    (by decide) within_persistAction s'

lemma tracks_send {input : PersistDmMessageInput} (h : Filed s)
    (ht : Timely s (.dmMessage input)) : Tracks s (perform s (.dmMessage input)) := by
  refine tracks_cached h fun s' halike => tracks_checked (halike.tracks h) fun existing hfind => ?_
  cases found_eq halike hfind
  have hsent : AllWrites (Delivers (sentMessage input)) (do
      MessageService.upsertMessage (sentMessage input)
      ReceiptService.upsertMessageReceipt
        { messageId := input.messageId
          receiptKind := .sent
          recordedAt := input.occurredAt
          detail := some "transport accepted" }) :=
    allWrites_bind (delivers_upsertMessage _) fun _ => delivers_receipt _
  refine tracks_deliver h (forward_upsertThread ht s' halike.threads) ?_ (fun hok => .inr ?_) hsent
  · exact (messages_elsewhere ((within_upsertThreadChecked rfl).mono fun _ hw =>
      elsewhere_of_within (by decide) hw) s').trans halike.messages
  · rw [after_upsertThread hok]
    exact placed_apply_thread rfl (time_le_refl _)

lemma tracks_threadView {view : DmThreadSyncView} (h : Filed s)
    (ht : TimelyThread localId s view) : Tracks s (threadStep localId s view) := by
  refine tracks_cached h fun s' halike => tracks_checked (halike.tracks h) fun existing hfind => ?_
  cases found_eq halike hfind
  have hrow : TimelyRow s (syncedThread localId view
      (s.findThread localId view.counterpart.counterpartPublicId)) false := by
    cases hpair : s.findThread localId view.counterpart.counterpartPublicId with
    | none => exact ht hpair
    | some existing =>
      intro _ _
      exact overtakes_of_mem (Store.findThread_some hpair).1 rfl (le_maxOptionalI64 _ _)
  have hadvances := forward_upsertThread hrow s' halike.threads
  have hmessages := messages_elsewhere (elsewhere_importThread (syncedThread localId view
    (s.findThread localId view.counterpart.counterpartPublicId))) s'
  rw [ignoreConflict, after_forgive] at hmessages ⊢
  exact ⟨h.advance hadvances (hmessages.trans halike.messages), hadvances⟩

section Import

variable {view : DmMessageSyncView} {existing : Option DirectThread}

lemma delivers_imported : AllWrites (Delivers (importedMessage localId view existing)) (do
      ignoreConflict (MessageService.upsertMessage (importedMessage localId view existing))
      importReceipts view) :=
  allWrites_bind (allWrites_forgive (delivers_upsertMessage _)) fun _ =>
    delivers_importReceipts view

lemma le_importedThread : some (importedMessage localId view existing).createdAt
      ≤ (importedThread localId view existing).lastMessageAt :=
  some_le_some.mpr (le_max_right ..)

/-- The row of a message view is let in, or the thread of the pair is closed or
blocked and takes no row. -/
lemma importThread_cases (hcheck : check (importedThread localId view existing) = .ok ()) :
    after (ignoreConflict (upsertThread (importedThread localId view existing))) s
        = s.apply (.upsertThread (importedThread localId view existing))
      ∨ ∃ found, pairThread localId s view = some found ∧ refuses false .ready found = true := by
  by_cases hshut : ∃ found, pairThread localId s view = some found ∧ refuses false .ready found = true
  · exact .inr hshut
  · rw [ignoreConflict, after_forgive]
    refine .inl (after_upsertThread (result_upsertThread_eq_ok.mpr ⟨hcheck, fun found hfound => ?_⟩))
    by_contra hcan
    exact hshut ⟨found, hfound, by simpa [refuses, importedThread] using hcan⟩

lemma tracks_messageView (h : Filed s) (ht : TimelyMessage localId s view) :
    Tracks s (syncStep localId s view) := by
  refine tracks_cached h fun s' halike => tracks_checked (halike.tracks h) fun _ hallowed =>
    tracks_checked (halike.tracks h) fun existing hfind => ?_
  have hexisting : existing = pairThread localId s view := found_eq halike hfind
  have hrow : TimelyRow s (importedThread localId view existing) false := by
    cases existing with
    | none => exact ht.fresh hexisting.symm
    | some existing =>
      intro _ _
      exact overtakes_of_mem (Store.findThread_some hexisting.symm).1 rfl (le_someMax _ _)
  have hadvances : Advances s (after (ignoreConflict (upsertThread
      (importedThread localId view existing))) s') := by
    rw [ignoreConflict, after_forgive]
    exact forward_upsertThread hrow s' halike.threads
  refine tracks_deliver h hadvances ((messages_elsewhere (elsewhere_importThread _) s').trans
    halike.messages) (fun hok => ?_) delivers_imported
  rcases importThread_cases (s := s') (result_importThread.mp hok) with hput | ⟨found, hpair, hshut⟩
  · rw [hput]
    exact .inr (placed_apply_thread rfl le_importedThread)
  · -- the thread is shut, so the message has to be there or to be covered already
    have hpair : pairThread localId s view = some found :=
      (findThread_congr halike.threads _ _).symm.trans hpair
    have hallowed' : ensureInboundDmAllowed localId view s = .ok () := by
      rw [ensureInboundDmAllowed_eq_ok] at hallowed ⊢
      rwa [findFriendship_congr halike.friendships] at hallowed
    rw [hpair] at hexisting
    rcases ht.shut hallowed' found hpair hshut with hstored | hle
    · rw [filed, hpair, ← hexisting] at hstored
      exact .inl hstored
    · refine .inr (Placed.advance ⟨found, (Store.findThread_some hpair).1, ?_, hle⟩ hadvances)
      rw [hexisting]
      rfl

end Import

/-- **ONE CALL** that meets its condition. -/
lemma tracks_perform {call : ThreadCall} (h : Filed s) (ht : Timely s call) :
    Tracks s (perform s call) := by
  cases call with
  | action input => exact tracks_action h ht
  | dmMessage input => exact tracks_send h ht
  | dmThreads localId views =>
    refine inv_forEach (I := Tracks s) (fun s' view hs' hview => ?_) ⟨h, Advances.refl s⟩ ht
    have hnext := tracks_threadView hs'.filed hview
    exact ⟨hnext.filed, hs'.advances.trans hnext.advances⟩
  | dmMessages localId views =>
    refine inv_forEach (I := Tracks s) (fun s' view hs' hview => ?_) ⟨h, Advances.refl s⟩ ht
    have hnext := tracks_messageView hs'.filed hview
    exact ⟨hnext.filed, hs'.advances.trans hnext.advances⟩

end Calls

/-! ## The whole run -/

lemma remembers_of_filed {s : Store} (h : Filed s) : Remembers s := by
  intro thread hthread message hmessage hid
  obtain ⟨thread', hthread', hid', hle⟩ := h message hmessage
  have hsame : thread' = thread := eq_of_key hthread' hthread (hid'.trans hid)
  rw [hsame] at hle
  cases htime : thread.lastMessageAt with
  | none =>
    rw [htime] at hle
    exact absurd hle not_some_le_none
  | some time =>
    rw [htime] at hle
    exact ⟨time, rfl, some_le_some.mp hle⟩

/-- **LAST MESSAGE TIMES ARE KEPT**: in a run whose calls meet their conditions, every
state remembers the messages of its threads, and no thread forgets its last message
time or moves it back. -/
theorem last_message_times_kept {s : Store} (hstart : Filed s) (calls : List ThreadCall)
    (htimely : AllSteps perform Timely s calls) :
    Always perform Remembers s calls ∧ AlwaysRelated perform Advances s calls := by
  have hstep : ∀ s call, Filed s → Timely s call → Filed (perform s call) :=
    fun _ _ h ht => (tracks_perform h ht).filed
  constructor
  · intro pre post hcalls
    exact remembers_of_filed (always_of_inv hstep hstart htimely pre post hcalls)
  · refine (related_iff_allSteps Advances.refl Advances.trans s calls).mpr ?_
    exact allSteps_of_inv hstep (fun _ _ h ht => (tracks_perform h ht).advances) hstart htimely

def toySent (messageId : String) (occurredAt : Int) : PersistDmMessageInput where
  localPublicId := "alice"
  counterpart := toyCounterpart "bob"
  threadId := "dm:alice:bob"
  messageId
  content := .null
  agentEnvelopeJson := .null
  agentSignature := none
  occurredAt

/-- Alice accepts bob, writes to them, and syncs the session and bob's answer. -/
def toyChat : List ThreadCall :=
  [.action (toyAction .accept "alice" "bob" (some "r1") 1), .dmMessage (toySent "m1" 4),
    .dmThreads "alice" [{
      counterpart := toyCounterpart "bob"
      transportThreadId := "dm-bob"
      sessionState := "ready"
      createdAt := 1
      updatedAt := 4
      lastMessageAt := some 4 }],
    .dmMessages "alice" [toyMessage "inbound" "bob" "m2"]]

/-- The chat is such a run; the thread ends with the time of bob's answer. -/
theorem last_message_times_kept_chat : AllSteps perform Timely .empty toyChat
      ∧ (Always perform Remembers .empty toyChat ∧ AlwaysRelated perform Advances .empty toyChat)
      ∧ (run perform .empty toyChat).threads.rows.map
          (fun thread => (thread.threadId, thread.lastMessageAt)) = [("dm:alice:bob", some 5)] := by
  have htimely : AllSteps perform Timely .empty toyChat := by
    refine ⟨?_, ?_, ⟨?_, trivial⟩, ⟨⟨?_, ?_⟩, trivial⟩, trivial⟩
    · rintro row hrow _ _ old hold
      cases hold
    · intro _ _ old hold _
      have hnew : ∀ old ∈ (perform .empty
          (.action (toyAction .accept "alice" "bob" (some "r1") 1))).threads.rows,
            old.lastMessageAt = none := by decide +kernel
      rw [hnew old hold]
      exact none_le
    · intro hnone
      exact absurd hnone (by decide +kernel)
    · intro hnone
      exact absurd hnone (by decide +kernel)
    · intro _ existing hpair hshut
      have hready := congrArg (Option.map (refuses false .ready)) hpair
      rw [map_some, hshut] at hready
      exact absurd hready (by decide +kernel)
  refine ⟨htimely, last_message_times_kept ?_ toyChat htimely, by decide +kernel⟩
  intro message hmessage
  cases hmessage

/-- Removing the friend makes the thread forget the message that is stored in it. -/
theorem removal_forgets_message :
    let calls := [ThreadCall.action (toyAction .accept "alice" "bob" (some "r1") 1),
      .dmMessage (toySent "m1" 4), .action (toyAction .remove "alice" "bob" none 9)]
    (run perform .empty calls).messages.rows.map (fun message =>
        (message.threadId, message.createdAt)) = [("dm:alice:bob", 4)]
      ∧ (run perform .empty calls).threads.rows.map (fun thread =>
        (thread.threadId, thread.lastMessageAt)) = [("dm:alice:bob", none)]
      ∧ ¬ Remembers (run perform .empty calls) := by
  intro calls
  refine ⟨by decide +kernel, by decide +kernel, fun hremembers => ?_⟩
  have hforgotten : ∃ thread ∈ (run perform .empty calls).threads.rows, thread.lastMessageAt = none
        ∧ ∃ message ∈ (run perform .empty calls).messages.rows,
          message.threadId = thread.threadId := by decide +kernel
  obtain ⟨thread, hthread, hnone, message, hmessage, hid⟩ := hforgotten
  obtain ⟨time, htime, -⟩ := hremembers thread hthread message hmessage hid
  rw [hnone] at htime
  cases htime

end WattThreadTimes
