import Wattetheria.SocialServiceProofs

/-!
# Which direct messages a batch brings in

`reconcileDmMessages` goes through the messages the transport reports.  A
message may come in if it was sent from here or comes from an active friend;
every other one is refused, and the refusal ends the loop.  Nothing else than admitted
messages is ever stored, and all of them are exactly when each admitted one is there
already or is reached (`imported_iff`).
-/

namespace WattDmSync

open WattText WattJson WattRows WattRuns WattJournal WattSocial Program ThreadService MessageService

variable {localId : String} {view : DmMessageSyncView} {s : Store} {thread : DirectThread}

/-! ## What a message view asks for -/

/-- The message may come in: it was sent from here, or the counterpart is an active
friend. -/
def Admitted (localId : String) (s : Store) (view : DmMessageSyncView) : Prop :=
  messageDirectionFromSwarm view.direction = .outbound
    ∨ ∃ friendship ∈ s.friendships.rows, friendship.localPublicId = localId
      ∧ friendship.remotePublicId = view.counterpart.counterpartPublicId
      ∧ friendship.state = .active

/-- The thread a message belongs to. -/
abbrev pairThread (localId : String) (s : Store) (view : DmMessageSyncView) : Option DirectThread :=
  s.findThread localId view.counterpart.counterpartPublicId

/-- The message row of a view, in the store it is looked at in. -/
abbrev filed (localId : String) (s : Store) (view : DmMessageSyncView) : DirectMessage :=
  importedMessage localId view (pairThread localId s view)

/-- A row is stored under the thread and the id of the message. -/
def Stored (messages : Table DirectMessage) (message : DirectMessage) : Prop :=
  ∃ row ∈ messages.rows, Row.key row = Row.key message

/-- The body of the loop takes the view: the friendship that is found is active, and
every row it makes passes the check of its service. -/
structure Importable (localId : String) (s : Store) (view : DmMessageSyncView) : Prop where
  allowed : messageDirectionFromSwarm view.direction = .outbound
    ∨ ∃ friendship, s.findFriendship localId view.counterpart.counterpartPublicId
        = some friendship ∧ friendship.state = .active
  identity : ∀ agentDid, counterpartAgentDid view.counterpart = some agentDid →
    RemoteIdentityService.check (cachedIdentity s view.counterpart agentDid) = .ok ()
  binding : TransportBindingService.check (cachedBinding view.counterpart) = .ok ()
  thread : ThreadService.check (importedThread localId view (pairThread localId s view)) = .ok ()
  message : MessageService.check (filed localId s view) = .ok ()

/-- The store after one message. -/
abbrev syncStep (localId : String) (s : Store) (view : DmMessageSyncView) : Store :=
  after (reconcileDmMessage localId view) s

/-! ## One round of the loop -/

lemma ensureInboundDmAllowed_eq_ok : ensureInboundDmAllowed localId view s = .ok ()
      ↔ messageDirectionFromSwarm view.direction = .outbound
        ∨ ∃ friendship, s.findFriendship localId view.counterpart.counterpartPublicId
            = some friendship ∧ friendship.state = .active := by
  unfold ensureInboundDmAllowed
  cases messageDirectionFromSwarm view.direction with
  | outbound => simp
  | inbound =>
    cases hfind : s.findFriendship localId view.counterpart.counterpartPublicId with
    | none => simp [hfind]
    | some friendship => simp [hfind, conflictIf_eq_ok]

lemma findThread_eq_ok {remotePublicId : String} {existing : Option DirectThread} :
    findThread s localId remotePublicId = .ok existing
      ↔ (blank localId || blank remotePublicId) = false
        ∧ existing = s.findThread localId remotePublicId :=
  refuseIf_return.trans (and_congr_right fun _ => eq_comm)

lemma conflict_of_conflictIf {c : Bool} {text : String} {e : SocialError}
    (h : conflictIf c text = .error e) : ∃ text, e = .conflict text := by
  cases c with
  | false => cases h
  | true => exact ⟨text, (Except.error.inj h).symm⟩

lemma result_importThread : result (ignoreConflict (upsertThread thread)) s = .ok ()
      ↔ ThreadService.check thread = .ok () := by
  refine result_ignoreConflict_checked ?_ fun e he => ?_
  · exact (refusesInput_refuseIf _ _).bind <| (refusesInput_refuseIf _ _).bind <|
      (refusesInput_refuseIf _ _).bind <| (refusesInput_refuseIf _ _).bind
        (refusesInput_refuseIf _ _)
  · unfold ThreadService.checkTransition at he
    split at he
    · cases he
    · exact conflict_of_conflictIf he

variable {message : DirectMessage}

lemma result_importMessage : result (ignoreConflict (upsertMessage message)) s = .ok ()
      ↔ MessageService.check message = .ok () := by
  refine result_ignoreConflict_checked ?_ fun e he => ?_
  · exact (refusesInput_refuseIf _ _).bind <| (refusesInput_refuseIf _ _).bind <|
      (refusesInput_refuseIf _ _).bind (refusesInput_refuseIf _ _)
  · unfold MessageService.checkTransition at he
    split at he
    · cases he
    · exact conflict_of_conflictIf he

/-- A message that passes its check is stored, or stays as it is under its key. -/
lemma messages_upsertMessage (hcheck : MessageService.check message = .ok ()) (s : Store) :
    (after (upsertMessage message) s).messages = s.messages.upsert message
      ∨ ((after (upsertMessage message) s).messages = s.messages ∧ Stored s.messages message) := by
  cases htransition : MessageService.checkTransition s message with
  | ok u =>
    left
    exact congrArg Store.messages (after_checked_ok (w := .upsertMessage message) hcheck htransition)
  | error e =>
    right
    constructor
    · refine congrArg Store.messages (after_checked_error (w := .upsertMessage message) (.inr ?_))
      rw [htransition]
      exact fun h => (nomatch h)
    · unfold MessageService.checkTransition at htransition
      cases hfind : s.getMessage message.threadId message.messageId with
      | none => rw [hfind] at htransition; cases htransition
      | some existing =>
        have hkey := List.find?_some hfind
        rw [Bool.and_eq_true, decide_eq_true_eq, decide_eq_true_eq] at hkey
        exact ⟨existing, List.mem_of_find?_eq_some hfind, Prod.ext hkey.1 hkey.2⟩

/-! ### Statements that leave the messages alone -/

/-- A statement on another table. -/
def Elsewhere (w : Write) : Prop := ∀ s : Store, (s.apply w).messages = s.messages

lemma messages_elsewhere {α : Type} {p : Social α} (hp : AllWrites Elsewhere p) (s : Store) :
    (after p s).messages = s.messages := view_after (fun s _ hw => hw s) hp s

lemma elsewhere_of_within {owner : String} {part : Part} (hpart : part ≠ .messages)
    {w : Write} (hw : Within owner [part] w) : Elsewhere w := by
  have hne : w.part ≠ .messages := fun h => hpart ((List.mem_singleton.mp hw.part).symm.trans h)
  intro s
  cases w <;> first | rfl | exact absurd rfl hne

lemma elsewhere_cacheCounterpart (snapshot : CounterpartSnapshot) :
    AllWrites Elsewhere (cacheCounterpart snapshot) :=
  (within_cached snapshot).mono fun _ hw => elsewhere_of_within (by decide) hw

lemma elsewhere_importThread (thread : DirectThread) :
    AllWrites Elsewhere (ignoreConflict (upsertThread thread)) :=
  allWrites_forgive ((within_upsertThreadChecked rfl).mono fun _ hw =>
    elsewhere_of_within (by decide) hw)

lemma elsewhere_receipt (receipt : MessageReceipt) :
    AllWrites Elsewhere (ignoreConflict (ReceiptService.upsertMessageReceipt receipt)) :=
  allWrites_forgive (allWrites_ofExcept_bind fun _ => allWrites_write fun _ => rfl)

lemma elsewhere_importReceipts (view : DmMessageSyncView) :
    AllWrites Elsewhere (importReceipts view) := by
  refine allWrites_bind (allWrites_onlyIf (elsewhere_receipt _)) fun _ => ?_
  split
  · exact allWrites_pure ()
  · exact elsewhere_receipt _

/-! ### The rows of a view -/

lemma result_receipt {receipt : MessageReceipt} (h : blank receipt.messageId = false) :
    result (ignoreConflict (ReceiptService.upsertMessageReceipt receipt)) s = .ok () := by
  refine result_forgive_of_ok ?_
  unfold ReceiptService.upsertMessageReceipt
  rw [ofExcept_bind (a := ()) (refuseIf_eq_ok.mpr h)]
  rfl

lemma result_importReceipts (h : blank view.messageId = false) :
    result (importReceipts view) s = .ok () := by
  unfold importReceipts onlyIf
  refine result_seq_eq_ok.mpr ⟨?_, ?_⟩
  · split
    · exact result_receipt h
    · rfl
  · split
    · rfl
    · exact result_receipt h

lemma messageId_of_check (h : MessageService.check message = .ok ()) :
    blank message.messageId = false := by
  rw [MessageService.check, check_bind_eq_ok, check_bind_eq_ok, refuseIf_eq_ok] at h
  exact refuseIf_eq_ok.mp h.2.1

lemma ids_of_check (h : ThreadService.check thread = .ok ()) :
    (blank thread.localPublicId || blank thread.remotePublicId) = false := by
  rw [ThreadService.check, check_bind_eq_ok, check_bind_eq_ok, refuseIf_eq_ok, refuseIf_eq_ok] at h
  exact h.2.1

section Rows

variable {existing : Option DirectThread}

lemma result_storeImported_eq_ok : result (storeImported localId view existing) s = .ok ()
      ↔ ThreadService.check (importedThread localId view existing) = .ok ()
        ∧ MessageService.check (importedMessage localId view existing) = .ok () := by
  unfold storeImported
  rw [result_seq_eq_ok, result_importThread, result_seq_eq_ok, result_importMessage]
  refine and_congr_right' (and_iff_left_of_imp fun h => result_importReceipts ?_)
  have hid : blank (importedMessage localId view existing).messageId = false :=
    messageId_of_check h
  exact hid

lemma messages_storeImported_ok (h : result (storeImported localId view existing) s = .ok ()) :
    (after (storeImported localId view existing) s).messages
        = s.messages.upsert (importedMessage localId view existing)
      ∨ ((after (storeImported localId view existing) s).messages = s.messages
        ∧ Stored s.messages (importedMessage localId view existing)) := by
  obtain ⟨hthread, hmessage⟩ := result_storeImported_eq_ok.mp h
  -- the thread is stored first, so the message finds the table as it was
  have hbefore := messages_elsewhere
    (elsewhere_importThread (importedThread localId view existing)) s
  have hafter : (after (storeImported localId view existing) s).messages
      = (after (upsertMessage (importedMessage localId view existing))
          (after (ignoreConflict
            (upsertThread (importedThread localId view existing))) s)).messages := by
    unfold storeImported
    rw [after_bind_ok (result_importThread.mpr hthread),
      after_bind_ok (result_importMessage.mpr hmessage),
      messages_elsewhere (elsewhere_importReceipts view)]
    exact congrArg Store.messages (after_forgive _ _ _)
  rw [hafter, ← hbefore]
  exact messages_upsertMessage hmessage _

lemma messages_storeImported_error (h : result (storeImported localId view existing) s ≠ .ok ()) :
    (after (storeImported localId view existing) s).messages = s.messages := by
  rw [ne_eq, result_storeImported_eq_ok, not_and] at h
  unfold storeImported
  cases hthread : result (ignoreConflict
      (upsertThread (importedThread localId view existing))) s with
  | error e =>
    rw [after_bind_error hthread]
    exact messages_elsewhere (elsewhere_importThread _) s
  | ok u =>
    have hcheck := h (result_importThread.mp hthread)
    rw [after_bind_ok hthread, ← messages_elsewhere (elsewhere_importThread _) s]
    cases hmessage : result (ignoreConflict (upsertMessage (importedMessage localId view existing)))
        (after (ignoreConflict (upsertThread (importedThread localId view existing))) s) with
    | ok u => exact absurd (result_importMessage.mp hmessage) hcheck
    | error e =>
      rw [after_bind_error hmessage, ignoreConflict, after_forgive]
      exact congrArg Store.messages
        (after_checked_error (w := .upsertMessage _) (.inl hcheck))

end Rows

/-! ### The round -/

/-- **WHEN A VIEW IS TAKEN**: exactly when it is allowed and its rows pass their
checks. -/
lemma result_reconcileDmMessage_eq_ok : result (reconcileDmMessage localId view) s = .ok ()
      ↔ Importable localId s view := by
  have hfriendship := findFriendship_congr (friendships_cache view.counterpart s)
    localId view.counterpart.counterpartPublicId
  have hthread := findThread_congr (threads_cache view.counterpart s)
    localId view.counterpart.counterpartPublicId
  unfold reconcileDmMessage
  rw [result_seq_eq_ok, result_cacheCounterpart_eq_ok, result_read_bind, result_seq_eq_ok,
    result_ofExcept, ensureInboundDmAllowed_eq_ok, hfriendship, result_bind_eq_ok]
  constructor
  · rintro ⟨⟨hidentity, hbinding⟩, hallowed, existing, hfind, hstore⟩
    rw [result_ofExcept, findThread_eq_ok, hthread] at hfind
    obtain ⟨-, rfl⟩ := hfind
    obtain ⟨hrow, hmessage⟩ := result_storeImported_eq_ok.mp hstore
    exact ⟨hallowed, hidentity, hbinding, hrow, hmessage⟩
  · intro h
    refine ⟨⟨h.identity, h.binding⟩, h.allowed, pairThread localId s view, ?_,
      result_storeImported_eq_ok.mpr ⟨h.thread, h.message⟩⟩
    rw [result_ofExcept, findThread_eq_ok, hthread]
    refine ⟨?_, rfl⟩
    have hids := ids_of_check h.thread
    exact hids

lemma messages_of_ok (h : Importable localId s view) :
    (syncStep localId s view).messages = s.messages.upsert (filed localId s view)
      ∨ ((syncStep localId s view).messages = s.messages
        ∧ Stored s.messages (filed localId s view)) := by
  have hok := result_reconcileDmMessage_eq_ok.mpr h
  unfold reconcileDmMessage at hok
  obtain ⟨hcache, hok⟩ := result_seq_eq_ok.mp hok
  rw [result_read_bind] at hok
  obtain ⟨hallowed, hok⟩ := result_seq_eq_ok.mp hok
  obtain ⟨existing, hfind, hok⟩ := result_bind_eq_ok.mp hok
  rw [result_ofExcept] at hallowed hfind
  have hthread : existing = pairThread localId s view :=
    (findThread_eq_ok.mp hfind).2.trans (findThread_congr (threads_cache view.counterpart s) _ _)
  have hafter : syncStep localId s view = after (storeImported localId view existing)
      (after (cacheCounterpart view.counterpart) s) := by
    unfold syncStep reconcileDmMessage
    rw [after_bind_ok hcache, after_read_bind, ofExcept_bind hallowed, ofExcept_bind hfind]
  rw [hafter, ← messages_elsewhere (elsewhere_cacheCounterpart view.counterpart) s, filed,
    ← hthread]
  exact messages_storeImported_ok hok

lemma messages_of_error (h : ¬ Importable localId s view) :
    (syncStep localId s view).messages = s.messages := by
  rw [← result_reconcileDmMessage_eq_ok] at h
  unfold syncStep
  unfold reconcileDmMessage at h ⊢
  cases hcache : result (cacheCounterpart view.counterpart) s with
  | error e =>
    rw [after_bind_error hcache]
    exact messages_elsewhere (elsewhere_cacheCounterpart view.counterpart) s
  | ok u =>
    rw [result_bind_ok hcache, result_read_bind] at h
    rw [after_bind_ok hcache, after_read_bind,
      ← messages_elsewhere (elsewhere_cacheCounterpart view.counterpart) s]
    cases hallowed : ensureInboundDmAllowed localId view
        (after (cacheCounterpart view.counterpart) s) with
    | error e => rfl
    | ok u =>
      rw [ofExcept_bind hallowed] at h
      rw [ofExcept_bind rfl]
      cases hfind : findThread (after (cacheCounterpart view.counterpart) s)
          localId view.counterpart.counterpartPublicId with
      | error e => rfl
      | ok existing =>
        rw [ofExcept_bind hfind] at h
        rw [ofExcept_bind rfl]
        exact messages_storeImported_error h

/-! ## The whole batch -/

lemma stored_syncStep (h : Stored s.messages message) :
    Stored (syncStep localId s view).messages message := by
  obtain ⟨row, hrow, hkey⟩ := h
  by_cases hok : Importable localId s view
  · rcases messages_of_ok hok with hnew | ⟨hold, -⟩
    · obtain ⟨row', hrow', hkey'⟩ := Table.exists_key_upsert (filed localId s view) hrow
      rw [hnew]
      exact ⟨row', hrow', hkey'.trans hkey⟩
    · rw [hold]
      exact ⟨row, hrow, hkey⟩
  · rw [messages_of_error hok]
    exact ⟨row, hrow, hkey⟩

variable {views : List DmMessageSyncView} {row : DirectMessage}

lemma stored_append (more : List DmMessageSyncView)
    (h : Stored (after (reconcileDmMessages localId views) s).messages message) :
    Stored (after (reconcileDmMessages localId (views ++ more)) s).messages message := by
  unfold reconcileDmMessages at h ⊢
  cases hend : result (forEach views (reconcileDmMessage localId)) s with
  | error e => rwa [after_forEach_append_error more hend]
  | ok u =>
    rw [after_forEach_append_ok more hend]
    have hkeeps : Keeps (fun s : Store => Stored s.messages message)
        (forEach more (reconcileDmMessage localId)) :=
      keeps_forEach fun _ _ _ => stored_syncStep
    exact hkeeps _ h

lemma stored_of_ok (h : Importable localId s view) :
    Stored (syncStep localId s view).messages (filed localId s view) := by
  rcases messages_of_ok h with hnew | ⟨hold, hstored⟩
  · rw [hnew]
    exact ⟨_, Table.mem_upsert_landed _ _, Table.key_landed _ _⟩
  · rwa [hold]

lemma allSteps_importable : AllSteps (syncStep localId) (Importable localId) s views
      ↔ result (reconcileDmMessages localId views) s = .ok () := by
  unfold reconcileDmMessages
  rw [result_forEach_eq_ok]
  constructor
  · exact AllSteps.mono fun _ _ => result_reconcileDmMessage_eq_ok.mpr
  · exact AllSteps.mono fun _ _ => result_reconcileDmMessage_eq_ok.mp

/-- **WHEN A MESSAGE IS STORED**: the loop takes its view, or it was there before. -/
lemma stored_iff (done rest : List DmMessageSyncView) :
    Stored (after (reconcileDmMessages localId (done ++ view :: rest)) s).messages
        (filed localId (after (reconcileDmMessages localId done) s) view)
      ↔ AllSteps (syncStep localId) (Importable localId) s (done ++ [view])
        ∨ Stored (after (reconcileDmMessages localId done) s).messages
            (filed localId (after (reconcileDmMessages localId done) s) view) := by
  have hsplit : done ++ view :: rest = (done ++ [view]) ++ rest := by simp
  constructor
  · intro hstored
    cases hdone : result (reconcileDmMessages localId done) s with
    | error e =>
      unfold reconcileDmMessages at hdone hstored ⊢
      rw [after_forEach_append_error _ hdone] at hstored
      exact .inr hstored
    | ok u =>
      have hall := allSteps_importable.mpr hdone
      have hhere : after (reconcileDmMessages localId done) s
          = run (syncStep localId) s done := after_forEach_of_ok hdone
      by_cases hview : Importable localId (run (syncStep localId) s done) view
      · exact .inl ((allSteps_append s done [view]).mpr ⟨hall, hview, trivial⟩)
      · -- the loop stops at this view, and nothing is stored for it
        right
        obtain ⟨e, herror⟩ : ∃ e, result (reconcileDmMessages localId (done ++ [view])) s
            = .error e := by
          cases hend : result (reconcileDmMessages localId (done ++ [view])) s with
          | error e => exact ⟨e, rfl⟩
          | ok u =>
            have hsteps := allSteps_importable.mpr hend
            exact absurd ((allSteps_append s done [view]).mp hsteps).2.1 hview
        have hstop : after (reconcileDmMessages localId (done ++ view :: rest)) s
            = syncStep localId (run (syncStep localId) s done) view := by
          rw [hsplit, ← hhere]
          unfold reconcileDmMessages at herror hdone ⊢
          rw [after_forEach_append_error _ herror, after_forEach_append_ok _ hdone,
            after_forEach_singleton]
        rw [hstop, messages_of_error hview, hhere] at hstored
        rwa [hhere]
  · rintro (hall | hstored)
    · obtain ⟨hdone, hview, -⟩ := (allSteps_append s done [view]).mp hall
      have hok := allSteps_importable.mp hdone
      have hhere : after (reconcileDmMessages localId done) s
          = run (syncStep localId) s done := after_forEach_of_ok hok
      rw [hsplit]
      refine stored_append rest ?_
      unfold reconcileDmMessages at hok hhere ⊢
      rw [after_forEach_append_ok _ hok, after_forEach_singleton, hhere]
      exact stored_of_ok hview
    · exact stored_append (view :: rest) hstored

lemma admitted_of_importable (h : Importable localId s view) : Admitted localId s view := by
  rcases h.allowed with hout | ⟨friendship, hfind, hactive⟩
  · exact .inl hout
  · obtain ⟨hrow, hlocal, hremote⟩ := Store.findFriendship_some hfind
    exact .inr ⟨friendship, hrow, hlocal, hremote, hactive⟩

lemma mem_syncStep (hrow : row ∈ (syncStep localId s view).messages.rows) :
    row ∈ s.messages.rows ∨ (Admitted localId s view
      ∧ row = { filed localId s view with createdAt := row.createdAt }) := by
  by_cases hok : Importable localId s view
  · rcases messages_of_ok hok with hnew | ⟨hold, -⟩
    · rw [hnew] at hrow
      rcases Table.mem_upsert.mp hrow with rfl | ⟨hrow, -⟩
      · refine .inr ⟨admitted_of_importable hok, ?_⟩
        unfold Table.landed
        split
        · rfl
        · rfl
      · exact .inl hrow
    · rw [hold] at hrow
      exact .inl hrow
  · rw [messages_of_error hok] at hrow
    exact .inl hrow

lemma mem_reconcileDmMessages
    (hrow : row ∈ (after (reconcileDmMessages localId views) s).messages.rows) :
    row ∈ s.messages.rows ∨ ∃ done view rest, views = done ++ view :: rest
      ∧ Admitted localId (after (reconcileDmMessages localId done) s) view
      ∧ row = { filed localId (after (reconcileDmMessages localId done) s) view with
          createdAt := row.createdAt } := by
  -- the last round of the loop either ran or did not
  induction views using List.reverseRecOn with
  | nil => exact .inl hrow
  | append_singleton views last ih =>
    have hprev : row ∈ (after (reconcileDmMessages localId views) s).messages.rows →
        row ∈ s.messages.rows ∨ ∃ done view rest, views ++ [last] = done ++ view :: rest
          ∧ Admitted localId (after (reconcileDmMessages localId done) s) view
          ∧ row = { filed localId (after (reconcileDmMessages localId done) s) view with
              createdAt := row.createdAt } := by
      intro hrow
      rcases ih hrow with hold | ⟨done, view, rest, rfl, hview⟩
      · exact .inl hold
      · exact .inr ⟨done, view, rest ++ [last], by simp, hview⟩
    rcases after_forEach_snoc (reconcileDmMessage localId) last views s with hran | hstopped
    · unfold reconcileDmMessages at hrow
      rw [hran] at hrow
      rcases mem_syncStep hrow with hold | hnew
      · exact hprev hold
      · exact .inr ⟨views, last, [], rfl, hnew⟩
    · unfold reconcileDmMessages at hrow
      rw [hstopped] at hrow
      exact hprev hrow

/-- **WHAT A BATCH BRINGS IN**: every row that was not there before is of a message
sent from here or of an active friend; and every such message of the batch is
stored exactly when each is there already, or all views before it and its own are
taken: they are admitted too and their rows pass the checks. -/
theorem imported_iff (localId : String) (s : Store) (views : List DmMessageSyncView) :
    (∀ row ∈ (after (reconcileDmMessages localId views) s).messages.rows,
      row ∈ s.messages.rows ∨ ∃ done view rest, views = done ++ view :: rest
        ∧ Admitted localId (after (reconcileDmMessages localId done) s) view
        ∧ row = { filed localId (after (reconcileDmMessages localId done) s) view with
            createdAt := row.createdAt })
    ∧ ((∀ done view rest, views = done ++ view :: rest →
          Admitted localId (after (reconcileDmMessages localId done) s) view →
          Stored (after (reconcileDmMessages localId views) s).messages
            (filed localId (after (reconcileDmMessages localId done) s) view))
      ↔ ∀ done view rest, views = done ++ view :: rest →
          Admitted localId (after (reconcileDmMessages localId done) s) view →
          AllSteps (syncStep localId) (Importable localId) s (done ++ [view])
            ∨ Stored (after (reconcileDmMessages localId done) s).messages
                (filed localId (after (reconcileDmMessages localId done) s) view)) := by
  refine ⟨fun row hrow => mem_reconcileDmMessages hrow, ?_⟩
  refine forall_congr' fun done => forall_congr' fun view => forall_congr' fun rest => ?_
  refine forall_congr' fun hviews => forall_congr' fun _ => ?_
  rw [hviews]
  exact stored_iff done rest

/-- A friend's message behind a stranger's: stored alone, lost in the batch. -/
theorem stranger_stops_friend :
    let s := toyStore [toyAction .accept "alice" "bob" (some "r1") 1]
    let stranger := toyMessage "inbound" "mallory" "m1"
    let friend := toyMessage "inbound" "bob" "m2"
    Admitted "alice" (after (reconcileDmMessages "alice" [stranger]) s) friend
      ∧ (after (reconcileDmMessages "alice" [friend]) s).messages.rows.map Row.key
        = [("dm:alice:bob", "m2")]
      ∧ (after (reconcileDmMessages "alice" [stranger, friend]) s).messages.rows = [] := by
  refine ⟨.inr ?_, by decide +kernel, by decide +kernel⟩
  decide +kernel

end WattDmSync
