import Wattetheria.EscrowDiscipline

/-!
# Every mission handler keeps the discipline

One lemma for each function of the handlers, in the order of the source.  `Meets`
is the judgement for one handler: it keeps the discipline, and when it succeeds
the postcondition holds.  Nothing is known after a failure; no handler acts on
more than the response then.
-/

namespace WattPayoutSpec

open WattText WattJson WattAsync WattMission WattLifecycle WattRecord WattEscrow WattMissions List
open WattPayout Option Discipline Rules

variable {paid apart kept : String → Prop} {α β : Type} {i : Nat} {w : Option String}

/-- Handler `i` keeps the discipline from `s`, and when it succeeds `Q` holds. -/
def Meets (paid apart kept : String → Prop) (i : Nat) (w : Option String) (p : Handler α)
    (Q : α → Shared → Prop) (s : Shared) : Prop :=
  (discipline paid apart kept).Safe i (p w) (fun r s' => ∀ a, r = .ok a → Q a s') s

/-! ## Rules -/

variable {Q : α → Shared → Prop} {s : Shared}

lemma meets_pure {a : α} (h : Q a s) : Meets paid apart kept i w (pure a) Q s := by
  intro a' ha
  cases ha
  exact h

lemma meets_fail {response : Response} : Meets paid apart kept i w (.fail response) Q s := by
  intro a ha
  cases ha

variable {p : Handler α} {Q' : α → Shared → Prop}

lemma meets_ite {c : Prop} [Decidable c] {q : Handler α}
    (hp : c → Meets paid apart kept i w p Q s) (hq : ¬ c → Meets paid apart kept i w q Q s) :
    Meets paid apart kept i w (if c then p else q) Q s := by
  by_cases hc : c
  · rw [if_pos hc]
    exact hp hc
  · rw [if_neg hc]
    exact hq hc

lemma Meets.mono (hp : Meets paid apart kept i w p Q s)
    (h : ∀ a s', Q a s' → Q' a s') : Meets paid apart kept i w p Q' s :=
  safe_mono _ (fun _ s' hQ a ha => h a s' (hQ a ha)) hp

lemma Meets.bind {f : α → Handler β} {Q : β → Shared → Prop} (hp : Meets paid apart kept i w p Q' s)
    (hf : ∀ a s', Q' a s' → Meets paid apart kept i w (f a) Q s') :
    Meets paid apart kept i w (p >>= f) Q s := by
  refine safe_bind _ (safe_mono _ ?_ hp)
  intro r s' hr
  cases r with
  | ok a => exact hf a s' (hr a rfl)
  | error response => exact fun a ha => nomatch ha

lemma Meets.attempt (hp : Meets paid apart kept i w p Q s) :
    Meets paid apart kept i w p.attempt (fun _ _ => True) s := by
  refine safe_bind _ (safe_mono _ ?_ hp)
  intro r s' _ a _
  exact trivial

variable {id : String}

lemma Meets.settling (hp : Meets paid apart kept i (some id) p Q s) :
    Meets paid apart kept i w (Handler.settling id p) Q s := hp

/-- What the state cannot lose still holds when a handler returns. -/
def Stable (P : Shared → Prop) : Prop :=
  ∀ s s', Later (fun _ => False) s s' → P s → P s'

variable {P : Shared → Prop} {s' : Shared}

lemma Stable.rely (hstable : Stable P) {t : Place}
    (hrely : (discipline paid apart kept).rely i t s s') : P s → P s' :=
  hstable s s' (hrely.1.mono fun _ h => h.elim)

lemma Meets.frame (hp : Meets paid apart kept i w p Q s) (hstable : Stable P) (hP : P s) :
    Meets paid apart kept i w p (fun a s' => Q a s' ∧ P s') s := by
  refine safe_mono _ ?_ (safe_frame _ ?_ ?_ hp hP)
  · rintro r s' ⟨hQ, hP'⟩ a ha
    exact ⟨hQ a ha, hP'⟩
  · intro t s s' hrely
    exact hstable.rely hrely
  · rintro t s s' ⟨-, hguar⟩
    exact hstable s s' (later_of_guarantee hguar)

lemma meets_look {f : Outcome → MissionBoard → Except Response α}
    (h : ∀ s', (discipline paid apart kept).rely i ⟨.look, w⟩ s s' → (discipline paid apart kept).inv s' →
      ∀ e a, f e s'.board = .ok a → Q a s') : Meets paid apart kept i w (.look f) Q s :=
  safe_look _ (fun _ _ _ => rfl) fun s' hrely hinv e _ a ha =>
    h s' hrely hinv e a ha

variable {spot : Spot} {γ : Type}

lemma meets_atomic {f : Nat → Outcome → Shared → Except Response α × Shared}
    (h : ∀ s', (discipline paid apart kept).rely i ⟨spot, w⟩ s s' → (discipline paid apart kept).inv s' →
      ∀ e, (discipline paid apart kept).ok ⟨spot, w⟩ e s' →
        (discipline paid apart kept).inv (f i e s').2
          ∧ (discipline paid apart kept).Guarantee i ⟨spot, w⟩ s' (f i e s').2
          ∧ ∀ a, (f i e s').1 = .ok a → Q a (f i e s').2) :
    Meets paid apart kept i w (.atomic spot f) Q s :=
  safe_atomic _ fun s' hrely hinv e hok => and_assoc.mpr (h s' hrely hinv e hok)

lemma meets_onBoard {f : Outcome → MissionBoard → Except Response α × MissionBoard}
    (h : ∀ s', (discipline paid apart kept).rely i ⟨spot, w⟩ s s' → (discipline paid apart kept).inv s' →
      ∀ e, (discipline paid apart kept).ok ⟨spot, w⟩ e s' →
        BoardStep paid kept spot s' (f e s'.board).2
          ∧ ∀ a, (f e s'.board).1 = .ok a → Q a { s' with board := (f e s'.board).2 }) :
    Meets paid apart kept i w (.onBoard spot f) Q s := by
  refine safe_atomic _ fun s' hrely hinv e hok => ?_
  obtain ⟨hstep, hQ⟩ := h s' hrely hinv e hok
  exact ⟨boardStep_ok hinv hstep, hQ⟩

/-- A loop over a list, with a fact about each element that the state cannot lose. -/
lemma meets_foldlM {f : β → γ → Handler β} {P : γ → Shared → Prop} (hstable : ∀ c, Stable (P c))
    (hf : ∀ b c s, P c s → Meets paid apart kept i w (f b c) (fun _ _ => True) s) (b : β)
    (cs : List γ) (h : ∀ c ∈ cs, P c s) :
    Meets paid apart kept i w (cs.foldlM f b) (fun _ _ => True) s := by
  induction cs generalizing b s with
  | nil => exact meets_pure trivial
  | cons c cs ih =>
    rw [foldlM_cons]
    have hrest : Stable fun s => ∀ c ∈ cs, P c s := fun s s' hs hall c hc =>
      hstable c s s' hs (hall c hc)
    refine Meets.bind ((hf b c s (h c (mem_cons_self ..))).frame hrest
      fun c' hc' => h c' (mem_cons_of_mem _ hc')) ?_
    rintro b' s' ⟨-, hall⟩
    exact ih b' hall

/-! ## Board sections -/

lemma mapped_ok {r : Except String α} {f : String → Response} {g : α → γ} {c : γ}
    (h : (r.mapError f).map g = .ok c) : ∃ a, r = .ok a ∧ g a = c := by
  cases r with
  | error text => cases h
  | ok a => exact ⟨a, rfl, Except.ok.inj h⟩

/-- The calls that may take a mission out of completed or forget its escrow. -/
def isPlaced : BoardOp → Bool
  | .settle .. | .cancelUnfunded .. | .clearBountyEscrow .. => true
  | .publish .. | .setExpiry .. | .recordBountyEscrowIntent .. | .markBountyEscrowed ..
  | .claimAs .. | .complete .. | .cancel .. | .cancelIfExpired .. | .applyRemoteClaimApproved ..
  | .applyRemoteCompleted .. => false

lemma boardStep_routine (op : BoardOp) (h : Routine s op) (hplaced : isPlaced op = false) :
    BoardStep paid kept spot s (step s.board op) := by
  refine .call op rfl h ?_ ?_ ?_
  · rintro id now rfl
    cases hplaced
  · rintro id now rfl
    cases hplaced
  · rintro id now rfl
    cases hplaced

/-- The ledger refused to lock the escrow. -/
def Refused (id : String) (s : Shared) : Prop :=
  ∃ (n : Nat) (c : Call) (error : LedgerError), s.calls[n]? = some c ∧ c.escrowId = id
    ∧ c.request.isLock = true ∧ c.reply = some (.error error)

lemma stable_refused (id : String) : Stable (Refused id) := by
  rintro s s' h ⟨n, c, error, hc, hid, hlock, hreply⟩
  obtain ⟨c', hc', hid', hrequest, hreply'⟩ := h.calls n c hc
  exact ⟨n, c', error, hc', hid'.trans hid, hrequest ▸ hlock, hreply' _ hreply⟩

/-- What the handler knows when it forgets an escrow. -/
def Grounds (id : String) (s : Shared) : ClearReason → Prop
  | .refunded => s.ledger id = .refunded
  | .refused => Refused id s
  | .missing => True

lemma stable_grounds (id : String) (why : ClearReason) : Stable fun s => Grounds id s why := by
  intro s s' h
  cases why with
  | refunded => exact h.refunded id
  | refused => exact stable_refused id s s' h
  | missing => exact fun _ => trivial

lemma Grounds.not_atStake (hs : Sound s) {why : ClearReason} (h : Grounds id s why)
    (hwhy : why ≠ .missing) : ¬ AtStake s id := by
  cases why with
  | refunded =>
    have hledger : s.ledger id = .refunded := h
    refine not_atStake_of_final hs ?_ fun payer amount => ?_
    · rw [hledger]
      exact Escrow.noConfusion
    · rw [hledger]
      exact Escrow.noConfusion
  | refused =>
    obtain ⟨n, c, error, hc, rfl, hlock, hreply⟩ := h
    exact not_atStake_of_refused hs (mem_of_getElem? hc) hlock hreply
  | missing => exact absurd rfl hwhy

/-- `clear_mission_escrow` forgets an escrow that is not at stake, or one that the
ledger misses, where the schedule lets it. -/
lemma meets_clearMissionEscrow (why : ClearReason) (h : Grounds id s why) :
    Meets paid apart kept i w (clearMissionEscrow why id) (fun _ _ => True) s := by
  refine meets_onBoard fun s' hrely hinv e hok => ⟨?_, fun _ _ => trivial⟩
  refine .call (.clearBountyEscrow id e.now) rfl trivial (fun _ _ h => (nomatch h))
    (fun _ _ h => (nomatch h)) ?_
  rintro id' now ⟨⟩ hk
  by_cases hwhy : why = .missing
  · subst hwhy
    exact ⟨hok.2.2.2 id hk rfl, .inl rfl⟩
  · have hfree := ((stable_grounds id why).rely hrely h).not_atStake hinv.1 hwhy
    refine ⟨fun howed => hfree (.inl howed), .inr ?_⟩
    by_contra hlocking
    exact hfree (.inr hlocking)

/-- The mission is on the board and its escrow was recorded. -/
def Recording (id : String) (s : Shared) : Prop :=
  s.awaiting id = none ∧ Holds s id fun _ => True

lemma stable_recording (id : String) : Stable (Recording id) := by
  rintro s s' h ⟨hrec, mission, hm, -⟩
  exact ⟨h.recorded id mission hm hrec, h.holds (fun _ _ _ h => h) ⟨mission, hm, trivial⟩⟩

variable {mission : CivilMission}

lemma recording_of_escrow (hs : Sound s) {escrowId : String}
    (hm : s.board.get id = some mission) (hescrow : mission.escrowId = some escrowId) :
    escrowId = id ∧ Recording id s := by
  refine ⟨(hs.board id mission hm).escrow escrowId hescrow, ?_, mission, hm, trivial⟩
  by_contra hawaiting
  rw [hs.awaiting id mission hm hawaiting] at hescrow
  cases hescrow

/-- While a handler settles a mission, the mission stays completed. -/
def InWindow (apart : String → Prop) (w : Option String) (s : Shared) (id : String) : Prop :=
  apart id → w = some id → Completed s id

lemma inWindow_none : InWindow apart none s id :=
  fun _ h => nomatch h

lemma InWindow.rely (h : InWindow apart w s id)
    (hrely : (discipline paid apart kept).rely i ⟨spot, w⟩ s s') : InWindow apart w s' id :=
  fun ha hw => hrely.2.1 id ha hw (h ha hw)

lemma meets_recordMissionEscrow (hrec : Recording id s) (hwindow : InWindow apart w s id) :
    Meets paid apart kept i w (recordMissionEscrow id id)
      (fun _ s' => InWindow apart w s' id
        ∧ Holds s' id fun mission => mission.hasUnconfirmedEscrow = false) s := by
  refine meets_onBoard fun s' hrely _ e _ => ?_
  obtain ⟨hrec', mission, hm, -⟩ :=
    (stable_recording id).rely hrely hrec
  have hroutine : Routine s' (.markBountyEscrowed id id e.now) := ⟨rfl, hrec'⟩
  have hget : (step s'.board (.markBountyEscrowed id id e.now)).get id
      = some (markBountyEscrowedRecord id e.now mission).2 := by
    rcases rewrites_get hroutine.rewrites hm with ⟨-, hget⟩ | ⟨hne, -⟩
    · exact hget
    · exact absurd rfl hne
  refine ⟨boardStep_routine _ hroutine rfl, ?_⟩
  intro _ _
  refine ⟨fun ha hw => ?_, _, hget, rfl⟩
  obtain ⟨mission', hm', hcompleted⟩ := hwindow.rely hrely ha hw
  obtain rfl := mem_unique hm hm'
  exact ⟨_, hget, hcompleted⟩

/-! ## Ledger calls -/

variable (n : Nat)

/-- The request with number `n`. -/
def Sent (id : String) (request : LedgerRequest) (s : Shared) : Prop :=
  ∃ c : Call, s.calls[n]? = some c ∧ c.escrowId = id ∧ c.request = request

lemma stable_sent (id : String) (request : LedgerRequest) : Stable (Sent n id request) := by
  rintro s s' h ⟨c, hc, hid, hrequest⟩
  obtain ⟨c', hc', hid', hrequest', -⟩ := h.calls n c hc
  exact ⟨c', hc', hid'.trans hid, hrequest'.trans hrequest⟩

/-- The ledger did what the request asked for. -/
def Done (s : Shared) (id : String) : LedgerRequest → Prop
  | .lock _ _ => True
  | .release agent => s.ledger id = .released agent
  | .refund => s.ledger id = .refunded

variable {request : LedgerRequest} {c : Call}

lemma meets_sendRequest
    (h : ∀ s', (discipline paid apart kept).rely i ⟨.sendRequest id request, w⟩ s s' →
      (discipline paid apart kept).inv s' → Permitted paid apart kept i s' id request) :
    Meets paid apart kept i w (sendRequest id id request) (fun n s' => Sent n id request s') s := by
  refine safe_atomic _ fun s' hrely hinv e _ => ⟨send_ok hinv (h s' hrely hinv), ?_⟩
  intro n hn
  cases hn
  exact ⟨_, List.getElem?_concat_length, rfl, rfl⟩

lemma done_of_reply (hs : Sound s) {n : Nat} (hc : s.calls[n]? = some c)
    (hid : c.escrowId = id) (hrequest : c.request = request) (hreply : c.reply = some (.ok ())) :
    Done s id request := by
  subst hid hrequest
  have hmem : c ∈ s.calls := mem_of_getElem? hc
  have hserved := hs.served c hmem hreply
  cases hrequest : c.request with
  | lock payer amount => exact trivial
  | refund =>
    rw [hrequest] at hserved
    exact hserved
  | release agent =>
    rw [hrequest] at hserved
    obtain ⟨payee, hpayee⟩ := hserved
    -- the payee and the agent are both the executor on record
    obtain ⟨mission, hm, hexecutor⟩ := hs.ledger _ payee hpayee
    obtain ⟨-, mission', hm', hagent⟩ := hs.call c hmem
    obtain rfl := mem_unique hm hm'
    obtain rfl := mem_unique hexecutor (hagent agent hrequest)
    exact hpayee

lemma awaited_reply {n : Nat} (hc : s.calls[n]? = some c) (e : Outcome)
    {r : Except LedgerError Unit} (hr : (match e.lost with
      | some error => .error (.unavailable error)
      | none => (s.calls[n]?.bind Call.reply).getD (.error (.unavailable "operation timed out")))
        = r) : (∃ text, r = .error (.unavailable text)) ∨ c.reply = some r := by
  subst hr
  cases e.lost with
  | some error => exact .inl ⟨error, rfl⟩
  | none =>
    rw [hc, bind_some]
    cases c.reply with
    | none => exact .inl ⟨_, rfl⟩
    | some reply => exact .inr rfl

/-- What a handler knows when it has awaited the reply to its request: success means that
the ledger did as asked, and a definitive error is the ledger's. -/
def Awaited (id : String) (request : LedgerRequest) (r : Except LedgerError Unit)
    (s : Shared) : Prop :=
  (r = .ok () → Done s id request)
    ∧ ∀ error, r = .error error → ledgerOutcomeIsDefinitive error = true →
        ∃ c : Call, s.calls[n]? = some c ∧ c.escrowId = id ∧ c.request = request
          ∧ c.reply = some (.error error)

lemma meets_awaitReply {n : Nat} (h : Sent n id request s) :
    Meets paid apart kept i w (awaitReply n) (fun r s' => Awaited n id request r s') s := by
  refine safe_look _ (fun _ _ _ => rfl) fun s' hrely hinv e _ r hr => ?_
  obtain ⟨c, hc, hid, hrequest⟩ :=
    (stable_sent n id request).rely hrely h
  rcases awaited_reply hc e (Except.ok.inj hr) with ⟨text, rfl⟩ | hreply
  · refine ⟨fun hok => (nomatch hok), fun error herror hdefinitive => ?_⟩
    obtain rfl := Except.error.inj herror
    cases hdefinitive
  · refine ⟨?_, ?_⟩
    · rintro rfl
      exact done_of_reply hinv.1 hc hid hrequest hreply
    · rintro error rfl -
      exact ⟨c, hc, hid, hrequest, hreply⟩

lemma meets_callLedger (request : LedgerRequest)
    (h : ∀ s', (discipline paid apart kept).rely i ⟨.sendRequest id request, w⟩ s s' →
      (discipline paid apart kept).inv s' → Permitted paid apart kept i s' id request) :
    Meets paid apart kept i w (callLedger id id request)
      (fun r s' => ∃ n, Awaited n id request r s') s :=
  (meets_sendRequest h).bind fun n _ hsent =>
    (meets_awaitReply hsent).mono fun _ _ hawaited => ⟨n, hawaited⟩

lemma meets_ledgerEscrow
    (h : ∀ s', (discipline paid apart kept).rely i ⟨.lookUpEscrow, w⟩ s s' → P s') :
    Meets paid apart kept i w (ledgerEscrow id) (fun _ s' => P s') s :=
  safe_look _ (fun _ _ _ => rfl) fun s' hrely _ _ _ _ _ => h s' hrely

/-! ## Escrows -/

/-- The mission is cancelled, for good. -/
def Cancelled (id : String) (s : Shared) : Prop :=
  Holds s id fun mission => mission.status = .cancelled

lemma permitted_refund (hrec : Recording id s) (hcancelled : apart id → Cancelled id s) :
    Permitted paid apart kept i s id .refund := by
  obtain ⟨hawaiting, mission, hm, -⟩ := hrec
  refine ⟨hawaiting, ⟨mission, hm, fun _ h => (nomatch h), fun ha => ?_⟩, fun h => (nomatch h)⟩
  obtain ⟨mission', hm', hstatus⟩ := hcancelled ha
  obtain rfl := mem_unique hm hm'
  exact ⟨⟨mission, rfl, .inl hstatus⟩, .inl hstatus⟩

variable (cfg : Config)

/-- `refund_pending_escrow` is called on cancelled missions. -/
lemma meets_refundPendingEscrow (stale : Int) (hcancelled : apart id → Cancelled id s) :
    Meets paid apart kept i w (refundPendingEscrow cfg id stale) (fun _ _ => True) s := by
  refine (meets_look (Q := fun mission s' => s'.board.get id = some mission ∧ Sound s'
    ∧ (apart id → Cancelled id s')) ?_).bind ?_
  · intro s' hrely hinv e mission hmission
    refine ⟨?_, hinv.1, fun ha => hrely.1.cancelled (hcancelled ha)⟩
    cases hget : s'.board.get id with
    | none =>
      rw [hget] at hmission
      cases hmission
    | some mission' =>
      rw [hget] at hmission
      exact congrArg some (Except.ok.inj hmission)
  · rintro mission s' ⟨hm, hsound, hcancelled'⟩
    cases hescrow : mission.escrowId with
    | none => exact meets_pure trivial
    | some escrowId =>
      obtain ⟨rfl, hrec⟩ := recording_of_escrow hsound hm hescrow
      cases hgateway : cfg.hasGateway with
      | false => exact meets_fail
      | true =>
        refine (meets_callLedger .refund ?_).bind ?_
        · intro s'' hrely _
          exact permitted_refund ((stable_recording _).rely hrely hrec)
            fun ha => hrely.1.cancelled (hcancelled' ha)
        · rintro r s'' ⟨n, hdone, -⟩
          cases r with
          | ok u => exact meets_clearMissionEscrow .refunded (hdone rfl)
          | error error =>
            cases error with
            | notFound message =>
              refine (meets_look (Q := fun _ _ => True) fun _ _ _ _ _ _ => trivial).bind ?_
              exact fun now s3 _ =>
                meets_ite (fun _ => meets_clearMissionEscrow .missing trivial) fun _ => meets_fail
            | insufficientBalance | rejected | unavailable => exact meets_fail

/-- `confirm_escrow_with_ledger` returns true when the escrow is confirmed on the
board. -/
lemma meets_confirmEscrowWithLedger (hid : mission.missionId = id)
    (hescrow : ∀ escrowId, mission.escrowId = some escrowId → escrowId = id ∧ Recording id s)
    (hwindow : InWindow apart w s id) :
    Meets paid apart kept i w (confirmEscrowWithLedger cfg mission)
      (fun confirmed s' => confirmed = true → mission.escrowId.isSome = true →
        InWindow apart w s' id
          ∧ Holds s' id fun mission => mission.hasUnconfirmedEscrow = false) s := by
  rw [confirmEscrowWithLedger]
  cases hid' : mission.escrowId with
  | none => exact meets_pure fun _ h => nomatch h
  | some escrowId =>
    obtain ⟨rfl, hrec⟩ := hescrow escrowId hid'
    rw [hid]
    refine meets_ite (fun _ => meets_fail) fun _ => ?_
    refine (meets_ledgerEscrow (P := fun s' => Recording escrowId s' ∧ InWindow apart w s' escrowId)
      ?_).bind ?_
    · intro s' hrely
      exact ⟨(stable_recording _).rely hrely hrec, hwindow.rely hrely⟩
    · rintro r s' ⟨hrec', hwindow'⟩
      cases r with
      | error error => exact meets_fail
      | ok escrow =>
        refine meets_ite (fun _ => ?_) fun _ => meets_pure fun h => nomatch h
        exact (meets_recordMissionEscrow hrec' hwindow').bind fun _ s'' h =>
          meets_pure fun _ _ => h

/-- `cancel_unfunded_mission`. -/
lemma meets_cancelUnfundedMission (id : String) (stale : Int) (s : Shared) :
    Meets paid apart kept i w (cancelUnfundedMission cfg id stale) (fun _ _ => True) s := by
  refine (meets_onBoard (Q := fun cancelled s' => cancelled = true → Cancelled id s') ?_).bind ?_
  · intro s' _ _ e _
    cases hget : s'.board.get id with
    | none =>
      refine ⟨.same rfl, ?_⟩
      rintro cancelled h rfl
      cases h
    | some mission =>
      by_cases hstatus : mission.status = .cancelled
      · simp only [if_pos hstatus]
        refine ⟨.same rfl, ?_⟩
        rintro cancelled h rfl
        cases h
      · simp only [if_neg hstatus]
        refine ⟨.call (.cancelUnfunded id e.now) rfl trivial (fun _ _ h => (nomatch h)) ?_
          (fun _ _ h => (nomatch h)), ?_⟩
        · rintro id' now ⟨⟩
          rfl
        · intro cancelled h _
          obtain ⟨later, hlater, -⟩ := mapped_ok h
          obtain ⟨hget', mission', -, hbody, rfl⟩ := MissionBoard.withMission_ok hlater
          refine ⟨_, hget', ?_⟩
          show (attempt _ _ mission').2.status = .cancelled
          rw [attempt_snd, if_pos (attempt_ok_iff.mp hbody)]
  · intro cancelled s' hcancelled
    refine meets_ite (fun h => ?_) fun _ => meets_pure trivial
    exact (meets_refundPendingEscrow cfg stale fun _ => hcancelled h).attempt.bind
      fun _ _ _ => meets_pure trivial

/-- `ensure_mission_escrow_confirmed` lets a mission that is being settled pass only
with a confirmed escrow. -/
lemma meets_ensureMissionEscrowConfirmed (hwindow : InWindow apart w s id) :
    Meets paid apart kept i w (ensureMissionEscrowConfirmed cfg id)
      (fun _ s' => InWindow apart w s' id ∧ (apart id → w = some id →
        Holds s' id fun mission => mission.hasUnconfirmedEscrow = false)) s := by
  refine (meets_look (Q := fun unconfirmed s' => Sound s' ∧ InWindow apart w s' id
    ∧ unconfirmed = (s'.board.get id).filter fun mission =>
        mission.hasUnconfirmedEscrow && mission.status ≠ .cancelled) ?_).bind ?_
  · intro s' hrely hinv e unconfirmed h
    exact ⟨hinv.1, hwindow.rely hrely, (Except.ok.inj h).symm⟩
  · rintro unconfirmed s' ⟨hsound, hwindow', hfound⟩
    cases unconfirmed with
    | none =>
      refine meets_pure ⟨hwindow', fun ha hw => ?_⟩
      obtain ⟨mission, hm, hcompleted⟩ := hwindow' ha hw
      rw [hm] at hfound
      exact ⟨mission, hm, by simpa [Option.filter, hcompleted] using hfound⟩
    | some mission =>
      obtain ⟨hm, hunconfirmed⟩ := filter_eq_some_iff.mp hfound.symm
      have hescrow : mission.escrowId.isSome = true := by
        simp only [CivilMission.hasUnconfirmedEscrow, Bool.and_eq_true] at hunconfirmed
        exact hunconfirmed.1.1
      refine (meets_confirmEscrowWithLedger cfg (hsound.board id mission hm).key
        (fun escrowId => recording_of_escrow hsound hm) hwindow').bind ?_
      intro confirmed s'' hconfirmed
      refine meets_ite (fun h => meets_pure ?_) fun _ => ?_
      · exact ⟨(hconfirmed h hescrow).1, fun _ _ => (hconfirmed h hescrow).2⟩
      · exact (meets_cancelUnfundedMission cfg id _ s'').bind fun _ _ _ => meets_fail

/-! ## Publishing -/

/-- `cancel_on_board` cancels, unless the mission is completed or settled; after an
uncertain lock the schedule excludes that. -/
lemma meets_cancelOnBoard (why : LockFailure) (hrec : Holds s id fun _ => True) :
    Meets paid apart kept i w (cancelOnBoard why id)
      (fun _ s' => why = .uncertain → apart id → Cancelled id s') s := by
  refine meets_onBoard fun s' hrely _ e hok => ?_
  refine ⟨boardStep_routine (.cancel id e.now) trivial rfl, ?_⟩
  rintro _ - rfl ha
  obtain ⟨mission, hm, -⟩ := hrely.1.holds (fun _ _ _ h => h) hrec
  obtain ⟨hcompleted, hsettled⟩ := hok.2.2.1 id ha rfl mission hm
  have hrewrites : Rewrites (.cancel id e.now) := fun _ _ _ h => nomatch h
  rcases rewrites_get hrewrites hm with ⟨-, hget⟩ | ⟨hne, -⟩
  · refine ⟨_, hget, ?_⟩
    show (attempt _ _ mission).2.status = .cancelled
    rw [attempt_snd, if_pos (by simp [bailIf_eq_ok, hcompleted, hsettled])]
  · exact absurd rfl hne

/-- The handler is about to send the lock of an escrow that the board tracks. -/
def AboutToLock (paid kept : String → Prop) (i : Nat) (id : String) (s : Shared) : Prop :=
  s.locking id = some i ∧ (paid id → kept id → Tracked s id)

/-- `record_mission_escrow_intent` is called by the handler that published the
mission. -/
lemma meets_recordMissionEscrowIntent (hmine : s.awaiting id = some i)
    (hfunded : Holds s id fun mission => 0 < bounty mission) :
    Meets paid apart kept i w (recordMissionEscrowIntent id id)
      (fun _ s' => Recording id s' ∧ AboutToLock paid kept i id s') s := by
  refine safe_atomic _ fun s' hrely hinv e _ => ?_
  have hfunded' := hrely.1.funded hfunded
  obtain ⟨mission, hm, -⟩ := hfunded
  have hmine' : s'.awaiting id = some i := hrely.1.awaiting id mission hm i rfl hmine
  obtain ⟨hinv', hguar, htracked⟩ :=
    intent_ok (i := i) (t := ⟨.recordMissionEscrowIntent, w⟩) hinv e.now hmine' hfunded'
  refine ⟨⟨hinv', hguar⟩, fun _ _ => ⟨⟨Function.update_self .., ?_⟩, Function.update_self ..,
    fun hp _ => htracked hp⟩⟩
  exact ((later_of_guarantee hguar).funded hfunded').imp fun _ h => ⟨h.1, trivial⟩

lemma AboutToLock.rely {payer : String} {amount : Int} (h : AboutToLock paid kept i id s)
    (hrely : (discipline paid apart kept).rely i ⟨.sendRequest id (.lock payer amount), w⟩ s s') :
    AboutToLock paid kept i id s' :=
  ⟨hrely.1.locking id i rfl h.1,
    fun hp hk => hrely.2.2 id hp hk ⟨payer, amount, rfl⟩ h.1 (h.2 hp hk)⟩

/-- `lock_mission_bounty`. -/
lemma meets_lockMissionBounty (hmine : s.awaiting mission.missionId = some i)
    (hrec : Holds s mission.missionId fun held => bounty held = bounty mission) :
    Meets paid apart kept i none (lockMissionBounty cfg mission) (fun _ _ => True) s := by
  refine meets_ite (fun _ => meets_pure trivial) fun hbounty => ?_
  have hheld : Holds s mission.missionId fun _ => True := hrec.imp fun _ h => ⟨h.1, trivial⟩
  have hfunded : Holds s mission.missionId fun held => 0 < bounty held := by
    obtain ⟨held, hheld, hsame⟩ := hrec
    exact ⟨held, hheld, lt_of_lt_of_eq (not_le.mp hbounty) hsame.symm⟩
  refine meets_ite (fun _ => ?_) fun _ => ?_
  · exact (meets_cancelOnBoard .noGateway hheld).bind fun _ _ _ => meets_fail
  refine (meets_recordMissionEscrowIntent hmine hfunded).bind ?_
  rintro - s1 ⟨hrec1, hlock1⟩
  refine ((meets_callLedger _ ?_).frame (stable_recording _) hrec1).bind ?_
  · intro s' hrely _
    obtain ⟨hawaiting, m, hm, -⟩ :=
      (stable_recording _).rely hrely hrec1
    exact ⟨hawaiting, ⟨m, hm, fun _ h => (nomatch h), fun _ => trivial⟩, fun _ => hlock1.rely hrely⟩
  rintro r s2 ⟨⟨n, -, hanswered⟩, hrec2⟩
  have hrecord : ∀ s', Recording mission.missionId s' → Meets paid apart kept i none
      (recordMissionEscrow mission.missionId mission.missionId) (fun _ _ => True) s' :=
    fun s' hrec' => (meets_recordMissionEscrow hrec' inWindow_none).mono fun _ _ _ => trivial
  cases r with
  | ok u => exact hrecord s2 hrec2
  | error error =>
    refine meets_ite (fun hdefinitive => ?_) fun _ => ?_
    · obtain ⟨c, hc, hid, hrequest, hreply⟩ := hanswered error rfl hdefinitive
      have hrefused : Refused mission.missionId s2 :=
        ⟨n, c, error, hc, hid, by rw [hrequest]; rfl, hreply⟩
      refine ((meets_cancelOnBoard .refused hrec2.2).frame (stable_refused _) hrefused).bind ?_
      rintro - s3 ⟨-, hrefused3⟩
      exact (meets_clearMissionEscrow .refused hrefused3).bind fun _ _ _ => meets_fail
    · refine (meets_ledgerEscrow fun s' hrely =>
        (stable_recording _).rely hrely hrec2).bind fun escrow s3 hrec3 => ?_
      refine meets_ite (fun _ => hrecord s3 hrec3) fun _ => ?_
      refine (meets_cancelOnBoard .uncertain hrec3.2).bind fun _ s4 hcancelled => ?_
      exact (meets_refundPendingEscrow cfg _ fun ha => hcancelled rfl ha).attempt.bind
        fun _ _ _ => meets_fail

variable (spec : MissionSpec) (expiresAt : Option Int)

/-- `publish_mission_on_board`: the handler has to record the escrow of its mission. -/
lemma meets_publishMissionOnBoard (s : Shared) :
    Meets paid apart kept i w (publishMissionOnBoard spec expiresAt)
      (fun mission s' => s'.awaiting mission.missionId = some i
        ∧ Holds s' mission.missionId fun held => bounty held = bounty mission) s := by
  refine meets_atomic fun s' _ hinv e hok => ?_
  by_cases hexpired : (expiresAt.any fun expiresAt => expiresAt ≤ e.checkedAt) = true
  · simp only [if_pos hexpired]
    exact ⟨hinv, fun j t' _ _ => (discipline paid apart kept).rely_refl j t' s',
      fun _ h => (nomatch h)⟩
  · obtain ⟨mission, hwritten, hrecorded, hescrow, hopen, hget⟩ :=
      writePublication_eq s'.board spec expiresAt e.uuid e.now
    simp only [if_neg hexpired, hwritten]
    obtain ⟨hinv', hguar⟩ := publish_ok (i := i) (t := ⟨.publishMissionOnBoard, w⟩) hinv
      (hok.1 rfl) hrecorded hescrow hopen hget
    refine ⟨hinv', hguar, fun mission' h => ?_⟩
    cases h
    rw [hrecorded.key]
    exact ⟨Function.update_self .., mission, by rw [hget, if_pos rfl], rfl⟩

lemma meets_missionPublish (s : Shared) :
    Meets paid apart kept i none (missionPublish cfg spec expiresAt) (fun _ _ => True) s :=
  (meets_publishMissionOnBoard spec expiresAt s).bind fun _ _ h =>
    meets_lockMissionBounty cfg h.1 h.2

/-! ## Settling -/

/-- What a settlement asks the ledger for. -/
def payout (agent : String) : LedgerRequest :=
  if isEmpty (trim agent) then .refund else .release agent

/-- The mission was executed by an agent, on whose name the escrow was recorded. -/
def Executed (id agent : String) (s : Shared) : Prop :=
  Recording id s ∧ Holds s id fun mission => mission.completedBy = some agent

lemma stable_executed (id agent : String) : Stable (Executed id agent) := by
  rintro s s' h ⟨hrec, hexecutor⟩
  exact ⟨stable_recording id s s' h hrec, h.executor hexecutor⟩

variable {agent : String}

lemma permitted_payout (h : Executed id agent s)
    (hfirm : apart id → Holds s id fun mission => mission.status = .completed ∧ Firm mission) :
    Permitted paid apart kept i s id (payout agent) := by
  obtain ⟨⟨hawaiting, -⟩, mission, hm, hexecutor⟩ := h
  refine ⟨hawaiting, ⟨mission, hm, ?_⟩, fun hlock => ?_⟩
  rotate_left
  · rw [payout] at hlock
    split at hlock <;> cases hlock
  have hasked : apart id → mission.status = .completed ∧ Firm mission := by
    intro ha
    obtain ⟨mission', hm', hfirm'⟩ := hfirm ha
    obtain rfl := mem_unique hm hm'
    exact hfirm'
  rw [payout]
  cases hblank : isEmpty (trim agent) with
  | true =>
    have hmission : Blank mission := ⟨agent, hexecutor, hblank⟩
    exact ⟨fun _ h => (nomatch h), fun ha =>
      ⟨⟨mission, rfl, .inr ⟨(hasked ha).1, hmission⟩⟩, .inr hmission⟩⟩
  | false =>
    refine ⟨fun payee h => ?_, fun ha => ⟨⟨mission, rfl, (hasked ha).1⟩, hblank, hexecutor,
      (hasked ha).2⟩⟩
    obtain rfl := LedgerRequest.release.inj h
    exact hexecutor

lemma paidOut_of_done (h : Executed id agent s) (hdone : Done s id (payout agent)) :
    Holds s id (PaidOut s id) := by
  obtain ⟨-, mission, hm, hexecutor⟩ := h
  refine ⟨mission, hm, agent, hexecutor, ?_⟩
  rw [payout] at hdone
  cases hblank : isEmpty (trim agent) with
  | true =>
    rw [hblank] at hdone
    exact hdone
  | false =>
    rw [hblank] at hdone
    exact hdone

lemma payoutRequest_payee (h : mission.completedBy = some agent) (fallback : Option String) :
    payoutRequest (payee mission fallback) = payout agent := by
  rw [payee, payout, h]
  cases hblank : isEmpty (trim agent) <;> simp [Option.filter, hblank, payoutRequest]

/-- From the snapshot of the completed mission to the request: the mission stays completed
and its escrow gets confirmed, so the payout may be asked for. -/
lemma meets_payoutWindow {executor : Option String} (hcompleted : Completed s id)
    (hexecuted : Executed id agent s) (hrequest : payoutRequest executor = payout agent) :
    Meets paid apart kept i (some id) (do
        ensureMissionEscrowConfirmed cfg id if !cfg.hasGateway then .fail (noGatewayResponse id id)
        else sendRequest id id (payoutRequest executor))
      (fun n s' => Sent n id (payout agent) s') s := by
  rw [hrequest]
  refine ((meets_ensureMissionEscrowConfirmed cfg fun _ _ => hcompleted).frame
    (stable_executed id agent) hexecuted).bind ?_
  rintro - s2 ⟨⟨hwindow, hconfirmed⟩, hexecuted2⟩
  refine meets_ite (fun _ => meets_fail) fun _ => meets_sendRequest ?_
  intro s3 hrely _
  refine permitted_payout ((stable_executed _ _).rely hrely hexecuted2) fun ha => ?_
  obtain ⟨mission, hm, hunconfirmed⟩ := hconfirmed ha rfl
  obtain ⟨mission', hm', hcompleted'⟩ := hwindow ha rfl
  obtain rfl := mem_unique hm hm'
  obtain ⟨later, hlater, -, -, hfirm⟩ := hrely.1.board _ mission hm
  obtain ⟨later', hlater', hcompleted''⟩ := hrely.2.1 _ ha rfl ⟨mission, hm, hcompleted'⟩
  obtain rfl := mem_unique hlater hlater'
  exact ⟨later, hlater, hcompleted'', hfirm hexecuted2.1.1 ⟨.inl hcompleted', hunconfirmed⟩⟩

/-- `release_mission_bounty` pays the executor on record, or says that there is nothing
to pay. -/
lemma meets_releaseMissionBounty (id : String) (fallback : Option String) (s : Shared) :
    Meets paid apart kept i w (releaseMissionBounty cfg id fallback)
      (fun request s' => request.isSome = true → Holds s' id (PaidOut s' id)) s := by
  refine (meets_look (Q := fun found s' => ∀ p ∈ found, p.1 = id ∧ Completed s' id
    ∧ ∃ agent, Executed id agent s' ∧ payoutRequest p.2 = payout agent) ?_).bind ?_
  · intro s' _ hinv e found h
    cases hm : s'.board.get id with
    | none =>
      rw [hm] at h
      cases h
      exact fun p hp => nomatch hp
    | some mission =>
      simp only [hm] at h
      by_cases hstatus : mission.status = .completed
      · rw [if_neg (not_not_intro hstatus)] at h
        cases h
        intro p hp
        obtain ⟨escrowId, hescrow, rfl⟩ := map_eq_some_iff.mp hp
        obtain ⟨rfl, hrec⟩ := recording_of_escrow hinv.1 hm hescrow
        obtain ⟨agent, hagent⟩ :=
          isSome_iff_exists.mp ((hinv.1.board _ mission hm).executor (.inl hstatus))
        exact ⟨rfl, ⟨mission, hm, hstatus⟩, agent, ⟨hrec, mission, hm, hagent⟩,
          payoutRequest_payee hagent fallback⟩
      · rw [if_pos hstatus] at h
        cases h
        exact fun p hp => nomatch hp
  · intro found s1 hfound
    cases found with
    | none => exact meets_pure fun h => nomatch h
    | some p =>
      obtain ⟨escrowId, executor⟩ := p
      obtain ⟨rfl, hcompleted, agent, hexecuted, hrequest⟩ := hfound _ rfl
      refine ((meets_payoutWindow cfg hcompleted hexecuted hrequest).settling.frame
        (stable_executed escrowId agent) hexecuted).bind ?_
      rintro n s2 ⟨hsent, hexecuted2⟩
      refine ((meets_awaitReply hsent).frame (stable_executed escrowId agent) hexecuted2).bind ?_
      rintro r s3 ⟨⟨hdone, -⟩, hexecuted3⟩
      cases r with
      | ok u => exact meets_pure fun _ => paidOut_of_done hexecuted3 (hdone rfl)
      | error error =>
        cases error with
        | notFound | insufficientBalance | rejected | unavailable => exact meets_fail

/-- `settle_mission_board`, after a payout or where the schedule lets it settle without
one. -/
lemma meets_settleMissionBoard {payout : Option LedgerRequest}
    (hpayout : payout.isSome = true → Holds s id (PaidOut s id)) :
    Meets paid apart kept i w (settleMissionBoard id payout) (fun _ _ => True) s := by
  refine meets_onBoard fun s' hrely _ e hok => ⟨?_, fun _ _ => trivial⟩
  refine .call (.settle id e.now) rfl trivial ?_ (fun _ _ h => (nomatch h))
    (fun _ _ h => (nomatch h))
  rintro id' now ⟨⟩
  refine ⟨⟨payout, rfl⟩, fun hpaid mission hm hcompleted hbounty => ?_⟩
  cases payout with
  | none =>
    have hfree := hok.2.1 id hpaid rfl mission hm hcompleted
    exact absurd hbounty (not_lt.mpr hfree)
  | some request =>
    obtain ⟨mission0, hm0, hpaidOut⟩ := hpayout rfl
    obtain ⟨mission', hm', hev, -⟩ := hrely.1.board id mission0 hm0
    obtain rfl := mem_unique hm hm'
    exact hpaidOut.later hrely.1 hev

lemma meets_missionSettle (id : String) (agentDid : Option String) (s : Shared) :
    Meets paid apart kept i w (missionSettle cfg id agentDid) (fun _ _ => True) s :=
  (meets_releaseMissionBounty cfg id agentDid s).bind fun _ _ h => meets_settleMissionBoard h

/-! ## Cancelling, claiming, completing -/

/-- `cancel_mission_and_refund`: past the board section the mission is cancelled. -/
lemma meets_cancelMissionAndRefund (id : String) (stale : Int) (s : Shared) :
    Meets paid apart kept i w (cancelMissionAndRefund cfg id stale) (fun _ _ => True) s := by
  refine (meets_onBoard (Q := fun _ s' => Cancelled id s') ?_).bind fun _ _ hcancelled => ?_
  · intro s' _ _ e _
    cases hm : s'.board.get id with
    | none => exact ⟨.same rfl, fun _ h => (nomatch h)⟩
    | some mission =>
      have hcancel : BoardStep paid kept .cancel s' (s'.board.cancel id e.now).2
          ∧ ∀ a, (((s'.board.cancel id e.now).1.mapError internalError).map fun _ => true) = .ok a →
            Cancelled id { s' with board := (s'.board.cancel id e.now).2 } := by
        refine ⟨boardStep_routine (.cancel id e.now) trivial rfl, fun a h => ?_⟩
        obtain ⟨later, hlater, -⟩ := mapped_ok h
        obtain ⟨hget, mission', -, hbody, rfl⟩ := MissionBoard.withMission_ok hlater
        refine ⟨_, hget, ?_⟩
        show (attempt _ _ mission').2.status = .cancelled
        rw [attempt_snd, if_pos (attempt_ok_iff.mp hbody)]
      dsimp only
      cases hstatus : mission.status with
      | completed => exact ⟨.same rfl, fun _ h => (nomatch h)⟩
      | settled => exact ⟨.same rfl, fun _ h => (nomatch h)⟩
      | cancelled => exact ⟨.same rfl, fun _ _ => ⟨mission, hm, hstatus⟩⟩
      | «open» => exact hcancel
      | claimed => exact hcancel
  · exact (meets_refundPendingEscrow cfg stale fun _ => hcancelled).bind fun _ _ _ =>
      meets_pure trivial

/-- `transition_mission`. -/
lemma meets_transitionMission (id : String) (action : MissionAction) (s : Shared) :
    Meets paid apart kept i none (transitionMission cfg id action) (fun _ _ => True) s := by
  refine (meets_ensureMissionEscrowConfirmed cfg inWindow_none).bind fun _ _ _ => ?_
  refine meets_onBoard fun s' _ _ e _ => ⟨?_, fun _ _ => trivial⟩
  cases s'.board.get id with
  | none => exact .same rfl
  | some mission =>
    cases action with
    | claim agentDid displayName =>
      exact boardStep_routine (.claimAs id agentDid displayName e.checkedAt e.now)
        trivial rfl
    | complete agentDid result =>
      exact boardStep_routine (.complete id agentDid result e.checkedAt e.now) trivial rfl

/-- `sync_mission_lifecycle_to_board`. -/
lemma meets_syncMissionLifecycleToBoard (id : String) (kind : LifecycleKind)
    (signer : Did) (claimedAs : Option String) (result : Option JsonValue) (s : Shared) :
    Meets paid apart kept i w (syncMissionLifecycleToBoard cfg id kind signer claimedAs result)
      (fun _ _ => True) s := by
  refine meets_ite (fun _ => meets_pure trivial) fun _ => ?_
  refine meets_onBoard fun s' _ _ e _ => ⟨?_, fun _ _ => trivial⟩
  by_cases hclaimed : (claimedAs.any fun claimedAs => claimedAs ≠ signer.text) = true
  · simp only [if_pos hclaimed]
    exact .same rfl
  · simp only [if_neg hclaimed]
    cases kind with
    | missionClaimApproved =>
      exact boardStep_routine
        (.applyRemoteClaimApproved id signer.text e.checkedAt e.now) trivial rfl
    | missionCompleted =>
      exact boardStep_routine
        (.applyRemoteCompleted id signer.text result e.checkedAt e.now) signer.nonblank rfl
    | missionSettled => exact .same rfl
    | other => exact .same rfl

/-! ## The sweep -/

/-- What the sweep knows about a mission it lists as unconfirmed. -/
def Listed (mission : CivilMission) (s : Shared) : Prop :=
  ∀ escrowId, mission.escrowId = some escrowId →
    escrowId = mission.missionId ∧ Recording mission.missionId s

lemma stable_listed (mission : CivilMission) : Stable (Listed mission) := by
  intro s s' h hlisted escrowId hescrow
  obtain ⟨hid, hrec⟩ := hlisted escrowId hescrow
  exact ⟨hid, stable_recording _ s s' h hrec⟩

lemma meets_resolveUnconfirmedEscrow (now stale : Int)
    (report : MissionEscrowSweepReport) (h : Listed mission s) :
    Meets paid apart kept i none (resolveUnconfirmedEscrow cfg now stale report mission)
      (fun _ _ => True) s := by
  refine (meets_confirmEscrowWithLedger cfg rfl h inWindow_none).attempt.bind fun r s' _ => ?_
  rcases r with _ | (_ | _)
  · exact meets_pure trivial
  · refine meets_ite (fun _ => meets_pure trivial) fun _ => ?_
    refine (meets_cancelUnfundedMission cfg _ stale s').attempt.bind fun r _ _ => ?_
    rcases r with _ | (_ | _)
    · exact meets_pure trivial
    · exact meets_pure trivial
    · exact meets_pure trivial
  · exact meets_pure trivial

lemma meets_expireMission (stale : Int) (report : MissionEscrowSweepReport)
    (mission : CivilMission) (s : Shared) :
    Meets paid apart kept i w (expireMission cfg stale report mission) (fun _ _ => True) s := by
  refine (meets_cancelMissionAndRefund cfg _ stale s).attempt.bind fun r _ _ => ?_
  cases r with
  | ok result => exact meets_pure trivial
  | error response =>
    exact meets_ite (fun _ => meets_pure trivial) fun _ => meets_pure trivial

lemma meets_retryRefund (stale : Int) (report : MissionEscrowSweepReport) (h : Cancelled id s) :
    Meets paid apart kept i w (retryRefund cfg stale report id) (fun _ _ => True) s := by
  refine (meets_refundPendingEscrow cfg stale fun _ => h).attempt.bind fun r _ _ => ?_
  cases r with
  | ok mission => exact meets_ite (fun _ => meets_pure trivial) fun _ => meets_pure trivial
  | error response => exact meets_pure trivial

/-- `reconcile_mission_escrows`. -/
lemma meets_reconcileMissionEscrows (stale : Int) (s : Shared) :
    Meets paid apart kept i none (reconcileMissionEscrows cfg stale) (fun _ _ => True) s := by
  refine (meets_look (Q := fun found s' => ∀ mission ∈ found.2, Listed mission s') ?_).bind ?_
  · intro s' _ hinv e found h mission hmission escrowId hescrow
    cases h
    obtain ⟨id, hm⟩ := MissionBoard.mem_values (mem_filter.mp hmission).1
    rw [(hinv.1.board id mission hm).key]
    exact recording_of_escrow hinv.1 hm hescrow
  · rintro ⟨now, unconfirmed⟩ s1 hlisted
    refine (meets_foldlM stable_listed
      (fun report mission s h => meets_resolveUnconfirmedEscrow cfg now stale report h) _ _
      hlisted).bind fun report s2 _ => ?_
    refine (meets_look (Q := fun found s' => ∀ id ∈ found.2, Cancelled id s') ?_).bind ?_
    · intro s' _ hinv e found h id hid
      cases h
      obtain ⟨mission, hmission, rfl⟩ := mem_map.mp hid
      obtain ⟨hlist, -⟩ := mem_filter.mp hmission
      obtain ⟨hvalue, hstatus⟩ := mem_filter.mp hlist
      obtain ⟨id, hm⟩ := MissionBoard.mem_values hvalue
      rw [(hinv.1.board id mission hm).key]
      exact ⟨mission, hm, by simpa using hstatus⟩
    · rintro ⟨expired, pending⟩ s3 hcancelled
      have hstable : Stable fun s => ∀ id ∈ pending, Cancelled id s := fun s s' h hall id hid =>
        h.cancelled (hall id hid)
      refine ((meets_foldlM (P := fun _ _ => True) (fun _ _ _ _ _ => trivial)
        (fun report mission s _ => meets_expireMission cfg stale report mission s) report expired
        fun _ _ => trivial).frame hstable hcancelled).bind ?_
      rintro report s4 ⟨-, hcancelled'⟩
      exact meets_foldlM (P := Cancelled) (fun _ _ _ h => h.cancelled)
        (fun report _ _ h => meets_retryRefund cfg stale report h) report pending hcancelled'

/-! ## The node -/

lemma safe_start (h : Meets paid apart kept i none p Q s) :
    (discipline paid apart kept).Safe i (Handler.start p) (fun _ _ => True) s :=
  safe_bind _ (safe_mono _ (fun _ _ _ => trivial) h)

/-- **EVERY REQUEST** keeps the discipline. -/
lemma safe_request (request : Request) (s : Shared) :
    (discipline paid apart kept).Safe i (start cfg request) (fun _ _ => True) s := by
  cases request with
  | publish spec expiresAt => exact safe_start (meets_missionPublish cfg spec expiresAt s)
  | transition id action => exact safe_start (meets_transitionMission cfg id action s)
  | settle id agentDid => exact safe_start (meets_missionSettle cfg id agentDid s)
  | cancel id => exact safe_start (meets_cancelMissionAndRefund cfg id _ s)
  | sync id kind signer claimedAs result =>
    exact safe_start (meets_syncMissionLifecycleToBoard cfg id kind signer claimedAs result s)
  | sweep stale => exact safe_start (meets_reconcileMissionEscrows cfg stale s)

end WattPayoutSpec
