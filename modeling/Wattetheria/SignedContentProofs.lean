import Wattetheria.MissionNoticeProofs

/-!
# What the signature of an event decides

Two events with the same signed envelope may have different payloads.  How far do they act
alike?  A payment is looked up in the signed message first and in the payload only if
the message carries none (`payments_agree_iff`).  A mission notice is looked up in the
payload first, so the mission, the transition and the result follow the payload; only the
acting agent is the signer's (`notices_agree_iff`).
-/

namespace WattSigned

open WattText WattJson WattPayment WattLedger WattMission WattClaims WattEvents WattNotice Option
  MissionBoard

/-! ## Payments -/

/-- The two payment events. -/
def isPaymentEvent (event : AgentEventEnvelope) : Prop :=
  event.eventType = "payment_request" ∨ event.eventType = "payment_update"

variable {crates : Crates} {agentDid : String} {event : AgentEventEnvelope}
  {context : Option VerifiedAgentContext}

lemma paymentMessageFromEvent_ok
    (htype : isPaymentEvent event) {found : Option (PaymentAgentMessage × String)}
    (h : paymentMessageFromEvent crates agentDid event context = .ok found) :
    paymentFromEvent crates event = found.map fun entry => entry.1.payment := by
  have hpayment : ¬ (event.eventType ≠ "payment_request" ∧ event.eventType ≠ "payment_update") := by
    rintro ⟨hrequest, hupdate⟩
    exact htype.elim hrequest hupdate
  rw [paymentMessageFromEvent, if_neg hpayment] at h
  rw [paymentFromEvent]
  cases hvalue : paymentValueFromEvent event with
  | none =>
    rw [hvalue] at h
    cases h
    rfl
  | some value =>
    rw [hvalue] at h
    simp only [bind_some]
    cases hdecode : crates.paymentFromValue value with
    | error text =>
      simp only [hdecode] at h
      split at h
      · cases h
      · cases h
        rfl
    | ok payment =>
      simp only [hdecode, bind_eq_ok, bailIf_eq_ok] at h
      obtain ⟨_, -, _, -, kind, -, source, -, _, -, _, -, _, -, h⟩ := h
      cases h
      rfl

/-- The node after merging a payment. -/
def mergedPayment (node : Node) : Option PaymentTransaction → Node
  | none => node
  | some payment =>
    let ledger := (node.paymentLedger.mergeRemoteTransaction payment).2
    { node with
      paymentLedger := ledger
      localDb := { node.localDb with paymentLedger := ledger } }

variable {ambient : Ambient} {node : Node} {nowMs : Int}

/-- An accepted payment event merges the payment it carries, into any ledger. -/
lemma syncPayment_ok (htype : isPaymentEvent event)
    (h : (syncPaymentEventToLedger crates ambient node event context).1 = .ok ()) (node' : Node)
    (hdid : node'.agentDid = node.agentDid) :
    syncPaymentEventToLedger crates ambient node' event context
      = (.ok (), mergedPayment node' (paymentFromEvent crates event)) := by
  rw [syncPaymentEventToLedger, ← hdid] at h
  rw [syncPaymentEventToLedger]
  cases hmessage : paymentMessageFromEvent crates node'.agentDid event context with
  | error text =>
    rw [hmessage] at h
    cases h
  | ok found =>
    rw [paymentMessageFromEvent_ok htype hmessage]
    rw [hmessage] at h
    cases found with
    | none => rfl
    | some entry =>
      obtain ⟨message, source⟩ := entry
      simp only [PaymentLedger.mergeRemoteAgentMessage] at h ⊢
      cases hvalid : validateAgentPaymentMessage crates.wallet message source with
      | error text =>
        simp only [hvalid] at h
        cases h
      | ok u =>
        simp only [hvalid] at h
        cases hsave : ambient.saveError with
        | some text =>
          simp only [hsave] at h
          cases h
        | none => rfl

lemma missionLifecycleKind_payment (htype : isPaymentEvent event) :
    missionLifecycleKind event = none := by
  rcases htype with h | h <;> simp [missionLifecycleKind, h]

lemma callback_eq_takeIn (htype : isPaymentEvent event) (node : Node) :
    callback crates nowMs ambient node event = takeIn crates nowMs ambient node event := by
  have hne : event.eventType ≠ "global_announcement_received" := by
    rcases htype with h | h <;> simp [h]
  rw [callback, receiveWorldAnnouncement, if_neg hne]
  exact if_neg hne

lemma callback_payment (htype : isPaymentEvent event)
    (h : (callback crates nowMs ambient node event).1 = .ok ()) (node' : Node)
    (hdid : node'.agentDid = node.agentDid) : callback crates nowMs ambient node' event
      = (.ok (), mergedPayment node' (paymentFromEvent crates event)) := by
  rw [callback_eq_takeIn htype, takeIn] at h ⊢
  cases hcontext : verifiedContextForEvent crates nowMs event with
  | error text =>
    rw [hcontext] at h
    cases h
  | ok context =>
    simp only [hcontext] at h ⊢
    split at h
    · cases h
    · rename_i hsigned
      rw [if_neg hsigned]
      have hsync : (syncPaymentEventToLedger crates ambient node event context).1 = .ok () := by
        revert h
        cases syncPaymentEventToLedger crates ambient node event context with
        | mk result after =>
          cases result with
          | error text => exact fun h => h
          | ok u => exact fun _ => rfl
      rw [syncPayment_ok htype hsync node' hdid]
      simp only [syncMissionLifecycleEventToState, missionLifecycleKind_payment htype]

lemma mergedPayment_injective (hempty : node.paymentLedger = .empty)
    {a b : Option PaymentTransaction} (h : mergedPayment node a = mergedPayment node b) :
    a = b := by
  have hget : ∀ (o : Option PaymentTransaction) (id : String),
      (mergedPayment node o).paymentLedger.get id = o.filter fun payment => payment.paymentId = id := by
    intro o id
    cases o with
    | none => rw [mergedPayment, hempty]; rfl
    | some payment =>
      simp only [mergedPayment, hempty, PaymentLedger.mergeRemoteTransaction,
        PaymentLedger.get_empty, PaymentLedger.get_put, filter_some]
      by_cases hid : payment.paymentId = id
      · simp [hid]
      · simp [hid, Ne.symm hid]
  have hsame : ∀ id, (a.filter fun payment => payment.paymentId = id)
      = b.filter fun payment => payment.paymentId = id := by
    intro id
    rw [← hget, ← hget, h]
  cases a with
  | none =>
    cases b with
    | none => rfl
    | some payment => simpa [filter_some] using hsame payment.paymentId
  | some payment =>
    have hp := hsame payment.paymentId
    simp only [filter_some, decide_true, if_true] at hp
    exact (filter_eq_some_iff.mp hp.symm).1.symm

/-- **PAYMENTS AND THE SIGNATURE**: two payment events with the same signed envelope,
both accepted, change every ledger of this agent alike exactly if they carry the
same payment; and they do carry the same one whenever the signed message itself
carries a payment, whatever their payloads are. -/
theorem payments_agree_iff (crates : Crates) (nowMs1 nowMs2 : Int) (ambient1 ambient2 : Ambient)
    (node : Node) (event1 event2 : AgentEventEnvelope)
    (htype1 : event1.eventType = "payment_request" ∨ event1.eventType = "payment_update")
    (htype2 : event2.eventType = "payment_request" ∨ event2.eventType = "payment_update")
    (henvelope : event1.agentEnvelope = event2.agentEnvelope)
    (haccept1 : (callback crates nowMs1 ambient1 node event1).1 = .ok ())
    (haccept2 : (callback crates nowMs2 ambient2 node event2).1 = .ok ()) :
    ((∀ node' : Node, node'.agentDid = node.agentDid →
        (callback crates nowMs1 ambient1 node' event1).2
          = (callback crates nowMs2 ambient2 node' event2).2)
      ↔ paymentFromEvent crates event1 = paymentFromEvent crates event2)
    ∧ ((event1.signed "payment").isSome = true →
        paymentFromEvent crates event1 = paymentFromEvent crates event2) := by
  constructor
  · constructor
    · intro h
      have hempty := h { node with paymentLedger := .empty } rfl
      rw [callback_payment htype1 haccept1 { node with paymentLedger := .empty } rfl,
        callback_payment htype2 haccept2 { node with paymentLedger := .empty } rfl] at hempty
      exact mergedPayment_injective rfl hempty
    · intro h node' hdid
      rw [callback_payment htype1 haccept1 node' hdid, callback_payment htype2 haccept2 node' hdid, h]
  · intro hsigned
    obtain ⟨value, hvalue⟩ := isSome_iff_exists.mp hsigned
    have hvalue' : event2.signed "payment" = some value := by
      rw [← hvalue, AgentEventEnvelope.signed, AgentEventEnvelope.signed, henvelope]
    rw [paymentFromEvent, paymentFromEvent, paymentValueFromEvent, paymentValueFromEvent, hvalue,
      hvalue']
    rfl

def toyPaymentValue (amount : String) : JsonValue :=
  .object [("amount", .string amount), ("payment_id", .string "payment-7")]

/-- A signed payment stays what it is, whatever the payload adds. -/
theorem payments_agree_iff_signed : (callback toyCrates 0 toyAmbient toyNode
      (toyEvent "payment_request" (.object [("payment", toyPaymentValue "5")]) .null)).2
    = (callback toyCrates 0 toyAmbient toyNode
      (toyEvent "payment_request" (.object [("payment", toyPaymentValue "5")])
        (.object [("payment", toyPaymentValue "9")]))).2 := by
  have h := payments_agree_iff toyCrates 0 0 toyAmbient toyAmbient toyNode
    (toyEvent "payment_request" (.object [("payment", toyPaymentValue "5")]) .null)
    (toyEvent "payment_request" (.object [("payment", toyPaymentValue "5")])
      (.object [("payment", toyPaymentValue "9")]))
    (.inl rfl) (.inl rfl) rfl (by decide +kernel) (by decide +kernel)
  exact h.1.mpr (h.2 (by decide +kernel)) toyNode rfl

/-- One signed greeting, two payloads with different payments: both are accepted, and
they write different payments. -/
theorem unsigned_payment_accepted :
    let event amount := toyEvent "payment_request" (.object [("text", .string "hello")])
      (.object [("payment", toyPaymentValue amount)])
    (event "5").agentEnvelope = (event "9").agentEnvelope
    ∧ (callback toyCrates 0 toyAmbient toyNode (event "5")).1 = .ok ()
    ∧ (callback toyCrates 0 toyAmbient toyNode (event "9")).1 = .ok ()
    ∧ (callback toyCrates 0 toyAmbient toyNode (event "5")).2.paymentLedger
      ≠ (callback toyCrates 0 toyAmbient toyNode (event "9")).2.paymentLedger := by
  refine ⟨rfl, by decide +kernel, by decide +kernel, fun h => ?_⟩
  have hget := congrArg (fun ledger => (ledger.get "payment-7").map (·.amount)) h
  revert hget
  decide +kernel

/-! ## Mission notices -/

lemma verified_signer {context : VerifiedAgentContext}
    (h : verifiedContextForEvent crates nowMs event = .ok (some context)) :
    ∃ envelope sourceAgentId, event.agentEnvelope = some envelope
      ∧ nonBlank envelope.sourceAgentId = some sourceAgentId
      ∧ describe "invalid source agent DID" (crates.parseDid sourceAgentId)
          = .ok context.agentDid := by
  have hsigned : verifyAgentEventSignedEnvelope crates nowMs event = .ok (some context) := by
    simp only [verifiedContextForEvent, bind_eq_ok] at h
    obtain ⟨signedContext, hsigned, payloadContext, -, h⟩ := h
    cases signedContext with
    | none => cases payloadContext <;> cases h
    | some found =>
      cases payloadContext with
      | none =>
        obtain rfl := some.inj (Except.ok.inj h)
        exact hsigned
      | some payload =>
        obtain ⟨_, -, h⟩ := bind_eq_ok.mp h
        obtain rfl := some.inj (Except.ok.inj h)
        exact hsigned
  rw [verifyAgentEventSignedEnvelope] at hsigned
  cases henvelope : event.agentEnvelope with
  | none =>
    rw [henvelope] at hsigned
    cases hsigned
  | some envelope =>
    simp only [henvelope, bind_eq_ok, okOr_eq_ok] at hsigned
    obtain ⟨_, -, sourceAgentId, hsource, _, -, _, -, _, -, _, -, _, -, _, -, _, -, _, -,
      agentDid, hdid, _, -, hcontext⟩ := hsigned
    obtain rfl := some.inj (Except.ok.inj hcontext)
    exact ⟨envelope, sourceAgentId, rfl, hsource, hdid⟩

variable {event1 event2 : AgentEventEnvelope} {signer1 signer2 : VerifiedAgentContext}
  {signer : String}

/-- Two notices of the same kind about the same mission change the node alike if the
board takes them alike. -/
lemma sync_agree (hnotice : lifecycleNotice event1 = lifecycleNotice event2)
    (htarget : event1.targetAgentId = event2.targetAgentId)
    (hboard : ∀ kind missionId, lifecycleNotice event1 = some (kind, missionId) →
      addressed node.agentDid event1 →
      missionState (syncMissionLifecycleToBoard ambient node event1 missionId kind
          signer1.agentDid).2
        = missionState (syncMissionLifecycleToBoard ambient node event2 missionId kind
          signer2.agentDid).2) :
    missionState (syncMissionLifecycleEventToState ambient node event1 (some signer1)).2
      = missionState (syncMissionLifecycleEventToState ambient node event2 (some signer2)).2 := by
  cases hn : lifecycleNotice event1 with
  | none => rw [sync_no_notice hn, sync_no_notice (hnotice.symm.trans hn)]
  | some notice =>
    obtain ⟨kind, missionId⟩ := notice
    have hn' : lifecycleNotice event2 = some (kind, missionId) := hnotice.symm.trans hn
    obtain ⟨-, ⟨status, hstatus⟩, -⟩ := lifecycleNotice_eq_some hn
    by_cases h : addressed node.agentDid event1 ∧ ambient.loadError = none
    · have haddressed' : addressed node.agentDid event2 := by
        rw [addressed, ← htarget]
        exact h.1
      rw [sync_notice hn hstatus h.1 h.2, sync_notice hn' hstatus haddressed' h.2,
        syncMissionLifecycleByOwner, syncMissionLifecycleByOwner]
      split
      · exact hboard kind missionId hn h.1
      · rfl
      · rfl
      · rfl
    · have hrefused : ¬ addressed node.agentDid event1 ∨ ambient.loadError ≠ none :=
        not_and_or.mp h
      have hrefused' : ¬ addressed node.agentDid event2 ∨ ambient.loadError ≠ none := by
        rw [addressed, ← htarget]
        exact hrefused
      obtain ⟨text, hrefuses⟩ := sync_refused hn hrefused
      obtain ⟨text', hrefuses'⟩ := sync_refused hn' hrefused'
      rw [hrefuses, hrefuses']

/-- Two notices ask the same of every node: the same kind about the same mission and,
where the board may act on them, the same answer to whether they name another
claimer than the signer and the same result. -/
def sameNotice (signer : String) (event1 event2 : AgentEventEnvelope) : Prop :=
  lifecycleNotice event1 = lifecycleNotice event2
  ∧ ∀ kind missionId, lifecycleNotice event1 = some (kind, missionId) →
      kind ≠ "mission_settled" → event1.targetAgentId ≠ some signer →
        namesAnother signer event1 = namesAnother signer event2
        ∧ (kind = "mission_completed" → namesAnother signer event1 = false →
            missionLifecycleValueFromEvent event1 "result"
              = missionLifecycleValueFromEvent event2 "result")

lemma target_ne_signer (haddressed : addressed agentDid event)
    (hother : signer ≠ agentDid) : event.targetAgentId ≠ some signer := by
  intro h
  rw [addressed, h] at haddressed
  simp [hother] at haddressed

lemma sameNotice_agree (htarget : event1.targetAgentId = event2.targetAgentId)
    (hsigner : signer1.agentDid = signer2.agentDid)
    (h : sameNotice signer1.agentDid event1 event2) (ambient : Ambient) (node : Node) :
    missionState (syncMissionLifecycleEventToState ambient node event1 (some signer1)).2
      = missionState (syncMissionLifecycleEventToState ambient node event2 (some signer2)).2 := by
  refine sync_agree h.1 htarget fun kind missionId hnotice haddressed => ?_
  rw [toBoard_state, toBoard_state, ← hsigner]
  by_cases hown : signer1.agentDid = node.agentDid
  · rw [if_pos hown, if_pos hown]
  · rw [if_neg hown, if_neg hown]
    obtain ⟨-, ⟨status, hstatus⟩, -⟩ := lifecycleNotice_eq_some hnotice
    by_cases hsettled : kind = "mission_settled"
    · rw [hsettled, boardOutcome_settled, boardOutcome_settled]
    · obtain ⟨hnames, hresult⟩ :=
        h.2 kind missionId hnotice hsettled (target_ne_signer haddressed hown)
      cases hanother : namesAnother signer1.agentDid event1 with
      | true =>
        rw [boardOutcome_refused hanother, boardOutcome_refused (hnames ▸ hanother)]
      | false =>
        have hanother' : namesAnother signer1.agentDid event2 = false := hnames ▸ hanother
        rcases missionLifecycleStatus_cases hstatus with ⟨rfl, -⟩ | ⟨rfl, -⟩ | ⟨rfl, -⟩
        · rw [boardOutcome_claimApproved hanother, boardOutcome_claimApproved hanother']
        · rw [boardOutcome_completed hanother, boardOutcome_completed hanother',
            hresult rfl hanother]
        · exact absurd rfl hsettled

/-! ## Nodes that tell two notices apart -/

/-- A node that tracks one claim of a mission and nothing else. -/
def claimNode (agentDid missionId : String) : Node where
  agentDid
  paymentLedger := .empty
  missionBoard := .empty
  localDb := ⟨.empty, .empty, ⟨(∅ : Std.ExtTreeMap String NetworkMissionClaimRecord).insert "claim"
    ⟨missionId, "", "", "", 0, none, ⟨none, none⟩⟩⟩⟩

lemma claimNode_get (agentDid missionId key : String) :
    (claimNode agentDid missionId).localDb.networkMissionClaims.get key
      = if key = "claim" then some ⟨missionId, "", "", "", 0, none, ⟨none, none⟩⟩ else none :=
  WattKeyed.getElem?_insert _ _ _ _

lemma claimNode_status (haddressed : addressed agentDid event) (signer : VerifiedAgentContext)
    (missionId : String) :
    ((syncMissionLifecycleEventToState toyAmbient (claimNode agentDid missionId) event
        (some signer)).2.localDb.networkMissionClaims.get "claim").bind (·.status)
      = (lifecycleNotice event).bind fun notice =>
          if notice.2 = missionId then missionLifecycleStatus notice.1 else none := by
  cases hnotice : lifecycleNotice event with
  | none =>
    rw [sync_no_notice hnotice, claimNode_get]
    rfl
  | some notice =>
    obtain ⟨kind, noticeId⟩ := notice
    obtain ⟨-, ⟨status, hstatus⟩, -⟩ := lifecycleNotice_eq_some hnotice
    obtain ⟨htrim, hblank⟩ := lifecycleNotice_missionId hnotice
    rw [sync_notice hnotice hstatus haddressed rfl, syncMissionLifecycleByOwner]
    have hboard : ((claimNode agentDid missionId).missionBoard.get noticeId).isSome = false := rfl
    have hcontains : (claimNode agentDid missionId).localDb.networkMissionClaims.containsMission
        noticeId = decide (noticeId = missionId) := by
      rw [NetworkMissionClaimRegistry.containsMission, htrim, Bool.eq_iff_iff,
        NetworkMissionClaimRegistry.findMission_isSome, decide_eq_true_iff]
      constructor
      · rintro ⟨key, record, hget, hid⟩
        rw [claimNode_get] at hget
        split at hget
        · cases hget
          exact hid.symm
        · cases hget
      · rintro rfl
        exact ⟨"claim", _, by rw [claimNode_get, if_pos rfl], rfl⟩
    by_cases hid : noticeId = missionId
    · subst hid
      simp only [hboard, hcontains, decide_true, bind_some, if_true]
      have hsome : ((claimNode agentDid noticeId).localDb.networkMissionClaims.findMission
          (trim noticeId)).isSome = true := hcontains.trans (decide_eq_true rfl)
      obtain ⟨⟨key, record⟩, hfound⟩ := isSome_iff_exists.mp hsome
      have hget := (NetworkMissionClaimRegistry.findMission_eq_some hfound).1
      rw [claimNode_get] at hget
      split at hget
      · rename_i hkey
        obtain ⟨hstatusTrim, hstatusBlank⟩ := missionLifecycleStatus_trim hstatus
        rw [toClaims_get (by rw [htrim]; exact hblank) (by rw [hstatusTrim]; exact hstatusBlank)
          hfound rfl, if_pos hkey.symm, hstatusTrim, hstatus]
        rfl
      · cases hget
    · simp only [hboard, hcontains, decide_eq_false hid, bind_some, if_neg hid]
      rw [claimNode_get]
      rfl

/-- A node, not the signer's, with one open mission on its board. -/
def boardNode (agentDid missionId : String) : Node where
  agentDid
  paymentLedger := .empty
  missionBoard := empty.put missionId (publication toySpec missionId 0)
  localDb := ⟨.empty, .empty, .empty⟩

lemma boardNode_view {signer : VerifiedAgentContext} {kind missionId : String}
    (hnotice : lifecycleNotice event = some (kind, missionId)) (hkind : kind ≠ "mission_settled")
    (haddressed : addressed agentDid event) (hother : signer.agentDid ≠ agentDid) :
    ((syncMissionLifecycleEventToState toyAmbient (boardNode agentDid missionId) event
        (some signer)).2.missionBoard.get missionId).map (fun m => (m.status, m.completionResult))
      = some (if namesAnother signer.agentDid event = true then (.open, none)
          else if kind = "mission_completed"
            then (.completed, missionLifecycleValueFromEvent event "result")
          else (.claimed, none)) := by
  obtain ⟨-, ⟨status, hstatus⟩, -⟩ := lifecycleNotice_eq_some hnotice
  have hget : (boardNode agentDid missionId).missionBoard.get missionId
      = some (publication toySpec missionId 0) := by
    rw [boardNode, get_put, if_pos rfl]
  have hclaims : (boardNode agentDid missionId).localDb.networkMissionClaims.containsMission missionId
      = false := rfl
  rw [sync_notice hnotice hstatus haddressed rfl, syncMissionLifecycleByOwner]
  simp only [hget, hclaims, isSome_some]
  have hstate : (syncMissionLifecycleToBoard toyAmbient (boardNode agentDid missionId) event
      missionId kind signer.agentDid).2.missionBoard
      = (boardOutcome (boardNode agentDid missionId).missionBoard toyAmbient missionId kind
          signer.agentDid (claimedAs event) (missionLifecycleValueFromEvent event "result")).2 :=
    (congrArg Prod.fst (toBoard_state toyAmbient (boardNode agentDid missionId) event missionId kind
      signer.agentDid)).trans (if_neg hother)
  rw [hstate]
  cases hanother : namesAnother signer.agentDid event with
  | true =>
    rw [boardOutcome_refused hanother, hget]
    rfl
  | false =>
    rcases missionLifecycleStatus_cases hstatus with ⟨rfl, -⟩ | ⟨rfl, -⟩ | ⟨rfl, -⟩
    · rw [boardOutcome_claimApproved hanother, applyRemoteClaimApproved,
        withRemoteMission_snd, get_withMission, if_pos rfl, hget]
      rfl
    · rw [boardOutcome_completed hanother, applyRemoteCompleted,
        withRemoteMission_snd, get_withMission, if_pos rfl, hget]
      simp [applyRemoteCompletedRecord, cancelIfExpired, CivilMission.isExpired, publication,
        attempt, ensureSameClaimer]
    · exact absurd rfl hkind

lemma view_injective {kind : String} {another another' : Bool} {result result' : Option JsonValue}
    (h : (if another = true then (MissionStatus.open, none)
        else if kind = "mission_completed" then (.completed, result) else (.claimed, none))
      = if another' = true then (MissionStatus.open, none)
        else if kind = "mission_completed" then (.completed, result') else (.claimed, none)) :
    another = another' ∧ (kind = "mission_completed" → another = false → result = result') := by
  by_cases hkind : kind = "mission_completed" <;> cases another <;> cases another' <;>
    simp_all

lemma addressed_getD (event : AgentEventEnvelope) :
    addressed (event.targetAgentId.getD "") event := by
  rw [addressed]
  cases event.targetAgentId with
  | none => rfl
  | some target => simp

lemma exists_addressed (h : event.targetAgentId ≠ some signer) :
    ∃ agentDid, addressed agentDid event ∧ signer ≠ agentDid := by
  cases htarget : event.targetAgentId with
  | none =>
    refine ⟨signer ++ "-", by rw [addressed, htarget]; rfl, fun hsame => ?_⟩
    have hlength := congrArg String.length hsame
    rw [String.length_append] at hlength
    exact absurd hlength (by simp)
  | some target =>
    refine ⟨_, addressed_getD event, fun hsame => h ?_⟩
    rw [htarget, getD_some] at hsame
    rw [htarget, hsame]

lemma lifecycleNotice_ext (h : ∀ missionId, ((lifecycleNotice event1).bind fun notice =>
        if notice.2 = missionId then missionLifecycleStatus notice.1 else none)
      = (lifecycleNotice event2).bind fun notice =>
        if notice.2 = missionId then missionLifecycleStatus notice.1 else none) :
    lifecycleNotice event1 = lifecycleNotice event2 := by
  have hsub : ∀ {e e' : AgentEventEnvelope}, (∀ missionId, ((lifecycleNotice e).bind fun notice =>
        if notice.2 = missionId then missionLifecycleStatus notice.1 else none)
      = (lifecycleNotice e').bind fun notice =>
        if notice.2 = missionId then missionLifecycleStatus notice.1 else none) →
      ∀ notice, lifecycleNotice e = some notice → lifecycleNotice e' = some notice := by
    rintro e e' hsame ⟨kind, missionId⟩ hnotice
    obtain ⟨-, ⟨status, hstatus⟩, -⟩ := lifecycleNotice_eq_some hnotice
    have hid := hsame missionId
    rw [hnotice, bind_some, if_pos rfl, hstatus, eq_comm, bind_eq_some_iff] at hid
    obtain ⟨⟨kind', missionId'⟩, hnotice', hstatus'⟩ := hid
    simp only at hstatus'
    split at hstatus'
    · rename_i hid
      rw [hnotice', hid]
      have hkinds := missionLifecycleStatus_cases hstatus
      have hkinds' := missionLifecycleStatus_cases hstatus'
      congr 2
      rcases hkinds with ⟨rfl, rfl⟩ | ⟨rfl, rfl⟩ | ⟨rfl, rfl⟩ <;>
        rcases hkinds' with ⟨rfl, h'⟩ | ⟨rfl, h'⟩ | ⟨rfl, h'⟩ <;>
          first | rfl | exact absurd h' (by decide)
    · cases hstatus'
  cases hnotice : lifecycleNotice event1 with
  | some notice => exact (hsub h notice hnotice).symm
  | none =>
    cases hnotice' : lifecycleNotice event2 with
    | none => rfl
    | some notice =>
      cases hnotice.symm.trans (hsub (fun missionId => (h missionId).symm) notice hnotice')

lemma verified_same_signer {nowMs1 nowMs2 : Int}
    (henvelope : event1.agentEnvelope = event2.agentEnvelope)
    (h1 : verifiedContextForEvent crates nowMs1 event1 = .ok (some signer1))
    (h2 : verifiedContextForEvent crates nowMs2 event2 = .ok (some signer2)) :
    signer1.agentDid = signer2.agentDid := by
  obtain ⟨envelope1, source1, he1, hs1, hdid1⟩ := verified_signer h1
  obtain ⟨envelope2, source2, he2, hs2, hdid2⟩ := verified_signer h2
  obtain rfl := mem_unique he1 (henvelope.trans he2)
  obtain rfl := mem_unique hs1 hs2
  exact Except.ok.inj (hdid1.symm.trans hdid2)

/-- **MISSION NOTICES AND THE SIGNATURE**: two verified events with the same signed
envelope and the same target change board and claims of every node alike exactly
if they resolve to the same notice.  The lookups that resolve it try the payload
before the signed message. -/
theorem notices_agree_iff (crates : Crates) (nowMs1 nowMs2 : Int)
    (event1 event2 : AgentEventEnvelope) (signer1 signer2 : VerifiedAgentContext)
    (henvelope : event1.agentEnvelope = event2.agentEnvelope)
    (htarget : event1.targetAgentId = event2.targetAgentId)
    (hverified1 : verifiedContextForEvent crates nowMs1 event1 = .ok (some signer1))
    (hverified2 : verifiedContextForEvent crates nowMs2 event2 = .ok (some signer2)) :
    (∀ (ambient : Ambient) (node : Node),
        missionState (syncMissionLifecycleEventToState ambient node event1 (some signer1)).2
          = missionState (syncMissionLifecycleEventToState ambient node event2 (some signer2)).2)
      ↔ sameNotice signer1.agentDid event1 event2 := by
  have hsigner := verified_same_signer henvelope hverified1 hverified2
  constructor
  · intro h
    have hnotice : lifecycleNotice event1 = lifecycleNotice event2 := by
      refine lifecycleNotice_ext fun missionId => ?_
      rw [← claimNode_status (addressed_getD event1) signer1 missionId,
        ← claimNode_status (addressed_getD event2) signer2 missionId, ← htarget]
      have hclaims := congrArg Prod.snd
        (h toyAmbient (claimNode (event1.targetAgentId.getD "") missionId))
      exact congrArg (fun registry => (registry.get "claim").bind (·.status)) hclaims
    refine ⟨hnotice, fun kind missionId hn hkind hother => ?_⟩
    obtain ⟨agentDid, haddressed, hne⟩ := exists_addressed hother
    have haddressed' : addressed agentDid event2 := by
      rw [addressed, ← htarget]
      exact haddressed
    have hboard := congrArg (fun state => (state.1.get missionId).map
      fun m => (m.status, m.completionResult)) (h toyAmbient (boardNode agentDid missionId))
    have hview := (boardNode_view hn hkind haddressed hne).symm.trans
      (hboard.trans (boardNode_view (hnotice.symm.trans hn) hkind haddressed' (hsigner ▸ hne)))
    rw [← hsigner] at hview
    exact view_injective (some.inj hview)
  · intro h ambient node
    exact sameNotice_agree htarget hsigner h ambient node

def toyBoardNode : Node :=
  { toyNode with
    missionBoard := (empty.put "m-1" (publication toySpec "m-1" 1)).put "m-2"
      (publication toySpec "m-2" 1) }

def toyNotice (payload : JsonValue) : AgentEventEnvelope :=
  toyEvent "topic_message_requires_reply"
    (.object [("kind", .string "mission_claim_approved"), ("mission_id", .string "m-1")]) payload

/-- Payloads that say nothing about the mission leave the signed notice as it is. -/
theorem notices_agree_iff_signed :
    missionState (syncMissionLifecycleEventToState toyAmbient toyBoardNode (toyNotice .null)
        (some (envelopeContext "did:alice" "alice-node" 0))).2
      = missionState (syncMissionLifecycleEventToState toyAmbient toyBoardNode
          (toyNotice (.object [("feed_key", .string "wattetheria.missions")]))
          (some (envelopeContext "did:alice" "alice-node" 0))).2 := by
  refine (notices_agree_iff toyCrates 0 0 (toyNotice .null)
    (toyNotice (.object [("feed_key", .string "wattetheria.missions")])) _ _ rfl rfl
    (by decide +kernel) (by decide +kernel)).mpr ⟨by decide +kernel, ?_⟩ toyAmbient toyBoardNode
  intro kind missionId hnotice _ _
  have hkind : lifecycleNotice (toyNotice .null) = some ("mission_claim_approved", "m-1") := by
    decide +kernel
  obtain ⟨rfl, -⟩ := Prod.mk.inj (mem_unique hkind hnotice)
  exact ⟨by decide +kernel, fun h => absurd h (by decide)⟩

/-- One signed approval of the claim of `m-1`: with a payload that speaks of `m-2`, the
node completes `m-2` instead. -/
theorem unsigned_notice_applied :
    let payload := JsonValue.object [("content", .object [("kind", .string "mission_completed"),
      ("mission_id", .string "m-2"), ("result", .string "done")])]
    let signer := envelopeContext "did:alice" "alice-node" 0
    (toyNotice .null).agentEnvelope = (toyNotice payload).agentEnvelope
    ∧ verifiedContextForEvent toyCrates 0 (toyNotice .null) = .ok (some signer)
    ∧ verifiedContextForEvent toyCrates 0 (toyNotice payload) = .ok (some signer)
    ∧ missionState (syncMissionLifecycleEventToState toyAmbient toyBoardNode (toyNotice .null)
          (some signer)).2
        ≠ missionState (syncMissionLifecycleEventToState toyAmbient toyBoardNode (toyNotice payload)
          (some signer)).2 := by
  refine ⟨rfl, by decide +kernel, by decide +kernel, fun h => ?_⟩
  have hstatus := congrArg (fun state => (state.1.get "m-2").map (·.status)) h
  revert hstatus
  decide +kernel

end WattSigned
