import Wattetheria.ServiceNetClient
import Wattetheria.WrappingInt

/-!
# Responses and replay

A response is taken while its timestamp is within five minutes of the clock, on either
side, and its nonce is remembered for five minutes from when it is recorded.  A response
dated ahead of the clock stays acceptable after its nonce is forgotten.  Where every
response is dated behind the clock, none is accepted twice, across invocations, task
operations and the events of subscriptions.
-/

namespace WattServiceNet

open WattText WattJson WattReplay WattInt64

variable {crates : ServiceNetCrates}

/-! ## What an accepted response has shown -/

/-- The timestamp of a signature is an `i64` within the skew. -/
def Timely (utc : Int64) (s : ServiceAgentSignature) : Prop :=
  ∃ issuedAtMs, i64TryFrom s.issuedAtMs = some issuedAtMs ∧ withinSkew utc issuedAtMs = true

variable {response : ServiceNetInvokeResponse} {s : ServiceAgentSignature}

lemma verifySignedResponse_timely {utc : Int64} {identity : JsonValue}
    {digest nonce : Option String}
    (h : verifySignedResponse crates utc identity response s digest nonce = .ok ()) :
    Timely utc s ∧ s.resultDigest = crates.digestOf (unsignedServiceAgentResult response.raw) := by
  simp only [verifySignedResponse, bind_eq_ok, okOr_eq_ok, bailIf_eq_ok,
    Bool.not_eq_eq_eq_not, Bool.not_false, decide_eq_false_iff_not, not_not, ne_eq] at h
  obtain ⟨_, -, publishedAgentId, -, _, -, publishedServiceDid, -, _, -, _, -, _, -, _, -,
    issuedAtMs, hissued, _, hskew, _, hresult, -⟩ := h
  exact ⟨⟨issuedAtMs, hissued, hskew⟩, hresult⟩

variable {clock : Clock} {cache : NonceCache} {v : Verification}

/-- A response that is accepted is timely, and its nonce was recorded as a fresh one. -/
lemma verifyAndRecord_accept (hs : v.response.serviceSignature = some s)
    (h : (verifyAndRecord crates clock cache v).1 = .ok ()) : Timely clock.utc s
      ∧ (sweepAndRecord (fun expiresAt => decide (clock.instant < expiresAt))
          (some serviceResponseNonceCacheMaxEntries) cache (nonceKey s)
          (clock.instant + serviceResponseNonceCacheTtl)).1 = .fresh
      ∧ (verifyAndRecord crates clock cache v).2
          = (sweepAndRecord (fun expiresAt => decide (clock.instant < expiresAt))
              (some serviceResponseNonceCacheMaxEntries) cache (nonceKey s)
              (clock.instant + serviceResponseNonceCacheTtl)).2 := by
  rw [verifyAndRecord, verifyServiceAgentInvokeResponse, hs] at h ⊢
  dsimp only at h ⊢
  split at h
  · cases h
  · rename_i hverified
    have htimely := (verifySignedResponse_timely hverified).1
    dsimp only [recordServiceResponseNonce] at h ⊢
    rw [hs] at h ⊢
    dsimp only at h ⊢
    refine ⟨htimely, ?_, rfl⟩
    generalize (sweepAndRecord _ _ cache (nonceKey s) _).1 = answer at h
    cases answer with
    | fresh => rfl
    | used => cases h
    | full => cases h

lemma verifyAndRecord_keeps {key : String} {expiresAt : Nat}
    (hget : cache[key]? = some expiresAt) (halive : clock.instant < expiresAt) :
    (verifyAndRecord crates clock cache v).2[key]? = some expiresAt := by
  rw [verifyAndRecord]
  split
  · exact hget
  · rw [recordServiceResponseNonce]
    split
    · exact hget
    · exact sweepAndRecord_keeps hget (decide_eq_true halive)

/-! ## The client as a guard -/

/-- The verification of responses, guarded by the cache of nonces. -/
def responseGuard (crates : ServiceNetCrates) :
    ReplayGuard NonceCache Clock Verification ServiceAgentSignature String Nat where
  check cache clock v :=
    ((verifyAndRecord crates clock cache v).1.isOk, (verifyAndRecord crates clock cache v).2)
  get cache key := cache[key]?
  name v := v.response.serviceSignature
  key := nonceKey
  opens clock s := Timely clock.utc s
  alive clock expiresAt := clock.instant < expiresAt
  stamp clock _ := clock.instant + serviceResponseNonceCacheTtl
  accept_opens hs haccept := (verifyAndRecord_accept hs (isOk_iff.mp haccept)).1
  accept_fresh hs haccept hget halive :=
    (sweepAndRecord_fresh (verifyAndRecord_accept hs (isOk_iff.mp haccept)).2.1).1 _ hget
      (decide_eq_true halive)
  accept_records hs haccept := by
    obtain ⟨-, hfresh, hcache⟩ := verifyAndRecord_accept hs (isOk_iff.mp haccept)
    rw [hcache]
    exact (sweepAndRecord_fresh hfresh).2
  keeps hget halive := verifyAndRecord_keeps hget halive

/-! ## Calls of the client -/

/-- A call of the client, with what its endpoints answer and the clock readings while it
verifies the answer. -/
inductive ClientCall where
  | invoke (clock : Clock) (agentId : String) (request : ServiceNetInvokeRequest)
      (identity : JsonValue) (endpoints : Endpoints)
  | getAgentTask (clock : Clock) (identity : JsonValue) (taskId : String)
      (historyLength : Option UInt32) (relay : Except String ServiceNetInvokeResponse)
  | task (clock : Clock) (method agentId : String) (identity : JsonValue)
      (envelope : Option JsonValue) (endpoints : Endpoints)
  | subscribe (clockAt : Nat → Clock) (agentId : String) (identity : JsonValue)
      (envelope : Option JsonValue) (streams : Streams)
  | invokeAsync (identity : JsonValue) (relay : Except String ServiceNetInvokeResponse)

/-- The cache a call leaves. -/
def ClientCall.cacheAfter (crates : ServiceNetCrates) (cache : NonceCache) : ClientCall → NonceCache
  | .invoke clock agentId request identity endpoints =>
    (invokeAgentWithIdentity crates clock cache agentId request identity endpoints).2
  | .getAgentTask clock identity taskId historyLength relay =>
    (WattServiceNet.getAgentTask crates clock cache identity taskId historyLength relay).2
  | .task clock method agentId identity envelope endpoints =>
    (taskOperation crates clock cache method agentId identity envelope endpoints).2
  | .subscribe clockAt agentId identity envelope streams =>
    (subscribeAgentTask crates clockAt cache agentId identity envelope streams).2
  | .invokeAsync _ _ => cache

/-- What a response to a task operation is verified against. -/
def taskVerification (identity envelope : JsonValue) (response : ServiceNetInvokeResponse) :
    Verification where
  identity
  response
  expectedDigest := envelopeDigest envelope
  expectedNonce := envelopeNonce envelope

/-- The verifications of the events of a subscription, up to the first event without a
signature. -/
def eventChecks (crates : ServiceNetCrates) (identity envelope : JsonValue) (agentId : String)
    (taskId : Option String) : List (Clock × JsonValue) → List (Clock × Verification)
  | [] => []
  | (clock, event) :: events =>
    match serviceSignatureFromRaw crates event with
    | none => []
    | some signature =>
      (clock, taskVerification identity envelope (eventResponse agentId taskId signature event))
        :: eventChecks crates identity envelope agentId taskId events

/-- The verifications a call makes, one after the other as long as none refuses. -/
def ClientCall.checks (crates : ServiceNetCrates) : ClientCall → List (Clock × Verification)
  | .invoke clock agentId request identity endpoints =>
    match invokeResponse crates agentId request identity endpoints with
    | .error _ => []
    | .ok response => [(clock, invokeVerification request identity response)]
  | .getAgentTask clock identity taskId historyLength relay =>
    if usesWattetheriaDirect identity then []
    else
      match relay with
      | .error _ => []
      | .ok response => [(clock,
          { identity, response
            expectedDigest := some (serviceAgentTaskRequestDigest crates taskId historyLength)
            expectedNonce := none })]
  | .task clock method agentId identity envelope endpoints =>
    match taskResponse crates method agentId identity endpoints, envelope with
    | .ok response, some envelope => [(clock, taskVerification identity envelope response)]
    | _, _ => []
  | .subscribe clockAt agentId identity envelope streams =>
    match subscriptionEvents agentId identity streams, envelope with
    | .ok (agentId, taskId, events), some envelope =>
      eventChecks crates identity envelope agentId taskId
        (events.mapIdx fun i event => (clockAt i, event))
    | _, _ => []
  | .invokeAsync _ _ => []

/-- The verifications that are made, up to the first refusal, and the cache after them. -/
def performChecks (crates : ServiceNetCrates) : NonceCache → List (Clock × Verification) →
    List (Clock × Verification) × NonceCache
  | cache, [] => ([], cache)
  | cache, (clock, v) :: checks =>
    match verifyAndRecord crates clock cache v with
    | (.error _, cache) => ([(clock, v)], cache)
    | (.ok (), cache) =>
      let (made, cache) := performChecks crates cache checks
      ((clock, v) :: made, cache)

lemma performChecks_single (cache : NonceCache) (clock : Clock) (v : Verification) :
    (performChecks crates cache [(clock, v)]).2 = (verifyAndRecord crates clock cache v).2 := by
  rw [performChecks]
  rcases verifyAndRecord crates clock cache v with ⟨verdict, cache'⟩
  cases verdict with
  | error error => rfl
  | ok u => rfl

lemma verifyEvents_cache (identity envelope : JsonValue) (agentId : String)
    (taskId : Option String) : ∀ (events : List (Clock × JsonValue)) (cache : NonceCache),
    (verifyEvents crates identity (some envelope) agentId taskId cache events).2
      = (performChecks crates cache (eventChecks crates identity envelope agentId taskId events)).2
  | [], cache => rfl
  | (clock, event) :: events, cache => by
    rw [verifyEvents, eventChecks]
    cases hsignature : serviceSignatureFromRaw crates event with
    | none => rfl
    | some signature =>
      dsimp only [verifyA2aTaskResponse]
      rw [performChecks, taskVerification]
      rcases verifyAndRecord crates clock cache _ with ⟨verdict, cache'⟩
      cases verdict with
      | error error => rfl
      | ok u => exact verifyEvents_cache identity envelope agentId taskId events cache'

lemma verifyEvents_unasked (identity : JsonValue) (agentId : String) (taskId : Option String)
    (events : List (Clock × JsonValue)) (cache : NonceCache) :
    (verifyEvents crates identity none agentId taskId cache events).2 = cache := by
  cases events with
  | nil => rfl
  | cons event events =>
    rw [verifyEvents]
    split
    · rfl
    · rfl

lemma cacheAfter_eq (cache : NonceCache) (call : ClientCall) :
    call.cacheAfter crates cache = (performChecks crates cache (call.checks crates)).2 := by
  cases call with
  | invoke clock agentId request identity endpoints =>
    simp only [ClientCall.cacheAfter, ClientCall.checks, invokeAgentWithIdentity]
    cases invokeResponse crates agentId request identity endpoints with
    | error error => rfl
    | ok response => exact (performChecks_single _ _ _).symm
  | getAgentTask clock identity taskId historyLength relay =>
    simp only [ClientCall.cacheAfter, ClientCall.checks, getAgentTask]
    split
    · rfl
    · cases relay with
      | error error => rfl
      | ok response => exact (performChecks_single _ _ _).symm
  | task clock method agentId identity envelope endpoints =>
    simp only [ClientCall.cacheAfter, ClientCall.checks, taskOperation]
    cases taskResponse crates method agentId identity endpoints with
    | error error => rfl
    | ok response =>
      cases envelope with
      | none => rfl
      | some envelope => exact (performChecks_single _ _ _).symm
  | subscribe clockAt agentId identity envelope streams =>
    simp only [ClientCall.cacheAfter, ClientCall.checks, subscribeAgentTask]
    rcases subscriptionEvents agentId identity streams with error | ⟨agent, taskId, events⟩
    · rfl
    · cases envelope with
      | none => exact verifyEvents_unasked identity agent taskId _ cache
      | some envelope => exact verifyEvents_cache identity envelope agent taskId _ cache
  | invokeAsync identity relay => rfl

/-! ## Runs of the client -/

/-- The signatures accepted by these verifications, up to the first refusal. -/
def acceptedOf (crates : ServiceNetCrates) : NonceCache → List (Clock × Verification) →
    List ServiceAgentSignature
  | _, [] => []
  | cache, (clock, v) :: checks =>
    match verifyAndRecord crates clock cache v with
    | (.error _, _) => []
    | (.ok (), cache) => v.response.serviceSignature.toList ++ acceptedOf crates cache checks

/-- The signatures accepted over a run of calls, in order. -/
def accepted (crates : ServiceNetCrates) : NonceCache → List ClientCall → List ServiceAgentSignature
  | _, [] => []
  | cache, call :: calls =>
    acceptedOf crates cache (call.checks crates)
      ++ accepted crates (call.cacheAfter crates cache) calls

/-- The verifications made over a run of calls, in order. -/
def verifications (crates : ServiceNetCrates) : NonceCache → List ClientCall →
    List (Clock × Verification)
  | _, [] => []
  | cache, call :: calls =>
    (performChecks crates cache (call.checks crates)).1
      ++ verifications crates (call.cacheAfter crates cache) calls

/-- What a call returns: a verified response, verified events, or an answer nobody verifies. -/
inductive Returned where
  | response (response : ServiceNetInvokeResponse)
  | events (events : List JsonValue)
  | unverified (response : ServiceNetInvokeResponse)

/-- What a call returns unless it fails. -/
def ClientCall.returned (crates : ServiceNetCrates) (cache : NonceCache) :
    ClientCall → Except String Returned
  | .invoke clock agentId request identity endpoints =>
    (invokeAgentWithIdentity crates clock cache agentId request identity endpoints).1.map .response
  | .getAgentTask clock identity taskId historyLength relay =>
    (WattServiceNet.getAgentTask crates clock cache identity taskId historyLength relay).1.map
      .response
  | .task clock method agentId identity envelope endpoints =>
    (taskOperation crates clock cache method agentId identity envelope endpoints).1.map .response
  | .subscribe clockAt agentId identity envelope streams => do
    let (_, _, events) ← subscriptionEvents agentId identity streams
    (subscribeAgentTask crates clockAt cache agentId identity envelope streams).1
    .ok (.events events)
  | .invokeAsync identity relay => (invokeAgentAsync identity relay).map .unverified

variable {answer : Returned}

/-- What is returned over a run of calls, in order. -/
def returned (crates : ServiceNetCrates) : NonceCache → List ClientCall → List Returned
  | _, [] => []
  | cache, call :: calls =>
    (call.returned crates cache).toOption.toList
      ++ returned crates (call.cacheAfter crates cache) calls

lemma guard_performChecks : ∀ (checks : List (Clock × Verification)) (cache : NonceCache),
    (responseGuard crates).names cache (performChecks crates cache checks).1
        = acceptedOf crates cache checks
      ∧ (responseGuard crates).after cache (performChecks crates cache checks).1
        = (performChecks crates cache checks).2
  | [], _ => ⟨rfl, rfl⟩
  | (clock, v) :: checks, cache => by
    rw [performChecks, acceptedOf]
    cases hverified : verifyAndRecord crates clock cache v with
    | mk verdict cache' =>
      have hafter : ((responseGuard crates).check cache clock v).2 = cache' :=
        congrArg Prod.snd hverified
      have hcheck : ((responseGuard crates).check cache clock v).1 = verdict.isOk :=
        congrArg (fun r : Except String Unit × NonceCache => r.1.isOk) hverified
      cases verdict with
      | error error =>
        have hrefuse : ¬((responseGuard crates).check cache clock v).1 = true := by
          rw [hcheck]
          exact Bool.false_ne_true
        refine ⟨?_, hafter⟩
        rw [ReplayGuard.names_cons_refuse hrefuse]
        rfl
      | ok u =>
        obtain ⟨hnames, hend⟩ := guard_performChecks checks cache'
        refine ⟨?_, ?_⟩
        · rw [ReplayGuard.names_cons_accept (hcheck.trans rfl), hafter]
          exact congrArg _ hnames
        · rw [ReplayGuard.after, hafter]
          exact hend

lemma guard_verifications : ∀ (calls : List ClientCall) (cache : NonceCache),
    (responseGuard crates).names cache (verifications crates cache calls)
      = accepted crates cache calls
  | [], _ => rfl
  | call :: calls, cache => by
    obtain ⟨hnames, hend⟩ := @guard_performChecks crates (call.checks crates) cache
    rw [verifications, accepted, ReplayGuard.names_append, hnames, hend, ← cacheAfter_eq,
      guard_verifications calls]

/-! ## The clocks -/

variable (lag : Nat) (earlier later : Clock)

/-- The second reading follows the first: neither clock goes back, and the monotonic clock gains
at most `lag` milliseconds on the other. -/
def Follows : Prop :=
  earlier.utc.toInt ≤ later.utc.toInt ∧ earlier.instant ≤ later.instant
    ∧ (later.instant : Int) ≤ earlier.instant + (later.utc.toInt - earlier.utc.toInt + lag) * 10 ^ 6

/-- The readings come after 1970 and follow one another. -/
def Paced (checks : List (Clock × Verification)) : Prop :=
  (∀ check ∈ checks, 0 ≤ check.1.utc.toInt)
    ∧ checks.Pairwise fun earlier later => Follows lag earlier.1 later.1

/-- If the response is inside its window, it is dated behind the clock. -/
def DatedBehind (clock : Clock) (response : ServiceNetInvokeResponse) : Prop :=
  ∀ s ∈ response.serviceSignature, ∀ issuedAtMs ∈ i64TryFrom s.issuedAtMs,
    withinSkew clock.utc issuedAtMs = true → issuedAtMs.toInt + lag < clock.utc.toInt

instance (lag : Nat) (earlier later : Clock) : Decidable (Follows lag earlier later) :=
  inferInstanceAs (Decidable (_ ∧ _))

instance (lag : Nat) (checks : List (Clock × Verification)) : Decidable (Paced lag checks) :=
  inferInstanceAs (Decidable (_ ∧ _))

lemma nonneg_of_i64TryFrom {n : UInt64} {m : Int64} (h : i64TryFrom n = some m) : 0 ≤ m.toInt := by
  rw [i64TryFrom] at h
  split at h
  · rename_i hsmall
    cases h
    rw [toInt_toInt64 hsmall]
    omega
  · cases h

lemma withinSkew_iff {utc issuedAtMs : Int64} (hutc : 0 ≤ utc.toInt)
    (hissued : 0 ≤ issuedAtMs.toInt) :
    withinSkew utc issuedAtMs = true ↔ |utc.toInt - issuedAtMs.toInt| ≤ 300000 := by
  have hbound := fits_toInt utc
  have hbound' := fits_toInt issuedAtMs
  unfold Fits at hbound hbound'
  have hdiff : (utc - issuedAtMs).toInt = utc.toInt - issuedAtMs.toInt :=
    toInt_sub_eq_iff.mpr ⟨by omega, by omega⟩
  have habs : (utc - issuedAtMs).abs.toInt = |utc.toInt - issuedAtMs.toInt| := by
    rw [toInt_abs (by rw [hdiff]; omega), hdiff]
  have hskew : serviceResponseMaxClockSkewMs.toInt = 300000 := by decide
  rw [withinSkew, decide_eq_true_iff, le_iff, habs, hskew]

/-! ## At most once -/

/-- A reading after 1970 that follows another one. -/
def After : Prop :=
  Follows lag earlier later ∧ 0 ≤ later.utc.toInt

/-- The nonce of a response dated behind the clock is forgotten only after its window. -/
lemma covers_of_datedBehind {lag : Nat} (hs : response.serviceSignature = some s)
    (htimely : Timely clock.utc s) (hdated : DatedBehind lag clock response) :
    (responseGuard crates).Covers (After lag) clock s := by
  rintro c' c'' ⟨⟨-, -, hpace⟩, hpos'⟩ hlater ⟨issuedAtMs, hissued, hwindow⟩
  obtain ⟨issued, hsame, hopen⟩ := htimely
  cases hsame.symm.trans hissued
  have hbehind : issuedAtMs.toInt + lag < clock.utc.toInt :=
    hdated s hs issuedAtMs hissued hopen
  have hlast : c'.utc.toInt ≤ c''.utc.toInt ∧ 0 ≤ c''.utc.toInt := by
    rcases hlater with rfl | ⟨⟨hutc, -, -⟩, hpos⟩
    · exact ⟨le_rfl, hpos'⟩
    · exact ⟨hutc, hpos⟩
  have hskew := (abs_le.mp ((withinSkew_iff hlast.2 (nonneg_of_i64TryFrom hissued)).mp hwindow)).2
  show c'.instant < clock.instant + serviceResponseNonceCacheTtl
  have httl : serviceResponseNonceCacheTtl = 300000 * 10 ^ 6 := by decide
  omega

/-- **REPLAY PROTECTION**: where every response inside its window is dated behind the clock, no
signature is accepted twice, whatever calls come in between. -/
theorem response_accepted_once (cache : NonceCache) (calls : List ClientCall) (lag : Nat)
    (hpaced : Paced lag (verifications crates cache calls))
    (hdated : ∀ check ∈ verifications crates cache calls,
      DatedBehind lag check.1 check.2.response) : (accepted crates cache calls).Nodup := by
  obtain ⟨hpos, hsorted⟩ := hpaced
  have hafter : (verifications crates cache calls).Pairwise
      fun earlier later => After lag earlier.1 later.1 :=
    hsorted.imp_of_mem fun _ hlater h => ⟨h, hpos _ hlater⟩
  rw [← guard_verifications]
  refine ReplayGuard.accepted_nodup (G := responseGuard crates) hafter ?_
  intro check hcheck s hs htimely
  exact covers_of_datedBehind hs htimely (hdated check hcheck)

/-! ## A small instance -/

def toyCrates : ServiceNetCrates where
  signing := WattSigning.toySigning
  publicKeyMultibase did := String.ofList (did.toList.drop 8)
  canonicalNumbers := WattJsonText.decimalNumbers
  displayNumbers := WattJsonText.decimalNumbers
  sha256 bytes := bytes
  signatureFromStr _ := none

def toyAgent : JsonValue :=
  .object [("agent_id", .string "ride"), ("service_did", .string "did:key:zal")]

variable (issuedAtMs : UInt64)

def toyResponse : ServiceNetInvokeResponse where
  agentId := "ride"
  status := "completed"
  receiptId := none
  taskId := none
  contextId := none
  message := none
  output := none
  settlement := none
  paymentReceipt := none
  serviceSignature := some
    { protocol := serviceResponseSignatureProtocol
      serviceDid := "did:key:zal"
      agentId := "ride"
      verificationMethod := "did:key:zal#zal"
      requestDigest := ""
      requestNonce := none
      resultDigest := "sha256:7b7d"
      nonce := "n-1"
      issuedAtMs
      signature := "sig:al" }
  raw := .object [("result", .object [])]

/-- The relay answers with that response whenever it is asked, at these milliseconds. -/
def toyCalls (times : List Nat) : List ClientCall :=
  times.map fun ms => .invoke ⟨Int64.ofNat ms, ms * 10 ^ 6⟩ "ride" .default toyAgent
    ⟨.ok (toyResponse issuedAtMs), .error ""⟩

/-- Dated one millisecond behind, a response is remembered through its window. -/
theorem response_accepted_once_prompt :
    accepted toyCrates ∅ (toyCalls 999999 [1000000, 1299999, 1300000])
        = (toyResponse 999999).serviceSignature.toList
      ∧ (accepted toyCrates ∅ (toyCalls 999999 [1000000, 1299999, 1300000])).Nodup := by
  have hverifications : verifications toyCrates ∅ (toyCalls 999999 [1000000, 1299999, 1300000])
      = [1000000, 1299999, 1300000].map fun ms => (⟨Int64.ofNat ms, ms * 10 ^ 6⟩,
          invokeVerification .default toyAgent (toyResponse 999999)) := by decide +kernel
  refine ⟨by decide +kernel, response_accepted_once ∅ _ 0 ?_ ?_⟩
  · rw [hverifications]
    decide +kernel
  · have hbehind : ∀ ms ∈ [1000000, 1299999, 1300000],
        (999999 : Int64).toInt + (0 : Nat) < (Int64.ofNat ms).toInt := by decide +kernel
    have hissued : i64TryFrom 999999 = some 999999 := by decide +kernel
    rw [hverifications]
    rintro check hcheck s hs issuedAtMs h -
    obtain ⟨ms, hms, rfl⟩ := List.mem_map.mp hcheck
    cases hs
    cases hissued.symm.trans h
    exact hbehind ms hms

/-- Dated 200 seconds ahead, a response is accepted, forgotten after 300 seconds, and accepted
again. -/
theorem early_response_accepted_twice :
    Paced 0 (verifications toyCrates ∅ (toyCalls 1200000 [1000000, 1300000]))
      ∧ accepted toyCrates ∅ (toyCalls 1200000 [1000000, 1300000])
          = (toyResponse 1200000).serviceSignature.toList
              ++ (toyResponse 1200000).serviceSignature.toList
      ∧ ¬(accepted toyCrates ∅ (toyCalls 1200000 [1000000, 1300000])).Nodup := by
  decide +kernel

end WattServiceNet
