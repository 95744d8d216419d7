import Wattetheria.ServiceBridge
import Wattetheria.WrappingInt

/-!
# Invocations and replay

An envelope is taken from five minutes before it is issued until five minutes after it
expires, and the cache forgets it no sooner.  So no envelope is let in twice, and one that
is new is turned away only by a full cache.
-/

namespace WattBridge

open WattText WattJson WattReplay WattInt64 WattEvents
open WattServiceNet (i64TryFrom)
open Option

variable {Part : Type} {crates : BridgeCrates Part} {dataDir : String}

/-! ## What an envelope says of itself -/

variable (envelope : CallerEnvelope)

/-- The nonce of an envelope. -/
def nonceOf : String :=
  ((((extensionsObject envelope).bind fun extensions => extensions.get "nonce").bind
    JsonValue.asStr).bind nonEmptyText).getD ""

/-- When an envelope expires. -/
def expiresAtMsOf : UInt64 :=
  (((extensionsObject envelope).bind fun extensions => extensions.get "expires_at_ms").bind
    JsonValue.asU64).getD 0

/-- The key an envelope is remembered under. -/
def replayKey (dataDir : String) (envelope : CallerEnvelope) : String :=
  cacheKey dataDir (envelope.targetAgentId.getD "") (envelope.sourceAgentId.getD "")
    (nonceOf envelope)

variable {nowMs : Int64} {envelope : CallerEnvelope} {checked : EnvelopeCheck}

/-- What `checkEnvelope` returns is what the envelope says, and it has not expired. -/
lemma checkEnvelope_ok (h : checkEnvelope crates nowMs envelope = .ok checked) :
    checked.security.requestNonce = nonceOf envelope
      ∧ checked.sourceAgentId = envelope.sourceAgentId.getD ""
      ∧ checked.expiresAtMs = expiresAtMsOf envelope
      ∧ ∃ expiresAt, i64TryFrom (expiresAtMsOf envelope) = some expiresAt
          ∧ nowMs ≤ expiresAt + invocationMaxClockSkewMs := by
  simp only [checkEnvelope, requiredString, requiredTime, bind_eq_ok, okOr_eq_ok,
    bailIf_eq_ok, decide_eq_false_iff_not] at h
  obtain ⟨extensions, hextensions, nonce, hnonce, digest, -, issuedAtMs, -, expiresAtMs, hexpires,
    _, -, issuedAt, -, expiresAt, hfits, _, -, _, -, _, -, _, hlive, source, hsource, hok⟩ := h
  cases hok
  have hexpiresOf : expiresAtMsOf envelope = expiresAtMs := by
    rw [expiresAtMsOf, hextensions]
    exact congrArg (·.getD 0) hexpires
  refine ⟨?_, ?_, hexpiresOf.symm, expiresAt, hexpiresOf ▸ hfits, Int64.not_lt.mp hlive⟩
  · rw [nonceOf, hextensions]
    exact (congrArg (·.getD "") hnonce).symm
  · rw [hsource]
    rfl

/-! ## The bridge as a guard -/

/-- The envelope of a call that is well formed. -/
def envelopeOf (crates : BridgeCrates Part) (call : A2aCall) : Option CallerEnvelope :=
  (prepare crates call).toOption.map (·.envelope)

variable {call : A2aCall}

lemma envelopeOf_some (h : envelopeOf crates call = some envelope) :
    ∃ prepared, prepare crates call = .ok prepared ∧ prepared.envelope = envelope := by
  rw [envelopeOf] at h
  cases hprepare : prepare crates call with
  | error error =>
    rw [hprepare] at h
    cases h
  | ok prepared =>
    rw [hprepare] at h
    exact ⟨prepared, rfl, some.inj h⟩

/-- The question of the cache about an envelope. -/
def ask (dataDir : String) (nowMs : Int64) (cache : ReplayCache) (envelope : CallerEnvelope) :
    Recall × ReplayCache :=
  sweepAndRecord (fun forgotten => decide (nowMs.toInt.toNat ≤ forgotten))
    (some invocationReplayCacheMaxEntries) cache (replayKey dataDir envelope)
    (forgottenAt (expiresAtMsOf envelope))

variable {cache : ReplayCache} {key : String} {forgotten : Nat} {security : InvocationSecurity}
  {n expiresAtMs : UInt64}

/-- `validate_signed_envelope_security` checks the envelope, then asks the cache. -/
lemma validate_eq {agentId : String} (htarget : envelope.targetAgentId = some agentId)
    (h : checkEnvelope crates nowMs envelope = .ok checked) :
    validateSignedEnvelopeSecurity crates dataDir nowMs cache envelope agentId
      = (recallError checked.security (ask dataDir nowMs cache envelope).1,
          (ask dataDir nowMs cache envelope).2) := by
  obtain ⟨hnonce, hsource, hexpires, -⟩ := checkEnvelope_ok h
  rw [validateSignedEnvelopeSecurity, h, ask, replayKey, htarget, ← hnonce, ← hsource, ← hexpires]
  rfl

lemma recallError_ok {security' : InvocationSecurity} {answer : Recall}
    (h : recallError security answer = .ok security') : answer = .fresh := by
  cases answer with
  | fresh => rfl
  | used => cases h
  | full => cases h

/-- A call that is let in has a valid envelope, which the cache did not know. -/
lemma admit_ok (hname : envelopeOf crates call = some envelope)
    (h : (checkCall crates dataDir nowMs cache call).1.isOk = true) :
    (∃ checked, checkEnvelope crates nowMs envelope = .ok checked)
      ∧ (ask dataDir nowMs cache envelope).1 = .fresh
      ∧ (checkCall crates dataDir nowMs cache call).2 = (ask dataDir nowMs cache envelope).2 := by
  obtain ⟨prepared, hprepare, rfl⟩ := envelopeOf_some hname
  rw [checkCall, hprepare] at h ⊢
  dsimp only at h ⊢
  cases hchecked : checkEnvelope crates nowMs prepared.envelope with
  | error error =>
    rw [validateSignedEnvelopeSecurity, hchecked] at h
    cases h
  | ok checked =>
    rw [validate_eq prepared.targets hchecked] at h ⊢
    refine ⟨⟨checked, rfl⟩, ?_, rfl⟩
    dsimp only at h
    cases hanswer : recallError checked.security (ask dataDir nowMs cache prepared.envelope).1 with
    | error error =>
      rw [hanswer] at h
      cases h
    | ok security => exact recallError_ok hanswer

lemma of_getElem?_admit (h : (checkCall crates dataDir nowMs cache call).2[key]? = some forgotten) :
    cache[key]? = some forgotten ∨ (checkCall crates dataDir nowMs cache call).1.isOk = true
        ∧ ∃ envelope, envelopeOf crates call = some envelope
          ∧ replayKey dataDir envelope = key := by
  rw [checkCall] at h ⊢
  split at h
  · exact .inl h
  · rename_i prepared hprepare
    dsimp only at h ⊢
    cases hchecked : checkEnvelope crates nowMs prepared.envelope with
    | error error =>
      rw [validateSignedEnvelopeSecurity, hchecked] at h
      exact .inl h
    | ok checked =>
      rw [validate_eq prepared.targets hchecked] at h ⊢
      rcases of_getElem?_sweepAndRecord h with hbefore | ⟨hkey, hfresh⟩
      · exact .inl hbefore
      · refine .inr ⟨?_, prepared.envelope, ?_, hkey.symm⟩
        · have hask : (ask dataDir nowMs cache prepared.envelope).1 = .fresh := hfresh
          rw [hask]
          rfl
        · rw [envelopeOf, hprepare]
          rfl

lemma admit_keeps (hget : cache[key]? = some forgotten) (halive : nowMs.toInt.toNat ≤ forgotten) :
    (checkCall crates dataDir nowMs cache call).2[key]? = some forgotten := by
  rw [checkCall]
  split
  · exact hget
  · dsimp only
    rw [validateSignedEnvelopeSecurity]
    split
    · exact hget
    · exact sweepAndRecord_keeps hget (decide_eq_true halive)

/-- The bridge's cache as a replay guard. -/
def invocationGuard (crates : BridgeCrates Part) (dataDir : String) :
    ReplayGuard ReplayCache Int64 A2aCall CallerEnvelope String Nat where
  check cache nowMs call :=
    ((checkCall crates dataDir nowMs cache call).1.isOk,
      (checkCall crates dataDir nowMs cache call).2)
  get cache key := cache[key]?
  name := envelopeOf crates
  key := replayKey dataDir
  opens nowMs envelope := ∃ checked, checkEnvelope crates nowMs envelope = .ok checked
  alive nowMs forgotten := nowMs.toInt.toNat ≤ forgotten
  stamp _ envelope := forgottenAt (expiresAtMsOf envelope)
  accept_opens hname haccept := (admit_ok hname haccept).1
  accept_fresh hname haccept hget halive :=
    (sweepAndRecord_fresh (admit_ok hname haccept).2.1).1 _ hget (decide_eq_true halive)
  accept_records hname haccept := by
    obtain ⟨-, hfresh, hcache⟩ := admit_ok hname haccept
    rw [hcache]
    exact (sweepAndRecord_fresh hfresh).2
  keeps hget halive := admit_keeps hget halive

/-! ## Runs of the bridge -/

/-- The cache after some calls. -/
def cacheAfter (crates : BridgeCrates Part) (dataDir : String) :
    ReplayCache → List (Int64 × A2aCall) → ReplayCache
  | cache, [] => cache
  | cache, (nowMs, call) :: calls =>
    cacheAfter crates dataDir (checkCall crates dataDir nowMs cache call).2 calls

/-- The envelopes that pass `validate_signed_envelope_security` in these calls, in order. -/
def admitted (crates : BridgeCrates Part) (dataDir : String) :
    ReplayCache → List (Int64 × A2aCall) → List CallerEnvelope
  | _, [] => []
  | cache, (nowMs, call) :: calls =>
    match checkCall crates dataDir nowMs cache call with
    | (.error _, cache) => admitted crates dataDir cache calls
    | (.ok (prepared, _), cache) => prepared.envelope :: admitted crates dataDir cache calls

lemma envelopeOf_of_checkCall {cache' : ReplayCache} {prepared : Prepared}
    (h : checkCall crates dataDir nowMs cache call = (.ok (prepared, security), cache')) :
    envelopeOf crates call = some prepared.envelope := by
  rw [checkCall] at h
  rw [envelopeOf]
  split at h
  · cases h
  · rename_i prepared' hprepare
    rw [hprepare]
    dsimp only at h
    generalize validateSignedEnvelopeSecurity crates dataDir nowMs cache _ _ = answer at h
    obtain ⟨verdict, after⟩ := answer
    cases verdict with
    | error error => cases h
    | ok security' =>
      cases h
      rfl

lemma names_eq_admitted : ∀ (calls : List (Int64 × A2aCall)) (cache : ReplayCache),
    (invocationGuard crates dataDir).names cache calls = admitted crates dataDir cache calls
  | [], _ => rfl
  | (nowMs, call) :: calls, cache => by
    rw [admitted]
    cases hchecked : checkCall crates dataDir nowMs cache call with
    | mk verdict cache' =>
      have hafter : ((invocationGuard crates dataDir).check cache nowMs call).2 = cache' :=
        congrArg Prod.snd hchecked
      have hcheck : ((invocationGuard crates dataDir).check cache nowMs call).1
          = verdict.isOk :=
        congrArg (fun r : Except String (Prepared × InvocationSecurity) × ReplayCache =>
          r.1.isOk) hchecked
      cases verdict with
      | error error =>
        have hrefuse : ¬((invocationGuard crates dataDir).check cache nowMs call).1 = true := by
          rw [hcheck]
          exact Bool.false_ne_true
        rw [ReplayGuard.names_cons_refuse hrefuse, hafter]
        exact names_eq_admitted calls cache'
      | ok admission =>
        obtain ⟨prepared, security⟩ := admission
        have hname : (invocationGuard crates dataDir).name call = some prepared.envelope :=
          envelopeOf_of_checkCall hchecked
        rw [ReplayGuard.names_cons_accept (hcheck.trans rfl), hafter, hname]
        exact congrArg (prepared.envelope :: ·) (names_eq_admitted calls cache')

/-- After a run the cache knows only the keys it knew before and those of what was let in. -/
lemma of_getElem?_cacheAfter : ∀ {calls : List (Int64 × A2aCall)} {cache : ReplayCache},
      (cacheAfter crates dataDir cache calls)[key]? = some forgotten → cache[key]? = some forgotten
        ∨ key ∈ (admitted crates dataDir cache calls).map (replayKey dataDir)
  | [], _, h => .inl h
  | (nowMs, call) :: calls, cache, h => by
    rw [cacheAfter] at h
    rw [admitted]
    rcases of_getElem?_cacheAfter h with hcache | hlater
    · rcases of_getElem?_admit hcache with hbefore | ⟨hok, envelope, hname, hkey⟩
      · exact .inl hbefore
      · cases hchecked : checkCall crates dataDir nowMs cache call with
        | mk verdict cache' =>
          rw [hchecked] at hok
          cases verdict with
          | error error => cases hok
          | ok admission =>
            obtain ⟨prepared, security⟩ := admission
            cases (envelopeOf_of_checkCall hchecked).symm.trans hname
            exact .inr (List.mem_map.mpr ⟨_, List.mem_cons_self, hkey⟩)
    · cases hchecked : checkCall crates dataDir nowMs cache call with
      | mk verdict cache' =>
        rw [hchecked] at hlater
        cases verdict with
        | error error => exact .inr hlater
        | ok admission => exact .inr (List.mem_cons_of_mem _ hlater)

/-! ## The window -/

lemma toInt_of_i64TryFrom {m : Int64} (h : i64TryFrom n = some m) :
    m.toInt = n.toNat ∧ n.toNat < 2 ^ 63 := by
  rw [i64TryFrom] at h
  split at h
  · rename_i hsmall
    cases h
    exact ⟨toInt_toInt64 hsmall, hsmall⟩
  · cases h

/-- The entry of an envelope is kept at every time up to the last one inside its window. -/
lemma kept_while_open {laterMs : Int64} {expiresAt : Int64}
    (hexpires : i64TryFrom expiresAtMs = some expiresAt)
    (hopen : laterMs ≤ expiresAt + invocationMaxClockSkewMs)
    (hbefore : nowMs.toInt ≤ laterMs.toInt) : nowMs.toInt.toNat ≤ forgottenAt expiresAtMs := by
  obtain ⟨htoInt, hsmall⟩ := toInt_of_i64TryFrom hexpires
  have hskew : invocationMaxClockSkewMs.toInt = 300000 := by decide
  have hbound := fits_toInt (expiresAt + invocationMaxClockSkewMs)
  have hnow := fits_toInt nowMs
  unfold Fits at hbound hnow
  rw [le_iff] at hopen
  rw [forgottenAt, Nat.le_min]
  -- either the end of the window is exact, or it has wrapped below every time after 1970
  by_cases hfits : Fits (expiresAt.toInt + invocationMaxClockSkewMs.toInt)
  · have hexact := toInt_add_eq_iff.mpr hfits
    rw [hexact, htoInt, hskew] at hopen
    omega
  · unfold Fits at hfits
    have hwrapped : (expiresAt + invocationMaxClockSkewMs).toInt
        = expiresAt.toInt + invocationMaxClockSkewMs.toInt - 2 ^ 64 :=
      toInt_add_of_overflow (by omega)
    omega

lemma covers_envelope (nowMs : Int64) (envelope : CallerEnvelope) :
    (invocationGuard crates dataDir).Covers (fun earlier later => earlier.toInt ≤ later.toInt)
      nowMs envelope := by
  rintro c' c'' - hlater ⟨checked, hchecked⟩
  obtain ⟨-, -, -, expiresAt, hexpires, hopen⟩ := checkEnvelope_ok hchecked
  have hbefore : c'.toInt ≤ c''.toInt := by
    rcases hlater with rfl | h
    · exact le_rfl
    · exact h
  exact kept_while_open hexpires hopen hbefore

/-- The times of an envelope against the clock: it is issued at most five minutes ahead, expires
within five minutes of that, and has expired at most five minutes ago. -/
structure InsideWindow (nowMs : Int) (issuedAtMs expiresAtMs : UInt64) : Prop where
  issued : (issuedAtMs.toNat : Int) ≤ nowMs + 300000
  ordered : issuedAtMs.toNat < expiresAtMs.toNat
  brief : expiresAtMs.toNat ≤ issuedAtMs.toNat + 300000
  live : nowMs ≤ expiresAtMs.toNat + 300000

/-- The clock is one `chrono` can show: after 1970, and before the last year of its calendar. -/
def ChronoTime (nowMs : Int64) : Prop := 0 ≤ nowMs.toInt ∧ nowMs.toInt ≤ 8210266876799999

/-- The envelope is valid at this time: it carries a nonce, the digest of its message and a
window the time is inside of. -/
structure Valid (crates : BridgeCrates Part) (nowMs : Int64) (envelope : CallerEnvelope) : Prop where
  nonce : ∃ text, ((extensionsObject envelope).bind fun extensions => extensions.get "nonce")
    = some (.string text) ∧ (nonEmptyText text).isSome = true
  digest : ∃ text, ((extensionsObject envelope).bind
      fun extensions => extensions.get "request_digest") = some (.string text)
    ∧ nonEmptyText text = some (crates.digestOf envelope.message)
  window : ∃ issuedAtMs expiresAtMs,
    ((extensionsObject envelope).bind fun extensions => extensions.get "issued_at_ms")
        = some (.number (.posInt issuedAtMs))
      ∧ ((extensionsObject envelope).bind fun extensions => extensions.get "expires_at_ms")
        = some (.number (.posInt expiresAtMs))
      ∧ InsideWindow nowMs.toInt issuedAtMs expiresAtMs

lemma verifiedAgentEnvelope_source {value : JsonValue}
    (h : verifiedAgentEnvelope crates value = .ok envelope) :
    ∃ sourceAgentId, envelope.sourceAgentId = some sourceAgentId := by
  simp only [verifiedAgentEnvelope, bind_eq_ok, okOr_eq_ok] at h
  obtain ⟨decoded, -, _, -, source, hsource, _, -, _, -, _, -, hok⟩ := h
  cases hok
  cases hid : envelope.sourceAgentId with
  | none =>
    rw [hid] at hsource
    cases hsource
  | some sourceAgentId => exact ⟨sourceAgentId, rfl⟩

lemma i64TryFrom_of_lt (h : n.toNat < 2 ^ 63) : i64TryFrom n = some n.toInt64 :=
  if_pos h

lemma comparisons_of_insideWindow {issuedAtMs : UInt64} (htime : ChronoTime nowMs)
    (hwindow : InsideWindow nowMs.toInt issuedAtMs expiresAtMs) :
    issuedAtMs.toNat < 2 ^ 63 ∧ expiresAtMs.toNat < 2 ^ 63
      ∧ ¬invocationMaxClockSkewMs < issuedAtMs.toInt64 - nowMs
      ∧ ¬expiresAtMs.toInt64 ≤ issuedAtMs.toInt64
      ∧ ¬invocationMaxTtlMs < expiresAtMs.toNat - issuedAtMs.toNat
      ∧ ¬expiresAtMs.toInt64 + invocationMaxClockSkewMs < nowMs := by
  obtain ⟨hpos, hlast⟩ := htime
  obtain ⟨hissued, hordered, hbrief, hlive⟩ := hwindow
  have hskew : invocationMaxClockSkewMs.toInt = 300000 := by decide
  have httl : invocationMaxTtlMs = 300000 := by decide
  have hissuedInt : issuedAtMs.toInt64.toInt = issuedAtMs.toNat := toInt_toInt64 (by omega)
  have hexpiresInt : expiresAtMs.toInt64.toInt = expiresAtMs.toNat := toInt_toInt64 (by omega)
  have hdiff : (issuedAtMs.toInt64 - nowMs).toInt = issuedAtMs.toInt64.toInt - nowMs.toInt :=
    toInt_sub_eq_iff.mpr ⟨by omega, by omega⟩
  have hsum : (expiresAtMs.toInt64 + invocationMaxClockSkewMs).toInt
      = expiresAtMs.toInt64.toInt + invocationMaxClockSkewMs.toInt :=
    toInt_add_eq_iff.mpr ⟨by omega, by omega⟩
  refine ⟨by omega, by omega, ?_, ?_, ?_, ?_⟩
  · rw [lt_iff]
    omega
  · rw [le_iff]
    omega
  · omega
  · rw [lt_iff]
    omega

lemma checkEnvelope_of_valid {sourceAgentId : String} (htime : ChronoTime nowMs)
    (hvalid : Valid crates nowMs envelope) (hsource : envelope.sourceAgentId = some sourceAgentId) :
    ∃ checked, checkEnvelope crates nowMs envelope = .ok checked := by
  obtain ⟨nonceText, hnonce, hnonEmpty⟩ := hvalid.nonce
  obtain ⟨digestText, hdigest, hsame⟩ := hvalid.digest
  obtain ⟨issuedAtMs, expiresAtMs, hissued, hexpires, hwindow⟩ := hvalid.window
  obtain ⟨hissuedSmall, hexpiresSmall, hfuture, hordered, hbrief, hlive⟩ :=
    comparisons_of_insideWindow htime hwindow
  obtain ⟨nonce, hnonceOk⟩ := isSome_iff_exists.mp hnonEmpty
  obtain ⟨extensions, hextensions, hnonceField⟩ := bind_eq_some_iff.mp hnonce
  rw [hextensions] at hdigest hissued hexpires
  simp only [bind_some] at hdigest hissued hexpires
  refine ⟨⟨⟨nonce, crates.digestOf envelope.message⟩, sourceAgentId, expiresAtMs⟩, ?_⟩
  simp only [checkEnvelope, requiredString, requiredTime, bind_eq_ok, okOr_eq_ok, bailIf_eq_ok,
    decide_eq_false_iff_not]
  refine ⟨extensions, hextensions, nonce, ?_, crates.digestOf envelope.message, ?_, issuedAtMs, ?_,
    expiresAtMs, ?_, (), not_not.mpr rfl, issuedAtMs.toInt64, i64TryFrom_of_lt hissuedSmall,
    expiresAtMs.toInt64, i64TryFrom_of_lt hexpiresSmall, (), hfuture, (), hordered, (), hbrief,
    (), hlive, sourceAgentId, hsource, rfl⟩
  · rw [hnonceField, bind_some, JsonValue.asStr, bind_some]
    exact hnonceOk
  · rw [hdigest, bind_some, JsonValue.asStr, bind_some]
    exact hsame
  · rw [hissued, bind_some, JsonValue.asU64]
  · rw [hexpires, bind_some, JsonValue.asU64]

/-! ## At most once, and only a full cache refuses -/

/-- **REPLAY PROTECTION**: in every run of calls at nondecreasing times no envelope is let in
twice; and after a run of a new process a valid envelope whose key was not let in before is
refused only by a full cache. -/
theorem invocations_not_replayed (calls : List (Int64 × A2aCall))
    (hclock : calls.Pairwise fun earlier later => earlier.1.toInt ≤ later.1.toInt) :
    (admitted crates dataDir ∅ calls).Nodup
      ∧ ∀ (nowMs : Int64) (value : JsonValue) (envelope : CallerEnvelope) (agentId : String),
          verifiedAgentEnvelope crates value = .ok envelope →
          envelope.targetAgentId = some agentId → ChronoTime nowMs → Valid crates nowMs envelope →
          replayKey dataDir envelope ∉ (admitted crates dataDir ∅ calls).map (replayKey dataDir) →
          (∃ security, (validateSignedEnvelopeSecurity crates dataDir nowMs
              (cacheAfter crates dataDir ∅ calls) envelope agentId).1 = .ok security)
            ∨ invocationReplayCacheMaxEntries
                ≤ ((cacheAfter crates dataDir ∅ calls).filter
                    fun _ forgotten => decide (nowMs.toInt.toNat ≤ forgotten)).size
              ∧ (validateSignedEnvelopeSecurity crates dataDir nowMs
                  (cacheAfter crates dataDir ∅ calls) envelope agentId).1
                = .error "A2A invocation replay cache is at capacity; retry through another node instance" := by
  refine ⟨?_, ?_⟩
  · rw [← names_eq_admitted]
    exact ReplayGuard.accepted_nodup (hclock.imp fun h => h)
      fun check _ envelope _ _ => covers_envelope check.1 envelope
  · intro nowMs value envelope agentId hverified htarget htime hvalid hnew
    obtain ⟨sourceAgentId, hsource⟩ := verifiedAgentEnvelope_source hverified
    obtain ⟨checked, hchecked⟩ := checkEnvelope_of_valid htime hvalid hsource
    have habsent : (cacheAfter crates dataDir ∅ calls)[replayKey dataDir envelope]? = none := by
      rw [eq_none_iff_forall_ne_some]
      intro forgotten hget
      rcases of_getElem?_cacheAfter hget with hempty | hadmitted
      · rw [Std.ExtTreeMap.getElem?_empty] at hempty
        cases hempty
      · exact hnew hadmitted
    rw [validate_eq htarget hchecked]
    dsimp only
    rcases sweepAndRecord_absent habsent with hfresh | ⟨hfull, hanswer⟩
    · exact .inl ⟨checked.security, congrArg (recallError checked.security) hfresh⟩
    · exact .inr ⟨of_decide_eq_true hfull, congrArg (recallError checked.security) hanswer⟩

/-! ## A small instance -/

def toyMessage : JsonValue := .object [("message", .string "book a ride")]

/-- The digest of that message when the hash is the text itself. -/
def toyDigest : String :=
  "sha256:" ++ hexEncode (asBytes (String.ofList
    (WattJsonText.canonicalText WattJsonText.decimalNumbers toyMessage)))

/-- An envelope of `al` for `ride`, issued at one million milliseconds for a minute. -/
def toyEnvelope (nonce : String) : CallerEnvelope where
  protocol := "a2a_v1"
  transportProfile := none
  sourceAgentId := some "did:key:zal"
  targetAgentId := some "ride"
  sourceNodeId := some "node-1"
  targetNodeId := none
  capability := none
  sourceAgentCardHash := none
  message := toyMessage
  extensions := some (.object
    [("expires_at_ms", .number (.posInt 1060000)), ("issued_at_ms", .number (.posInt 1000000)),
     ("nonce", .string nonce), ("request_digest", .string toyDigest)])
  signature := some "sig:al"
  sourceAgentCard := none
  cardHash_eq := rfl

/-- Crates whose hash is the text itself and for which an envelope is written as its nonce. -/
def toyCrates : BridgeCrates JsonValue where
  signing := WattSigning.toySigning
  canonicalNumbers := WattJsonText.decimalNumbers
  displayNumbers := WattJsonText.decimalNumbers
  sha256 bytes := bytes
  envelopeFromValue value := .ok (toyEnvelope ((value.asStr).getD ""))
  parseJson text := .ok (.string text)
  parseJsonBytes _ := .error ""
  partFromValue := .ok
  dataPart data := .object [("data", data)]

/-- A call of `ride` with these parts and the envelope of this nonce. -/
def toyCall (execution : ServiceAgentExecution) (nonce : String) (parts : List JsonValue) :
    A2aCall where
  pathAgentId := none
  authorization := none
  encodedAgentEnvelope := none
  body := .object
    [("method", .string "SendMessage"), ("params", .object
       [("extensions", .object [("agent_envelope", .string nonce)]),
        ("message", .object [("parts", .array parts), ("role", .string "user")])])]
  localAgent agentId := .ok { agentId, execution }

def toyPart : JsonValue := .object [("kind", .string "text"), ("text", .string "book a ride")]

/-- One envelope, sent again after a minute, and again when the cache has forgotten it. -/
def toyCalls : List (Int64 × A2aCall) :=
  [1000000, 1060000, 1360001].map fun nowMs =>
    (nowMs, toyCall .wattetheriaRuntime "n-1" [toyPart])

/-- The envelope is let in once; another one is let in after it. -/
theorem invocations_not_replayed_three : admitted toyCrates "/data" ∅ toyCalls = [toyEnvelope "n-1"]
      ∧ (admitted toyCrates "/data" ∅ toyCalls).Nodup
      ∧ ((∃ security, (validateSignedEnvelopeSecurity toyCrates "/data" 1060000
            (cacheAfter toyCrates "/data" ∅ toyCalls) (toyEnvelope "n-2") "ride").1 = .ok security)
          ∨ invocationReplayCacheMaxEntries
              ≤ ((cacheAfter toyCrates "/data" ∅ toyCalls).filter
                  fun _ forgotten => decide ((1060000 : Int64).toInt.toNat ≤ forgotten)).size
            ∧ (validateSignedEnvelopeSecurity toyCrates "/data" 1060000
                (cacheAfter toyCrates "/data" ∅ toyCalls) (toyEnvelope "n-2") "ride").1
              = .error "A2A invocation replay cache is at capacity; retry through another node instance") := by
  have hadmitted : admitted toyCrates "/data" ∅ toyCalls = [toyEnvelope "n-1"] := by
    decide +kernel
  have hvalid : Valid toyCrates 1060000 (toyEnvelope "n-2") :=
    { nonce := ⟨"n-2", by decide +kernel, by decide +kernel⟩
      digest := ⟨toyDigest, by decide +kernel, by decide +kernel⟩
      window := ⟨1000000, 1060000, by decide +kernel, by decide +kernel,
        ⟨by decide +kernel, by decide +kernel, by decide +kernel, by decide +kernel⟩⟩ }
  obtain ⟨honce, hnew⟩ := @invocations_not_replayed _ toyCrates "/data" toyCalls (by decide +kernel)
  refine ⟨hadmitted, honce, hnew 1060000 (.string "n-2") (toyEnvelope "n-2") "ride" ?_ rfl ?_
    hvalid ?_⟩
  · decide +kernel
  · exact ⟨by decide +kernel, by decide +kernel⟩
  · rw [hadmitted]
    decide +kernel

end WattBridge
