import Wattetheria.HandshakeAdmission
import Wattetheria.WrappingInt

/-!
# Handshakes and replay

A handshake is taken while its timestamp is within the drift on either side of the clock,
and its nonce is remembered for a time that starts when it is recorded.  A handshake dated
ahead of the clock stays acceptable for up to twice the drift, so a memory as long as the
drift may forget it too early.  Where the memory of every handshake outlives its window,
no handshake is admitted twice.
-/

namespace WattAdmission

open WattText WattJson WattReplay WattInt64

variable {crates : AdmissionCrates} {config : AdmissionConfig} {ttlSec : Int64}

/-! ## What an admitted handshake has shown -/

/-- A packet that is a handshake. -/
def handshakeValue (crates : AdmissionCrates) (bytes : List UInt8) : Option JsonValue :=
  (crates.parseJson bytes).filter fun value => envelopeType value = "HANDSHAKE"

variable (value : JsonValue)

def timestampOf : Option Int64 :=
  ((value.get "payload").bind fun payload => payload.get "timestamp").bind JsonValue.asI64

def nonceOf : String :=
  (((value.get "payload").bind fun payload => payload.get "nonce").bind JsonValue.asStr).getD ""

variable {bytes : List UInt8} {value : JsonValue}

lemma handshakeValue_some (h : handshakeValue crates bytes = some value) :
    crates.parseJson bytes = some value ∧ envelopeType value = "HANDSHAKE" := by
  obtain ⟨hparse, htype⟩ := Option.filter_eq_some_iff.mp h
  exact ⟨hparse, of_decide_eq_true htype⟩

lemma checkHandshake_ok {now : Int64} {handshake : Handshake}
    (h : checkHandshake crates config now value = .ok handshake) :
    (∃ timestamp, timestampOf value = some timestamp
      ∧ withinDrift config now timestamp = true) ∧ nonceOf value = handshake.nonce := by
  simp only [checkHandshake, bind_eq_ok, okOr_eq_ok, bailIf_eq_ok, Bool.not_eq_eq_eq_not,
    Bool.not_false] at h
  obtain ⟨agentDid, -, payload, hpayload, signature, -, verified, -, _, -, _, -, timestamp,
    htimestamp, _, hdrift, nonce, hnonce, _, -, hhandshake⟩ := h
  cases hhandshake
  refine ⟨⟨timestamp, ?_, hdrift⟩, ?_⟩
  · rw [timestampOf, hpayload]
    exact htimestamp
  · rw [nonceOf, hpayload]
    exact congrArg (·.getD "") hnonce

variable {clock : Clock} {seen : Nonces} {recorded : Int64}

/-- An admitted handshake passed its checks, and its nonce was recorded as a fresh one. -/
lemma validate_accept (hvalue : handshakeValue crates bytes = some value)
    (h : (validateGossipPacketWithNonce crates config ttlSec clock seen bytes).1 = .accept) :
    (∃ timestamp, timestampOf value = some timestamp
      ∧ withinDrift config clock.now timestamp = true)
      ∧ (sweepAndRecord (remembered ttlSec clock.later) none seen (nonceOf value) clock.later).1
          = .fresh ∧ (validateGossipPacketWithNonce crates config ttlSec clock seen bytes).2
          = (sweepAndRecord (remembered ttlSec clock.later) none seen (nonceOf value)
              clock.later).2 := by
  obtain ⟨hparse, htype⟩ := handshakeValue_some hvalue
  rw [validateGossipPacketWithNonce, hparse] at h ⊢
  dsimp only at h ⊢
  rw [validateEnvelope, if_pos htype] at h ⊢
  split at h
  · cases h
  · rename_i handshake hchecked
    obtain ⟨hwindow, hnonce⟩ := checkHandshake_ok hchecked
    rw [hnonce]
    dsimp only [checkAndRecord] at h ⊢
    by_cases hfresh : (sweepAndRecord (remembered ttlSec clock.later) none seen handshake.nonce
        clock.later).1 = .fresh
    · refine ⟨hwindow, hfresh, ?_⟩
      rw [if_neg (by simp [hfresh])]
    · rw [if_pos (by simp [hfresh])] at h
      cases h

lemma validate_keeps {nonce : String} (hseen : seen[nonce]? = some recorded)
    (hremembered : remembered ttlSec clock.later recorded = true) :
    (validateGossipPacketWithNonce crates config ttlSec clock seen bytes).2[nonce]?
      = some recorded := by
  rw [validateGossipPacketWithNonce]
  split
  · exact hseen
  · rw [validateEnvelope]
    split
    · split
      · exact hseen
      · rename_i handshake _
        have hkept : (sweepAndRecord (remembered ttlSec clock.later) none seen handshake.nonce
            clock.later).2[nonce]? = some recorded := sweepAndRecord_keeps hseen hremembered
        dsimp only [checkAndRecord]
        split
        · exact hkept
        · exact hkept
    · exact hseen

/-! ## The receiver -/

/-- The receiver of gossip packets, guarded by its tracker of nonces. -/
def handshakeGuard (crates : AdmissionCrates) (config : AdmissionConfig) (ttlSec : Int64) :
    ReplayGuard Nonces Clock (List UInt8) JsonValue String Int64 where
  check seen clock bytes :=
    let (verdict, seen) := validateGossipPacketWithNonce crates config ttlSec clock seen bytes
    (verdict == .accept, seen)
  get seen nonce := seen[nonce]?
  name := handshakeValue crates
  key := nonceOf
  opens clock value := ∃ timestamp, timestampOf value = some timestamp
    ∧ withinDrift config clock.now timestamp = true
  alive clock recorded := remembered ttlSec clock.later recorded = true
  stamp clock _ := clock.later
  accept_opens hvalue haccept := (validate_accept hvalue (beq_iff_eq.mp haccept)).1
  accept_fresh hvalue haccept hget halive :=
    (sweepAndRecord_fresh (validate_accept hvalue (beq_iff_eq.mp haccept)).2.1).1 _ hget halive
  accept_records hvalue haccept := by
    obtain ⟨-, hfresh, hseen⟩ := validate_accept hvalue (beq_iff_eq.mp haccept)
    show (validateGossipPacketWithNonce crates config ttlSec _ _ _).2[_]? = _
    rw [hseen]
    exact (sweepAndRecord_fresh hfresh).2
  keeps hget halive := validate_keeps hget halive

/-- The packets let in, in order. -/
def admitted (crates : AdmissionCrates) (config : AdmissionConfig) (ttlSec : Int64) :
    Nonces → List (Clock × List UInt8) → List (List UInt8)
  | _, [] => []
  | seen, (clock, bytes) :: checks =>
    let (verdict, seen') := validateGossipPacketWithNonce crates config ttlSec clock seen bytes
    if verdict = .accept then bytes :: admitted crates config ttlSec seen' checks
    else admitted crates config ttlSec seen' checks

lemma accepted_eq_admitted : ∀ (checks : List (Clock × List UInt8)) (seen : Nonces),
    (handshakeGuard crates config ttlSec).accepted seen checks
      = admitted crates config ttlSec seen checks
  | [], _ => rfl
  | (clock, bytes) :: checks, seen => by
    have ih := accepted_eq_admitted checks
      (validateGossipPacketWithNonce crates config ttlSec clock seen bytes).2
    rw [ReplayGuard.accepted, admitted]
    simp only [handshakeGuard, beq_iff_eq] at ih ⊢
    rw [ih]

/-! ## The clock -/

variable (lag : Nat)

/-- The two readings of a check: between 1970 and a time no calendar reaches, and at most `lag`
seconds apart. -/
def Ticks (clock : Clock) : Prop :=
  0 ≤ clock.now.toInt ∧ clock.now.toInt ≤ clock.later.toInt
    ∧ clock.later.toInt ≤ clock.now.toInt + lag ∧ clock.later.toInt < 2 ^ 62

/-- The checks are made one after the other, at times that never go back. -/
def Nondecreasing (checks : List (Clock × List UInt8)) : Prop :=
  (∀ check ∈ checks, Ticks lag check.1)
    ∧ checks.Pairwise fun earlier later => earlier.1.later.toInt ≤ later.1.now.toInt

instance (lag : Nat) (clock : Clock) : Decidable (Ticks lag clock) :=
  inferInstanceAs (Decidable (_ ∧ _))

instance (lag : Nat) (checks : List (Clock × List UInt8)) : Decidable (Nondecreasing lag checks) :=
  inferInstanceAs (Decidable (_ ∧ _))

/-- A handshake of this timestamp, checked now, leaves its window no later than its nonce is
forgotten; and its distance from the clock is a 64-bit integer. -/
def RememberedLongEnough (config : AdmissionConfig) (ttlSec : Int64) (lag : Nat) (clock : Clock)
    (timestamp : Int64) : Prop :=
  clock.now.toInt - timestamp.toInt < 2 ^ 63
    ∧ timestamp.toInt + config.maxTimeDriftSec.toInt + lag ≤ clock.later.toInt + ttlSec.toInt

instance (lag : Nat) (clock : Clock) (timestamp : Int64) :
    Decidable (RememberedLongEnough config ttlSec lag clock timestamp) :=
  inferInstanceAs (Decidable (_ ∧ _))

lemma withinDrift_iff {now timestamp : Int64} (hnow : 0 ≤ now.toInt)
    (hfits : now.toInt - timestamp.toInt < 2 ^ 63) : withinDrift config now timestamp = true
      ↔ |now.toInt - timestamp.toInt| ≤ config.maxTimeDriftSec.toInt := by
  have hbound := fits_toInt timestamp
  unfold Fits at hbound
  have hdiff : (now - timestamp).toInt = now.toInt - timestamp.toInt :=
    toInt_sub_eq_iff.mpr ⟨by omega, by omega⟩
  have habs : (now - timestamp).abs.toInt = |now.toInt - timestamp.toInt| := by
    rw [toInt_abs (by rw [hdiff]; omega), hdiff]
  rw [withinDrift, decide_eq_true_iff, le_iff, habs]

/-- A tracker asked at an ordinary time remembers for exactly its time to live. -/
lemma remembered_iff {later : Int64} (hlater : 0 ≤ later.toInt) (httl : 0 ≤ ttlSec.toInt) :
    remembered ttlSec later recorded = true ↔ later.toInt ≤ recorded.toInt + ttlSec.toInt := by
  have hbound := fits_toInt later
  have hbound' := fits_toInt ttlSec
  unfold Fits at hbound hbound'
  have hcutoff : (later - ttlSec).toInt = later.toInt - ttlSec.toInt :=
    toInt_sub_eq_iff.mpr ⟨by omega, by omega⟩
  rw [remembered, decide_eq_true_iff, le_iff, hcutoff]
  omega

/-- What is recorded of such a handshake is remembered at every later reading up to the last
one inside its window. -/
lemma remembered_while_open {lag : Nat} {last : Clock} {timestamp later : Int64}
    (httl : config.maxTimeDriftSec ≤ ttlSec) (hclock : Ticks lag clock) (hlast : Ticks lag last)
    (hopen : withinDrift config clock.now timestamp = true)
    (hlong : RememberedLongEnough config ttlSec lag clock timestamp)
    (hwindow : withinDrift config last.now timestamp = true)
    (hreading : clock.later.toInt ≤ later.toInt) (hbefore : later.toInt ≤ last.now.toInt + lag)
    (hsmall : later.toInt < 2 ^ 62) : remembered ttlSec later clock.later = true := by
  obtain ⟨hpos, horder, -, hlater⟩ := hclock
  obtain ⟨hfits, hforgets⟩ := hlong
  obtain ⟨hpos', horder', -, hlater'⟩ := hlast
  rw [le_iff] at httl
  have hdrift := (withinDrift_iff hpos hfits).mp hopen
  have hnonneg : 0 ≤ config.maxTimeDriftSec.toInt := le_trans (abs_nonneg _) hdrift
  rw [remembered_iff (by omega) (by omega)]
  -- either the later distance is exact too, or the drift is larger than any reading
  by_cases hfits' : last.now.toInt - timestamp.toInt < 2 ^ 63
  · have hdrift' := (abs_le.mp ((withinDrift_iff hpos' hfits').mp hwindow)).2
    omega
  · have hdrift' := (abs_le.mp hdrift).2
    omega

/-! ## At most once -/

/-- A check is made after another one, and its readings are ordinary. -/
def After (earlier later : Clock) : Prop :=
  earlier.later.toInt ≤ later.now.toInt ∧ Ticks lag later

lemma covers_of_remembered {lag : Nat} (httl : config.maxTimeDriftSec ≤ ttlSec)
    (hclock : Ticks lag clock) (h : ∀ timestamp, timestampOf value = some timestamp →
      withinDrift config clock.now timestamp = true
        ∧ RememberedLongEnough config ttlSec lag clock timestamp) :
    (handshakeGuard crates config ttlSec).Covers (After lag) clock value := by
  rintro c' c'' ⟨hafter, hticks⟩ hlater ⟨timestamp, htimestamp, hwindow⟩
  obtain ⟨hopen, hlong⟩ := h timestamp htimestamp
  have hlast : Ticks lag c'' := by
    rcases hlater with rfl | ⟨-, hticks'⟩
    · exact hticks
    · exact hticks'
  obtain ⟨-, horder, hlag, hsmall⟩ := hticks
  have hbefore : c'.later.toInt ≤ c''.now.toInt + lag := by
    rcases hlater with rfl | ⟨hnext, -⟩
    · exact hlag
    · omega
  exact remembered_while_open httl hclock hlast hopen hlong hwindow (by omega) hbefore hsmall

/-- **REPLAY PROTECTION**: where every handshake inside its window is remembered long enough, no
handshake is admitted twice. -/
theorem handshake_admitted_once (seen : Nonces) (checks : List (Clock × List UInt8)) (lag : Nat)
    (httl : config.maxTimeDriftSec ≤ ttlSec) (hclock : Nondecreasing lag checks)
    (hlong : ∀ check ∈ checks, ∀ value timestamp,
      handshakeValue crates check.2 = some value → timestampOf value = some timestamp →
      withinDrift config check.1.now timestamp = true →
      RememberedLongEnough config ttlSec lag check.1 timestamp) :
    ((admitted crates config ttlSec seen checks).filterMap (handshakeValue crates)).Nodup := by
  obtain ⟨hticks, hsorted⟩ := hclock
  have hafter : checks.Pairwise fun earlier later => After lag earlier.1 later.1 :=
    hsorted.imp_of_mem fun _ hlater h => ⟨h, hticks _ hlater⟩
  rw [← accepted_eq_admitted]
  refine ReplayGuard.accepted_nodup (G := handshakeGuard crates config ttlSec) hafter ?_
  rintro check hcheck value hvalue ⟨timestamp, htimestamp, hopen⟩
  refine covers_of_remembered httl (hticks check hcheck) ?_
  intro timestamp' htimestamp'
  cases htimestamp.symm.trans htimestamp'
  exact ⟨hopen, hlong check hcheck value timestamp hvalue htimestamp hopen⟩

/-! ## A small instance -/

variable (timestamp : UInt64)

def toyHandshake : JsonValue :=
  .object [("agent_did", .string "did:key:zal"),
    ("payload", .object [("nonce", .string "n-1"), ("timestamp", .number (.posInt timestamp))]),
    ("signature", .string "sig:al"),
    ("type", .string "HANDSHAKE")]

/-- Crates that read one packet, the handshake dated `timestamp`. -/
def toyAdmission : AdmissionCrates where
  signing := WattSigning.toySigning
  canonicalNumbers := WattJsonText.decimalNumbers
  parseJson bytes := if bytes = [1] then some (toyHandshake timestamp) else none
  sha256 _ := []

def toyChecks (times : List Int64) : List (Clock × List UInt8) :=
  times.map fun now => (⟨now, now⟩, [1])

/-- Dated by the clock it is checked at, a handshake is remembered through its window. -/
theorem handshake_admitted_once_prompt : Nondecreasing 0 (toyChecks [1000, 1150, 1301])
      ∧ admitted (toyAdmission 1000) .default 300 ∅ (toyChecks [1000, 1150, 1301]) = [[1]]
      ∧ ((admitted (toyAdmission 1000) .default 300 ∅ (toyChecks [1000, 1150, 1301])).filterMap
          (handshakeValue (toyAdmission 1000))).Nodup := by
  have hclock : Nondecreasing 0 (toyChecks [1000, 1150, 1301]) := by decide +kernel
  refine ⟨hclock, by decide +kernel, ?_⟩
  refine handshake_admitted_once ∅ _ 0 (by decide) hclock ?_
  intro check hcheck value timestamp hvalue htimestamp _
  have hdated : ∀ check ∈ toyChecks [1000, 1150, 1301],
      handshakeValue (toyAdmission 1000) check.2 = some (toyHandshake 1000)
        ∧ RememberedLongEnough .default 300 0 check.1 1000 := by
    decide +kernel
  obtain ⟨hsame, hlong⟩ := hdated check hcheck
  cases hsame.symm.trans hvalue
  have h1000 : timestampOf (toyHandshake 1000) = some 1000 := by decide +kernel
  cases h1000.symm.trans htimestamp
  exact hlong

/-- A handshake dated 180 seconds ahead is admitted, forgotten after 300, and admitted again. -/
theorem early_handshake_admitted_twice : AdmissionConfig.default.maxTimeDriftSec ≤ 300
      ∧ Nondecreasing 0 (toyChecks [1000, 1301])
      ∧ admitted (toyAdmission 1180) .default 300 ∅ (toyChecks [1000, 1301]) = [[1], [1]]
      ∧ ¬((admitted (toyAdmission 1180) .default 300 ∅ (toyChecks [1000, 1301])).filterMap
          (handshakeValue (toyAdmission 1180))).Nodup := by
  have htwice : admitted (toyAdmission 1180) .default 300 ∅ (toyChecks [1000, 1301])
      = [[1], [1]] := by decide +kernel
  refine ⟨by decide, by decide +kernel, htwice, ?_⟩
  rw [htwice]
  decide +kernel

end WattAdmission
