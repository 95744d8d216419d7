import Wattetheria.JsonText
import Wattetheria.PayloadSigning
import Wattetheria.ReplayWindow

/-!
# Admission of gossip packets

`validate_gossip_packet_with_nonce`: a handshake is admitted when its signature verifies,
its public id belongs to the signing key, its timestamp is near the clock, its nonce was
not seen before and, where required, it carries a proof of work.  The tracker of nonces
forgets what is older than its time to live.

A packet is its bytes.  The two readings of the clock during a check are an argument; a
refusal is the text it is refused with, whether the source returns it as a verdict or as
an error.
-/

namespace WattAdmission

open WattText WattJson WattJsonText WattSigning WattReplay

/-! ## Proof of work -/

/-- The fields of a stamp. -/
structure HashcashStamp where
  (version bits : Nat)
  (date resource nonce : List Char)
  counter : Nat

/-- Splits at the first colon. -/
def splitOnce : List Char → Option (List Char × List Char)
  | [] => none
  | c :: cs =>
    if c = ':' then some ([], cs)
    else (splitOnce cs).map fun (before, after) => (c :: before, after)

/-- Splits at the last colon. -/
def rsplitOnce (cs : List Char) : Option (List Char × List Char) :=
  (splitOnce cs.reverse).map fun (after, before) => (before.reverse, after.reverse)

/-- `str::parse` for an unsigned type with `2 ^ width` values. -/
def parseUnsigned (width : Nat) (cs : List Char) : Option Nat :=
  let digits := match cs with
    | '+' :: rest => rest
    | rest => rest
  if digits.isEmpty then none else (digitsValue 0 digits).filter (· < 2 ^ width)

/-- Reads a stamp. -/
def HashcashStamp.parse (stamp : List Char) : Option HashcashStamp := do
  let (version, rest) ← splitOnce stamp
  let version ← parseUnsigned 8 version
  let (bits, rest) ← splitOnce rest
  let bits ← parseUnsigned 8 bits
  let (date, tail) ← splitOnce rest
  let (rest, counter) ← rsplitOnce tail
  let counter ← parseUnsigned 64 counter
  let (resource, nonce) ← rsplitOnce rest
  some { version, bits, date, resource, nonce, counter }

/-- `leading_zero_bits`; `count` saturates as a `u8` does. -/
def leadingZeroBits (count : Nat) : List UInt8 → Nat
  | [] => count
  | byte :: bytes =>
    if byte = 0 then leadingZeroBits (min 255 (count + 8)) bytes
    else min 255 (count + (8 - byte.toNat.size))

/-! ## Admission -/

/-- The functions of the crates outside the repository. -/
structure AdmissionCrates where
  signing : SigningCrates
  /-- the numbers of `serde_jcs` -/
  canonicalNumbers : NumberText
  /-- `serde_json::from_slice::<Value>` -/
  parseJson : List UInt8 → Option JsonValue
  sha256 : List UInt8 → List UInt8

/-- What is asked of a packet. -/
structure AdmissionConfig where
  maxTimeDriftSec : Int64
  minHashcashBits : Nat
  (requireHashcashForHandshake requireHashcashForBroadcast : Bool)

def AdmissionConfig.default : AdmissionConfig where
  maxTimeDriftSec := 180
  minHashcashBits := 12
  requireHashcashForHandshake := false
  requireHashcashForBroadcast := false

/-- Whether a packet is let in. -/
inductive AdmissionVerdict where
  | accept
  | reject (reason : String)
  deriving DecidableEq

variable (crates : AdmissionCrates)

/-- `hashcash::verify`. -/
def hashcashVerify (stamp resource : String) (minBits : Nat) : Bool :=
  match HashcashStamp.parse stamp.toList with
  | none => false
  | some parsed =>
    parsed.version == 1 && parsed.resource == resource.toList && minBits ≤ parsed.bits
      && parsed.bits ≤ leadingZeroBits 0 (crates.sha256 (asBytes stamp))

/-- A short name of a key. -/
def publicKeyFingerprint (publicKeyB64 : String) : Except String String := do
  let publicKey ← withContext "decode public key base64 for fingerprint"
    (crates.signing.base64Decode publicKeyB64)
  .ok (hexEncode ((crates.sha256 publicKey).take 8))

variable (publicId : String)

/-- `is_did_key_public_id`, which is also the test for a `did:key` reference. -/
def isDidKeyPublicId : Bool :=
  "did:key:".toList.isPrefixOf publicId.toList

/-- `extract_public_id_fingerprint`: what follows the last point, if it looks like one. -/
def extractPublicIdFingerprint : Option String :=
  if isDidKeyPublicId publicId then none
  else if '.' ∉ publicId.toList then none
  else
    let candidate := (publicId.toList.reverse.takeWhile (· ≠ '.')).reverse
    if (asBytes (String.ofList candidate)).length = 16 ∧ candidate.all isAsciiHexdigit then
      some (String.ofList candidate)
    else none

/-- The public id belongs to the key. -/
def verifyPublicIdOwnership (publicId publicKeyRef : String) : Except String Bool :=
  if isDidKeyPublicId publicId then do
    let didPublicKey ← publicKeyB64FromDidKey crates.signing publicId
    let refPublicKey ←
      if isDidKeyPublicId publicKeyRef then publicKeyB64FromDidKey crates.signing publicKeyRef
      else .ok publicKeyRef
    .ok (didPublicKey == refPublicKey)
  else
    match extractPublicIdFingerprint publicId with
    | none => .ok false
    | some embedded => do
        let publicKeyB64 ←
          if isDidKeyPublicId publicKeyRef then publicKeyB64FromDidKey crates.signing publicKeyRef
          else .ok publicKeyRef
        let expected ← publicKeyFingerprint crates publicKeyB64
        .ok (embedded == expected)

def labelError {α : Type} (name : String) : Except String α → Except String α
  | .ok a => .ok a
  | .error error => .error (name ++ error)

/-- What a handshake has proved before its nonce is looked at. -/
structure Handshake where
  agentDid : String
  payload : JsonValue
  nonce : String

/-- `type` of an envelope. -/
def envelopeType (value : JsonValue) : String :=
  ((value.get "type").bind JsonValue.asStr).getD ""

variable (config : AdmissionConfig)

/-- The timestamp is no further from the clock than the drift allows. -/
def withinDrift (now timestamp : Int64) : Bool :=
  (now - timestamp).abs ≤ config.maxTimeDriftSec

/-- The check of `validate_envelope` on the public id a handshake claims. -/
def checkPublicId (payload : JsonValue) (controllerId : String) : Except String Unit :=
  match ((payload.get "public_id").bind JsonValue.asStr).filter (!isEmpty ·) with
  | none => .ok ()
  | some claimedPublicId => do
      let owns ← labelError "public_id_verify_error:"
        (verifyPublicIdOwnership crates claimedPublicId controllerId)
      bailIf (!owns) "public_id_ownership_mismatch"

/-- The checks of `validate_envelope` on a handshake up to its nonce; `now` is the clock. -/
def checkHandshake (now : Int64) (value : JsonValue) : Except String Handshake := do
  let agentDid ← okOr "missing_agent_did" ((value.get "agent_did").bind JsonValue.asStr)
  let payload ← okOr "missing_payload" (value.get "payload")
  let signature ← okOr "missing_signature" ((value.get "signature").bind JsonValue.asStr)
  let controllerId := ((payload.get "controller_id").bind JsonValue.asStr).getD agentDid
  let canonical := asBytes (String.ofList (canonicalText crates.canonicalNumbers payload))
  let verified ← labelError "verify_error:"
    (verifyPayload crates.signing (.ok canonical) signature controllerId)
  bailIf (!verified) "invalid_signature"
  checkPublicId crates payload controllerId
  let timestamp ← okOr "missing_timestamp" ((payload.get "timestamp").bind JsonValue.asI64)
  bailIf (!withinDrift config now timestamp) "clock_drift_exceeded"
  let nonce ← okOr "missing_nonce" ((payload.get "nonce").bind JsonValue.asStr)
  bailIf (isEmpty (trim nonce)) "missing_nonce"
  .ok { agentDid, payload, nonce }

/-- A proof of work; `owner` is the resource when it names none. -/
def checkHashcash (hashcash : JsonValue) (owner : String) : Except String Unit := do
  let stamp ← okOr "hashcash_missing_stamp" ((hashcash.get "stamp").bind JsonValue.asStr)
  let resource := ((hashcash.get "resource").bind JsonValue.asStr).getD owner
  bailIf (!hashcashVerify crates stamp resource config.minHashcashBits) "invalid_hashcash"

/-- The proof of work a value carries; null is none. -/
def hashcashPayload (value : JsonValue) : Option JsonValue :=
  (value.get "hashcash").filter (· ≠ .null)

/-- The checks of `validate_envelope` on a handshake after its nonce. -/
def checkHandshakeWork (handshake : Handshake) : Except String Unit :=
  match hashcashPayload handshake.payload with
  | none => bailIf config.requireHashcashForHandshake "hashcash_required"
  | some hashcash => checkHashcash crates config hashcash handshake.agentDid

/-- The checks of `validate_envelope` on any other packet. -/
def checkBroadcast (value : JsonValue) : Except String Unit :=
  if config.requireHashcashForBroadcast
      && ["ACTION", "ORACLE_FEED", "PUBLIC_CLIENT_SNAPSHOT"].contains (envelopeType value) then do
    let hashcash ← okOr "hashcash_required_for_broadcast" (hashcashPayload value)
    checkHashcash crates config hashcash (envelopeType value)
  else .ok ()

/-- The nonces seen, each with the time it was recorded. -/
abbrev Nonces := Std.ExtTreeMap String Int64

/-- A recorded time survives the sweep of a tracker with this time to live. -/
def remembered (ttlSec now recorded : Int64) : Bool := now - ttlSec ≤ recorded

/-- Whether a nonce is new, and remembers it. -/
def checkAndRecord (ttlSec now : Int64) (seen : Nonces) (nonce : String) : Bool × Nonces :=
  let (answer, seen) := sweepAndRecord (remembered ttlSec now) none seen nonce now
  (answer == .fresh, seen)

/-- The two readings of the clock during a check: for the drift, and for the nonce. -/
structure Clock where
  (now later : Int64)

/-- The verdict on what passed or failed the last checks. -/
def verdict : Except String Unit → AdmissionVerdict
  | .ok () => .accept
  | .error reason => .reject reason

variable (ttlSec : Int64) (clock : Clock) (seen : Nonces)

/-- `validate_envelope` with a tracker of nonces. -/
def validateEnvelope (value : JsonValue) : AdmissionVerdict × Nonces :=
  if envelopeType value = "HANDSHAKE" then
    match checkHandshake crates config clock.now value with
    | .error reason => (.reject reason, seen)
    | .ok handshake =>
      let (fresh, seen) := checkAndRecord ttlSec clock.later seen handshake.nonce
      if !fresh then (.reject "nonce_replay", seen)
      else (verdict (checkHandshakeWork crates config handshake), seen)
  else (verdict (checkBroadcast crates config value), seen)

/-- Admits or refuses a packet. -/
def validateGossipPacketWithNonce (bytes : List UInt8) : AdmissionVerdict × Nonces :=
  match crates.parseJson bytes with
  | none => (.reject "invalid_json", seen)
  | some value => validateEnvelope crates config ttlSec clock seen value

end WattAdmission
