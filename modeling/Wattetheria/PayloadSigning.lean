import Wattetheria.JsonText

/-!
# Signed payloads

`verify_payload` and the key decoding under it: a signer is named by a `did:key` or
by the base64 of its public key, and both forms lead to the bytes of an Ed25519 key.
The crates outside the repository (canonical JSON, base64, DIDs, the curve) are the
parameter `SigningCrates`; a public key is its bytes.
-/

namespace WattSigning

open WattText WattJson WattJsonText

/-- The key in a DID. -/
inductive DidKeyPublicKey where
  | ed25519 (publicKey : List UInt8)
  | other

/-- The functions of the crates outside the repository. -/
structure SigningCrates where
  base64Decode : String → Except String (List UInt8)
  base64Encode : List UInt8 → String
  /-- `Did::parse`; a DID is kept as it prints -/
  parseDid : String → Except String String
  /-- `DidKey::from_did` -/
  didKeyFromDid : String → Except String String
  /-- `DidKey::decode_public_key` -/
  decodePublicKey : String → Except String DidKeyPublicKey
  /-- `VerifyingKey::from_bytes` -/
  verifyingKeyFromBytes : List UInt8 → Except String Unit
  /-- `VerifyingKey::verify` -/
  verify : (key message signature : List UInt8) → Bool

variable (crates : SigningCrates)

/-- The Ed25519 key of a `did:key`. -/
def publicKeyB64FromDidKey (agentDid : String) : Except String String := do
  let did ← withContext "parse did:key" (crates.parseDid agentDid)
  let didKey ← withContext "build did:key helper" (crates.didKeyFromDid did)
  match ← withContext "decode did:key public key" (crates.decodePublicKey didKey) with
  | .ed25519 publicKey => .ok (crates.base64Encode publicKey)
  | .other => .error "did:key is not an Ed25519 verification key"

/-- The bytes of a key named in either form. -/
def decodePublicKeyFromRef (publicKeyRef : String) : Except String (List UInt8) :=
  if "did:key:".toList.isPrefixOf publicKeyRef.toList then do
    let publicKeyB64 ← publicKeyB64FromDidKey crates publicKeyRef
    withContext "decode did:key public key base64" (crates.base64Decode publicKeyB64)
  else withContext "decode public key base64" (crates.base64Decode publicKeyRef)

/-- Verifies a signature under a named key. -/
def verifyWithPublicKey (message : List UInt8) (signatureB64 publicKeyRef : String) :
    Except String Bool := do
  let public_ ← decodePublicKeyFromRef crates publicKeyRef
  let signature ← withContext "decode signature base64" (crates.base64Decode signatureB64)
  bailIf (public_.length ≠ 32) "invalid public key length"
  crates.verifyingKeyFromBytes public_
  bailIf (signature.length ≠ 64) "invalid signature length"
  .ok (crates.verify public_ message signature)

/-- `verify_payload`; `canonicalBytes` is the payload as `canonical_bytes` renders it. -/
def verifyPayload (canonicalBytes : Except String (List UInt8)) (signatureB64 publicKeyRef : String) :
    Except String Bool := do
  let message ← canonicalBytes
  verifyWithPublicKey crates message signatureB64 publicKeyRef

/-- The functions of the crates outside the repository that a signed JSON value goes through. -/
structure DocumentCrates where
  signing : SigningCrates
  /-- the numbers of `serde_jcs` -/
  canonicalNumbers : NumberText
  sha256 : List UInt8 → List UInt8

namespace DocumentCrates

variable (crates : DocumentCrates) (value : JsonValue)

/-- `canonical_bytes` -/
def canonicalBytes : List UInt8 :=
  asBytes (String.ofList (canonicalText crates.canonicalNumbers value))

/-- The digest of a value, as it is stated in a signature. -/
def digestOf : String := "sha256:" ++ hexEncode (crates.sha256 (crates.canonicalBytes value))

end DocumentCrates

variable {crates}

/-- What is verified is verified under the key its signer is decoded to. -/
lemma verifyPayload_ok {canonicalBytes : Except String (List UInt8)} {signature signer : String}
    {verified : Bool} (h : verifyPayload crates canonicalBytes signature signer = .ok verified) :
    ∃ key message sig, decodePublicKeyFromRef crates signer = .ok key ∧ canonicalBytes = .ok message
      ∧ crates.base64Decode signature = .ok sig ∧ crates.verify key message sig = verified := by
  simp only [verifyPayload, verifyWithPublicKey, bind_eq_ok, bailIf_eq_ok, withContext_eq_ok] at h
  obtain ⟨message, hmessage, key, hkey, sig, hsig, _, -, _, -, _, -, hverify⟩ := h
  exact ⟨key, message, sig, hkey, hmessage, hsig, Except.ok.inj hverify⟩

/-! ## A small instance -/

def toyBytes (size : Nat) (text : String) : List UInt8 :=
  let bytes := text.toList.map fun c => c.toNat.toUInt8
  bytes ++ List.replicate (size - bytes.length) 0

/-- Crates in which a public key is a text, its base64 the text itself and its DID the text
after `did:key:z`; a signature is the text of the key after `sig:`. -/
def toySigning : SigningCrates where
  base64Decode text :=
    .ok (toyBytes (if "sig:".toList.isPrefixOf text.toList then 64 else 32) text)
  base64Encode bytes :=
    String.ofList ((bytes.takeWhile (· ≠ 0)).map fun byte => Char.ofNat byte.toNat)
  parseDid text := .ok text
  didKeyFromDid did := .ok did
  decodePublicKey did := .ok (.ed25519 (toyBytes 32 (String.ofList (did.toList.drop 9))))
  verifyingKeyFromBytes _ := .ok ()
  verify key _ signature := (signature.drop 4).take 28 == key.take 28

end WattSigning
