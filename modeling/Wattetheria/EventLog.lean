import Wattetheria.HashChain
import Wattetheria.JsonText
import Wattetheria.PayloadSigning
import Wattetheria.StepRuns

/-!
# The event log

`EventLog`: a file of signed events, one JSON row each, in which every event names the
hash of the event before it.  The node appends its own events and events it is handed;
both paths read the last row of the file, and `verify_chain` reads all of it.

The file is its text.  What the file system answers at each of its calls is an argument
of the operation (`Disk`); an append writes its row or, when it fails, nothing.
-/

namespace WattEventLog

open WattText WattJson WattJsonText WattSigning

/-! ## Records -/

/-- A row of the log. -/
structure EventRecord where
  (id eventType : String)
  payload : JsonValue
  timestamp : Int64
  agentDid : String
  prevHash : Option String
  (signature hash : String)
  deriving DecidableEq

/-- What the signature is over. -/
structure UnsignedEventRecord where
  (id eventType : String)
  payload : JsonValue
  timestamp : Int64
  agentDid : String
  prevHash : Option String
  deriving DecidableEq

/-- The row without signature and hash. -/
def EventRecord.toUnsigned (event : EventRecord) : UnsignedEventRecord where
  id := event.id
  eventType := event.eventType
  payload := event.payload
  timestamp := event.timestamp
  agentDid := event.agentDid
  prevHash := event.prevHash

/-- An `i64` as a JSON number. -/
def timestampNumber (n : Int64) : JsonNumber :=
  if 0 ≤ n then .posInt n.toUInt64 else .negInt n

/-- An optional text; `None` is written as null. -/
def optionalText : Option String → JsonValue
  | none => .null
  | some text => .string text

/-- The fields of an unsigned record as `Serialize` writes them. -/
def UnsignedEventRecord.fields (unsigned : UnsignedEventRecord) : List (String × JsonValue) :=
  [("id", .string unsigned.id), ("type", .string unsigned.eventType), ("payload", unsigned.payload),
   ("timestamp", .number (timestampNumber unsigned.timestamp)),
   ("agent_did", .string unsigned.agentDid),
   ("prev_hash", optionalText unsigned.prevHash)]

/-- The fields of a record as `Serialize` writes them. -/
def EventRecord.fields (event : EventRecord) : List (String × JsonValue) :=
  event.toUnsigned.fields ++ [("signature", .string event.signature), ("hash", .string event.hash)]

/-- The functions of the crates outside the repository. -/
structure LogCrates extends DocumentCrates where
  /-- the numbers of `serde_json` -/
  numbers : NumberText
  /-- `serde_json::from_str::<EventRecord>` -/
  parseRecord : String → Except String EventRecord

variable (crates : LogCrates) (unsigned : UnsignedEventRecord)

/-- `canonical_bytes` of an unsigned record. -/
def canonicalBytes : List UInt8 := crates.toDocumentCrates.canonicalBytes (.object unsigned.fields)

/-- `serde_json::to_string` of a record. -/
def rowText (event : EventRecord) : List Char := valueText crates.numbers (.object event.fields)

/-- What `hash_record` hashes: the canonical record followed by the signature's text. -/
def hashInput (signature : String) : List UInt8 :=
  canonicalBytes crates unsigned ++ asBytes signature

/-- The hash of a row. -/
def hashRecord (signature : String) : String :=
  hexEncode (crates.sha256 (hashInput crates unsigned signature))

/-- Verifies the signature of a row. -/
def verifyEventSignature (event : EventRecord) : Except String Bool :=
  verifyPayload crates.signing (.ok (canonicalBytes crates event.toUnsigned)) event.signature
    event.agentDid

/-! ## Reading -/

/-- `get_all` of the file's text. -/
def getAll (raw : List Char) : Except String (List EventRecord) :=
  if (trimChars raw).isEmpty then .ok []
  else ((lines raw).filter fun line => !(trimChars line).isEmpty).mapM fun line =>
    withContext "parse event log row" (crates.parseRecord (String.ofList line))

/-- The loop of `verify_chain`. -/
def verifyFrom : Option String → List EventRecord → Except String (Bool × Option String)
  | _, [] => .ok (true, none)
  | prevHash, event :: events =>
    if event.prevHash ≠ prevHash then .ok (false, some "prev_hash mismatch")
    else do
      let verified ← verifyEventSignature crates event
      if !verified then .ok (false, some "signature mismatch")
      else if hashRecord crates event.toUnsigned event.signature ≠ event.hash then
        .ok (false, some "hash mismatch")
      else verifyFrom (some event.hash) events

/-- `verify_chain` of the file's text. -/
def verifyChain (raw : List Char) : Except String (Bool × Option String) := do
  let events ← getAll crates raw
  verifyFrom crates none events

/-- What the file system answers during a call. -/
structure Disk where
  (openLocked lockExclusive openLast readLast openAppend writeRow unlock : Except String Unit)

def Disk.working : Disk := ⟨.ok (), .ok (), .ok (), .ok (), .ok (), .ok (), .ok ()⟩

variable (disk : Disk)

/-- The last row of the file. -/
def lastUnlocked (raw : List Char) : Except String (Option EventRecord) := do
  withContext "read event log for last" disk.openLast
  withContext "read event log content" disk.readLast
  if (trimChars raw).isEmpty then .ok none
  else match (lines raw).reverse.find? fun line => !(trimChars line).isEmpty with
    | some line => do
        let record ← withContext "parse last event log row" (crates.parseRecord (String.ofList line))
        .ok (some record)
    | none => .ok none

/-! ## Appending -/

/-- `append_raw`: the text of the file afterwards. -/
def appendRaw (raw : List Char) (event : EventRecord) : Except String (List Char) := do
  withContext "open event log for append" disk.openAppend
  disk.writeRow
  .ok (raw ++ (rowText crates event ++ ['\n']))

/-- Who signs, and how. -/
structure PayloadSigner where
  agentDid : String
  signBytes : List UInt8 → Except String String

variable (id : String)

/-- The record `append_signed_with_signer` is about to write; `id` is the fresh UUID and `now`
the clock. -/
def signedRecord (now : Int64) (raw : List Char) (eventType : String)
    (payload : JsonValue) (signer : PayloadSigner) : Except String EventRecord := do
  withContext "open event log for locked append" disk.openLocked
  withContext "acquire event log lock" disk.lockExclusive
  let last ← lastUnlocked crates disk raw
  let unsigned : UnsignedEventRecord :=
    { id, eventType, payload, timestamp := now, agentDid := signer.agentDid,
      prevHash := last.map EventRecord.hash }
  let signature ← signer.signBytes (canonicalBytes crates unsigned)
  .ok { id := unsigned.id, eventType := unsigned.eventType, payload := unsigned.payload,
        timestamp := unsigned.timestamp, agentDid := unsigned.agentDid,
        prevHash := unsigned.prevHash, signature,
        hash := hashRecord crates unsigned signature }

/-- `append_signed_with_signer`: its answer, and the text of the file. -/
def appendSignedWithSigner (now : Int64) (raw : List Char)
    (eventType : String) (payload : JsonValue) (signer : PayloadSigner) :
    Except String EventRecord × List Char :=
  match signedRecord crates disk id now raw eventType payload signer with
  | .error error => (.error error, raw)
  | .ok event =>
    match appendRaw crates disk raw event with
    | .error error => (.error error, raw)
    | .ok written =>
      -- the row stays written when only the lock cannot be released
      (do withContext "release event log lock" disk.unlock
          .ok event, written)

/-- The checks `append_external` makes of an event before it writes. -/
def checkExternal (raw : List Char) (event : EventRecord) : Except String Unit := do
  withContext "open event log for locked external append" disk.openLocked
  withContext "acquire event log lock for external append" disk.lockExclusive
  let last ← lastUnlocked crates disk raw
  bailIf (last.map EventRecord.hash ≠ event.prevHash) "event prev_hash mismatch"
  let verified ← verifyEventSignature crates event
  bailIf (!verified) "invalid event signature"
  bailIf (hashRecord crates event.toUnsigned event.signature ≠ event.hash) "invalid event hash"

/-- `append_external`: its answer, and the text of the file. -/
def appendExternal (raw : List Char) (event : EventRecord) : Except String Unit × List Char :=
  match checkExternal crates disk raw event with
  | .error error => (.error error, raw)
  | .ok () =>
    match appendRaw crates disk raw event with
    | .error error => (.error error, raw)
    | .ok written => (.ok (), written)

/-! ## Runs -/

/-- A call on the log. -/
inductive LogCall where
  | appendSigned (disk : Disk) (id : String) (now : Int64) (eventType : String)
      (payload : JsonValue) (signer : PayloadSigner)
  | appendExternal (disk : Disk) (event : EventRecord)

/-- The file after a call. -/
def step (raw : List Char) : LogCall → List Char
  | .appendSigned disk id now eventType payload signer =>
    (appendSignedWithSigner crates disk id now raw eventType payload signer).2
  | .appendExternal disk event => (appendExternal crates disk raw event).2

/-- The record a call writes. -/
def written (raw : List Char) : LogCall → Except String EventRecord
  | .appendSigned disk id now eventType payload signer =>
    signedRecord crates disk id now raw eventType payload signer
  | .appendExternal disk event => do
      checkExternal crates disk raw event
      .ok event

end WattEventLog
