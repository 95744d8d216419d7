import Wattetheria.ServiceReplayProofs

/-!
# What the signature of a response covers

A service agent signs the digest of the result in the raw body, less the signature itself.
The caller reads parsed copies of that result.  On the direct path the client makes the
copies from the body it verifies; on the relay path they arrive beside the body, and
nothing compares them with it (`altered_on_relay`).  On the records of direct agents, and
only there, the fields the caller reads agree, up to what the requests and the signature in
the message differ in (`signed_fields_agree`).
-/

namespace WattServiceNet

open WattText WattJson WattJsonText

variable {crates : ServiceNetCrates}

/-! ## Reading around the signature -/

variable {k : String} (v : JsonValue)

/-- Every field of the object but `metadata` is that of the other. -/
lemma get_dropSignature (hk : k ≠ "metadata") : (dropSignature v).get k = v.get k := by
  rw [dropSignature]
  split
  · dsimp only
    split
    · rw [JsonValue.get_remove, if_neg hk]
    · rw [JsonValue.get_modify, if_neg hk]
  · rfl

lemma dropSignature_object (fields : List (String × JsonValue)) :
    ∃ fields', dropSignature (.object fields) = .object fields' := by
  rw [dropSignature]
  split
  · dsimp only
    split
    · exact ⟨_, rfl⟩
    · exact ⟨_, rfl⟩
  · exact ⟨_, rfl⟩

/-- Two values that read alike under a key read alike under every path from it. -/
lemma pointer_eq_of_get {v w : JsonValue} {path : List String}
    (hshape : v = w ∨ ∃ fields fields', v = .object fields ∧ w = .object fields')
    (hget : (v.get k).bind (·.pointer path) = (w.get k).bind (·.pointer path)) :
    v.pointer (k :: path) = w.pointer (k :: path) := by
  rcases hshape with rfl | ⟨fields, fields', rfl, rfl⟩
  · rfl
  · rw [JsonValue.pointer, JsonValue.pointer]
    exact hget

lemma pointer_dropSignature (path : List String) (hk : k ≠ "metadata") :
    (dropSignature v).pointer (k :: path) = v.pointer (k :: path) := by
  refine pointer_eq_of_get ?_ (by rw [get_dropSignature v hk])
  cases v with
  | object fields =>
    obtain ⟨fields', h⟩ := dropSignature_object fields
    exact .inr ⟨fields', fields, h, rfl⟩
  | null | bool | number | string | array => exact .inl rfl

variable (result : JsonValue)

/-- The result with its payloads stripped, before its own metadata is. -/
def stripPayloads : JsonValue :=
  payloadNames.foldl (fun result name => result.modify name dropSignature) result

lemma get_stripPayloads (k : String) : (stripPayloads result).get k
      = if k ∈ payloadNames then (result.get k).map dropSignature else result.get k := by
  simp only [stripPayloads, payloadNames, List.foldl_cons, List.foldl_nil, JsonValue.get_modify,
    List.mem_cons, List.not_mem_nil, or_false]
  split_ifs <;> simp_all

variable (raw : JsonValue)

lemma unsigned_shape : unsignedServiceAgentResult raw = resultOf raw
      ∨ ∃ fields fields', unsignedServiceAgentResult raw = .object fields
          ∧ resultOf raw = .object fields' := by
  rw [unsignedServiceAgentResult]
  cases resultOf raw with
  | object fields =>
    obtain ⟨fields', h⟩ := dropSignature_object _
    exact .inr ⟨fields', fields, h, rfl⟩
  | null | bool | number | string | array => exact .inl rfl

/-- A field of the result that is neither a payload nor its metadata is signed as it is. -/
lemma get_unsigned_field (hk : k ≠ "metadata") (hname : k ∉ payloadNames) :
    (unsignedServiceAgentResult raw).get k = (resultOf raw).get k := by
  rw [unsignedServiceAgentResult, get_dropSignature _ hk]
  exact (get_stripPayloads _ k).trans (if_neg hname)

lemma get_unsigned_payload (hname : k ∈ payloadNames) :
    (unsignedServiceAgentResult raw).get k = ((resultOf raw).get k).map dropSignature := by
  have hk : k ≠ "metadata" := by
    rintro rfl
    exact absurd hname (by decide)
  rw [unsignedServiceAgentResult, get_dropSignature _ hk]
  exact (get_stripPayloads _ k).trans (if_pos hname)

variable (path : List String)

lemma pointer_unsigned_field (hk : k ≠ "metadata") (hname : k ∉ payloadNames) :
    (unsignedServiceAgentResult raw).pointer (k :: path) = (resultOf raw).pointer (k :: path) := by
  refine pointer_eq_of_get (unsigned_shape raw) ?_
  rw [get_unsigned_field raw hk hname]

lemma pointer_unsigned_payload {name : String} (hname : name ∈ payloadNames) (hk : k ≠ "metadata") :
    (unsignedServiceAgentResult raw).pointer (name :: k :: path)
      = (resultOf raw).pointer (name :: k :: path) := by
  refine pointer_eq_of_get (unsigned_shape raw) ?_
  rw [get_unsigned_payload raw hname]
  cases (resultOf raw).get name with
  | none => rfl
  | some payload => exact pointer_dropSignature payload path hk

/-! ## The copies the caller reads -/

/-- The fields of a response that come from the result. -/
structure Copies where
  status : String
  (taskId contextId message : Option String)
  output : Option JsonValue
  deriving DecidableEq

/-- The fields a caller goes on to read. -/
structure ReadFields where
  copies : Copies
  settlement : Option SettlementRequest
  paymentReceipt : Option JsonValue
  deriving DecidableEq

variable (response : ServiceNetInvokeResponse)

/-- The parsed copies of the result. -/
def ServiceNetInvokeResponse.copies : Copies where
  status := response.status
  taskId := response.taskId
  contextId := response.contextId
  message := response.message
  output := response.output

/-- What the caller reads. -/
def ServiceNetInvokeResponse.readFields : ReadFields where
  copies := response.copies
  settlement := response.settlement
  paymentReceipt := response.paymentReceipt

/-- The copies `build_direct_response` makes of a result. -/
def copiesOf : Copies where
  status := (((resultTask result).bind fun task => task.pointer ["status", "state"]).bind
    JsonValue.asStr).getD "MESSAGE_COMPLETED"
  taskId := ((resultTask result).bind fun task => task.get "id").bind JsonValue.asStr
  contextId := (((resultTask result).bind fun task => task.get "contextId").or
    ((result.get "message").bind fun message => message.get "contextId")).bind JsonValue.asStr
  message := responseText result
  output := responseOutput result

/-- The copies of a response are those of its own body. -/
def Copied : Prop :=
  response.copies = copiesOf (resultOf response.raw)

variable {request : ServiceNetInvokeRequest} {response : ServiceNetInvokeResponse}
  {agentId : String} {identity : JsonValue} {endpoints : Endpoints}

lemma buildDirectResponse_ok {raw : JsonValue}
    (h : buildDirectResponse crates agentId request raw = .ok response) :
    Copied response ∧ response.settlement = request.settlement
      ∧ response.paymentReceipt = none := by
  rw [buildDirectResponse, bind_eq_ok] at h
  obtain ⟨result, hresult, hok⟩ := h
  rw [okOr_eq_ok] at hresult
  cases hok
  have hraw : resultOf raw = result := by
    rw [resultOf, hresult]
    rfl
  refine ⟨?_, rfl, rfl⟩
  rw [Copied, hraw]
  rfl

/-- Reading a task where no payload is read does not see the signature. -/
lemma resultTask_unsigned {read : JsonValue → Option JsonValue}
    (hpayload : ∀ task, read (dropSignature task) = read task)
    (hresult : read (unsignedServiceAgentResult raw) = read (resultOf raw)) :
    (resultTask (unsignedServiceAgentResult raw)).bind read = (resultTask (resultOf raw)).bind read := by
  rw [resultTask, resultTask, get_unsigned_payload raw (k := "task") (by decide),
    get_unsigned_field raw (k := "id") (by decide) (by decide),
    get_unsigned_field raw (k := "status") (by decide) (by decide)]
  cases (resultOf raw).get "task" with
  | some task => exact hpayload task
  | none =>
    simp only [Option.map_none, Option.none_or]
    split
    · exact hresult
    · rfl

lemma resultTask_pointer_unsigned (hk : k ≠ "metadata") (hname : k ∉ payloadNames) :
    ((resultTask (unsignedServiceAgentResult raw)).bind fun task => task.pointer (k :: path))
      = (resultTask (resultOf raw)).bind fun task => task.pointer (k :: path) :=
  resultTask_unsigned raw (fun task => pointer_dropSignature task path hk)
    (pointer_unsigned_field raw path hk hname)

lemma resultTask_get_unsigned (hk : k ≠ "metadata") (hname : k ∉ payloadNames) :
    ((resultTask (unsignedServiceAgentResult raw)).bind fun task => task.get k)
      = (resultTask (resultOf raw)).bind fun task => task.get k :=
  resultTask_unsigned raw (fun task => get_dropSignature task hk) (get_unsigned_field raw hk hname)

lemma responseText_unsigned :
    responseText (unsignedServiceAgentResult raw) = responseText (resultOf raw) := by
  rw [responseText, responseText,
    pointer_unsigned_payload raw (k := "parts") [] (by decide : "message" ∈ payloadNames) (by decide),
    pointer_unsigned_payload raw (k := "messages") [] (by decide : "task" ∈ payloadNames) (by decide),
    pointer_unsigned_field raw (k := "history") [] (by decide) (by decide)]

lemma artifactOutput_unsigned :
    artifactOutput (unsignedServiceAgentResult raw) = artifactOutput (resultOf raw) := by
  rw [artifactOutput, artifactOutput,
    pointer_unsigned_payload raw (k := "artifacts") _ (by decide : "task" ∈ payloadNames)
      (by decide),
    pointer_unsigned_field raw (k := "artifacts") _ (by decide) (by decide)]

/-- The copies of a body are those of its signed result, except for the output. -/
lemma unsigned_read : copiesOf (resultOf raw) = { copiesOf (unsignedServiceAgentResult raw) with
          output := responseOutput (resultOf raw) } := by
  have hcontext : (((unsignedServiceAgentResult raw).get "message").bind
      fun message => message.get "contextId")
      = ((resultOf raw).get "message").bind fun message => message.get "contextId" := by
    rw [get_unsigned_payload raw (k := "message") (by decide)]
    cases (resultOf raw).get "message" with
    | none => rfl
    | some message => exact get_dropSignature message (by decide)
  rw [copiesOf, copiesOf,
    resultTask_pointer_unsigned raw (k := "status") _ (by decide) (by decide),
    resultTask_get_unsigned raw (k := "id") (by decide) (by decide),
    resultTask_get_unsigned raw (k := "contextId") (by decide) (by decide),
    responseText_unsigned, hcontext]

/-- Two bodies give the same output: both from an artifact, or both the same whole message. -/
def SameOutput (raw1 raw2 : JsonValue) : Prop :=
  (artifactOutput (resultOf raw1)).isSome = true
    ∨ (resultOf raw1).get "message" = (resultOf raw2).get "message"

instance (raw1 raw2 : JsonValue) : Decidable (SameOutput raw1 raw2) :=
  inferInstanceAs (Decidable (_ ∨ _))

/-- Bodies with the same signed result have the same copies exactly when they give the same
output. -/
lemma copiesOf_eq_iff {raw1 raw2 : JsonValue}
    (h : unsignedServiceAgentResult raw1 = unsignedServiceAgentResult raw2) :
    copiesOf (resultOf raw1) = copiesOf (resultOf raw2) ↔ SameOutput raw1 raw2 := by
  have hartifact : artifactOutput (resultOf raw1) = artifactOutput (resultOf raw2) := by
    rw [← artifactOutput_unsigned, ← artifactOutput_unsigned, h]
  have houtput : copiesOf (resultOf raw1) = copiesOf (resultOf raw2)
      ↔ responseOutput (resultOf raw1) = responseOutput (resultOf raw2) := by
    constructor
    · intro heq
      exact congrArg Copies.output heq
    · intro heq
      rw [unsigned_read raw1, unsigned_read raw2, h, heq]
  rw [houtput, responseOutput, responseOutput, SameOutput, hartifact]
  cases artifactOutput (resultOf raw2) with
  | none => simp
  | some output => simp

/-! ## Two responses with one signature -/

lemma invoke_verified {clock : Clock} {cache : NonceCache}
    (h : (invokeAgentWithIdentity crates clock cache agentId request identity endpoints).1
      = .ok response) : invokeResponse crates agentId request identity endpoints = .ok response
      ∧ ∃ s, response.serviceSignature = some s
          ∧ s.resultDigest = crates.digestOf (unsignedServiceAgentResult response.raw) := by
  rw [invokeAgentWithIdentity] at h
  split at h
  · cases h
  · rename_i answer hanswer
    dsimp only at h
    rw [verifyAndRecord] at h
    split at h
    · cases h
    · rename_i hverified
      have hsame : answer = response := by
        generalize (recordServiceResponseNonce clock.instant cache _).1 = verdict at h
        cases verdict with
        | error error => cases h
        | ok u => exact Except.ok.inj h
      subst hsame
      refine ⟨hanswer, ?_⟩
      rw [verifyServiceAgentInvokeResponse] at hverified
      split at hverified
      · cases hverified
      · rename_i s hs
        exact ⟨s, hs, (verifySignedResponse_timely hverified).2⟩

lemma direct_response (hdirect : usesWattetheriaDirect identity = true)
    (h : invokeResponse crates agentId request identity endpoints = .ok response) :
    Copied response ∧ response.settlement = request.settlement
      ∧ response.paymentReceipt = none := by
  rw [invokeResponse, if_pos hdirect, bind_eq_ok] at h
  obtain ⟨raw, -, h⟩ := h
  rw [bind_eq_ok] at h
  obtain ⟨body, -, h⟩ := h
  exact buildDirectResponse_ok h

/-- No collision of the hash and none of the canonical text between two values. -/
structure Distinguishes (crates : ServiceNetCrates) (v w : JsonValue) : Prop where
  sha256 : crates.sha256 (crates.canonicalBytes v) = crates.sha256 (crates.canonicalBytes w) →
    crates.canonicalBytes v = crates.canonicalBytes w
  canonical : canonicalText crates.canonicalNumbers v = canonicalText crates.canonicalNumbers w →
    v = w

lemma eq_of_digestOf_eq {v w : JsonValue} (hcrates : Distinguishes crates v w)
    (h : crates.digestOf v = crates.digestOf w) : v = w := by
  have hhash : crates.sha256 (crates.canonicalBytes v) = crates.sha256 (crates.canonicalBytes w) :=
    hexEncode_injective ((String.append_right_inj _).mp h)
  have htext : String.ofList (canonicalText crates.canonicalNumbers v)
      = String.ofList (canonicalText crates.canonicalNumbers w) :=
    asBytes_injective (hcrates.sha256 hhash)
  exact hcrates.canonical (String.ofList_injective htext)

lemma signed_result_eq {response1 response2 : ServiceNetInvokeResponse}
    {s1 s2 : ServiceAgentSignature} (h1 : response1.serviceSignature = some s1)
    (h2 : response2.serviceSignature = some s2)
    (hdigest1 : s1.resultDigest = crates.digestOf (unsignedServiceAgentResult response1.raw))
    (hdigest2 : s2.resultDigest = crates.digestOf (unsignedServiceAgentResult response2.raw))
    (hsame : response1.serviceSignature = response2.serviceSignature)
    (hcrates : Distinguishes crates (unsignedServiceAgentResult response1.raw)
      (unsignedServiceAgentResult response2.raw)) :
    unsignedServiceAgentResult response1.raw = unsignedServiceAgentResult response2.raw := by
  rw [h1, h2] at hsame
  cases hsame
  exact eq_of_digestOf_eq hcrates (hdigest1.symm.trans hdigest2)

lemma readFields_eq_iff {response1 response2 : ServiceNetInvokeResponse} :
    response1.readFields = response2.readFields
      ↔ response1.copies = response2.copies ∧ response1.settlement = response2.settlement
          ∧ response1.paymentReceipt = response2.paymentReceipt := by
  simp only [ServiceNetInvokeResponse.readFields, ReadFields.mk.injEq]

/-- A call of `invoke_agent_with_identity` under a record, with the response it accepts. -/
structure Accepted (crates : ServiceNetCrates) (identity : JsonValue) where
  clock : Clock
  cache : NonceCache
  agentId : String
  request : ServiceNetInvokeRequest
  endpoints : Endpoints
  response : ServiceNetInvokeResponse
  accepted : (invokeAgentWithIdentity crates clock cache agentId request identity endpoints).1
    = .ok response

/-- The responses carry one signature, and neither the hash nor the canonical text confuses the
results it is for. -/
structure SameSignature (a b : Accepted crates identity) : Prop where
  signature : a.response.serviceSignature = b.response.serviceSignature
  distinguishes : Distinguishes crates (unsignedServiceAgentResult a.response.raw)
    (unsignedServiceAgentResult b.response.raw)

/-- The requests ask for the same settlement, and the bodies give the same output. -/
def SameCall (a b : Accepted crates identity) : Prop :=
  a.request.settlement = b.request.settlement ∧ SameOutput a.response.raw b.response.raw

variable {a b : Accepted crates identity}

lemma SameSignature.result_eq (h : SameSignature a b) :
    unsignedServiceAgentResult a.response.raw = unsignedServiceAgentResult b.response.raw := by
  obtain ⟨-, s1, hs1, hdigest1⟩ := invoke_verified a.accepted
  obtain ⟨-, s2, hs2, hdigest2⟩ := invoke_verified b.accepted
  exact signed_result_eq hs1 hs2 hdigest1 hdigest2 h.signature h.distinguishes

/-- Under the record of a direct agent both responses are copies of the one signed result. -/
lemma direct_fields_agree (hdirect : usesWattetheriaDirect identity = true)
    (h : SameSignature a b) : a.response.readFields = b.response.readFields ↔ SameCall a b := by
  obtain ⟨hcopied1, hsettlement1, hreceipt1⟩ :=
    direct_response hdirect (invoke_verified a.accepted).1
  obtain ⟨hcopied2, hsettlement2, hreceipt2⟩ :=
    direct_response hdirect (invoke_verified b.accepted).1
  rw [readFields_eq_iff, hcopied1, hcopied2, copiesOf_eq_iff h.result_eq, hsettlement1,
    hsettlement2, hreceipt1, hreceipt2, SameCall]
  tauto

/-- The verification does not read the status. -/
lemma invoke_status (hrelay : usesWattetheriaDirect identity = false) (a : Accepted crates identity)
    (status : String) : (invokeAgentWithIdentity crates a.clock a.cache a.agentId a.request identity
        ⟨.ok { a.response with status }, a.endpoints.adapter⟩).1
      = .ok { a.response with status } := by
  have hverdict : (verifyAndRecord crates a.clock a.cache
      (invokeVerification a.request identity a.response)).1 = .ok () := by
    have haccepted := a.accepted
    rw [invokeAgentWithIdentity, (invoke_verified a.accepted).1] at haccepted
    dsimp only at haccepted
    cases hverify : (verifyAndRecord crates a.clock a.cache
        (invokeVerification a.request identity a.response)).1 with
    | error error =>
      rw [hverify] at haccepted
      cases haccepted
    | ok u => rfl
  rw [invokeAgentWithIdentity, invokeResponse, hrelay]
  exact congrArg (Except.map _) hverdict

/-- Under the record of a relayed agent the status of every accepted response can be another,
beside the same signature and the same body. -/
lemma altered_on_relay (hrelay : usesWattetheriaDirect identity = false)
    (a : Accepted crates identity) : ∃ b : Accepted crates identity, SameSignature a b
      ∧ SameCall a b ∧ a.response.readFields ≠ b.response.readFields := by
  refine ⟨⟨a.clock, a.cache, a.agentId, a.request, _, _,
    invoke_status hrelay a (a.response.status ++ "?")⟩, ⟨rfl, fun _ => rfl, fun _ => rfl⟩,
    ⟨rfl, .inr rfl⟩, ?_⟩
  intro h
  have hstatus : a.response.status = a.response.status ++ "?" :=
    congrArg (fun fields => fields.copies.status) h
  have hlength := congrArg String.length hstatus
  rw [String.length_append] at hlength
  exact absurd (Nat.left_eq_add.mp hlength) (by decide)

/-- **INTEGRITY**: for every published record and every response `a` accepted under it, the
fields the caller reads agree with those of every accepted response with the same signature,
for the same settlement and with the same output, exactly when the record is that of a direct
agent.  And there they agree in no other case. -/
theorem signed_fields_agree (identity : JsonValue) (a : Accepted crates identity) :
    ((∀ b : Accepted crates identity, SameSignature a b → SameCall a b →
          a.response.readFields = b.response.readFields)
        ↔ usesWattetheriaDirect identity = true)
      ∧ (usesWattetheriaDirect identity = true → ∀ b : Accepted crates identity,
          SameSignature a b →
            (a.response.readFields = b.response.readFields ↔ SameCall a b)) := by
  refine ⟨⟨fun hagree => ?_, fun hdirect b h => (direct_fields_agree hdirect h).mpr⟩,
    fun hdirect b => direct_fields_agree hdirect⟩
  by_contra hrelay
  obtain ⟨b, hsame, hcall, hne⟩ := altered_on_relay (Bool.eq_false_iff.mpr hrelay) a
  exact hne (hagree b hsame hcall)

/-! ## A small instance -/

/-- The record of `ride` when it is called directly. -/
def toyDirectAgent : JsonValue :=
  .object [("agent_id", .string "ride"),
    ("deployment", .object [("connection_mode", .string "wattetheria_direct")]),
    ("service_did", .string "did:key:zal")]

def toyResult : JsonValue :=
  .object [("task", .object [("id", .string "t-1"),
    ("status", .object [("state", .string "TASK_STATE_COMPLETED")])])]

variable (id : String)

/-- The body that carries the task and its signature under this id. -/
def toyBody : JsonValue :=
  .object
    [("extensions", .object [("service_agent_signature", .object
      [("protocol", .string serviceResponseSignatureProtocol),
       ("service_did", .string "did:key:zal"),
       ("agent_id", .string "ride"),
       ("verification_method", .string "did:key:zal#zal"),
       ("request_digest", .string ""),
       ("result_digest", .string (toyCrates.digestOf toyResult)),
       ("nonce", .string "n-1"),
       ("issued_at_ms", .number (.posInt 999999)),
       ("signature", .string "sig:al")])]),
     ("id", .string id),
     ("result", toyResult)]

def toyDirectResponse : ServiceNetInvokeResponse where
  agentId := "ride"
  status := "TASK_STATE_COMPLETED"
  receiptId := none
  taskId := some "t-1"
  contextId := none
  message := none
  output := none
  settlement := none
  paymentReceipt := none
  serviceSignature := serviceSignatureFromRaw toyCrates (toyBody id)
  raw := toyBody id

/-- `ride` is invoked at one million milliseconds. -/
def toyInvoke (identity : JsonValue) (endpoints : Endpoints) :
    Except String ServiceNetInvokeResponse × NonceCache :=
  invokeAgentWithIdentity toyCrates ⟨1000000, 0⟩ ∅ "ride" .default identity endpoints

lemma toyInvoke_ok (id : String) (h : id ∈ ["a", "b"]) :
    (toyInvoke toyDirectAgent ⟨.error "", .ok (toyBody id)⟩).1 = .ok (toyDirectResponse id) := by
  revert id
  decide +kernel

/-- The call that is answered with the body under this id. -/
def toyAccepted (h : id ∈ ["a", "b"]) : Accepted toyCrates toyDirectAgent :=
  ⟨_, _, _, _, _, _, toyInvoke_ok id h⟩

/-- Two bodies that differ outside the result are read alike. -/
theorem signed_fields_agree_direct : (toyDirectResponse "a").raw ≠ (toyDirectResponse "b").raw
      ∧ (toyDirectResponse "a").readFields = (toyDirectResponse "b").readFields := by
  have hsame : SameSignature (toyAccepted "a" (by decide)) (toyAccepted "b" (by decide)) :=
    ⟨by decide +kernel, fun _ => rfl, fun _ => rfl⟩
  refine ⟨by decide +kernel, ?_⟩
  exact ((signed_fields_agree toyDirectAgent (toyAccepted "a" (by decide))).2 (by decide +kernel)
    (toyAccepted "b" (by decide)) hsame).mpr ⟨rfl, by decide +kernel⟩

/-- The relay may write another status beside a body it leaves as it is. -/
theorem relayed_status_altered :
    (toyInvoke toyAgent ⟨.ok (toyResponse 999999), .error ""⟩).1 = .ok (toyResponse 999999)
      ∧ (toyInvoke toyAgent ⟨.ok { toyResponse 999999 with status := "failed" }, .error ""⟩).1
          = .ok { toyResponse 999999 with status := "failed" }
      ∧ (toyResponse 999999).readFields
          ≠ { toyResponse 999999 with status := "failed" }.readFields := by
  decide +kernel

end WattServiceNet
