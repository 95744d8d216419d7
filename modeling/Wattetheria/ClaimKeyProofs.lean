import Wattetheria.NetworkClaims

/-!
# The keys of the mission claims

The registry of claims is meant as a map from mission, task and agent, each up to surrounding
whitespace.  Its key joins the three trimmed texts with unescaped colons, so two claims may
share a record, and a record keeps its mission untrimmed while a lookup by mission trims what
it is asked for (`claims_confused`).  `claims_addressed_iff` says for which claims the registry
is the map meant.
-/

namespace WattClaimKeys

open WattText WattKeyed WattRuns WattClaims NetworkMissionClaimRegistry Option List

/-- The three ids of a claim. -/
structure ClaimId where
  (missionId taskId agentDid : String)
  deriving DecidableEq

namespace ClaimId

variable (id : ClaimId)

/-- The ids as the key sees them. -/
def trimmed : ClaimId := ⟨trim id.missionId, trim id.taskId, trim id.agentDid⟩

/-- The key of a claim. -/
abbrev key : String := networkClaimKey id.missionId id.taskId id.agentDid

lemma key_eq {id other : ClaimId} (h : id.trimmed = other.trimmed) : id.key = other.key := by
  obtain ⟨hmission, htask, hagent⟩ := ClaimId.mk.inj h
  rw [key, key, networkClaimKey, networkClaimKey, hmission, htask, hagent]

end ClaimId

/-- The ids a record states. -/
def idOf (record : NetworkMissionClaimRecord) : ClaimId :=
  ⟨record.missionId, record.taskId, record.agentDid⟩

/-- A call that writes the registry. -/
inductive ClaimCall where
  | record (id : ClaimId) (executionId : String) (status : Option String)
      (metadata : NetworkMissionClaimMetadata) (now : Int)
  | updateStatus (id : ClaimId) (status : String)
  | updateStatusByMission (missionId status : String)

namespace ClaimCall

/-- The claim a call names. -/
def id? : ClaimCall → Option ClaimId
  | record id .. | updateStatus id _ => some id
  | updateStatusByMission .. => none

def recorded? : ClaimCall → Option ClaimId
  | record id .. => some id
  | _ => none

/-- What a call makes of the record of the claim it names. -/
def change (old : Option NetworkMissionClaimRecord) : ClaimCall → Option NetworkMissionClaimRecord
  | record id executionId status metadata now =>
    some ⟨id.missionId, id.taskId, id.agentDid, executionId, now, status, metadata⟩
  | updateStatus _ status =>
    if isEmpty (trim status) then old else old.map (withStatus (trim status))
  | updateStatusByMission .. => old

end ClaimCall

variable (registry : NetworkMissionClaimRegistry)

/-- One call on the registry. -/
def step : ClaimCall → NetworkMissionClaimRegistry
  | .record id executionId status metadata now =>
    registry.record id.missionId id.taskId id.agentDid executionId status metadata now
  | .updateStatus id status =>
    (registry.updateStatus id.missionId id.taskId id.agentDid status).2
  | .updateStatusByMission missionId status => (registry.updateStatusByMission missionId status).2

/-- `get`; `contains` is whether it finds a record. -/
def lookup (id : ClaimId) : Option NetworkMissionClaimRecord := registry.get id.key

variable (used : Set ClaimId) (calls : List ClaimCall)

def recorded : List ClaimId := calls.filterMap ClaimCall.recorded?

/-- The registry is the map meant: a lookup finds the record of its claim, a claim is found if
it was recorded, a recorded mission is found, and a further call changes the record of its
claim alone. -/
structure Addressed : Prop where
  own : ∀ id ∈ used, ∀ record ∈ lookup registry id, (idOf record).trimmed = id.trimmed
  found : ∀ id ∈ used, (lookup registry id).isSome
    ↔ ∃ other ∈ recorded calls, other.trimmed = id.trimmed
  mission : ∀ id ∈ recorded calls, registry.containsMission id.missionId
  writes : ∀ call, ∀ id ∈ call.id?, id ∈ used → ∀ other ∈ used,
    lookup (step registry call) other = if other.trimmed = id.trimmed
      then call.change (lookup registry other) else lookup registry other

variable {registry used calls} {id : ClaimId}

/-- A call writes the record under the key of its claim. -/
lemma get_step (call : ClaimCall) (hid : id ∈ call.id?) (key : String) :
    (step registry call).get key
      = if key = id.key then call.change (registry.get key) else registry.get key := by
  cases call with
  | record =>
    cases hid
    exact getElem?_insert ..
  | updateStatus other status =>
    obtain rfl : other = id := some.inj hid
    cases hstatus : isEmpty (trim status) with
    | true => simp only [step, updateStatus, ClaimCall.change, hstatus, if_true, ite_self]
    | false =>
      simp only [step, updateStatus, ClaimCall.change, hstatus, Bool.false_eq_true, if_false]
      cases hget : registry.get other.key with
      | none =>
        by_cases hkey : key = other.key
        · rw [if_pos hkey, hkey, hget, map_none]
        · rw [if_neg hkey]
      | some old =>
        refine (getElem?_insert ..).trans ?_
        by_cases hkey : key = other.key
        · rw [if_pos hkey, if_pos hkey, hkey, hget, map_some]
        · rw [if_neg hkey, if_neg hkey, NetworkMissionClaimRegistry.get]
  | updateStatusByMission => cases hid

lemma idOf_change (call : ClaimCall) (old : Option NetworkMissionClaimRecord) :
    (call.change old).map idOf = call.recorded?.or (old.map idOf) := by
  cases call with
  | record | updateStatusByMission => rfl
  | updateStatus =>
    rw [ClaimCall.change]
    split
    · rfl
    · exact map_map ..

/-- A record names the claim last recorded under its key. -/
lemma idOf_get (calls : List ClaimCall) (key : String) : ((run step .empty calls).get key).map idOf
      = (recorded calls).reverse.find? fun id => id.key = key := by
  induction calls using List.reverseRecOn with
  | nil => rfl
  | append_singleton calls call ih =>
    rw [run_snoc, recorded, filterMap_append, reverse_append, List.find?_append]
    rw [recorded] at ih
    rw [← ih]
    generalize run step .empty calls = registry
    cases call with
    | record id =>
      rw [get_step _ rfl, apply_ite (Option.map idOf), idOf_change]
      show _ = ([id].find? _).or _
      rw [List.find?_singleton]
      by_cases hkey : key = id.key
      · rw [if_pos hkey, if_pos (decide_eq_true hkey.symm)]
        rfl
      · rw [if_neg hkey, if_neg (by simpa using Ne.symm hkey)]
        rfl
    | updateStatus id status =>
      rw [get_step _ rfl, apply_ite (Option.map idOf), idOf_change]
      exact ite_self _
    | updateStatusByMission missionId status =>
      simp only [step, updateStatusByMission]
      cases hfound : registry.findMission (trim missionId) with
      | none =>
        rw [ite_self]
        rfl
      | some entry =>
        rw [apply_ite Prod.snd]
        split
        · rfl
        · refine (congrArg _ (getElem?_insert ..)).trans ?_
          split
          · rw [‹key = _›, (findMission_eq_some hfound).1]
            rfl
          · rfl

section
variable {key : String} {record : NetworkMissionClaimRecord}

lemma recorded_of_get (h : (run step .empty calls).get key = some record) :
    idOf record ∈ recorded calls ∧ (idOf record).key = key := by
  have hfind := idOf_get calls key
  rw [h, map_some, eq_comm] at hfind
  refine ⟨mem_reverse.mp (mem_of_find?_eq_some hfind), ?_⟩
  simpa using List.find?_some hfind

lemma get_of_recorded (h : id ∈ recorded calls) :
    ∃ record, (run step .empty calls).get id.key = some record := by
  rw [← isSome_iff_exists, ← isSome_map, idOf_get, List.find?_isSome]
  exact ⟨id, mem_reverse.mpr h, decide_eq_true rfl⟩

end

/-- Over a set of claims every run keeps the map meant exactly when no two of them that differ
share a key and none has whitespace around its mission. -/
theorem claims_addressed_iff (used : Set ClaimId) : (∀ calls, (∀ id ∈ recorded calls, id ∈ used) →
        Addressed (run step .empty calls) used calls)
      ↔ (∀ id ∈ used, ∀ other ∈ used, id.key = other.key → id.trimmed = other.trimmed)
        ∧ ∀ id ∈ used, trim id.missionId = id.missionId := by
  constructor
  · intro haddressed
    -- a run that records one claim is enough for either half
    let only (id : ClaimId) : List ClaimCall := [.record id "" none ⟨none, none⟩ 0]
    have hused : ∀ id ∈ used, Addressed (run step .empty (only id)) used (only id) :=
      fun id hid => haddressed (only id) fun other hother => mem_singleton.mp hother ▸ hid
    have hone : ∀ {id key record}, (run step .empty (only id)).get key = some record →
        idOf record = id := fun hget => mem_singleton.mp (recorded_of_get hget).1
    refine ⟨fun id hid other hother hkey => ?_, fun id hid => ?_⟩
    · obtain ⟨record, hget⟩ := @get_of_recorded (only id) id (mem_singleton_self id)
      rw [← hone hget]
      exact (hused id hid).own other hother record (by rwa [lookup, ← hkey])
    · obtain ⟨key, record, hget, hmission⟩ :=
        findMission_isSome.mp ((hused id hid).mission id (mem_singleton_self id))
      rw [← hmission, ← hone hget]
      rfl
  · rintro ⟨hapart, hmissions⟩ calls hused
    have hown : ∀ id ∈ used, ∀ record ∈ lookup (run step .empty calls) id,
        (idOf record).trimmed = id.trimmed := by
      intro id hid record hget
      obtain ⟨hmem, hkey⟩ := recorded_of_get hget
      exact hapart _ (hused _ hmem) id hid hkey
    refine ⟨hown, fun id hid => ⟨fun hsome => ?_, ?_⟩, fun id hid => ?_, ?_⟩
    · obtain ⟨record, hget⟩ := isSome_iff_exists.mp hsome
      exact ⟨_, (recorded_of_get hget).1, hown id hid record hget⟩
    · rintro ⟨other, hother, hsame⟩
      rw [lookup, ← ClaimId.key_eq hsame, isSome_iff_exists]
      exact get_of_recorded hother
    · obtain ⟨record, hget⟩ := get_of_recorded hid
      have hsame := hown id (hused id hid) record hget
      refine findMission_isSome.mpr ⟨_, record, hget, ?_⟩
      exact (hmissions _ (hused _ (recorded_of_get hget).1)).symm.trans (ClaimId.mk.inj hsame).1
    · intro call id hid hin other hother
      refine (get_step call hid other.key).trans (if_congr ⟨?_, ClaimId.key_eq⟩ rfl rfl)
      exact hapart other hother id hin

/-- A claim is taken for another whose parts are joined to the same key, and a mission
recorded with whitespace around it is not found again. -/
theorem claims_confused :
    let registry := run step .empty
      [.record ⟨"m:t", "u", "alice"⟩ "" none ⟨none, none⟩ 0,
        .record ⟨" n ", "t", "alice"⟩ "" none ⟨none, none⟩ 0]
    (lookup registry ⟨"m", "t:u", "alice"⟩).map (·.missionId) = some "m:t"
      ∧ registry.containsMission " n " = false := by
  decide +kernel

end WattClaimKeys
