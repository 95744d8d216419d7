import Wattetheria.RustText
import Wattetheria.KeyedStore

/-!
# The network mission claims

`NetworkMissionClaimRegistry` keeps what this node knows about missions other
nodes publish and local agents claim: one record per mission, task and agent.
A relayed notice names only the mission, so `update_status_by_mission` looks for
a record of it in key order.
-/

namespace WattClaims

open WattText WattKeyed

/-- `NetworkMissionClaimMetadata`, as far as it is read here. -/
structure NetworkMissionClaimMetadata where
  (publisherAgentDid taskStatus : Option String)

/-- A claim on another node's mission. -/
structure NetworkMissionClaimRecord where
  (missionId taskId agentDid executionId : String)
  claimedAt : Int
  status : Option String
  metadata : NetworkMissionClaimMetadata

/-- The registry: claims by key. -/
structure NetworkMissionClaimRegistry where
  claims : Std.ExtTreeMap String NetworkMissionClaimRecord

/-- The three trimmed ids, joined by colons. -/
def networkClaimKey (missionId taskId agentDid : String) : String :=
  s!"{trim missionId}:{trim taskId}:{trim agentDid}"

/-- What `update_status` and `update_status_by_mission` write. -/
def withStatus (status : String) (record : NetworkMissionClaimRecord) : NetworkMissionClaimRecord :=
  { record with
    status := some status
    metadata := { record.metadata with taskStatus := some status } }

/-- A record as it is serialized: the task status is skipped. -/
def skipTaskStatus (record : NetworkMissionClaimRecord) : NetworkMissionClaimRecord :=
  { record with metadata := { record.metadata with taskStatus := none } }

namespace NetworkMissionClaimRegistry

/-- `NetworkMissionClaimRegistry::default`. -/
def empty : NetworkMissionClaimRegistry := ⟨∅⟩

variable (registry : NetworkMissionClaimRegistry)

def get (key : String) : Option NetworkMissionClaimRecord :=
  registry.claims[key]?

/-- Records a claim, in place of one with its key. -/
def record (missionId taskId agentDid executionId : String) (status : Option String)
    (metadata : NetworkMissionClaimMetadata) (now : Int) : NetworkMissionClaimRegistry :=
  ⟨registry.claims.insert (networkClaimKey missionId taskId agentDid)
    { missionId, taskId, agentDid, executionId, claimedAt := now, status, metadata }⟩

variable (missionId : String)

/-- The first record of a mission in key order, with its key. -/
def findMission : Option (String × NetworkMissionClaimRecord) :=
  registry.claims.toList.find? fun entry => entry.2.missionId = missionId

def containsMission : Bool :=
  (registry.findMission (trim missionId)).isSome

/-- Sets the status of the mission's first record. -/
def updateStatusByMission (missionId status : String) :
    Option NetworkMissionClaimRecord × NetworkMissionClaimRegistry :=
  let missionId := trim missionId
  let status := trim status
  if isEmpty missionId || isEmpty status then (none, registry)
  else
    match registry.findMission missionId with
    | none => (none, registry)
    | some (key, record) =>
      let record := withStatus status record
      (some record, ⟨registry.claims.insert key record⟩)

/-- Sets the status of one record. -/
def updateStatus (missionId taskId agentDid status : String) :
    Option NetworkMissionClaimRecord × NetworkMissionClaimRegistry :=
  let status := trim status
  if isEmpty status then (none, registry)
  else
    let key := networkClaimKey missionId taskId agentDid
    match registry.get key with
    | none => (none, registry)
    | some record =>
      let record := withStatus status record
      (some record, ⟨registry.claims.insert key record⟩)

/-- The registry as it is stored. -/
def serialized : NetworkMissionClaimRegistry :=
  ⟨registry.claims.map fun _ record => skipTaskStatus record⟩

/-! ## What an update finds and leaves -/

variable {registry : NetworkMissionClaimRegistry} {missionId : String}
  {record : NetworkMissionClaimRecord}

lemma findMission_eq_some {key : String} (h : registry.findMission missionId = some (key, record)) :
    registry.get key = some record ∧ record.missionId = missionId := by
  refine ⟨Std.ExtTreeMap.mem_toList_iff_getElem?_eq_some.mp (List.mem_of_find?_eq_some h), ?_⟩
  simpa using List.find?_some h

lemma findMission_isSome : (registry.findMission missionId).isSome = true
      ↔ ∃ key record, registry.get key = some record ∧ record.missionId = missionId := by
  constructor
  · intro h
    obtain ⟨⟨key, record⟩, hfound⟩ := Option.isSome_iff_exists.mp h
    exact ⟨key, record, findMission_eq_some hfound⟩
  · rintro ⟨key, record, hget, hmission⟩
    rw [findMission, List.find?_isSome]
    exact ⟨(key, record), Std.ExtTreeMap.mem_toList_iff_getElem?_eq_some.mpr hget,
      decide_eq_true hmission⟩

lemma get_serialized (registry : NetworkMissionClaimRegistry) (key : String) :
    registry.serialized.get key = (registry.get key).map skipTaskStatus :=
  Std.ExtTreeMap.getElem?_map

/-- An update of a tracked mission rewrites the first record of it in key order. -/
lemma updateStatusByMission_found {status key : String}
    (hmission : isEmpty (trim missionId) = false) (hstatus : isEmpty (trim status) = false)
    (h : registry.findMission (trim missionId) = some (key, record)) :
    (registry.updateStatusByMission missionId status).1 = some (withStatus (trim status) record)
      ∧ ∀ key', (registry.updateStatusByMission missionId status).2.get key'
          = if key' = key then some (withStatus (trim status) record) else registry.get key' := by
  have hupdate : registry.updateStatusByMission missionId status
      = (some (withStatus (trim status) record),
          ⟨registry.claims.insert key (withStatus (trim status) record)⟩) := by
    simp only [updateStatusByMission, hmission, hstatus, h, Bool.or_self, Bool.false_eq_true,
      if_false]
  rw [hupdate]
  exact ⟨rfl, fun key' => getElem?_insert registry.claims key _ key'⟩

end NetworkMissionClaimRegistry

end WattClaims
