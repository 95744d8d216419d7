import Wattetheria.KeyedStore
import Wattetheria.RustText

/-!
# The ids of the hives

`topic_id_for` joins the parts of a hive's name with `@` and escapes nothing, so a board
channel whose feed key holds an `@` takes the id of another (`hives_confused`).  Names
without one never meet (`hives_kept_apart`).
-/

namespace WattHives

open WattText WattKeyed WattRuns List

/-- The parts of a hive's name. -/
structure HiveName where
  networkId : Option String
  (feedKey scopeHint : String)

def normalizedNetworkId (value : Option String) : Option String :=
  (value.map trim).filter fun value => !isEmpty value

/-- The id of a hive. -/
def HiveName.topicIdFor (name : HiveName) : String :=
  match normalizedNetworkId name.networkId with
  | some networkId => networkId ++ "@" ++ trim name.feedKey ++ "@" ++ trim name.scopeHint
  | none => trim name.feedKey ++ "@" ++ trim name.scopeHint

/-- What a name is after trimming. -/
def HiveName.parts (name : HiveName) : List String :=
  (normalizedNetworkId name.networkId).toList ++ [trim name.feedKey, trim name.scopeHint]

/-- No part holds an `@`. -/
def HiveName.Plain (name : HiveName) : Prop :=
  ∀ part ∈ name.parts, '@' ∉ part.toList

/-- `details` stands for the fields that are only carried. -/
structure TopicCreateSpec (δ : Type) extends HiveName where
  details : δ

/-- A stored hive. -/
structure HiveProfile (δ : Type) extends TopicCreateSpec δ where
  topicId : String
  (createdAt updatedAt : Int)

/-- The hives by id. -/
abbrev HiveRegistry (δ : Type) := Std.ExtTreeMap String (HiveProfile δ)

variable {δ : Type} (hives : HiveRegistry δ)

/-- Stores a hive, keeping its creation time. -/
def upsertHive (spec : TopicCreateSpec δ) (now : Int) : HiveProfile δ × HiveRegistry δ :=
  let topicId := spec.topicIdFor
  let createdAt := (hives[topicId]?.map (·.createdAt)).getD now
  let profile := { spec with topicId, createdAt, updatedAt := now }
  (profile, hives.insert topicId profile)

/-- Removes a hive. -/
def removeHive (topicId : String) : Option (HiveProfile δ) × HiveRegistry δ :=
  (hives[topicId]?, hives.erase topicId)

/-- A hive is removed by the id of its name. -/
inductive HiveCall (δ : Type) where
  | upsertHive (spec : TopicCreateSpec δ) (now : Int)
  | removeHive (name : HiveName)

def HiveCall.name : HiveCall δ → HiveName
  | upsertHive spec _ => spec.toHiveName
  | removeHive name => name

def step : HiveCall δ → HiveRegistry δ
  | .upsertHive spec now => (upsertHive hives spec now).2
  | .removeHive name => (removeHive hives name.topicIdFor).2

lemma splitOn_topicIdFor {name : HiveName} (h : name.Plain) :
    name.topicIdFor.toList.splitOn '@' = name.parts.map String.toList := by
  have hparts : ∀ part ∈ name.parts, ∀ c ∈ part.toList, (c == '@') = false :=
    fun part hpart c hc => beq_eq_false_iff_ne.mpr fun hat => h part hpart (hat ▸ hc)
  unfold HiveName.parts at hparts ⊢
  unfold HiveName.topicIdFor
  cases hnetwork : normalizedNetworkId name.networkId <;>
    simp_all [splitOn, splitOnP_append_cons_of_forall_mem, splitOnP_eq_singleton]

/-- The ids of plain names tell them apart. -/
lemma parts_eq {a b : HiveName} (ha : a.Plain) (hb : b.Plain)
    (h : a.topicIdFor = b.topicIdFor) : a.parts = b.parts := by
  have hparts := splitOn_topicIdFor ha
  rw [h, splitOn_topicIdFor hb] at hparts
  exact ((map_inj_right fun _ _ => String.toList_injective).mp hparts).symm

/-- Every hive is stored under the id of its name, which is plain. -/
def Filed (hives : HiveRegistry δ) : Prop :=
  ∀ (key : String) (hive : HiveProfile δ), hives[key]? = some hive → key = hive.topicIdFor ∧ hive.Plain

lemma Filed.step {call : HiveCall δ} (h : Filed hives) (hplain : call.name.Plain) :
    Filed (step hives call) := by
  cases call with
  | upsertHive => exact forall_insert h ⟨rfl, hplain⟩
  | removeHive =>
    intro key hive hget
    exact h key hive (Option.ite_none_left_eq_some.mp ((getElem?_erase ..).symm.trans hget)).2

/-- Keeps every hive of another name. -/
def KeepsOthers (hives : HiveRegistry δ) (call : HiveCall δ) : Prop :=
  ∀ (key : String) (hive : HiveProfile δ), hives[key]? = some hive → call.name.parts ≠ hive.parts →
    (step hives call)[key]? = some hive

lemma keepsOthers {call : HiveCall δ} (h : Filed hives) (hplain : call.name.Plain) :
    KeepsOthers hives call := by
  intro key hive hget hname
  obtain ⟨hkey, hhive⟩ := h key hive hget
  have hne : key ≠ call.name.topicIdFor :=
    fun hid => hname (parts_eq hplain hhive (hid.symm.trans hkey))
  cases call with
  | upsertHive => exact (getElem?_insert ..).trans ((if_neg hne).trans hget)
  | removeHive => exact (getElem?_erase ..).trans ((if_neg hne).trans hget)

/-- Plain names have ids of their own, and in a run of calls for them a hive is replaced or
removed by a call for its own name only. -/
theorem hives_kept_apart (calls : List (HiveCall δ)) (hplain : ∀ call ∈ calls, call.name.Plain) :
    (∀ a b : HiveName, a.Plain → b.Plain → a.topicIdFor = b.topicIdFor → a.parts = b.parts)
      ∧ AllSteps step KeepsOthers ∅ calls :=
  ⟨fun _ _ => parts_eq, allSteps_of_inv (P := Filed) (fun hives _ => Filed.step hives)
    keepsOthers (fun _ _ h => by simp at h) (allSteps_of_forall hplain ∅)⟩

def board (feedKey scopeHint : String) : TopicCreateSpec Unit :=
  ⟨⟨some "n", feedKey, scopeHint⟩, ()⟩

theorem hives_kept_apart_boards :
    AllSteps step KeepsOthers ∅ [.upsertHive (board "f" "s") 1, .removeHive (board "f" "t").1] :=
  (hives_kept_apart _ (by unfold HiveName.Plain; decide +kernel)).2

theorem hives_confused : (board "f@g" "s").topicIdFor = (board "f" "g@s").topicIdFor
    ∧ (board "f@g" "s").parts ≠ (board "f" "g@s").parts
    ∧ (run step ∅ [.upsertHive (board "f@g" "s") 1, .removeHive (board "f" "g@s").1]).isEmpty := by
  decide +kernel

end WattHives
