import Wattetheria.GovernanceStepProofs
import Wattetheria.WrappingInt

/-!
# Rotation of validators

`rotate_validators` keeps the validators with a fresh heartbeat and fills up with candidates
to three.  It looks at the size of the set after each candidate and never before the first,
so a full set grows by one (`full_set_grows`).  The age of a heartbeat is computed in `i64`: a
timestamp too far from the clock is told wrong, and `RotatesRight` says when that does no harm.
-/

namespace WattRotate

open WattInt64 WattGovernance GovernanceEngine Finset

variable {validators : Finset String} {pool : List String}

lemma admitCandidates_cons (candidate : String) : admitCandidates (candidate :: pool) validators
      = if 3 ≤ (insert candidate validators).card then insert candidate validators
        else admitCandidates pool (insert candidate validators) := by
  rw [admitCandidates]
  by_cases hmem : candidate ∈ validators
  · simp [hmem, ne_empty_of_mem hmem]
  · simp [hmem]

lemma subset_admitCandidates : validators ⊆ admitCandidates pool validators := by
  induction pool generalizing validators with
  | nil => exact Finset.Subset.refl _
  | cons candidate pool ih =>
    rw [admitCandidates_cons]
    split
    · exact subset_insert _ _
    · exact (subset_insert _ _).trans ih

lemma mem_of_mem_admitCandidates {agent : String} (h : agent ∈ admitCandidates pool validators) :
    agent ∈ validators ∨ agent ∈ pool := by
  induction pool generalizing validators with
  | nil => exact .inl h
  | cons candidate pool ih =>
    have hfirst : agent ∈ insert candidate validators ∨ agent ∈ pool := by
      rw [admitCandidates_cons] at h
      split at h
      · exact .inl h
      · exact ih h
    rw [mem_insert] at hfirst
    rw [List.mem_cons]
    tauto

lemma card_admitCandidates (h : validators.card < 3) :
    (admitCandidates pool validators).card ≤ 3 := by
  induction pool generalizing validators with
  | nil => exact h.le
  | cons candidate pool ih =>
    have hgrown := card_insert_le candidate validators
    rw [admitCandidates_cons]
    split
    · omega
    · exact ih (by omega)

/-- The set once the first candidate is in. -/
def withFirst (pool : List String) (validators : Finset String) : Finset String :=
  pool.head?.elim validators (insert · validators)

/-- A full set takes the first candidate and no other. -/
lemma admitCandidates_full (h : 3 ≤ validators.card) :
    admitCandidates pool validators = withFirst pool validators := by
  cases pool with
  | nil => rfl
  | cons candidate pool =>
    have hgrown := card_le_card (subset_insert candidate validators)
    rw [admitCandidates_cons, if_pos (h.trans hgrown)]
    rfl

/-- The candidate is the first, or the set has room when its turn comes. -/
def InTurn (pool : List String) (validators : Finset String) (candidate : String) : Prop :=
  candidate ∈ pool ∧ (candidate ∈ pool.head?
    ∨ (validators ∪ (pool.takeWhile (· ≠ candidate)).toFinset).card < 3)

/-- An agent that is not in the set joins it exactly when it is a candidate in turn. -/
lemma mem_admitCandidates_iff {agent : String} (h : agent ∉ validators) :
    agent ∈ admitCandidates pool validators ↔ InTurn pool validators agent := by
  induction pool generalizing validators with
  | nil => simp [admitCandidates, InTurn, h]
  | cons candidate pool ih =>
    rw [admitCandidates_cons]
    by_cases hfirst : candidate = agent
    · subst hfirst
      have hin : candidate ∈ insert candidate validators := mem_insert_self _ _
      have hturn : InTurn (candidate :: pool) validators candidate := ⟨List.mem_cons_self, .inl rfl⟩
      refine iff_of_true ?_ hturn
      split
      · exact hin
      · exact subset_admitCandidates hin
    · have hnew : agent ∉ insert candidate validators := by
        simpa [Ne.symm hfirst] using h
      have hturn : InTurn (candidate :: pool) validators agent ↔ agent ∈ pool
          ∧ (insert candidate validators ∪ (pool.takeWhile (· ≠ agent)).toFinset).card < 3 := by
        simp [InTurn, hfirst, Ne.symm hfirst, insert_union]
      rw [hturn]
      split
      · next hfull =>
          refine iff_of_false hnew fun hroom => ?_
          have hgrown : (insert candidate validators).card
              ≤ (insert candidate validators ∪ (pool.takeWhile (· ≠ agent)).toFinset).card :=
            card_le_card subset_union_left
          omega
      · next hroom =>
          rw [ih hnew]
          refine and_congr_right fun _ => or_iff_right_of_imp fun hhead => ?_
          -- nothing stands before the first candidate
          cases pool with
          | nil => cases hhead
          | cons next pool =>
            cases hhead
            simpa using hroom

/-- The fresh validators stay, only candidates join them and only up to three, and the set
is not left empty without need. -/
structure Rotated (fresh : Finset String) (pool : List String) (next : Finset String) : Prop where
  keeps : fresh ⊆ next
  adds : ∀ agent ∈ next, agent ∈ fresh ∨ agent ∈ pool
  room : next = fresh ∨ next.card ≤ 3
  nonempty : fresh.Nonempty ∨ pool ≠ [] → next.Nonempty

/-- When a rotation that takes `kept` for the fresh validators does right by those that are. -/
structure RotatesRight (fresh kept : Finset String) (pool : List String) : Prop where
  /-- a stale validator that is taken for fresh is a candidate -/
  stale : ∀ agent ∈ kept, agent ∉ fresh → agent ∈ pool
  /-- a fresh one that is taken for stale comes back as a candidate -/
  missed : ∀ agent ∈ fresh, agent ∉ kept → InTurn pool kept agent
  /-- and a full set does not grow by the first candidate -/
  room : 3 ≤ kept.card → withFirst pool kept = fresh ∨ (withFirst pool kept).card ≤ 3

/-- What the loop leaves is a rotation exactly under this condition. -/
lemma rotated_iff {fresh kept : Finset String} :
    Rotated fresh pool (admitCandidates pool kept) ↔ RotatesRight fresh kept pool := by
  constructor
  · intro h
    refine ⟨fun agent hkept hstale => ?_, fun agent hfresh hmissed => ?_, fun hfull => ?_⟩
    · exact (h.adds agent (subset_admitCandidates hkept)).resolve_left hstale
    · exact (mem_admitCandidates_iff hmissed).mp (h.keeps hfresh)
    · rw [← admitCandidates_full hfull]
      exact h.room
  · intro h
    have hkeeps : fresh ⊆ admitCandidates pool kept := by
      intro agent hfresh
      by_cases hkept : agent ∈ kept
      · exact subset_admitCandidates hkept
      · exact (mem_admitCandidates_iff hkept).mpr (h.missed agent hfresh hkept)
    refine ⟨hkeeps, fun agent hnext => ?_, ?_, ?_⟩
    · by_cases hfresh : agent ∈ fresh
      · exact .inl hfresh
      · exact .inr ((mem_of_mem_admitCandidates hnext).elim
          (fun hkept => h.stale agent hkept hfresh) id)
    · by_cases hfull : 3 ≤ kept.card
      · rw [admitCandidates_full hfull]
        exact h.room hfull
      · exact .inr (card_admitCandidates (by omega))
    · rintro (hfresh | hpool)
      · exact hfresh.mono hkeeps
      · obtain ⟨candidate, pool, rfl⟩ := List.exists_cons_of_ne_nil hpool
        refine ⟨candidate, ?_⟩
        rw [admitCandidates_cons]
        split
        · exact mem_insert_self _ _
        · exact subset_admitCandidates (mem_insert_self _ _)

/-- The validators of a planet whose heartbeat is at most `staleAfterSec` seconds old, in exact
integers. -/
def freshOf (heartbeats : Std.ExtTreeMap String Int64) (now staleAfterSec : Int64)
    (planet : SubnetPlanet) : Finset String :=
  planet.validators.filter fun validator => ∃ ts ∈ heartbeats[validator]?,
    now.toInt - ts.toInt ≤ staleAfterSec.toInt

/-- The validators `retain` keeps, whose age is computed in `i64`. -/
def keptOf (heartbeats : Std.ExtTreeMap String Int64) (now staleAfterSec : Int64)
    (planet : SubnetPlanet) : Finset String :=
  planet.validators.filter fun validator => isFresh heartbeats now staleAfterSec validator = true

/-- Ages within `i64` are told right, and then only a full set can go wrong. -/
lemma rotatesRight_of_fits {heartbeats : Std.ExtTreeMap String Int64} {now staleAfterSec : Int64}
    {planet : SubnetPlanet} (h : ∀ validator ∈ planet.validators,
      ∀ ts ∈ heartbeats.get? validator, Fits (now.toInt - ts.toInt)) :
    RotatesRight (freshOf heartbeats now staleAfterSec planet)
        (keptOf heartbeats now staleAfterSec planet) pool
      ↔ (3 ≤ (freshOf heartbeats now staleAfterSec planet).card →
        ∀ candidate ∈ pool.head?, candidate ∈ freshOf heartbeats now staleAfterSec planet) := by
  have hsame : keptOf heartbeats now staleAfterSec planet
      = freshOf heartbeats now staleAfterSec planet := by
    refine filter_congr fun validator hmem => ?_
    rw [isFresh, Option.any_eq_true]
    refine exists_congr fun ts => and_congr_right fun hts => ?_
    rw [decide_eq_true_eq, le_iff, toInt_sub_eq_iff.mpr (h validator hmem ts hts)]
  rw [hsame]
  generalize freshOf heartbeats now staleAfterSec planet = fresh
  constructor
  · intro h hfull candidate hfirst
    have hroom := h.room hfull
    rw [withFirst, Option.mem_def.mp hfirst, Option.elim_some] at hroom
    by_contra hmem
    rcases hroom with hsame | hcard
    · exact hmem (insert_eq_self.mp hsame)
    · rw [card_insert_of_notMem hmem] at hcard
      omega
  · intro h
    refine ⟨fun _ hmem hnot => absurd hmem hnot, fun _ hmem hnot => absurd hmem hnot,
      fun hfull => .inl ?_⟩
    rw [withFirst]
    cases hfirst : pool.head? with
    | none => rfl
    | some candidate => exact insert_eq_self.mpr (h hfull candidate hfirst)

/-- **ROTATION**: a rotation that succeeds does right by the fresh validators exactly under
`RotatesRight`, a condition on the validators, their heartbeats and the candidates.  Where the
ages of the validators fit `i64` it says that fewer than three are fresh, or that the first
candidate is one of them. -/
theorem rotation_exact_iff (engine : GovernanceEngine) (subnetId : String) (now : Int64)
    {staleAfterSec : Int64} {pool : List String} {validators : List String}
    (h : (engine.rotateValidators subnetId staleAfterSec pool now).1 = .ok validators) :
    ∃ planet next, engine.planets[subnetId]? = some planet
      ∧ (engine.rotateValidators subnetId staleAfterSec pool now).2.planets[subnetId]?
          = some { planet with validators := next }
      ∧ validators = next.sort (· ≤ ·)
      ∧ let heartbeats := engine.validatorHeartbeats[subnetId]?.getD ∅
        let fresh := freshOf heartbeats now staleAfterSec planet
        (Rotated fresh pool next
            ↔ RotatesRight fresh (keptOf heartbeats now staleAfterSec planet) pool)
          ∧ ((∀ validator ∈ planet.validators, ∀ ts ∈ heartbeats.get? validator,
              Fits (now.toInt - ts.toInt)) →
            (Rotated fresh pool next
              ↔ (3 ≤ fresh.card → ∀ candidate ∈ pool.head?, candidate ∈ fresh))) := by
  rcases withPlanet_cases { engine with
      validatorHeartbeats := engine.validatorHeartbeats.insert subnetId
        (engine.validatorHeartbeats[subnetId]?.getD ∅) }
      subnetId "subnet not found for rotation" _ with
    ⟨text, herror, -⟩ | ⟨planet, _, hplanet, hbody, hok⟩
  · rw [rotateValidators, herror] at h
    cases h
  · cases hbody
    rw [rotateValidators, hok] at h ⊢
    refine ⟨planet, _, hplanet, ?_, (Except.ok.inj h).symm, rotated_iff, fun hfits => ?_⟩
    · rw [planets_putPlanet, if_pos rfl]
    · exact rotated_iff.trans (rotatesRight_of_fits hfits)

/-- A planet with one validator, and no heartbeat yet. -/
def silent : GovernanceEngine :=
  ⟨∅, ∅, (∅ : Std.ExtTreeMap String SubnetPlanet).insert "p-1" (genesis (toyRequest 1) {"bob"}), ∅, ∅⟩

/-- The silent validator goes and the candidate comes. -/
theorem rotation_exact_silent : (silent.rotateValidators "p-1" 60 ["dave"] 200).1 = .ok ["dave"]
    ∧ ∃ next, Rotated ∅ ["dave"] next ∧ ["dave"] = next.sort (· ≤ ·) := by
  have h : (silent.rotateValidators "p-1" 60 ["dave"] 200).1 = .ok ["dave"] := by decide +kernel
  obtain ⟨planet, next, hplanet, -, hnext, hrotated, -⟩ := rotation_exact_iff silent "p-1" 200 h
  have hfresh : freshOf (silent.validatorHeartbeats["p-1"]?.getD ∅) 200 60 planet = ∅ := by
    simp [freshOf, silent]
  have hkept : keptOf (silent.validatorHeartbeats["p-1"]?.getD ∅) 200 60 planet = ∅ := by
    simp [keptOf, isFresh, silent]
  rw [hfresh, hkept] at hrotated
  exact ⟨h, next, hrotated.mpr ⟨by simp, by simp, by simp⟩, hnext⟩

/-- Three validators were heard of a minute ago; a candidate joins them all the same. -/
theorem full_set_grows : ((WattRuns.run (step toyCrates) .empty
        (toyGenesis [⟨"bob", "sig:bob"⟩, ⟨"carol", "sig:carol"⟩, ⟨"erin", "sig:erin"⟩] ++
          [.recordValidatorHeartbeat "p-1" "bob" 140, .recordValidatorHeartbeat "p-1" "carol" 140,
            .recordValidatorHeartbeat "p-1" "erin" 140,
            .rotateValidators "p-1" 60 ["dave"] 200])).planets["p-1"]?).map SubnetPlanet.validators
      = some {"bob", "carol", "dave", "erin"} := by
  decide +kernel

end WattRotate
