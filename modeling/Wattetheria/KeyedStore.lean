import Wattetheria.StepRuns

/-!
# Stores whose steps touch one record

A store maps keys to records and an operation reads and writes the record of
one key, its target.  `KeyedStep` bundles such a step function with the two
laws it obeys: under its target the step computes `effect`, elsewhere it
changes nothing.  Statements about the store reduce to statements about `effect`:
about every record (`forall_step`), about the record under one key earlier and later
(`Kept`), and about a run (`get_run`).
-/

namespace WattKeyed

open WattRuns

lemma compare_eq_iff {k k' : String} : compare k k' = .eq ↔ k' = k :=
  Std.LawfulEqCmp.compare_eq_iff_eq.trans eq_comm

/-- Lookup after an insertion into a map keyed by strings. -/
lemma getElem?_insert {V : Type} (m : Std.ExtTreeMap String V) (k : String) (v : V)
    (k' : String) : (m.insert k v)[k']? = if k' = k then some v else m[k']? := by
  simp only [Std.ExtTreeMap.getElem?_insert, compare_eq_iff]

/-- What holds of every entry holds after an insertion if it holds of the new one. -/
lemma forall_insert {V : Type} {m : Std.ExtTreeMap String V} {k : String} {v : V}
    {P : String → V → Prop} (h : ∀ k' v', m[k']? = some v' → P k' v') (hnew : P k v) :
    ∀ k' v', (m.insert k v)[k']? = some v' → P k' v' := by
  intro k' v' hget
  rw [getElem?_insert] at hget
  by_cases hk : k' = k
  · rw [if_pos hk] at hget
    cases hget
    exact hk ▸ hnew
  · rw [if_neg hk] at hget
    exact h k' v' hget

lemma getElem?_erase {V : Type} (m : Std.ExtTreeMap String V) (k k' : String) :
    (m.erase k)[k']? = if k' = k then none else m[k']? := by
  simp only [Std.ExtTreeMap.getElem?_erase, compare_eq_iff]

lemma insert_self {V : Type} {m : Std.ExtTreeMap String V} {k : String} {v : V}
    (h : m[k]? = some v) : m.insert k v = m := by
  refine Std.ExtTreeMap.ext_getElem? fun k' => ?_
  rw [getElem?_insert]
  by_cases hk : k' = k
  · rw [if_pos hk, hk, h]
  · rw [if_neg hk]

/-- A step function on a keyed store that touches only its target. -/
structure KeyedStep (S K V Op : Type) where
  step : S → Op → S
  get : S → K → Option V
  target : Op → K
  effect : Op → Option V → Option V
  get_target : ∀ s op, get (step s op) (target op) = effect op (get s (target op))
  get_frame : ∀ s op k, k ≠ target op → get (step s op) k = get s k

namespace KeyedStep

variable {S K V Op : Type} (M : KeyedStep S K V Op)

/-- Every stored record meets `P`. -/
def Forall (P : K → V → Prop) (s : S) : Prop :=
  ∀ k v, M.get s k = some v → P k v

/-- Every record of `s` is still there in `s'`, up to `R`. -/
def Kept (R : V → V → Prop) (s s' : S) : Prop :=
  ∀ k v, M.get s k = some v → ∃ v', M.get s' k = some v' ∧ R v v'

/-- An assertion about every record survives a step exactly when it holds of what
the step leaves under its target. -/
lemma forall_step {P : K → V → Prop} {s : S} (h : M.Forall P s) (op : Op) : M.Forall P (M.step s op)
      ↔ ∀ v, M.effect op (M.get s (M.target op)) = some v → P (M.target op) v := by
  constructor
  · intro hall v hv
    exact hall (M.target op) v (by rw [M.get_target, hv])
  · intro htarget k v hv
    by_cases hk : k = M.target op
    · subst hk
      exact htarget v (by rw [← M.get_target, hv])
    · exact h k v (by rw [← M.get_frame s op k hk, hv])

variable {R : V → V → Prop}

lemma kept_refl (hrefl : ∀ v, R v v) (s : S) : M.Kept R s s := by
  intro k v hv
  exact ⟨v, hv, hrefl v⟩

lemma kept_trans (htrans : ∀ {a b c}, R a b → R b c → R a c) {s t u : S} (hst : M.Kept R s t)
    (htu : M.Kept R t u) : M.Kept R s u := by
  intro k v hv
  obtain ⟨v', hv', hR⟩ := hst k v hv
  obtain ⟨v'', hv'', hR'⟩ := htu k v' hv'
  exact ⟨v'', hv'', htrans hR hR'⟩

/-- A step keeps the records up to a reflexive relation exactly when it keeps the
one it targets. -/
lemma kept_step_iff (hrefl : ∀ v, R v v) (s : S) (op : Op) : M.Kept R s (M.step s op)
      ↔ ∀ v, M.get s (M.target op) = some v → ∃ v', M.effect op (some v) = some v' ∧ R v v' := by
  constructor
  · intro h v hv
    obtain ⟨v', hv', hR⟩ := h (M.target op) v hv
    exact ⟨v', by rw [← hv, ← M.get_target, hv'], hR⟩
  · intro h k v hv
    by_cases hk : k = M.target op
    · subst hk
      obtain ⟨v', hv', hR⟩ := h v hv
      exact ⟨v', by rw [M.get_target, hv, hv'], hR⟩
    · exact ⟨v, by rw [M.get_frame s op k hk, hv], hrefl v⟩

/-- The record of a key after a run of operations that all target it. -/
lemma get_run {k : K} {ops : List Op} (h : ∀ op ∈ ops, M.target op = k) (s : S) :
    M.get (run M.step s ops) k = ops.foldl (fun held op => M.effect op held) (M.get s k) := by
  induction ops generalizing s with
  | nil => rfl
  | cons op rest ih =>
    have hop : M.target op = k := h op (List.mem_cons_self ..)
    rw [run_cons, ih (fun op' hop' => h op' (List.mem_cons_of_mem _ hop')), ← hop, M.get_target]
    rfl

/-- **RECORD HISTORIES**: a preorder relates what a run stores under a key earlier
and later exactly when every effect respects it. -/
lemma alwaysKept_iff (hrefl : ∀ v, R v v) (htrans : ∀ {a b c}, R a b → R b c → R a c) (s : S)
    (ops : List Op) : AlwaysRelated M.step (M.Kept R) s ops
      ↔ AllSteps M.step (fun s op => ∀ v, M.get s (M.target op) = some v →
          ∃ v', M.effect op (some v) = some v' ∧ R v v') s ops := by
  rw [related_iff_allSteps (M.kept_refl hrefl) (M.kept_trans (R := R) htrans)]
  exact allSteps_congr (W := fun _ _ => True)
    (fun s op _ => M.kept_step_iff hrefl s op) (allSteps_true s ops)

end KeyedStep

end WattKeyed
