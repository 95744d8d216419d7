import Mathlib

/-!
# Runs of a step function

A sequential component is a state type with a step function; a run is a list
of operations applied in order.

* `AllSteps ok s ops` — each step of the run meets `ok` in the state it is taken in;
* `inv_run` — an invariant that every admissible step keeps holds at the end;
* `always_iff_allSteps`, `related_iff_allSteps` — if one step stays good, or related to the
  state before it, exactly when it meets `ok`, then so does the whole run;
* `EachAfter P log` — every entry of a history is right after those before it.
-/

namespace WattRuns

variable {S Op : Type} {step : S → Op → S}

/-- The state after some operations. -/
def run (step : S → Op → S) : S → List Op → S
  | s, [] => s
  | s, op :: ops => run step (step s op) ops

/-- Every step of the run meets `ok` in the state it is taken in. -/
def AllSteps (step : S → Op → S) (ok : S → Op → Prop) : S → List Op → Prop
  | _, [] => True
  | s, op :: ops => ok s op ∧ AllSteps step ok (step s op) ops

/-- Every state the run passes through, the first and the last included, meets
`P`. -/
def Always (step : S → Op → S) (P : S → Prop) (s : S) (ops : List Op) : Prop :=
  ∀ pre post, ops = pre ++ post → P (run step s pre)

/-- Any earlier state of the run is related to any later one. -/
def AlwaysRelated (step : S → Op → S) (R : S → S → Prop) (s : S) (ops : List Op) : Prop :=
  ∀ pre mid post, ops = pre ++ mid ++ post → R (run step s pre) (run step (run step s pre) mid)

/-- As long as every step is taken under `C`, an earlier state of the run is related
to a later one. -/
def AlwaysWhile (step : S → Op → S) (C : S → Op → Prop) (R : S → S → Prop) (s : S)
    (ops : List Op) : Prop :=
  ∀ pre mid post, ops = pre ++ mid ++ post → AllSteps step C (run step s pre) mid →
    R (run step s pre) (run step (run step s pre) mid)

instance decidableAllSteps {ok : S → Op → Prop} [∀ s op, Decidable (ok s op)] :
    (s : S) → (ops : List Op) → Decidable (AllSteps step ok s ops)
  | _, [] => isTrue trivial
  | s, op :: ops =>
    @instDecidableAnd _ _ _ (decidableAllSteps (step s op) ops)

variable (s : S)

@[simp] lemma run_nil : run step s [] = s := rfl

variable (op : Op) (ops : List Op)

@[simp] lemma run_cons : run step s (op :: ops) = run step (step s op) ops := rfl

variable (pre post : List Op)

lemma run_append : run step s (pre ++ post) = run step (run step s pre) post := by
  induction pre generalizing s with
  | nil => rfl
  | cons op pre ih => exact ih (step s op)

lemma run_snoc (op : Op) : run step s (ops ++ [op]) = step (run step s ops) op :=
  run_append s ops [op]

@[simp] lemma allSteps_nil {ok : S → Op → Prop} : AllSteps step ok s [] := trivial

@[simp] lemma allSteps_cons {ok : S → Op → Prop} :
    AllSteps step ok s (op :: ops) ↔ ok s op ∧ AllSteps step ok (step s op) ops := Iff.rfl

variable {ok : S → Op → Prop}

lemma allSteps_append : AllSteps step ok s (pre ++ post) ↔
      AllSteps step ok s pre ∧ AllSteps step ok (run step s pre) post := by
  induction pre generalizing s with
  | nil => simp
  | cons op pre ih =>
    rw [List.cons_append, allSteps_cons, allSteps_cons, ih (step s op), run_cons]
    exact and_assoc.symm

/-- Every step, wherever it stands in the run, is taken in the state the steps before
it lead to. -/
lemma allSteps_iff_split : AllSteps step ok s ops
      ↔ ∀ pre op post, ops = pre ++ op :: post → ok (run step s pre) op := by
  constructor
  · intro h pre op post hops
    rw [hops, allSteps_append] at h
    exact h.2.1
  · intro h
    induction ops generalizing s with
    | nil => exact trivial
    | cons op ops ih =>
      refine ⟨h [] op ops rfl, ih (step s op) fun pre op' post hops => ?_⟩
      exact h (op :: pre) op' post (by rw [hops]; rfl)

variable {ok' : S → Op → Prop}

lemma AllSteps.mono (h : ∀ s op, ok s op → ok' s op) :
    ∀ {ops : List Op} {s : S}, AllSteps step ok s ops → AllSteps step ok' s ops := by
  intro ops
  induction ops with
  | nil => intro s _; exact trivial
  | cons op ops ih =>
    intro s hall
    exact ⟨h s op hall.1, ih hall.2⟩

lemma AllSteps.and : ∀ {ops : List Op} {s : S}, AllSteps step ok s ops → AllSteps step ok' s ops →
      AllSteps step (fun s op => ok s op ∧ ok' s op) s ops := by
  intro ops
  induction ops with
  | nil => intro s _ _; exact trivial
  | cons op ops ih =>
    intro s h h'
    exact ⟨⟨h.1, h'.1⟩, ih h.2 h'.2⟩

lemma allSteps_true : AllSteps step (fun _ _ => True) s ops := by
  induction ops generalizing s with
  | nil => exact trivial
  | cons op ops ih => exact ⟨trivial, ih (step s op)⟩

lemma allSteps_of_forall {ok : Op → Prop} {ops : List Op} (h : ∀ op ∈ ops, ok op) (s : S) :
    AllSteps step (fun _ op => ok op) s ops := by
  induction ops generalizing s with
  | nil => exact trivial
  | cons op ops ih =>
    exact ⟨h op (List.mem_cons_self ..),
      ih (fun op' hop' => h op' (List.mem_cons_of_mem _ hop')) (step s op)⟩

variable {P : S → Prop} {W : S → Op → Prop}

/-- **THE INVARIANT RULE**: what holds at the start and survives every
admissible step holds after the run. -/
lemma inv_run (hstep : ∀ s op, P s → ok s op → P (step s op)) :
    ∀ {ops : List Op} {s : S}, P s → AllSteps step ok s ops → P (run step s ops) := by
  intro ops
  induction ops with
  | nil => intro s h _; exact h
  | cons op ops ih =>
    intro s h hall
    exact ih (hstep s op h hall.1) hall.2

lemma always_of_inv (hstep : ∀ s op, P s → ok s op → P (step s op)) {ops : List Op} {s : S}
    (h : P s) (hall : AllSteps step ok s ops) : Always step P s ops := by
  intro pre post hops
  rw [hops, allSteps_append] at hall
  exact inv_run hstep h hall.1

/-- What admissible steps do in states of the invariant, every step of the run
does. -/
lemma allSteps_of_inv (hstep : ∀ s op, P s → ok s op → P (step s op))
    (hok' : ∀ s op, P s → ok s op → ok' s op) :
    ∀ {ops : List Op} {s : S}, P s → AllSteps step ok s ops → AllSteps step ok' s ops := by
  intro ops
  induction ops with
  | nil => intro s _ _; exact trivial
  | cons op ops ih =>
    intro s h hall
    exact ⟨hok' s op h hall.1, ih (hstep s op h hall.1) hall.2⟩

/-- A good run is good at its start, and its rest is a good run. -/
lemma always_cons : Always step P s (op :: ops) ↔ P s ∧ Always step P (step s op) ops := by
  constructor
  · intro h
    refine ⟨h [] (op :: ops) rfl, ?_⟩
    intro pre post hops
    exact h (op :: pre) post (by rw [hops]; rfl)
  · rintro ⟨h0, h⟩ pre post hops
    cases pre with
    | nil => exact h0
    | cons op' pre =>
      obtain ⟨hop, hrest⟩ := List.cons.inj hops
      subst hop
      exact h pre post hrest

instance decidableAlways {P : S → Prop} [∀ s, Decidable (P s)] :
    (s : S) → (ops : List Op) → Decidable (Always step P s ops)
  | s, [] => decidable_of_iff (P s) ⟨fun h pre post hops => by
    rw [(List.append_eq_nil_iff.mp hops.symm).1]
    exact h, fun h => h [] [] rfl⟩
  | s, op :: ops =>
    @decidable_of_iff _ (P s ∧ Always step P (step s op) ops) (always_cons s op ops).symm
      (@instDecidableAnd _ _ _ (decidableAlways (step s op) ops))

/-- **EXACT CONDITION, STATES**: if from a good state a well-formed step stays
good exactly when it meets `ok`, a run stays good exactly when all its steps
meet `ok`. -/
lemma always_iff_allSteps (hstep : ∀ s op, P s → W s op → (P (step s op) ↔ ok s op)) :
    ∀ {ops : List Op} {s : S}, P s → AllSteps step W s ops →
      (Always step P s ops ↔ AllSteps step ok s ops) := by
  intro ops
  induction ops with
  | nil =>
    intro s h _
    refine ⟨fun _ => trivial, ?_⟩
    intro _ pre post hops
    obtain ⟨rfl, rfl⟩ := List.nil_eq_append_iff.mp hops
    exact h
  | cons op ops ih =>
    intro s h hW
    rw [always_cons, allSteps_cons]
    constructor
    · rintro ⟨-, hrest⟩
      have hnext : P (step s op) := hrest [] ops rfl
      exact ⟨(hstep s op h hW.1).mp hnext, (ih hnext hW.2).mp hrest⟩
    · rintro ⟨hok, hall⟩
      have hnext : P (step s op) := (hstep s op h hW.1).mpr hok
      exact ⟨h, (ih hnext hW.2).mpr hall⟩

variable {R : S → S → Prop}

/-- A preorder that every step respects relates the ends of a run. -/
lemma related_run (hrefl : ∀ s, R s s) (htrans : ∀ {a b c}, R a b → R b c → R a c) :
    ∀ {ops : List Op} {s : S}, AllSteps step (fun s op => R s (step s op)) s ops →
      R s (run step s ops) := by
  intro ops
  induction ops with
  | nil => intro s _; exact hrefl s
  | cons op ops ih =>
    intro s hall
    exact htrans hall.1 (ih hall.2)

/-- **EXACT CONDITION, PAIRS OF STATES**: a preorder holds between every earlier
and every later state of a run exactly when each single step respects it. -/
lemma related_iff_allSteps (hrefl : ∀ s, R s s) (htrans : ∀ {a b c}, R a b → R b c → R a c)
    (s : S) (ops : List Op) :
    AlwaysRelated step R s ops ↔ AllSteps step (fun s op => R s (step s op)) s ops := by
  constructor
  · intro h
    induction ops generalizing s with
    | nil => exact trivial
    | cons op ops ih =>
      refine ⟨h [] [op] ops rfl, ih (step s op) ?_⟩
      intro pre mid post hops
      exact h (op :: pre) mid post (by rw [hops]; rfl)
  · intro hall pre mid post hops
    rw [hops, allSteps_append, allSteps_append] at hall
    exact related_run hrefl htrans hall.1.2

/-- **EXACT CONDITION, STRETCHES OF A RUN**: a preorder holds over every stretch of a
run under `C` exactly when each step under `C` respects it. -/
lemma while_iff_allSteps {C : S → Op → Prop} (hrefl : ∀ s, R s s)
    (htrans : ∀ {a b c}, R a b → R b c → R a c) (s : S) (ops : List Op) : AlwaysWhile step C R s ops
      ↔ AllSteps step (fun s op => C s op → R s (step s op)) s ops := by
  constructor
  · intro h
    induction ops generalizing s with
    | nil => exact trivial
    | cons op ops ih =>
      refine ⟨fun hC => h [] [op] ops rfl ⟨hC, trivial⟩, ih (step s op) ?_⟩
      intro pre mid post hops
      exact h (op :: pre) mid post (by rw [hops]; rfl)
  · intro hall pre mid post hops hC
    rw [hops, allSteps_append, allSteps_append] at hall
    refine related_run hrefl htrans ((hall.1.2.and hC).mono ?_)
    intro s op h
    exact h.1 h.2

lemma allSteps_forall {I : Type} {ok : I → S → Op → Prop} :
    (∀ i, AllSteps step (ok i) s ops) ↔ AllSteps step (fun s op => ∀ i, ok i s op) s ops := by
  constructor
  · intro h
    induction ops generalizing s with
    | nil => exact trivial
    | cons op ops ih => exact ⟨fun i => (h i).1, ih (step s op) fun i => (h i).2⟩
  · intro h i
    exact h.mono fun _ _ hall => hall i

/-- Two step conditions that agree on well-formed steps agree on runs of them. -/
lemma allSteps_congr (h : ∀ s op, W s op → (ok s op ↔ ok' s op)) :
    ∀ {ops : List Op} {s : S}, AllSteps step W s ops →
      (AllSteps step ok s ops ↔ AllSteps step ok' s ops) := by
  intro ops
  induction ops with
  | nil => intro s _; exact Iff.rfl
  | cons op ops ih =>
    intro s hW
    rw [allSteps_cons, allSteps_cons, h s op hW.1, ih hW.2]

/-! ## Runs with more state -/

section Projection

variable {T : Type} {step' : T → Op → T} {proj : T → S}

/-- A run whose states carry more than those of another run. -/
lemma run_proj (h : ∀ t op, proj (step' t op) = step (proj t) op) (t : T) (ops : List Op) :
    proj (run step' t ops) = run step (proj t) ops := by
  induction ops generalizing t with
  | nil => rfl
  | cons op ops ih =>
    rw [run_cons, run_cons, ih, h]

lemma allSteps_proj {ok : S → Op → Prop} (h : ∀ t op, proj (step' t op) = step (proj t) op)
    (t : T) (ops : List Op) :
    AllSteps step' (fun t op => ok (proj t) op) t ops ↔ AllSteps step ok (proj t) ops := by
  induction ops generalizing t with
  | nil => exact Iff.rfl
  | cons op ops ih =>
    rw [allSteps_cons, allSteps_cons, ih, h]

end Projection

/-! ## Histories -/

section Histories

variable {ε : Type} {P : List ε → ε → Prop} {log entries : List ε}

/-- Every entry of a history is right after the entries before it. -/
def EachAfter (P : List ε → ε → Prop) (log : List ε) : Prop :=
  ∀ a x b, log = a ++ x :: b → P a x

lemma eachAfter_nil : EachAfter P [] := by
  intro a x b h
  simp at h

/-- A history grows by entries that are right where they stand. -/
lemma EachAfter.append (h : EachAfter P log)
    (hentries : ∀ a x b, entries = a ++ x :: b → P (log ++ a) x) :
    EachAfter P (log ++ entries) := by
  intro a x b heq
  rcases List.append_eq_append_iff.mp heq with ⟨mid, rfl, hmid⟩ | ⟨mid, rfl, hmid⟩
  · exact hentries mid x b hmid
  · cases mid with
    | nil => simpa using hentries [] x b hmid.symm
    | cons y mid =>
      obtain ⟨rfl, -⟩ := List.cons.inj hmid
      exact h a _ mid rfl

lemma EachAfter.snoc {x : ε} (h : EachAfter P log) (hx : P log x) : EachAfter P (log ++ [x]) := by
  refine h.append fun a y b heq => ?_
  cases a with
  | nil =>
    obtain ⟨rfl, -⟩ := List.cons.inj heq
    simpa using hx
  | cons z a => simp at heq

lemma EachAfter.append_of_forall (h : EachAfter P log) (hentries : ∀ a, ∀ x ∈ entries, P a x) :
    EachAfter P (log ++ entries) := by
  refine h.append fun a x b heq => hentries _ x ?_
  rw [heq]
  exact List.mem_append_right a (List.mem_cons_self ..)

end Histories

end WattRuns
