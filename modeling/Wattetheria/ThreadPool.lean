import Wattetheria.StepRuns

/-!
# Interleaved handlers over shared state

A handler is a sequence of atomic steps; between two of them any other handler may run,
and a handler may stop for good at any point.  `Pool` is the shared state together with the
handlers in flight, each at its program counter; an `Event` schedules one of them.

`inv_step` is the rule for an invariant of every interleaving: a shared invariant `I` and an
assertion `A i p` at each program counter are kept, provided each handler keeps `I` and its
own assertion and does not interfere with those of the others.
-/

namespace WattThreads

open WattRuns

/-- A family of request handlers: where a request starts, what one step of the
handler with a given number does, and what the environment does to the shared
state by itself. -/
structure Program (S P Q E X : Type) where
  start : Q → P
  exec : Nat → E → S → P → S × Option P
  env : X → S → S

/-- The shared state and the handlers in flight. -/
structure Pool (S P : Type) where
  shared : S
  threads : Nat → Option P

/-- A scheduling decision: admit a request, let a handler take its next step with
some outcome of what it waits for, stop a handler, let the environment act. -/
inductive Event (Q E X : Type) where
  | spawn (i : Nat) (q : Q)
  | exec (i : Nat) (e : E)
  | stop (i : Nat)
  | env (x : X)

variable {S P Q E X : Type}

def Pool.idle (s : S) : Pool S P := ⟨s, fun _ => none⟩

variable (pool : Pool S P) (i : Nat) (p : Option P)

def Pool.put : Pool S P :=
  ⟨pool.shared, Function.update pool.threads i p⟩

variable (prog : Program S P Q E X) {I : S → Prop} {A : Nat → P → S → Prop}

/-- What an event does. -/
def Program.step (pool : Pool S P) : Event Q E X → Pool S P
  | .spawn i q =>
    match pool.threads i with
    | none => pool.put i (some (prog.start q))
    | some _ => pool
  | .exec i e =>
    match pool.threads i with
    | none => pool
    | some p => Pool.put ⟨(prog.exec i e pool.shared p).1, pool.threads⟩ i
        (prog.exec i e pool.shared p).2
  | .stop i => pool.put i none
  | .env x => ⟨prog.env x pool.shared, pool.threads⟩

@[simp] lemma put_threads_self : (pool.put i p).threads i = p :=
  Function.update_self ..

lemma put_threads_of_ne {i j : Nat} (h : j ≠ i) (p : Option P) :
    (pool.put i p).threads j = pool.threads j :=
  Function.update_of_ne h ..

/-- What one event can do to a pool. -/
inductive Steps (prog : Program S P Q E X) (pool : Pool S P) : Event Q E X → Pool S P → Prop where
  | same (ev : Event Q E X) : Steps prog pool ev pool
  | spawn (i : Nat) (q : Q) (h : pool.threads i = none) :
      Steps prog pool (.spawn i q) (pool.put i (some (prog.start q)))
  | exec (i : Nat) (e : E) (p : P) (h : pool.threads i = some p) :
      Steps prog pool (.exec i e) (Pool.put ⟨(prog.exec i e pool.shared p).1, pool.threads⟩ i
        (prog.exec i e pool.shared p).2)
  | stop (i : Nat) : Steps prog pool (.stop i) (pool.put i none)
  | env (x : X) : Steps prog pool (.env x) ⟨prog.env x pool.shared, pool.threads⟩

/-- **INVERSION**: every event does one of these. -/
lemma step_cases (pool : Pool S P) (ev : Event Q E X) : Steps prog pool ev (prog.step pool ev) := by
  cases ev with
  | spawn i q =>
    show Steps prog pool _ (match pool.threads i with | none => _ | some _ => pool)
    cases h : pool.threads i with
    | none => exact .spawn i q h
    | some p => exact .same _
  | exec i e =>
    show Steps prog pool _ (match pool.threads i with | none => pool | some p => _)
    cases h : pool.threads i with
    | none => exact .same _
    | some p => exact .exec i e p h
  | stop i => exact .stop i
  | env x => exact .env x

/-- The shared invariant holds and every handler's assertion does. -/
def PoolInv (I : S → Prop) (A : Nat → P → S → Prop) (pool : Pool S P) : Prop :=
  I pool.shared ∧ ∀ i p, pool.threads i = some p → A i p pool.shared

lemma poolInv_idle {s : S} (h : I s) : PoolInv I A (Pool.idle s) :=
  ⟨h, fun _ _ hp => nomatch hp⟩

/-- **NON-INTERFERENCE**: one event keeps the shared invariant and every assertion.
`K` is what the run guarantees about its events. -/
lemma inv_step {prog : Program S P Q E X} {K : Pool S P → Event Q E X → Prop}
    (hstart : ∀ i q s, I s → A i (prog.start q) s)
    (hexec : ∀ pool i e p, PoolInv I A pool → pool.threads i = some p → K pool (.exec i e) →
      I (prog.exec i e pool.shared p).1
      ∧ (∀ p' ∈ (prog.exec i e pool.shared p).2, A i p' (prog.exec i e pool.shared p).1)
      ∧ ∀ j q, j ≠ i → pool.threads j = some q → A j q (prog.exec i e pool.shared p).1)
    (henv : ∀ pool x, PoolInv I A pool → K pool (.env x) → I (prog.env x pool.shared)
      ∧ ∀ j q, pool.threads j = some q → A j q (prog.env x pool.shared))
    (pool : Pool S P) (ev : Event Q E X) (hpool : PoolInv I A pool) (hK : K pool ev) :
    PoolInv I A (prog.step pool ev) := by
  have hsteps := step_cases prog pool ev
  revert hsteps
  generalize prog.step pool ev = next
  intro hsteps
  cases hsteps with
  | same => exact hpool
  | spawn i q hfree =>
    refine ⟨hpool.1, fun j p hp => ?_⟩
    by_cases hj : j = i
    · subst hj
      rw [put_threads_self] at hp
      cases hp
      exact hstart j q _ hpool.1
    · rw [put_threads_of_ne _ hj] at hp
      exact hpool.2 j p hp
  | exec i e p hp =>
    obtain ⟨hI, hown, hothers⟩ := hexec pool i e p hpool hp hK
    refine ⟨hI, fun j p' hp' => ?_⟩
    by_cases hj : j = i
    · subst hj
      rw [put_threads_self] at hp'
      exact hown p' hp'
    · rw [put_threads_of_ne _ hj] at hp'
      exact hothers j p' hj hp'
  | stop i =>
    refine ⟨hpool.1, fun j p hp => ?_⟩
    by_cases hj : j = i
    · subst hj
      rw [put_threads_self] at hp
      cases hp
    · rw [put_threads_of_ne _ hj] at hp
      exact hpool.2 j p hp
  | env x =>
    obtain ⟨hI, hothers⟩ := henv pool x hpool hK
    exact ⟨hI, hothers⟩

def Event.handler : Event Q E X → Option Nat
  | .spawn i _ | .exec i _ | .stop i => some i
  | .env _ => none

lemma step_threads_of_ne (pool : Pool S P) {ev : Event Q E X} {j : Nat}
    (h : ev.handler ≠ some j) : (prog.step pool ev).threads j = pool.threads j := by
  have hsteps := step_cases prog pool ev
  revert hsteps
  generalize prog.step pool ev = next
  intro hsteps
  have hne : ∀ {i}, some i ≠ some j → j ≠ i := fun hi heq => hi (congrArg some heq.symm)
  cases hsteps with
  | same => rfl
  | spawn i q => exact put_threads_of_ne _ (hne h) _
  | exec i e p => exact put_threads_of_ne _ (hne h) _
  | stop i => exact put_threads_of_ne _ (hne h) _
  | env x => rfl

end WattThreads
