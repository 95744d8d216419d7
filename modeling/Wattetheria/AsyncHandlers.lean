import Wattetheria.ThreadPool

/-!
# Handlers as trees of atomic steps

A handler has returned, or it takes one atomic step on the shared state, with an
outcome that the schedule supplies, and goes on depending on what it saw.  Each step
carries a tag that says where the handler stands.

`Rules` are what one handler is held to while others run, and `Rules.Safe` is the
judgement for it, with a rule for each way to build a tree.  `Discipline` adds an
invariant, and `poolInv_step` carries it through all interleavings.
-/

namespace WattAsync

open WattThreads

/-- A handler over shared state `S` with outcomes `E` and tags `T`. -/
inductive Async (S E T α : Type) where
  | pure (a : α)
  | step (tag : T) (act : Nat → E → S → S) (next : Nat → E → S → Async S E T α)

namespace Async

variable {S E T α β : Type}

/-- One step and its value. -/
def atomic (tag : T) (f : Nat → E → S → α × S) : Async S E T α :=
  .step tag (fun i e s => (f i e s).2) fun i e s => .pure (f i e s).1

/-- Runs one tree after another. -/
def bind : Async S E T α → (α → Async S E T β) → Async S E T β
  | .pure a, f => f a
  | .step tag act next, f => .step tag act fun i e s => (next i e s).bind f

/-- Where the handler stands, unless it has returned. -/
def tag? : Async S E T α → Option T
  | .pure _ => none
  | .step tag _ _ => some tag

/-- A tree that has not returned. -/
def live : Async S E T α → Option (Async S E T α)
  | .pure _ => none
  | .step tag act next => some (.step tag act next)

/-- One step of the handler with number `i`. -/
def exec (i : Nat) (e : E) (s : S) : Async S E T α → S × Option (Async S E T α)
  | .pure _ => (s, none)
  | .step _ act next => (act i e s, (next i e s).live)

lemma mem_live {p q : Async S E T α} (h : q ∈ p.live) : q = p := by
  cases p with
  | pure a => cases h
  | step tag act next => exact (Option.some.inj h).symm

end Async

/-- The handlers of a program that starts each request with a tree. -/
def program {S E T Q X : Type} (start : Q → Async S E T Unit) (env : X → S → S) :
    Program S (Async S E T Unit) Q E X where
  start
  exec := Async.exec
  env

/-! ## One handler among others -/

/-- What a handler is held to. -/
structure Rules (S E T : Type) where
  /-- the invariant of the shared state -/
  inv : S → Prop
  /-- what is known where handler `i` stands -/
  pre : Nat → T → S → Prop
  /-- what it relies on while it stands at a tag -/
  rely : Nat → T → S → S → Prop
  /-- it can go on -/
  ready : Nat → T → S → Bool
  /-- which steps the schedule admits -/
  ok : Nat → T → E → S → Prop
  /-- what a step keeps -/
  keeps : Nat → T → S → S → Prop
  rely_trans : ∀ i t {a b c}, rely i t a b → rely i t b c → rely i t a c

namespace Rules

variable {S E T α β : Type} (R : Rules S E T)

/-- Handler `i`, run from `s` among handlers that keep the rules, keeps them and returns
with the postcondition. -/
def Safe (i : Nat) : Async S E T α → (α → S → Prop) → S → Prop
  | .pure a, Q, s => Q a s
  | .step t act next, Q, s => ∀ s', R.rely i t s s' → R.inv s' → R.pre i t s' ∧
      (R.ready i t s' = true → ∀ e, R.ok i t e s' →
        R.keeps i t s' (act i e s') ∧ Safe i (next i e s') Q (act i e s'))

variable {i : Nat} {p : Async S E T α} {Q : α → S → Prop} {s : S}

/-- What a step keeps can be added to what is known in the end. -/
lemma safe_frame {P : S → Prop} (hrely : ∀ t s s', R.rely i t s s' → P s → P s')
    (hkeeps : ∀ t s s', R.keeps i t s s' → P s → P s') (hp : R.Safe i p Q s) (hP : P s) :
    R.Safe i p (fun a s => Q a s ∧ P s) s := by
  induction p generalizing s with
  | pure a => exact ⟨hp, hP⟩
  | step t act next ih =>
    intro s' hs' hinv
    obtain ⟨hpre, hstep⟩ := hp s' hs' hinv
    refine ⟨hpre, fun hready e hok => ?_⟩
    obtain ⟨hkept, hnext⟩ := hstep hready e hok
    exact ⟨hkept, ih i e s' hnext (hkeeps t _ _ hkept (hrely t _ _ hs' hP))⟩

/-- **SEQUENCING**: the second handler starts where the first returns. -/
lemma safe_bind {f : α → Async S E T β} {Q : β → S → Prop}
    (hp : R.Safe i p (fun a s => R.Safe i (f a) Q s) s) : R.Safe i (p.bind f) Q s := by
  induction p generalizing s with
  | pure a => exact hp
  | step t act next ih =>
    intro s' hrely hinv
    obtain ⟨hpre, hstep⟩ := hp s' hrely hinv
    refine ⟨hpre, fun hready e hok => ?_⟩
    obtain ⟨hkept, hnext⟩ := hstep hready e hok
    exact ⟨hkept, ih i e s' hnext⟩

lemma safe_mono {Q' : α → S → Prop} (h : ∀ a s, Q a s → Q' a s) (hp : R.Safe i p Q s) :
    R.Safe i p Q' s := by
  induction p generalizing s with
  | pure a => exact h a s hp
  | step t act next ih =>
    intro s' hrely hinv
    obtain ⟨hpre, hstep⟩ := hp s' hrely hinv
    refine ⟨hpre, fun hready e hok => ?_⟩
    obtain ⟨hkept, hnext⟩ := hstep hready e hok
    exact ⟨hkept, ih i e s' hnext⟩

/-- A handler that waits is safe after what it relies on. -/
lemma safe_rely {P : S → Prop} {s' : S} (hp : R.Safe i p (fun _ => P) s)
    (h : ∀ t ∈ p.tag?, R.rely i t s s') (hP : P s → P s') : R.Safe i p (fun _ => P) s' := by
  cases p with
  | pure a => exact hP hp
  | step t act next =>
    intro s'' hrely hinv
    exact hp s'' (R.rely_trans i t (h t rfl) hrely) hinv

end Rules

/-! ## Handlers that run to their end -/

/-- A rely-guarantee discipline. -/
structure Discipline (S E T : Type) where
  /-- the invariant of the shared state -/
  inv : S → Prop
  /-- what handler `i` relies on while it stands at a tag -/
  rely : Nat → T → S → S → Prop
  /-- which steps the schedule admits -/
  ok : T → E → S → Prop
  /-- which steps it admits while another handler stands at the second tag -/
  free : T → T → S → Prop
  rely_refl : ∀ i t s, rely i t s s
  rely_trans : ∀ i t {a b c}, rely i t a b → rely i t b c → rely i t a c

namespace Discipline

variable {S E T α : Type} (D : Discipline S E T)

/-- What the step of handler `i` at `t` must do for the others. -/
def Guarantee (i : Nat) (t : T) (s s' : S) : Prop :=
  ∀ j t', j ≠ i → D.free t t' s → D.rely j t' s s'

/-- What the discipline asks of one handler. -/
def rules : Rules S E T where
  inv := D.inv
  pre _ _ _ := True
  rely := D.rely
  ready _ _ _ := true
  ok _ := D.ok
  keeps i t s s' := D.inv s' ∧ D.Guarantee i t s s'
  rely_trans := D.rely_trans

/-- Handler `i` keeps the discipline and returns with the postcondition. -/
def Safe (i : Nat) (p : Async S E T α) (Q : α → S → Prop) (s : S) : Prop := D.rules.Safe i p Q s

variable {i : Nat} {Q : α → S → Prop} {s : S}

lemma safe_atomic {t : T} {f : Nat → E → S → α × S}
    (h : ∀ s', D.rely i t s s' → D.inv s' → ∀ e, D.ok t e s' →
      (D.inv (f i e s').2 ∧ D.Guarantee i t s' (f i e s').2) ∧ Q (f i e s').1 (f i e s').2) :
    D.Safe i (.atomic t f) Q s :=
  fun s' hrely hinv => ⟨trivial, fun _ => h s' hrely hinv⟩

lemma safe_look {t : T} {f : Nat → E → S → α × S} (hf : ∀ i e s, (f i e s).2 = s)
    (h : ∀ s', D.rely i t s s' → D.inv s' → ∀ e, D.ok t e s' → Q (f i e s').1 s') :
    D.Safe i (.atomic t f) Q s := by
  refine D.safe_atomic fun s' hrely hinv e hok => ?_
  rw [hf]
  exact ⟨⟨hinv, fun j t' _ _ => D.rely_refl j t' s'⟩, h s' hrely hinv e hok⟩

/-- What a schedule must respect. -/
def Admits {Q X : Type} (pool : Pool S (Async S E T Unit)) : Event Q E X → Prop
  | .exec i e => ∀ t, (pool.threads i).bind Async.tag? = some t → D.ok t e pool.shared
        ∧ ∀ j t', j ≠ i → (pool.threads j).bind Async.tag? = some t' → D.free t t' pool.shared
  | .spawn .. | .stop .. | .env .. => True

/-- **INTERLEAVING**: if every request starts a safe handler and the environment keeps
the discipline, so does every admitted event. -/
lemma poolInv_step {Q X : Type} {start : Q → Async S E T Unit} {env : X → S → S}
    (hstart : ∀ i q s, D.inv s → D.Safe i (start q) (fun _ _ => True) s)
    (henv : ∀ x s, D.inv s → D.inv (env x s) ∧ ∀ j t, D.rely j t s (env x s))
    (pool : Pool S (Async S E T Unit)) (ev : Event Q E X)
    (hpool : PoolInv D.inv (fun i p => D.Safe i p fun _ _ => True) pool) (hev : D.Admits pool ev) :
    PoolInv D.inv (fun i p => D.Safe i p fun _ _ => True) ((program start env).step pool ev) := by
  refine inv_step (K := D.Admits) hstart ?_ ?_ pool ev hpool hev
  · intro pool i e p hpool hp hev
    cases p with
    | pure a =>
      exact ⟨hpool.1, fun p' h => (nomatch h), fun j q _ hq => hpool.2 j q hq⟩
    | step t act next =>
      obtain ⟨hok, hfree⟩ := hev t (by rw [hp]; rfl)
      obtain ⟨⟨hinv, hguar⟩, hnext⟩ :=
        (hpool.2 i _ hp pool.shared (D.rely_refl i t _) hpool.1).2 rfl e hok
      refine ⟨hinv, ?_, ?_⟩
      · intro p' hp'
        rw [Async.mem_live hp']
        exact hnext
      · -- the others rely on what this step guarantees
        intro j q hj hq
        refine D.rules.safe_rely (hpool.2 j q hq) (fun t' ht' => ?_) id
        refine hguar j t' hj (hfree j t' hj ?_)
        rw [hq]
        exact ht'
  · intro pool x hpool _
    obtain ⟨hinv, hrely⟩ := henv x pool.shared hpool.1
    exact ⟨hinv, fun j q hq => D.rules.safe_rely (hpool.2 j q hq) (fun t _ => hrely j t) id⟩

end Discipline

end WattAsync
