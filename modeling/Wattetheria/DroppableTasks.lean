import Wattetheria.AsyncHandlers

/-!
# Handlers that can be dropped

A server of handlers as trees of steps, with what asynchronous code adds: a handler may
wait for a lock, it may be dropped at any point where it waits, work that it handed to a
thread of its own goes on after that, and a restart of the server loses all of them.

`Discipline` is rely-guarantee reasoning for such a server.  `Safe` is the judgement of
`AsyncHandlers` and `Detachable` the one for the work a dropped handler leaves behind;
`always_good` turns them into an invariant of all schedules and a relation between the
states around every step of them.
-/

namespace WattTasks

open WattRuns WattThreads WattAsync

variable {S E T Q X α β : Type}

/-! ## Servers -/

/-- A family of droppable handlers over shared state. -/
structure Server (S E T Q X : Type) where
  start : Q → Async S E T Unit
  /-- a handler at this tag can go on -/
  ready : Nat → T → S → Bool
  /-- the step at this tag is done for the handler, even after it is dropped -/
  blocking : T → Bool
  /-- what dropping a handler that stands at a tag does -/
  drop : Nat → T → S → S
  env : X → S → S
  /-- which acts of the environment restart the server -/
  restarts : X → Bool
  blocking_ready : ∀ i t s, blocking t = true → ready i t s = true

/-- A handler, or what it left running. -/
inductive Task (S E T : Type) where
  | running (p : Async S E T Unit)
  | detached (p : Async S E T Unit)

def Task.tag? : Task S E T → Option T
  | .running p | .detached p => p.tag?

namespace Server

variable (srv : Server S E T Q X)

/-- What a dropped handler leaves running: the blocking steps. -/
def detach : Async S E T α → Async S E T Unit
  | .pure _ => .pure ()
  | .step t act next =>
    if srv.blocking t then .step t act fun i e s => detach (next i e s) else .pure ()

variable (pool : Pool S (Task S E T))

/-- One event of the server. -/
def step : Event Q E X → Pool S (Task S E T)
  | .spawn i q =>
    match pool.threads i with
    | none => pool.put i ((srv.start q).live.map .running)
    | some _ => pool
  | .exec i e =>
    match pool.threads i with
    | some (.running (.step t act next)) =>
      if srv.ready i t pool.shared then
        Pool.put ⟨act i e pool.shared, pool.threads⟩ i ((next i e pool.shared).live.map .running)
      else pool
    | some (.detached (.step _ act next)) =>
      Pool.put ⟨act i e pool.shared, pool.threads⟩ i ((next i e pool.shared).live.map .detached)
    | some (.running (.pure _)) | some (.detached (.pure _)) | none => pool
  | .stop i =>
    match pool.threads i with
    | some (.running (.step t act next)) =>
      Pool.put ⟨srv.drop i t pool.shared, pool.threads⟩ i
        ((srv.detach (.step t act next)).live.map .detached)
    | some (.running (.pure _)) | some (.detached _) | none => pool
  | .env x =>
    if srv.restarts x then .idle (srv.env x pool.shared)
    else ⟨srv.env x pool.shared, pool.threads⟩

/-- What one event can do to a pool. -/
inductive Moves (pool : Pool S (Task S E T)) : Event Q E X → Pool S (Task S E T) → Prop where
  | same (ev : Event Q E X) : Moves pool ev pool
  | spawn (i : Nat) (q : Q) (h : pool.threads i = none) :
      Moves pool (.spawn i q) (pool.put i ((srv.start q).live.map .running))
  | run (i : Nat) (e : E) (t : T) (act : Nat → E → S → S) (next : Nat → E → S → Async S E T Unit)
      (h : pool.threads i = some (.running (.step t act next)))
      (hready : srv.ready i t pool.shared = true) :
      Moves pool (.exec i e) (Pool.put ⟨act i e pool.shared, pool.threads⟩ i
        ((next i e pool.shared).live.map .running))
  | loose (i : Nat) (e : E) (t : T) (act : Nat → E → S → S) (next : Nat → E → S → Async S E T Unit)
      (h : pool.threads i = some (.detached (.step t act next))) :
      Moves pool (.exec i e) (Pool.put ⟨act i e pool.shared, pool.threads⟩ i
        ((next i e pool.shared).live.map .detached))
  | drop (i : Nat) (t : T) (act : Nat → E → S → S) (next : Nat → E → S → Async S E T Unit)
      (h : pool.threads i = some (.running (.step t act next))) :
      Moves pool (.stop i) (Pool.put ⟨srv.drop i t pool.shared, pool.threads⟩ i
        ((srv.detach (.step t act next)).live.map .detached))
  | env (x : X) (h : srv.restarts x = false) :
      Moves pool (.env x) ⟨srv.env x pool.shared, pool.threads⟩
  | restart (x : X) (h : srv.restarts x = true) : Moves pool (.env x) (.idle (srv.env x pool.shared))

/-- **INVERSION**: every event does one of these. -/
lemma step_moves (ev : Event Q E X) : srv.Moves pool ev (srv.step pool ev) := by
  cases ev with
  | spawn i q =>
    unfold step
    dsimp only
    cases h : pool.threads i with
    | none => exact .spawn i q h
    | some task => exact .same _
  | exec i e =>
    unfold step
    dsimp only
    cases h : pool.threads i with
    | none => exact .same _
    | some task =>
      cases task with
      | running p =>
        cases p with
        | pure a => exact .same _
        | step t act next =>
          dsimp only
          split
          · next hready => exact .run i e t act next h hready
          · exact .same _
      | detached p =>
        cases p with
        | pure a => exact .same _
        | step t act next => exact .loose i e t act next h
  | stop i =>
    unfold step
    dsimp only
    cases h : pool.threads i with
    | none => exact .same _
    | some task =>
      cases task with
      | running p =>
        cases p with
        | pure a => exact .same _
        | step t act next => exact .drop i t act next h
      | detached p => exact .same _
  | env x =>
    unfold step
    dsimp only
    split
    · next h => exact .restart x h
    · next h => exact .env x (Bool.not_eq_true _ ▸ h)

/-- Handlers are numbered by the requests that start them. -/
lemma threads_below {n : Nat} {pool : Pool S (Task S E T)} {ev : Event Q E X}
    (hpool : ∀ j, n ≤ j → pool.threads j = none) (hev : ∀ i q, ev = .spawn i q → i < n) :
    ∀ j, n ≤ j → (srv.step pool ev).threads j = none := by
  intro j hj
  have hother : ∀ i, pool.threads i ≠ none → j ≠ i := by
    rintro i hi rfl
    exact hi (hpool j hj)
  have hmoves := srv.step_moves pool ev
  generalize srv.step pool ev = after at hmoves
  cases hmoves with
  | same => exact hpool j hj
  | spawn i q hfree =>
    have hi := hev i q rfl
    rw [put_threads_of_ne _ (by omega)]
    exact hpool j hj
  | run i _ _ _ _ hthread | loose i _ _ _ _ hthread | drop i _ _ _ hthread =>
    rw [put_threads_of_ne _ (hother i (by simp [hthread]))]
    exact hpool j hj
  | env => exact hpool j hj
  | restart => rfl

end Server

/-! ## Disciplines -/

/-- Rely-guarantee reasoning for a server. -/
structure Discipline (srv : Server S E T Q X) where
  /-- the invariant of the shared state -/
  inv : S → Prop
  /-- what is known where handler `i` stands -/
  pre : Nat → T → S → Prop
  /-- what is known of handler `i` while it does not run: before it starts, once it is
  dropped and after it returned -/
  away : Nat → S → Prop
  /-- what handler `i` relies on while it stands at a tag -/
  rely : Nat → T → S → S → Prop
  /-- what its work relies on after it was dropped there -/
  hold : Nat → T → S → S → Prop
  /-- which steps the schedule admits -/
  ok : Nat → T → E → S → Prop
  /-- where it drops handlers -/
  okDrop : T → Prop
  /-- which steps it admits while another handler stands at the second tag -/
  free : T → T → Prop
  /-- what every step keeps between the states before and after it -/
  good : S → S → Prop
  rely_refl : ∀ i t s, rely i t s s
  rely_trans : ∀ i t {a b c}, rely i t a b → rely i t b c → rely i t a c
  hold_refl : ∀ i t s, hold i t s s
  hold_trans : ∀ i t {a b c}, hold i t a b → hold i t b c → hold i t a c
  good_refl : ∀ s, good s s
  drop_inv : ∀ i t s, inv s → pre i t s → okDrop t → inv (srv.drop i t s) ∧ good s (srv.drop i t s)
  drop_away : ∀ i t s, away i (srv.drop i t s) ∧ ∀ j, j ≠ i → away j s → away j (srv.drop i t s)
  drop_others : ∀ i j t t' s, j ≠ i → rely j t' s (srv.drop i t s) ∧ hold j t' s (srv.drop i t s)
  env_inv : ∀ x s, inv s → inv (srv.env x s) ∧ good s (srv.env x s)
  env_away : ∀ x s j, srv.restarts x = true ∨ away j s → away j (srv.env x s)
  env_others : ∀ x s, srv.restarts x = false → inv s → ∀ j t,
    rely j t s (srv.env x s) ∧ hold j t s (srv.env x s)

namespace Discipline

variable {srv : Server S E T Q X} (D : Discipline srv)

/-- What the step of handler `i` at `t` must do for the others. -/
def Guarantee (i : Nat) (t : T) (s s' : S) : Prop :=
  ∀ j t', j ≠ i → D.free t t' → D.rely j t' s s' ∧ D.hold j t' s s'

/-- What a step keeps. -/
structure Keeps (i : Nat) (t : T) (s s' : S) : Prop where
  inv : D.inv s'
  good : D.good s s'
  others : D.Guarantee i t s s'
  /-- of the handlers that do not run, its own included if it left the step behind -/
  away : ∀ j, j ≠ i ∨ srv.blocking t = true → D.away j s → D.away j s'

/-- What the discipline asks of one handler. -/
def rules : Rules S E T where
  inv := D.inv
  pre := D.pre
  rely := D.rely
  ready := srv.ready
  ok := D.ok
  keeps := D.Keeps
  rely_trans := D.rely_trans

/-- Handler `i` keeps the discipline and returns with the postcondition. -/
def Safe (i : Nat) (p : Async S E T α) (Q : α → S → Prop) (s : S) : Prop := D.rules.Safe i p Q s

/-- Work left behind by handler `i`. -/
def Loose (i : Nat) : Async S E T α → S → Prop
  | .pure _, _ => True
  | .step t act next, s => srv.blocking t = true ∧ ∀ s', D.hold i t s s' → D.inv s' → D.away i s' →
      ∀ e, D.ok i t e s' → D.Keeps i t s' (act i e s') ∧ Loose i (next i e s') (act i e s')

/-- Wherever handler `i` is dropped, what it leaves behind keeps the discipline. -/
def Detachable (i : Nat) : Async S E T α → S → Prop
  | .pure _, _ => True
  | .step t act next, s => ∀ s', D.rely i t s s' → D.inv s' →
      (D.okDrop t → D.Loose i (srv.detach (.step t act next)) (srv.drop i t s'))
        ∧ (srv.ready i t s' = true → ∀ e, D.ok i t e s' → Detachable i (next i e s') (act i e s'))

variable {i : Nat} {s : S}

variable {p : Async S E T Unit} {s' : S} {pool : Pool S (Task S E T)}

lemma detachable_rely (hp : D.Detachable i p s) (h : ∀ t ∈ p.tag?, D.rely i t s s') :
    D.Detachable i p s' := by
  cases p with
  | pure a => exact trivial
  | step t act next =>
    intro s'' hrely hinv
    exact hp s'' (D.rely_trans i t (h t rfl) hrely) hinv

lemma loose_hold {p : Async S E T α} (hp : D.Loose i p s) (h : ∀ t ∈ p.tag?, D.hold i t s s') :
    D.Loose i p s' := by
  cases p with
  | pure a => exact trivial
  | step t act next =>
    refine ⟨hp.1, fun s'' hhold hinv haway e hok => ?_⟩
    exact hp.2 s'' (D.hold_trans i t (h t rfl) hhold) hinv haway e hok

/-- The blocking work of a safe handler keeps the discipline on its own, if it relies on
no more after a drop than before. -/
lemma loose_detach (hhold : ∀ i t s s', D.hold i t s s' → D.rely i t s s') {p : Async S E T α}
    {Q : α → S → Prop} (hp : D.Safe i p Q s) : D.Loose i (srv.detach p) s := by
  induction p generalizing s with
  | pure a => exact trivial
  | step t act next ih =>
    unfold Server.detach
    split
    · next hblocking =>
        refine ⟨hblocking, fun s' hs' hinv _ e hok => ?_⟩
        obtain ⟨hkeeps, hnext⟩ := (hp s' (hhold i t s s' hs') hinv).2
          (srv.blocking_ready i t s' hblocking) e hok
        exact ⟨hkeeps, ih i e s' hnext⟩
    · exact trivial

/-- **DROPPED ANYWHERE**: a safe handler that relies on no more after a drop than before,
and on nothing that the drop takes away. -/
lemma detachable_of_safe (hhold : ∀ i t s s', D.hold i t s s' → D.rely i t s s')
    (hdrop : ∀ i t s, srv.blocking t = true → D.hold i t s (srv.drop i t s)) {p : Async S E T α}
    {Q : α → S → Prop} (hp : D.Safe i p Q s) : D.Detachable i p s := by
  induction p generalizing s with
  | pure a => exact trivial
  | step t act next ih =>
    intro s' hrely hinv
    have hnow : D.Safe i (.step t act next) Q s' := fun s'' hs'' =>
      hp s'' (D.rely_trans i t hrely hs'')
    refine ⟨fun _ => D.loose_hold (D.loose_detach hhold hnow) fun t' ht' => ?_, ?_⟩
    · unfold Server.detach at ht'
      split at ht'
      · next hblocking =>
          cases ht'
          exact hdrop i t s' hblocking
      · cases ht'
    · intro hready e hok
      exact ih i e s' ((hp s' hrely hinv).2 hready e hok).2

/-! ## Schedules -/

/-- What a schedule must respect. -/
def Admits (pool : Pool S (Task S E T)) : Event Q E X → Prop
  | .exec i e => ∀ t, (pool.threads i).bind Task.tag? = some t → D.ok i t e pool.shared
        ∧ ∀ j t', j ≠ i → (pool.threads j).bind Task.tag? = some t' → D.free t t'
  | .stop i => ∀ t, (pool.threads i).bind Task.tag? = some t → D.okDrop t
  | .spawn .. | .env .. => True

/-- What is known of a task. -/
def Sound (i : Nat) : Task S E T → S → Prop
  | .running p, s => D.Safe i p (fun _ => D.away i) s ∧ D.Detachable i p s
  | .detached p, s => D.Loose i p s

/-- What is known of a pool: of its tasks, and of the handlers that do not run. -/
structure PoolSound (pool : Pool S (Task S E T)) : Prop where
  tasks : PoolInv D.inv D.Sound pool
  away : ∀ i, (∀ p, pool.threads i ≠ some (.running p)) → D.away i pool.shared

lemma sound_rely {task : Task S E T} (h : D.Sound i task s)
    (hrely : ∀ t ∈ task.tag?, D.rely i t s s' ∧ D.hold i t s s')
    (haway : D.away i s → D.away i s') : D.Sound i task s' := by
  cases task with
  | running p =>
    exact ⟨D.rules.safe_rely h.1 (fun t ht => (hrely t ht).1) haway,
      D.detachable_rely h.2 fun t ht => (hrely t ht).1⟩
  | detached p => exact D.loose_hold h fun t ht => (hrely t ht).2

lemma poolSound_put {task? : Option (Task S E T)}
    (hpool : D.PoolSound pool) (hinv : D.inv s') (hown : ∀ task ∈ task?, D.Sound i task s')
    (hownAway : (∀ p, task? ≠ some (.running p)) → D.away i s')
    (hothers : ∀ j task, j ≠ i → pool.threads j = some task → ∀ t ∈ task.tag?,
      D.rely j t pool.shared s' ∧ D.hold j t pool.shared s')
    (haway : ∀ j, j ≠ i → D.away j pool.shared → D.away j s') :
    D.PoolSound (Pool.put ⟨s', pool.threads⟩ i task?) := by
  refine ⟨⟨hinv, fun j task htask => ?_⟩, fun j hj => ?_⟩
  · by_cases hji : j = i
    · subst hji
      rw [put_threads_self] at htask
      exact hown task htask
    · rw [put_threads_of_ne _ hji] at htask
      exact D.sound_rely (hpool.tasks.2 j task htask) (hothers j task hji htask) (haway j hji)
  · by_cases hji : j = i
    · subst hji
      rw [put_threads_self] at hj
      exact hownAway hj
    · rw [put_threads_of_ne _ hji] at hj
      exact haway j hji (hpool.away j hj)

lemma sound_running (h : D.Safe i p (fun _ => D.away i) s ∧ D.Detachable i p s) :
    ∀ task ∈ p.live.map Task.running, D.Sound i task s := by
  intro task htask
  obtain ⟨q, hq, rfl⟩ := Option.map_eq_some_iff.mp htask
  rw [Async.mem_live hq]
  exact h

lemma away_of_safe (h : D.Safe i p (fun _ => D.away i) s)
    (hnot : ∀ q, p.live.map Task.running ≠ some (.running q)) : D.away i s := by
  cases p with
  | pure a => exact h
  | step t act next => exact absurd rfl (hnot (.step t act next))

lemma sound_detached (h : D.Loose i p s) : ∀ task ∈ p.live.map Task.detached, D.Sound i task s := by
  intro task htask
  obtain ⟨q, hq, rfl⟩ := Option.map_eq_some_iff.mp htask
  rw [Async.mem_live hq]
  exact h

lemma others_free {t : T}
    (hfree : ∀ j t', j ≠ i → (pool.threads j).bind Task.tag? = some t' → D.free t t')
    (hguar : D.Guarantee i t pool.shared s') :
    ∀ j task, j ≠ i → pool.threads j = some task → ∀ t' ∈ task.tag?,
      D.rely j t' pool.shared s' ∧ D.hold j t' pool.shared s' := by
  intro j task hj htask t' ht'
  refine hguar j t' hj (hfree j t' hj ?_)
  rw [htask]
  exact ht'

/-- **INTERLEAVING**: if every request starts a safe handler that can be dropped, every
admitted event keeps the discipline, and the states before and after it are good. -/
lemma poolSound_good_step
    (hstart : ∀ i q s, D.inv s → D.away i s →
      D.Safe i (srv.start q) (fun _ => D.away i) s ∧ D.Detachable i (srv.start q) s)
    (pool : Pool S (Task S E T)) (ev : Event Q E X) (hpool : D.PoolSound pool)
    (hev : D.Admits pool ev) :
    D.PoolSound (srv.step pool ev) ∧ D.good pool.shared (srv.step pool ev).shared := by
  have hmoves := srv.step_moves pool ev
  revert hmoves
  generalize srv.step pool ev = after
  intro hmoves
  have hinv := hpool.tasks.1
  cases hmoves with
  | same => exact ⟨hpool, D.good_refl _⟩
  | spawn i q hfree =>
    have haway : D.away i pool.shared := hpool.away i (by simp [hfree])
    refine ⟨D.poolSound_put hpool hinv (D.sound_running (hstart i q _ hinv haway))
      (fun _ => haway) ?_ fun _ _ h => h, D.good_refl _⟩
    intro j task _ _ t _
    exact ⟨D.rely_refl j t _, D.hold_refl j t _⟩
  | run i e t act next h hready =>
    obtain ⟨hok, hfree⟩ := hev t (by rw [h]; rfl)
    obtain ⟨hsafe, hdetach⟩ : D.Safe i (.step t act next) (fun _ => D.away i) pool.shared
      ∧ D.Detachable i (.step t act next) pool.shared := hpool.tasks.2 i _ h
    obtain ⟨hkeeps, hnext⟩ := (hsafe _ (D.rely_refl i t _) hinv).2 hready e hok
    have hdetach := (hdetach _ (D.rely_refl i t _) hinv).2 hready e hok
    exact ⟨D.poolSound_put hpool hkeeps.inv (D.sound_running ⟨hnext, hdetach⟩)
      (D.away_of_safe hnext) (D.others_free hfree hkeeps.others)
      fun j hj => hkeeps.away j (.inl hj), hkeeps.good⟩
  | loose i e t act next h =>
    obtain ⟨hok, hfree⟩ := hev t (by rw [h]; rfl)
    obtain ⟨hblocking, hloose⟩ : D.Loose i (.step t act next) pool.shared := hpool.tasks.2 i _ h
    have haway : D.away i pool.shared := hpool.away i (by simp [h])
    obtain ⟨hkeeps, hnext⟩ := hloose _ (D.hold_refl i t _) hinv haway e hok
    exact ⟨D.poolSound_put hpool hkeeps.inv (D.sound_detached hnext)
      (fun _ => hkeeps.away i (.inr hblocking) haway) (D.others_free hfree hkeeps.others)
      fun j hj => hkeeps.away j (.inl hj), hkeeps.good⟩
  | drop i t act next h =>
    obtain ⟨hsafe, hdetach⟩ : D.Safe i (.step t act next) (fun _ => D.away i) pool.shared
      ∧ D.Detachable i (.step t act next) pool.shared := hpool.tasks.2 i _ h
    have hpre := (hsafe _ (D.rely_refl i t _) hinv).1
    have hdrop : D.okDrop t := hev t (by rw [h]; rfl)
    obtain ⟨hinv', hgood⟩ := D.drop_inv i t _ hinv hpre hdrop
    have hloose := (hdetach _ (D.rely_refl i t _) hinv).1 hdrop
    refine ⟨D.poolSound_put hpool hinv' (D.sound_detached hloose)
      (fun _ => (D.drop_away i t _).1) ?_ (D.drop_away i t _).2, hgood⟩
    intro j task hj _ t' _
    exact D.drop_others i j t t' _ hj
  | env x h =>
    obtain ⟨hinv', hgood⟩ := D.env_inv x _ hinv
    refine ⟨⟨⟨hinv', fun j task htask => ?_⟩, fun j hj => D.env_away x _ j (.inr (hpool.away j hj))⟩,
      hgood⟩
    exact D.sound_rely (hpool.tasks.2 j task htask) (fun t _ => D.env_others x _ h hinv j t)
      fun haway => D.env_away x _ j (.inr haway)
  | restart x h =>
    obtain ⟨hinv', hgood⟩ := D.env_inv x _ hinv
    exact ⟨⟨poolInv_idle hinv', fun j _ => D.env_away x _ j (.inl h)⟩, hgood⟩

/-- **EVERY SCHEDULE**: over an admitted run from an idle server the invariant holds in
every state and every step is good. -/
lemma always_good (hstart : ∀ i q s, D.inv s → D.away i s →
      D.Safe i (srv.start q) (fun _ => D.away i) s ∧ D.Detachable i (srv.start q) s)
    (hs : D.inv s) (haway : ∀ i, D.away i s) {events : List (Event Q E X)}
    (hadmits : AllSteps srv.step D.Admits (.idle s) events) :
    Always srv.step (fun pool => D.inv pool.shared) (.idle s) events
      ∧ AllSteps srv.step (fun pool ev => D.good pool.shared (srv.step pool ev).shared) (.idle s)
          events := by
  have hstep : ∀ pool ev, D.PoolSound pool → D.Admits pool ev → D.PoolSound (srv.step pool ev) :=
    fun pool ev hpool hev => (D.poolSound_good_step hstart pool ev hpool hev).1
  have hidle : D.PoolSound (.idle s) := ⟨poolInv_idle hs, fun i _ => haway i⟩
  refine ⟨?_, ?_⟩
  · intro pre post hevents
    exact (always_of_inv hstep hidle hadmits pre post hevents).tasks.1
  · exact allSteps_of_inv hstep (fun pool ev hpool hev =>
      (D.poolSound_good_step hstart pool ev hpool hev).2) hidle hadmits

end Discipline

end WattTasks
