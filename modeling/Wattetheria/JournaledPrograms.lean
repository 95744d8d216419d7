import Wattetheria.StepRuns

/-!
# Programs and the writes they make

A fallible program over a store that is not a transaction: it reads, writes
and may stop with an error, and what it wrote before the error stays.  Such a
program is a function from the store it starts in to its result and the list
of its writes, in order; the store it leaves is the replay of that list.

`AllWrites` says that every write meets a predicate, `Keeps` that an invariant of
the store survives the program however it ends; both have a rule for each way
programs are put together.
-/

namespace WattJournal

open WattRuns List

/-- What a write does to the store. -/
class Replay (ω : Type) (σ : outParam Type) where
  apply : σ → ω → σ

/-- The store after some writes. -/
def replay {σ ω : Type} [Replay ω σ] (s : σ) (ws : List ω) : σ := ws.foldl Replay.apply s

/-- A program: its result and its writes, from the store it starts in. -/
def Program (σ ω ε α : Type) : Type := σ → Except ε α × List ω

namespace Program

variable {σ ω ε α β : Type} (p : Program σ ω ε α) (s : σ)

def result : Except ε α := (p s).1

/-- What the program writes, also when it stops with an error. -/
def writes : List ω := (p s).2

def read : Program σ ω ε σ := fun s => (.ok s, [])

variable (w : ω)

def write : Program σ ω ε Unit := fun _ => (.ok (), [w])

variable (x : Except ε α)

def ofExcept : Program σ ω ε α := fun _ => (x, [])

variable (kind : ε → Bool)

/-- Go on as if nothing had happened after an error of the given kind. -/
def forgive (p : Program σ ω ε Unit) : Program σ ω ε Unit := fun s =>
  match p s with
  | (.error e, ws) => (if kind e then .ok () else .error e, ws)
  | (.ok u, ws) => (.ok u, ws)

@[simp] lemma result_ofExcept : result (ofExcept x : Program σ ω ε α) s = x := rfl

@[simp] lemma writes_ofExcept : writes (ofExcept x : Program σ ω ε α) s = [] := rfl

@[simp] lemma result_write (s : σ) : result (write w : Program σ ω ε Unit) s = .ok () := rfl

@[simp] lemma writes_forgive (p : Program σ ω ε Unit) (s : σ) :
    writes (forgive kind p) s = writes p s := by
  unfold writes forgive
  cases p s with
  | mk r ws => cases r <;> rfl

variable {kind : ε → Bool}

lemma result_forgive_of_ok {p : Program σ ω ε Unit} {s : σ} {u : Unit} (h : result p s = .ok u) :
    result (forgive kind p) s = .ok u := by
  unfold result forgive
  rw [show p s = (.ok u, writes p s) from Prod.ext h rfl]

lemma result_forgive_of_error {p : Program σ ω ε Unit} {s : σ} {e : ε} (h : result p s = .error e) :
    result (forgive kind p) s = if kind e then .ok () else .error e := by
  unfold result forgive
  rw [show p s = (.error e, writes p s) from Prod.ext h rfl]

/-- Every write of the program meets `Q`, from whatever store it starts. -/
def AllWrites (Q : ω → Prop) (p : Program σ ω ε α) : Prop := ∀ s, ∀ w ∈ writes p s, Q w

variable {Q : ω → Prop}

lemma allWrites_ofExcept : AllWrites Q (ofExcept x : Program σ ω ε α) := by
  intro s w hw
  cases hw

lemma allWrites_write {w : ω} (h : Q w) : AllWrites Q (write w : Program σ ω ε Unit) := by
  intro s w' hw'
  rw [mem_singleton.mp hw']
  exact h

variable {p : Program σ ω ε α} {c : Prop} {q : Program σ ω ε α}

lemma allWrites_ite [Decidable c] (hp : AllWrites Q p)
    (hq : AllWrites Q q) : AllWrites Q (if c then p else q) := by
  split
  · exact hp
  · exact hq

lemma allWrites_forgive {p : Program σ ω ε Unit} (hp : AllWrites Q p) :
    AllWrites Q (forgive kind p) := by
  intro s w hw
  rw [writes_forgive] at hw
  exact hp s w hw

lemma AllWrites.mono {Q' : ω → Prop} (h : ∀ w, Q w → Q' w) (hp : AllWrites Q p) :
    AllWrites Q' p := fun s w hw => h w (hp s w hw)

variable [Replay ω σ]

/-- The store the program leaves. -/
def after (p : Program σ ω ε α) (s : σ) : σ := replay s (writes p s)

/-- One program after the other; an error of the first ends both. -/
def andThen (p : Program σ ω ε α) (f : α → Program σ ω ε β) : Program σ ω ε β := fun s =>
  match p s with
  | (.error e, ws) => (.error e, ws)
  | (.ok a, ws) => ((f a (replay s ws)).1, ws ++ (f a (replay s ws)).2)

instance : Monad (Program σ ω ε) where
  pure a := fun _ => (.ok a, [])
  bind := andThen

/-- `for x in xs { … }`: the first error ends the loop. -/
def forEach : List β → (β → Program σ ω ε Unit) → Program σ ω ε Unit
  | [], _ => pure ()
  | x :: xs, body => body x >>= fun _ => forEach xs body

/-- `if c { … }`. -/
def onlyIf (c : Bool) (p : Program σ ω ε Unit) : Program σ ω ε Unit := if c then p else pure ()

/-! ## Sequencing -/

section Sequencing

variable {p : Program σ ω ε α} {f : α → Program σ ω ε β} {s : σ} {a : α} {e : ε} {b : β}

lemma bind_ok (h : result p s = .ok a) :
    (p >>= f) s = (result (f a) (after p s), writes p s ++ writes (f a) (after p s)) := by
  show andThen p f s = _
  unfold andThen
  rw [show p s = (.ok a, writes p s) from Prod.ext h rfl]
  rfl

lemma bind_error (h : result p s = .error e) : (p >>= f) s = (.error e, writes p s) := by
  show andThen p f s = _
  unfold andThen
  rw [show p s = (.error e, writes p s) from Prod.ext h rfl]

lemma result_bind_ok (h : result p s = .ok a) : result (p >>= f) s = result (f a) (after p s) := by
  show ((p >>= f) s).1 = _
  rw [bind_ok h]

lemma result_bind_error (h : result p s = .error e) : result (p >>= f) s = .error e :=
  congrArg Prod.fst (bind_error h)

lemma writes_bind_ok (h : result p s = .ok a) :
    writes (p >>= f) s = writes p s ++ writes (f a) (after p s) := congrArg Prod.snd (bind_ok h)

lemma writes_bind_error (h : result p s = .error e) : writes (p >>= f) s = writes p s :=
  congrArg Prod.snd (bind_error h)

lemma replay_append (s : σ) (ws ws' : List ω) :
    replay s (ws ++ ws') = replay (replay s ws) ws' := foldl_append

lemma after_bind_ok (h : result p s = .ok a) : after (p >>= f) s = after (f a) (after p s) := by
  show replay s (writes (p >>= f) s) = _
  rw [writes_bind_ok h, replay_append]
  rfl

lemma after_bind_error (h : result p s = .error e) : after (p >>= f) s = after p s := by
  show replay s (writes (p >>= f) s) = _
  rw [writes_bind_error h]
  rfl

lemma after_then_pure (p : Program σ ω ε Unit) (s : σ) :
    after (p >>= fun _ => pure ()) s = after p s := by
  cases hp : result p s with
  | error e => exact after_bind_error hp
  | ok u => exact after_bind_ok hp

/-- A sequence succeeds exactly when its first part does and the rest does on what
that part leaves. -/
lemma result_bind_eq_ok :
    result (p >>= f) s = .ok b ↔ ∃ a, result p s = .ok a ∧ result (f a) (after p s) = .ok b := by
  cases h : result p s with
  | error e =>
    rw [result_bind_error h]
    constructor
    · intro hc; cases hc
    · rintro ⟨a, ha, -⟩; cases ha
  | ok a =>
    rw [result_bind_ok h]
    constructor
    · intro hb; exact ⟨a, rfl, hb⟩
    · rintro ⟨a', ha, hb⟩
      cases ha
      exact hb

lemma result_seq_eq_ok {p : Program σ ω ε Unit} {q : Program σ ω ε β} :
    result (p >>= fun _ => q) s = .ok b ↔ result p s = .ok () ∧ result q (after p s) = .ok b := by
  rw [result_bind_eq_ok]
  constructor
  · rintro ⟨⟨⟩, hp, hq⟩; exact ⟨hp, hq⟩
  · rintro ⟨hp, hq⟩; exact ⟨(), hp, hq⟩

@[simp] lemma result_pure (a : α) (s : σ) : result (pure a : Program σ ω ε α) s = .ok a := rfl

@[simp] lemma after_pure (a : α) (s : σ) : after (pure a : Program σ ω ε α) s = s := rfl

variable (g : σ → Program σ ω ε β)

@[simp] lemma result_read_bind (s : σ) :
    result ((read : Program σ ω ε σ) >>= g) s = result (g s) s := rfl

@[simp] lemma writes_read_bind (s : σ) :
    writes ((read : Program σ ω ε σ) >>= g) s = writes (g s) s := rfl

@[simp] lemma after_read_bind (s : σ) :
    after ((read : Program σ ω ε σ) >>= g) s = after (g s) s := rfl

lemma ofExcept_bind {x : Except ε α} {f : α → Program σ ω ε β} (h : x = .ok a) :
    (ofExcept x >>= f : Program σ ω ε β) = f a := by
  subst h
  rfl

@[simp] lemma after_ofExcept (x : Except ε α) (s : σ) :
    after (ofExcept x : Program σ ω ε α) s = s := rfl

@[simp] lemma after_forgive (kind : ε → Bool) (p : Program σ ω ε Unit) (s : σ) :
    after (forgive kind p) s = after p s := by
  show replay s (writes (forgive kind p) s) = _
  rw [writes_forgive]
  rfl

lemma result_forEach_write (w : β → ω) (xs : List β) (s : σ) :
    result (forEach xs fun x => (write (w x) : Program σ ω ε Unit)) s = .ok () := by
  induction xs generalizing s with
  | nil => rfl
  | cons x xs ih => exact (result_bind_ok rfl).trans (ih _)

lemma writes_forEach_write (w : β → ω) (xs : List β) (s : σ) :
    writes (forEach xs fun x => (write (w x) : Program σ ω ε Unit)) s = xs.map w := by
  induction xs generalizing s with
  | nil => rfl
  | cons x xs ih => exact (writes_bind_ok rfl).trans (congrArg (w x :: ·) (ih _))

section Loops

variable {body : β → Program σ ω ε Unit} {xs : List β}

/-- A loop gets to its end exactly when its body succeeds at every element, on what the
elements before it leave. -/
lemma result_forEach_eq_ok : ∀ {s : σ}, result (forEach xs body) s = .ok ()
    ↔ AllSteps (fun s x => after (body x) s) (fun s x => result (body x) s = .ok ()) s xs := by
  induction xs with
  | nil => intro s; exact ⟨fun _ => trivial, fun _ => rfl⟩
  | cons x xs ih =>
    intro s
    rw [forEach, result_seq_eq_ok, ih]
    exact Iff.rfl

lemma after_forEach_of_ok : ∀ {s : σ}, result (forEach xs body) s = .ok () →
    after (forEach xs body) s = run (fun s x => after (body x) s) s xs := by
  induction xs with
  | nil => intro s _; rfl
  | cons x xs ih =>
    intro s h
    obtain ⟨hx, hxs⟩ := result_seq_eq_ok.mp h
    rw [forEach, after_bind_ok hx, ih hxs, run_cons]

variable (ys : List β)

lemma after_forEach_append_ok : ∀ {s : σ}, result (forEach xs body) s = .ok () →
      after (forEach (xs ++ ys) body) s = after (forEach ys body) (after (forEach xs body) s) := by
  induction xs with
  | nil => intro s _; rfl
  | cons x xs ih =>
    intro s h
    obtain ⟨hx, hxs⟩ := result_seq_eq_ok.mp h
    show after (body x >>= fun _ => forEach (xs ++ ys) body) s
      = after (forEach ys body) (after (body x >>= fun _ => forEach xs body) s)
    rw [after_bind_ok hx, after_bind_ok hx]
    exact ih hxs

lemma after_forEach_append_error : ∀ {s : σ}, result (forEach xs body) s = .error e →
      after (forEach (xs ++ ys) body) s = after (forEach xs body) s := by
  induction xs with
  | nil => intro s h; cases h
  | cons x xs ih =>
    intro s h
    show after (body x >>= fun _ => forEach (xs ++ ys) body) s
      = after (body x >>= fun _ => forEach xs body) s
    cases hx : result (body x) s with
    | error e' => rw [after_bind_error hx, after_bind_error hx]
    | ok u =>
      rw [after_bind_ok hx, after_bind_ok hx]
      exact ih ((result_bind_ok hx).symm.trans h)

lemma after_forEach_singleton (x : β) (s : σ) : after (forEach [x] body) s = after (body x) s :=
  after_then_pure (body x) s

/-- A loop over one more element: its body runs last, unless the loop stopped before. -/
lemma after_forEach_snoc (body : β → Program σ ω ε Unit) (x : β) (xs : List β) (s : σ) :
    after (forEach (xs ++ [x]) body) s = after (body x) (after (forEach xs body) s)
      ∨ after (forEach (xs ++ [x]) body) s = after (forEach xs body) s := by
  cases h : result (forEach xs body) s with
  | error e => exact .inr (after_forEach_append_error [x] h)
  | ok u => exact .inl ((after_forEach_append_ok [x] h).trans (after_forEach_singleton x _))

end Loops

end Sequencing

/-! ## What a program may write -/

lemma allWrites_pure (a : α) : AllWrites Q (pure a : Program σ ω ε α) := by
  intro s w hw
  cases hw

variable {f : α → Program σ ω ε β}

/-- The rule of sequencing: the rest is only looked at for values the first part can
return. -/
lemma allWrites_bind_of (hp : AllWrites Q p)
    (hf : ∀ s a, result p s = .ok a → AllWrites Q (f a)) : AllWrites Q (p >>= f) := by
  intro s w hw
  cases h : result p s with
  | error e =>
    rw [writes_bind_error h] at hw
    exact hp s w hw
  | ok a =>
    rw [writes_bind_ok h] at hw
    rcases mem_append.mp hw with hw | hw
    · exact hp s w hw
    · exact hf s a h (after p s) w hw

lemma allWrites_bind (hp : AllWrites Q p) (hf : ∀ a, AllWrites Q (f a)) : AllWrites Q (p >>= f) :=
  allWrites_bind_of hp fun _ a _ => hf a

lemma allWrites_read_bind {f : σ → Program σ ω ε β} (hf : ∀ s, AllWrites Q (f s)) :
    AllWrites Q ((read : Program σ ω ε σ) >>= f) := by
  intro s w hw
  exact hf s s w hw

lemma allWrites_ofExcept_bind {x : Except ε α} {f : α → Program σ ω ε β}
    (hf : ∀ a, AllWrites Q (f a)) : AllWrites Q (ofExcept x >>= f) :=
  allWrites_bind (allWrites_ofExcept x) hf

lemma allWrites_onlyIf {c : Bool} {p : Program σ ω ε Unit} (hp : AllWrites Q p) :
    AllWrites Q (onlyIf c p) := allWrites_ite hp (allWrites_pure ())

variable {body : β → Program σ ω ε Unit}

lemma allWrites_forEach {xs : List β} (h : ∀ x ∈ xs, AllWrites Q (body x)) :
    AllWrites Q (forEach xs body) := by
  induction xs with
  | nil => exact allWrites_pure ()
  | cons x xs ih =>
    obtain ⟨hx, hxs⟩ := forall_mem_cons.mp h
    exact allWrites_bind hx fun _ => ih hxs

/-! ## What a program keeps -/

/-- What held of the store before the program holds after it, however it ends. -/
def Keeps (I : σ → Prop) (p : Program σ ω ε α) : Prop := ∀ s, I s → I (after p s)

variable {I : σ → Prop}

lemma keeps_of_allWrites (hstep : ∀ s w, Q w → I s → I (Replay.apply s w)) (hp : AllWrites Q p) :
    Keeps I p := by
  have hall : ∀ ws : List ω, (∀ w ∈ ws, Q w) → ∀ s, I s → I (replay s ws) := by
    intro ws
    induction ws with
    | nil => intro _ s hs; exact hs
    | cons w ws ih =>
      intro hws s hs
      obtain ⟨hw, hws⟩ := forall_mem_cons.mp hws
      exact ih hws _ (hstep s w hw hs)
  exact fun s hs => hall (writes p s) (hp s) s hs

/-- A part of the store that no write of the program changes. -/
lemma view_after {τ : Type} {view : σ → τ}
    (hview : ∀ s w, Q w → view (Replay.apply s w) = view s) (hp : AllWrites Q p) (s : σ) :
    view (after p s) = view s :=
  keeps_of_allWrites (I := fun s' => view s' = view s)
    (fun s' w hw h => (hview s' w hw).trans h) hp s rfl

lemma keeps_pure (a : α) : Keeps I (pure a : Program σ ω ε α) := fun _ hs => hs

lemma keeps_bind (hp : Keeps I p) (hf : ∀ a, Keeps I (f a)) : Keeps I (p >>= f) := by
  intro s hs
  cases h : result p s with
  | error e =>
    rw [after_bind_error h]
    exact hp s hs
  | ok a =>
    rw [after_bind_ok h]
    exact hf a _ (hp s hs)

/-- What is read is read from a store the invariant holds of. -/
lemma keeps_read_bind {f : σ → Program σ ω ε β} (hf : ∀ s, I s → Keeps I (f s)) :
    Keeps I ((read : Program σ ω ε σ) >>= f) := fun s hs => hf s hs s hs

lemma keeps_ofExcept_bind {x : Except ε α} (hf : ∀ a, x = .ok a → Keeps I (f a)) :
    Keeps I (ofExcept x >>= f) := by
  cases x with
  | error e => exact fun _ hs => hs
  | ok a => exact hf a rfl

lemma keeps_forgive {p : Program σ ω ε Unit} (hp : Keeps I p) : Keeps I (forgive kind p) := by
  intro s hs
  rw [after_forgive]
  exact hp s hs

lemma keeps_ite [Decidable c] (hp : Keeps I p) (hq : Keeps I q) : Keeps I (if c then p else q) := by
  split
  · exact hp
  · exact hq

lemma keeps_forEach {xs : List β} (h : ∀ x ∈ xs, Keeps I (body x)) : Keeps I (forEach xs body) := by
  induction xs with
  | nil => exact keeps_pure ()
  | cons x xs ih =>
    obtain ⟨hx, hxs⟩ := forall_mem_cons.mp h
    exact keeps_bind hx fun _ => ih hxs

/-- An invariant that the body keeps at the elements that meet a condition where the
loop gets to them. -/
lemma inv_forEach {ok : σ → β → Prop} (hstep : ∀ s x, I s → ok s x → I (after (body x) s)) :
    ∀ {xs : List β} {s : σ}, I s →
      AllSteps (fun s x => after (body x) s) ok s xs → I (after (forEach xs body) s) := by
  intro xs
  induction xs with
  | nil => intro s hs _; exact hs
  | cons x xs ih =>
    intro s hs hall
    have hnext := hstep s x hs hall.1
    rw [forEach]
    cases hx : result (body x) s with
    | error e => rwa [after_bind_error hx]
    | ok u =>
      rw [after_bind_ok hx]
      exact ih hnext hall.2

end Program

end WattJournal
