import Mathlib

/-!
# Hash chains

A list of records in which each names the hash of the one before it.  A record is
*sound* when it is what its hash says it is; if the hash of a sound record tells which
record it is, the hash of the last record tells the whole list.
-/

namespace WattChain

variable {E H : Type} {prev : E → Option H} {hash : E → H} {sound : E → Prop}

/-- The records follow each other, the first one naming `before`. -/
def Chained (prev : E → Option H) (hash : E → H) (sound : E → Prop) : Option H → List E → Prop
  | _, [] => True
  | before, e :: es => prev e = before ∧ sound e ∧ Chained prev hash sound (some (hash e)) es

/-- The hash of the last record. -/
def tip (hash : E → H) (before : Option H) (es : List E) : Option H :=
  (es.getLast?.map hash).or before

variable (before : Option H)

@[simp] lemma tip_nil : tip hash before [] = before := rfl

lemma tip_cons (e : E) (es : List E) : tip hash before (e :: es) = tip hash (some (hash e)) es := by
  cases es with
  | nil => rfl
  | cons f es =>
    obtain ⟨last, hlast⟩ : ∃ last, (f :: es).getLast? = some last :=
      Option.isSome_iff_exists.mp (by simp)
    rw [tip, tip, List.getLast?_cons_cons, hlast]
    rfl

@[simp] lemma tip_snoc (es : List E) (e : E) : tip hash before (es ++ [e]) = some (hash e) := by
  rw [tip, List.getLast?_append, List.getLast?_singleton]
  rfl

lemma chained_snoc : ∀ {es : List E} {before : Option H} {e : E},
    Chained prev hash sound before (es ++ [e])
      ↔ Chained prev hash sound before es ∧ prev e = tip hash before es ∧ sound e
  | [], before, e => by
    simp [Chained]
  | f :: es, before, e => by
    rw [List.cons_append, Chained, Chained, chained_snoc, tip_cons]
    tauto

lemma chained_unique : ∀ {as bs : List E}, Chained prev hash sound none as →
    Chained prev hash sound none bs →
    (∀ a ∈ as, ∀ b ∈ bs, sound a → sound b → hash a = hash b → a = b) →
    tip hash none as = tip hash none bs → as = bs := by
  intro as
  induction as using List.reverseRecOn with
  | nil =>
    intro bs _ _ _ htip
    cases bs using List.reverseRecOn with
    | nil => rfl
    | append_singleton bs b => simp at htip
  | append_singleton as a ih =>
    intro bs has hbs hbind htip
    cases bs using List.reverseRecOn with
    | nil => simp at htip
    | append_singleton bs b =>
      rw [chained_snoc] at has hbs
      obtain ⟨has, hprevA, hsoundA⟩ := has
      obtain ⟨hbs, hprevB, hsoundB⟩ := hbs
      rw [tip_snoc, tip_snoc] at htip
      -- the last records are the same, so they name the same record before them
      have hab : a = b := hbind a (by simp) b (by simp) hsoundA hsoundB (Option.some.inj htip)
      have htips : tip hash none as = tip hash none bs := by
        rw [← hprevA, ← hprevB, hab]
      have hrest : as = bs := ih has hbs
        (fun x hx y hy => hbind x (List.mem_append_left _ hx) y (List.mem_append_left _ hy)) htips
      rw [hrest, hab]

end WattChain
