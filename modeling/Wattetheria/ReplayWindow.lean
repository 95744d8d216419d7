import Wattetheria.KeyedStore

/-!
# Replay windows

A receiver refuses what it has seen: it keeps a memory of what it accepted and sweeps out
what has grown old (`sweepAndRecord`), while a message is taken only inside a window of time
of its own.  Both expire independently.  A message is accepted at most once if what the
memory keeps of it outlives its window (`Covers`, `accepted_nodup`).
-/

namespace WattReplay

open List Option

/-! ## A swept cache -/

section Cache

variable {E : Type}

/-- What the cache says of a key. -/
inductive Recall where
  | fresh
  | used
  | full
  deriving DecidableEq

/-- Sweep the cache, then record the key unless it is there or the cache is full. -/
def sweepAndRecord (alive : E → Bool) (limit : Option Nat) (cache : Std.ExtTreeMap String E)
    (key : String) (stamp : E) : Recall × Std.ExtTreeMap String E :=
  let swept := cache.filter fun _ e => alive e
  if swept.contains key then (.used, swept)
  else if limit.any (· ≤ swept.size) then (.full, swept)
  else (.fresh, swept.insert key stamp)

variable {alive : E → Bool} {limit : Option Nat} {cache : Std.ExtTreeMap String E} {key : String}
  {stamp : E} (k : String) {e : E}

lemma getElem?_sweep : (cache.filter fun _ e => alive e)[k]? = cache[k]?.filter alive :=
  Std.ExtTreeMap.getElem?_filter'

lemma contains_sweep :
    (cache.filter fun _ e => alive e).contains k = (cache[k]?.filter alive).isSome := by
  rw [Std.ExtTreeMap.contains_eq_isSome_getElem?, getElem?_sweep]

/-- What is fresh is recorded, and nothing alive stood under its key. -/
lemma sweepAndRecord_fresh (h : (sweepAndRecord alive limit cache key stamp).1 = .fresh) :
    (∀ e, cache[key]? = some e → ¬alive e = true)
      ∧ (sweepAndRecord alive limit cache key stamp).2[key]? = some stamp := by
  rw [sweepAndRecord] at h ⊢
  split at h
  · cases h
  · rename_i habsent
    split at h
    · cases h
    · rename_i hroom
      rw [if_neg habsent, if_neg hroom]
      refine ⟨?_, ?_⟩
      · intro e he halive
        rw [contains_sweep, he, filter_some_pos halive] at habsent
        exact habsent rfl
      · rw [WattKeyed.getElem?_insert, if_pos rfl]

/-- A key that is not in the cache is recorded unless the swept cache is full. -/
lemma sweepAndRecord_absent (h : cache[key]? = none) :
    (sweepAndRecord alive limit cache key stamp).1 = .fresh
      ∨ limit.any (· ≤ (cache.filter fun _ e => alive e).size) = true
        ∧ (sweepAndRecord alive limit cache key stamp).1 = .full := by
  have habsent : ¬(cache.filter fun _ e => alive e).contains key = true := by
    rw [contains_sweep, h]
    exact Bool.false_ne_true
  rw [sweepAndRecord]
  rw [if_neg habsent]
  split
  · rename_i hfull
    exact .inr ⟨hfull, rfl⟩
  · exact .inl rfl

/-- What the cache holds afterwards it held before, or has just recorded. -/
lemma of_getElem?_sweepAndRecord {k : String}
    (h : (sweepAndRecord alive limit cache key stamp).2[k]? = some e) :
    cache[k]? = some e ∨ k = key ∧ (sweepAndRecord alive limit cache key stamp).1 = .fresh := by
  have hswept : (cache.filter fun _ e => alive e)[k]? = some e → cache[k]? = some e := by
    intro hget
    rw [getElem?_sweep, filter_eq_some_iff] at hget
    exact hget.1
  rw [sweepAndRecord] at h ⊢
  split at h
  · exact .inl (hswept h)
  · rename_i habsent
    split at h
    · exact .inl (hswept h)
    · rename_i hroom
      rw [if_neg habsent, if_neg hroom]
      rw [WattKeyed.getElem?_insert] at h
      split at h
      · rename_i hk
        exact .inr ⟨hk, rfl⟩
      · exact .inl (hswept h)

lemma sweepAndRecord_keeps {k : String} (hget : cache[k]? = some e)
    (halive : alive e = true) : (sweepAndRecord alive limit cache key stamp).2[k]? = some e := by
  have hswept : (cache.filter fun _ e => alive e)[k]? = some e := by
    rw [getElem?_sweep, hget, filter_some_pos halive]
  rw [sweepAndRecord]
  split
  · exact hswept
  · rename_i habsent
    split
    · exact hswept
    · have hne : k ≠ key := by
        rintro rfl
        rw [contains_sweep, hget, filter_some_pos halive] at habsent
        exact habsent rfl
      rw [WattKeyed.getElem?_insert, if_neg hne]
      exact hswept

end Cache

/-! ## Guards -/

/-- A receiver of messages `P` with a memory `M`, reading clocks `C`.  The memory keeps a stamp
under a key; two messages are the same one when they have the same name.  A message without
a name is not guarded. -/
structure ReplayGuard (M C P N K E : Type) where
  check : M → C → P → Bool × M
  get : M → K → Option E
  name : P → Option N
  key : N → K
  /-- the message is inside its window -/
  opens : C → N → Prop
  /-- the stamp survives a sweep -/
  alive : C → E → Prop
  stamp : C → N → E
  accept_opens : ∀ {m c p n}, name p = some n → (check m c p).1 = true → opens c n
  accept_fresh : ∀ {m c p n e}, name p = some n → (check m c p).1 = true →
    get m (key n) = some e → ¬alive c e
  accept_records : ∀ {m c p n}, name p = some n → (check m c p).1 = true →
    get (check m c p).2 (key n) = some (stamp c n)
  keeps : ∀ {m c p k e}, get m k = some e → alive c e → get (check m c p).2 k = some e

namespace ReplayGuard

variable {M C P N K E : Type} (G : ReplayGuard M C P N K E)

/-- What a receiver accepts of the messages it checks, in order. -/
def accepted : M → List (C × P) → List P
  | _, [] => []
  | m, (c, p) :: checks =>
    if (G.check m c p).1 = true then p :: accepted (G.check m c p).2 checks
    else accepted (G.check m c p).2 checks

/-- The names that were accepted. -/
def names (m : M) (checks : List (C × P)) : List N := (G.accepted m checks).filterMap G.name

def after : M → List (C × P) → M
  | m, [] => m
  | m, (c, p) :: checks => after (G.check m c p).2 checks

/-- What is recorded of the message at `c` is alive at every reading from then on up to the last
one inside the message's window. -/
def Covers (before : C → C → Prop) (c : C) (n : N) : Prop :=
  ∀ c' c'', before c c' → (c' = c'' ∨ before c' c'') → G.opens c'' n → G.alive c' (G.stamp c n)

variable {G} {c : C} {m : M} {p : P} {checks : List (C × P)} {n : N} {before : C → C → Prop}

lemma names_cons_accept (h : (G.check m c p).1 = true) : G.names m ((c, p) :: checks)
      = (G.name p).toList ++ G.names (G.check m c p).2 checks := by
  rw [names, accepted, if_pos h, filterMap_cons]
  cases G.name p with
  | none => rfl
  | some n => rfl

lemma names_cons_refuse (h : ¬(G.check m c p).1 = true) :
    G.names m ((c, p) :: checks) = G.names (G.check m c p).2 checks := by
  rw [names, accepted, if_neg h]
  rfl

lemma names_append : ∀ {xs ys : List (C × P)} {m : M},
    G.names m (xs ++ ys) = G.names m xs ++ G.names (G.after m xs) ys
  | [], _, _ => rfl
  | (c, p) :: xs, ys, m => by
    rw [cons_append, after]
    by_cases h : (G.check m c p).1 = true
    · rw [names_cons_accept h, names_cons_accept h, names_append, append_assoc]
    · rw [names_cons_refuse h, names_cons_refuse h, names_append]

/-- What is accepted was inside its window at some check. -/
lemma opens_of_mem_names : ∀ {checks : List (C × P)} {m : M}, n ∈ G.names m checks →
    ∃ c p, (c, p) ∈ checks ∧ G.opens c n
  | [], _, h => by cases h
  | (c, p) :: checks, m, h => by
    by_cases haccept : (G.check m c p).1 = true
    · rw [names_cons_accept haccept, mem_append, mem_toList] at h
      rcases h with hname | hrest
      · exact ⟨c, p, mem_cons_self, G.accept_opens hname haccept⟩
      · obtain ⟨c', p', hmem, hopens⟩ := opens_of_mem_names hrest
        exact ⟨c', p', mem_cons_of_mem _ hmem, hopens⟩
    · rw [names_cons_refuse haccept] at h
      obtain ⟨c', p', hmem, hopens⟩ := opens_of_mem_names h
      exact ⟨c', p', mem_cons_of_mem _ hmem, hopens⟩

/-- While the memory holds its stamp, a covered message is not accepted again. -/
lemma not_mem_names (hcovers : G.Covers before c n) :
    ∀ {checks : List (C × P)} {m : M}, G.get m (G.key n) = some (G.stamp c n) →
      (∀ x ∈ checks, before c x.1) → checks.Pairwise (fun a b => before a.1 b.1) →
      n ∉ G.names m checks
  | [], _, _, _, _ => not_mem_nil
  | (c', p) :: checks, m, hget, hafter, hsorted => by
    rw [pairwise_cons] at hsorted
    obtain ⟨hfirst, hsorted⟩ := hsorted
    have hc' : before c c' := hafter _ mem_cons_self
    -- the rest of the run, from a memory that still holds the stamp
    have hrest : n ∉ G.names (G.check m c' p).2 checks := by
      intro hmem
      obtain ⟨c'', p'', hlater, hopens⟩ := opens_of_mem_names hmem
      have halive : G.alive c' (G.stamp c n) :=
        hcovers c' c'' hc' (.inr (hfirst _ hlater)) hopens
      exact not_mem_names hcovers (G.keeps hget halive)
        (fun x hx => hafter x (mem_cons_of_mem _ hx)) hsorted hmem
    by_cases haccept : (G.check m c' p).1 = true
    · rw [names_cons_accept haccept, mem_append, mem_toList]
      rintro (hname | hmem)
      · have halive : G.alive c' (G.stamp c n) :=
          hcovers c' c' hc' (.inl rfl) (G.accept_opens hname haccept)
        exact G.accept_fresh hname haccept hget halive
      · exact hrest hmem
    · rw [names_cons_refuse haccept]
      exact hrest

/-- **AT MOST ONCE**: if every message inside its window is covered when it is checked, no
message is accepted twice. -/
lemma accepted_nodup : ∀ {checks : List (C × P)} {m : M},
    checks.Pairwise (fun a b => before a.1 b.1) →
    (∀ x ∈ checks, ∀ n, G.name x.2 = some n → G.opens x.1 n → G.Covers before x.1 n) →
    (G.names m checks).Nodup
  | [], _, _, _ => nodup_nil
  | (c, p) :: checks, m, hsorted, hcovers => by
    rw [pairwise_cons] at hsorted
    have hrest : (G.names (G.check m c p).2 checks).Nodup :=
      accepted_nodup hsorted.2 fun x hx => hcovers x (mem_cons_of_mem _ hx)
    by_cases haccept : (G.check m c p).1 = true
    · rw [names_cons_accept haccept]
      cases hname : G.name p with
      | none => exact hrest
      | some n =>
        have hcover : G.Covers before c n :=
          hcovers (c, p) mem_cons_self n hname (G.accept_opens hname haccept)
        have hnot : n ∉ G.names (G.check m c p).2 checks :=
          not_mem_names hcover (G.accept_records hname haccept) hsorted.1 hsorted.2
        exact nodup_cons.mpr ⟨hnot, hrest⟩
    · rw [names_cons_refuse haccept]
      exact hrest

end ReplayGuard

end WattReplay
