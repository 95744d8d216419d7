import Mathlib

/-!
# Folding an associative merge

A replica folds the records it receives into the one it holds.  The merge is
associative but need not be commutative: on fields it never writes the first
record wins.  `Below x y` says that merging `x` and `y` gives `y` in either
order.  Among records that all lie below one of them the order and the number
of times they arrive do not matter: the fold ends at the top one as soon as it
has been received (`foldl_absorb_eq_top`).
-/

namespace WattMergeFold

variable {V : Type} (op : V → V → V)

/-- Merging `x` and `y` gives `y`, whichever came first. -/
def Below (x y : V) : Prop := op x y = y ∧ op y x = y

/-- Receives one record. -/
def absorb : Option V → V → Option V
  | none, v => some v
  | some held, v => some (op held v)

variable {op} {top : V} {records : List V}

lemma foldl_absorb_top (h : ∀ v ∈ records, Below op v top) :
    records.foldl (absorb op) (some top) = some top := by
  induction records with
  | nil => rfl
  | cons v rest ih =>
    have hv : op top v = top := (h v (List.mem_cons_self ..)).2
    show rest.foldl (absorb op) (some (op top v)) = some top
    rw [hv]
    exact ih fun w hw => h w (List.mem_cons_of_mem _ hw)

variable [Std.Associative op]

lemma Below.trans {x y z : V} (hxy : Below op x y) (hyz : Below op y z) : Below op x z := by
  constructor
  · calc op x z = op x (op y z) := by rw [hyz.1]
      _ = op (op x y) z := (Std.Associative.assoc x y z).symm
      _ = z := by rw [hxy.1, hyz.1]
  · calc op z x = op (op z y) x := by rw [hyz.2]
      _ = op z (op y x) := Std.Associative.assoc z y x
      _ = z := by rw [hxy.2, hyz.2]

/-- What is below the top stays below it under the merge. -/
lemma Below.merge {x y : V} (hx : Below op x top) (hy : Below op y top) :
    Below op (op x y) top := by
  constructor
  · calc op (op x y) top = op x (op y top) := Std.Associative.assoc x y top
      _ = top := by rw [hy.1, hx.1]
  · calc op top (op x y) = op (op top x) y := (Std.Associative.assoc top x y).symm
      _ = top := by rw [hx.2, hy.2]

/-- **CONVERGENCE**: a replica that starts with nothing, or with something below
the top, and receives records below the top in any order and any number of
times holds the top once it has received it. -/
lemma foldl_absorb_eq_top (h : ∀ v ∈ records, Below op v top)
    (htop : top ∈ records) {held : Option V} (hheld : ∀ v ∈ held, Below op v top) :
    records.foldl (absorb op) held = some top := by
  induction records generalizing held with
  | nil => cases htop
  | cons v rest ih =>
    have hv : Below op v top := h v (List.mem_cons_self ..)
    have hrest : ∀ w ∈ rest, Below op w top := fun w hw => h w (List.mem_cons_of_mem _ hw)
    show rest.foldl (absorb op) (absorb op held v) = some top
    rcases List.mem_cons.mp htop with rfl | hlater
    · -- the top arrives now, and everything after it is absorbed
      have habsorb : absorb op held top = some top := by
        cases held with
        | none => rfl
        | some w => exact congrArg some (hheld w rfl).1
      rw [habsorb]
      exact foldl_absorb_top hrest
    · refine ih hrest hlater ?_
      intro w hw
      cases held with
      | none =>
        cases hw
        exact hv
      | some u =>
        cases hw
        exact (hheld u rfl).merge hv

end WattMergeFold
