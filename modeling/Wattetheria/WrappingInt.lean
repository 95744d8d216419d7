import Mathlib

/-!
# Wrapping 64-bit arithmetic

Sums and differences of `Int64` against those of the integers they stand for: a result
is exact exactly when the exact one fits, and in any case agrees with it modulo
`2 ^ 64`.
-/

namespace WattInt64

/-- The integer fits in 64 bits. -/
def Fits (n : Int) : Prop := -2 ^ 63 ≤ n ∧ n < 2 ^ 63

instance (n : Int) : Decidable (Fits n) := inferInstanceAs (Decidable (_ ∧ _))

lemma fits_toInt (a : Int64) : Fits a.toInt := ⟨a.le_toInt, a.toInt_lt⟩

variable {n : Int}

lemma bmod_eq_self_iff : n.bmod (2 ^ 64) = n ↔ Fits n := by
  constructor
  · intro h
    have hle : -(((2 ^ 64 : Nat) : Int) / 2) ≤ n.bmod (2 ^ 64) := Int.le_bmod (by decide)
    have hlt : n.bmod (2 ^ 64) < (((2 ^ 64 : Nat) : Int) + 1) / 2 := Int.bmod_lt (by decide)
    rw [h] at hle hlt
    exact ⟨by omega, by omega⟩
  · rintro ⟨hle, hlt⟩
    exact Int.bmod_eq_of_le (by omega) (by omega)

variable {a b : Int64} {m : Int}

lemma toInt_add_eq_iff : (a + b).toInt = a.toInt + b.toInt ↔ Fits (a.toInt + b.toInt) := by
  rw [Int64.toInt_add]
  exact bmod_eq_self_iff

lemma toInt_sub_eq_iff : (a - b).toInt = a.toInt - b.toInt ↔ Fits (a.toInt - b.toInt) := by
  rw [Int64.toInt_sub]
  exact bmod_eq_self_iff

lemma le_iff : a ≤ b ↔ a.toInt ≤ b.toInt := Int64.le_iff_toInt_le

lemma lt_iff : a < b ↔ a.toInt < b.toInt := Int64.lt_iff_toInt_lt

lemma toInt_zero : (0 : Int64).toInt = 0 := by decide

lemma toInt_min (a b : Int64) : (min a b).toInt = min a.toInt b.toInt := by
  show (if a ≤ b then a else b).toInt = _
  rw [min_def]
  simp only [le_iff]
  split <;> rfl

lemma toInt_max (a b : Int64) : (max a b).toInt = max a.toInt b.toInt := by
  show (if a ≤ b then b else a).toInt = _
  rw [max_def]
  simp only [le_iff]
  split <;> rfl

/-- The absolute value is exact except at the least integer, which is its own. -/
lemma toInt_abs (h : a.toInt ≠ -2 ^ 63) : a.abs.toInt = |a.toInt| := by
  have hmin : a.toBitVec ≠ BitVec.intMin 64 := by
    intro heq
    apply h
    show a.toBitVec.toInt = _
    rw [heq]
    decide
  show a.toBitVec.abs.toInt = |a.toBitVec.toInt|
  rw [BitVec.toInt_abs_eq_natAbs, if_neg hmin, Int.natCast_natAbs]

/-- An unsigned integer of 63 bits is the same as a signed one. -/
lemma toInt_toInt64 {n : UInt64} (h : n.toNat < 2 ^ 63) : n.toInt64.toInt = n.toNat := by
  show n.toBitVec.toInt = n.toBitVec.toNat
  refine BitVec.toInt_eq_toNat_of_lt ?_
  show 2 * n.toNat < 2 ^ 64
  omega

/-! ## Sums modulo `2 ^ 64` -/

/-- The 64-bit integer is the exact one up to a multiple of `2 ^ 64`. -/
def Stands (a : Int64) (n : Int) : Prop := a.toInt ≡ n [ZMOD 2 ^ 64]

lemma stands_toInt (a : Int64) : Stands a a.toInt := Int.ModEq.refl _

lemma stands_bmod (h : a.toInt = n.bmod (2 ^ 64)) : Stands a n := by
  rw [Stands, h]
  exact Int.bmod_emod

lemma stands_add (ha : Stands a m) (hb : Stands b n) : Stands (a + b) (m + n) :=
  (stands_bmod (Int64.toInt_add a b)).trans (ha.add hb)

lemma stands_neg (h : Stands a n) : Stands (-a) (-n) :=
  (stands_bmod (Int64.toInt_neg a)).trans h.neg

/-- Two integers that fit and agree modulo `2 ^ 64` are the same. -/
lemma eq_of_modEq (hm : Fits m) (hn : Fits n) (h : m ≡ n [ZMOD 2 ^ 64]) : m = n := by
  have hrest : m % ((2 ^ 64 : Nat) : Int) = n % ((2 ^ 64 : Nat) : Int) := h
  rw [← bmod_eq_self_iff.mpr hm, ← bmod_eq_self_iff.mpr hn, ← Int.emod_bmod m, hrest, Int.emod_bmod]

/-- What an integer stands for is exact exactly when it fits. -/
lemma toInt_eq_iff (h : Stands a n) : a.toInt = n ↔ Fits n := by
  constructor
  · rintro rfl
    exact fits_toInt a
  · intro hfits
    exact eq_of_modEq (fits_toInt a) hfits h

lemma toInt_add_of_overflow (h : 2 ^ 63 ≤ a.toInt + b.toInt) :
    (a + b).toInt = a.toInt + b.toInt - 2 ^ 64 := by
  have ha := fits_toInt a
  have hb := fits_toInt b
  unfold Fits at ha hb
  have hstands : Stands (a + b) (a.toInt + b.toInt - 2 ^ 64) :=
    (stands_add (stands_toInt a) (stands_toInt b)).trans (Int.ModEq.symm (Int.sub_emod_right _ _))
  exact (toInt_eq_iff hstands).mpr ⟨by omega, by omega⟩

end WattInt64
