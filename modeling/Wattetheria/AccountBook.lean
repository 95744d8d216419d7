import Mathlib

/-!
# Books of accounts

Exact books over any type of accounts: an integer for each account, zero for all but
finitely many.  Deposits add to what the books are worth; a payment moves amounts from
the payer to the payees and leaves the worth as it is (`worth_pay`), whatever the signs
of the amounts.
-/

namespace WattBook

variable {A : Type}

/-- The sum over all accounts. -/
noncomputable def worth : (A →₀ ℤ) →+ ℤ := Finsupp.liftAddHom fun _ => AddMonoidHom.id ℤ

@[simp] lemma worth_single (account : A) (amount : ℤ) :
    worth (Finsupp.single account amount) = amount :=
  Finsupp.liftAddHom_apply_single _ _ _

/-- The worth is the sum over any accounts that hold everything. -/
lemma worth_eq_sum {book : A →₀ ℤ} {accounts : Finset A}
    (h : ∀ account, book account ≠ 0 → account ∈ accounts) :
    worth book = ∑ account ∈ accounts, book account := by
  refine Finsupp.sum_of_support_subset book ?_ (fun _ amount => amount) (fun _ _ => rfl)
  intro account haccount
  exact h account (Finsupp.mem_support_iff.mp haccount)

/-- What the payees of a list of sales receive. -/
noncomputable def income : List (A × ℤ) → A →₀ ℤ
  | [] => 0
  | (payee, amount) :: sales => Finsupp.single payee amount + income sales

variable (sales : List (A × ℤ))

/-- What the sales come to. -/
def price : ℤ := (sales.map Prod.snd).sum

lemma worth_income : worth (income sales) = price sales := by
  induction sales with
  | nil => exact map_zero worth
  | cons sale sales ih => rw [income, map_add, worth_single, ih, price, price, List.map_cons,
      List.sum_cons]

/-- The payer pays for every sale. -/
noncomputable def pay (payer : A) (sales : List (A × ℤ)) (book : A →₀ ℤ) : A →₀ ℤ :=
  book - Finsupp.single payer (price sales) + income sales

variable (payer : A)

/-- **CONSERVATION**: a payment leaves the worth of the books as it is. -/
lemma worth_pay (sales : List (A × ℤ)) (book : A →₀ ℤ) :
    worth (pay payer sales book) = worth book := by
  rw [pay, map_add, map_sub, worth_single, worth_income, sub_add_cancel]

lemma pay_apply [DecidableEq A] (sales : List (A × ℤ)) (book : A →₀ ℤ) (account : A) :
    pay payer sales book account
      = book account - (if account = payer then price sales else 0) + income sales account := by
  rw [pay, Finsupp.add_apply, Finsupp.sub_apply, Finsupp.single_apply]
  simp only [eq_comm]

end WattBook
