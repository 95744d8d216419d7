import Wattetheria.AccountBook
import Wattetheria.OracleRegistry
import Wattetheria.WrappingInt

/-!
# Conservation in the oracle registry

The balances against exact books: a credit is a deposit, a settled pull a payment of the
subscriber to the publishers of the rows it receives for the first time.  Neither
`publish` nor `ingest_feed` looks at the price of a row, and the registry adds in 64
bits without a check.  So the balances follow the books exactly as long as no step
leaves an account outside `0 .. 2 ^ 63` and no pull has a negative total
(`conserved_iff`); a row with a negative price breaks the law (`negative_price_pull`).
-/

namespace WattOracleBooks

open WattRuns WattText WattJson WattKeyed WattInt64 WattBook WattOracle OracleRegistry List

/-! ## The books -/

variable (rows : List OracleFeed)

/-- Whom the rows pay, and what. -/
def sales : List (String × ℤ) :=
  rows.map fun feed => (feed.publisher, feed.priceWatt.toInt)

/-- The registry with exact books and the total credited beside it. -/
structure Audit where
  registry : OracleRegistry
  book : String →₀ ℤ
  credited : ℤ

variable (crates : Crates)

/-- What an operation does to the books. -/
noncomputable def entry (registry : OracleRegistry) (book : String →₀ ℤ) : OracleOp → String →₀ ℤ
  | .credit agentDid amountWatt =>
    if 0 < amountWatt then book + Finsupp.single agentDid amountWatt.toInt else book
  | .pullForSubscriberSettled agentDid feedId _ =>
    match registry.quote crates agentDid feedId with
    | .error _ => book
    | .ok quote => pay agentDid (sales quote.newItems) book
  | _ => book

/-- What an operation pays in. -/
def deposit : OracleOp → ℤ
  | .credit _ amountWatt => if 0 < amountWatt then amountWatt.toInt else 0
  | _ => 0

/-- A step of the registry, booked. -/
noncomputable def audit (a : Audit) (op : OracleOp) : Audit where
  registry := step crates a.registry op
  book := entry crates a.registry a.book op
  credited := a.credited + deposit op

/-- Nothing was booked yet. -/
noncomputable def Audit.start : Audit := ⟨.empty, 0, 0⟩

/-- The books after a run. -/
noncomputable def booked (ops : List OracleOp) : String →₀ ℤ :=
  (run (audit crates) .start ops).book

/-- What was paid in. -/
def credited (ops : List OracleOp) : ℤ := (ops.map deposit).sum

variable (registry : OracleRegistry)

/-- The sum of all balances. -/
def totalBalance : ℤ :=
  ∑ agentDid ∈ registry.balances.keys.toFinset, (registry.balanceOf agentDid).toInt

variable (crates : Crates) {n : ℤ} {total : Int64}

lemma worth_entry (registry : OracleRegistry) (book : String →₀ ℤ)
    (op : OracleOp) : worth (entry crates registry book op) = worth book + deposit op := by
  cases op with
  | credit agentDid amountWatt =>
    rw [entry, deposit]
    split
    · rw [map_add, worth_single]
    · rw [add_zero]
  | pullForSubscriberSettled agentDid feedId logged =>
    show worth (match registry.quote crates agentDid feedId with
      | .error _ => book
      | .ok quote => pay agentDid (sales quote.newItems) book) = worth book + 0
    rw [add_zero]
    cases registry.quote crates agentDid feedId with
    | error text => rfl
    | ok quote => exact worth_pay _ _ _
  | publish | ingestFeed | subscribe => exact (add_zero _).symm

lemma worth_booked (ops : List OracleOp) : worth (booked crates ops) = credited ops := by
  induction ops using List.reverseRecOn with
  | nil => exact map_zero worth
  | append_singleton ops op ih =>
    rw [booked, run_snoc, credited, map_append, sum_append, map_singleton,
      sum_singleton, ← credited, ← ih]
    exact worth_entry crates _ _ op

/-! ## What a pull does to the balances -/

lemma balanceOf_addBalance (agentDid : String) (amount : Int64) (account : String) :
    (registry.addBalance agentDid amount).balanceOf account
      = if account = agentDid then registry.balanceOf account + amount
        else registry.balanceOf account := by
  unfold addBalance balanceOf
  dsimp only
  rw [getElem?_insert]
  by_cases h : account = agentDid
  · rw [if_pos h, if_pos h, h, Option.getD_some]
  · rw [if_neg h, if_neg h]

lemma balanceOf_foldl_deliver (key account : String) (rows : List OracleFeed)
    (registry : OracleRegistry) (h : Stands (registry.balanceOf account) n) :
    Stands ((rows.foldl (deliver key) registry).balanceOf account)
      (n + income (sales rows) account) := by
  induction rows generalizing registry n with
  | nil => rwa [sales, map_nil, income, Finsupp.zero_apply, add_zero]
  | cons feed rows ih =>
    rw [foldl_cons, sales, map_cons, income, Finsupp.add_apply, ← add_assoc]
    refine ih _ ?_
    unfold deliver
    rw [balanceOf_addBalance, Finsupp.single_apply]
    by_cases haccount : account = feed.publisher
    · rw [if_pos haccount, if_pos haccount.symm]
      exact stands_add h (stands_toInt _)
    · rw [if_neg haccount, if_neg (Ne.symm haccount), add_zero]
      exact h

lemma stands_foldl_total (h : Stands total n) :
    Stands (rows.foldl (fun total feed => total + feed.priceWatt) total)
      (n + price (sales rows)) := by
  induction rows generalizing total n with
  | nil => rwa [sales, map_nil, price, map_nil, sum_nil, add_zero]
  | cons feed rows ih =>
    rw [foldl_cons, sales, map_cons, price, map_cons, sum_cons, ← add_assoc]
    exact ih (stands_add h (stands_toInt _))

variable {quote : Quote}

lemma stands_totalCost {registry : OracleRegistry} {crates : Crates} {agentDid feedId : String}
    (h : registry.quote crates agentDid feedId = .ok quote) :
    Stands quote.totalCost (price (sales quote.newItems)) := by
  unfold OracleRegistry.quote at h
  obtain ⟨subscription, -, h⟩ := bind_eq_ok.mp h
  obtain ⟨-, -, h⟩ := bind_eq_ok.mp h
  obtain ⟨-, -, h⟩ := bind_eq_ok.mp h
  cases h
  rw [← zero_add (price _)]
  exact stands_foldl_total _ (stands_toInt 0)

variable (agentDid feedId account : String)

/-- After the writes of a pull an account stands for its old balance, minus the total if it
is the subscriber's and the total is positive, plus what its owner sold. -/
lemma stands_settle (hcost : Stands quote.totalCost (price (sales quote.newItems))) :
    Stands ((registry.settle agentDid feedId quote).balanceOf account)
      ((registry.balanceOf account).toInt
        - (if account = agentDid ∧ 0 < quote.totalCost then price (sales quote.newItems) else 0)
        + income (sales quote.newItems) account) := by
  unfold settle
  refine balanceOf_foldl_deliver _ account _ _ ?_
  show Stands ((if 0 < quote.totalCost then registry.addBalance agentDid (-quote.totalCost)
    else registry).balanceOf account) _
  by_cases hpos : 0 < quote.totalCost
  · rw [if_pos hpos, balanceOf_addBalance]
    by_cases haccount : account = agentDid
    · rw [if_pos haccount, if_pos ⟨haccount, hpos⟩]
      exact stands_add (stands_toInt _) (stands_neg hcost)
    · rw [if_neg haccount, if_neg fun h => haccount h.1, sub_zero]
      exact stands_toInt _
  · rw [if_neg hpos, if_neg fun h => hpos h.2, sub_zero]
    exact stands_toInt _

/-! ## One step -/

/-- Every balance is what the books say, and not negative. -/
def Sound (a : Audit) : Prop :=
  ∀ account, 0 ≤ (a.registry.balanceOf account).toInt
    ∧ (a.registry.balanceOf account).toInt = a.book account

/-- The books of an account after a payment, from the balances before it. -/
noncomputable def paid (registry : OracleRegistry) (agentDid account : String)
    (rows : List OracleFeed) : ℤ :=
  (registry.balanceOf account).toInt - (if account = agentDid then price (sales rows) else 0)
    + income (sales rows) account

/-- A credit that goes through fits in 64 bits, and so does every account after a settled
pull, whose total is not negative; no pull takes an account below zero. -/
def staysExact (registry : OracleRegistry) : OracleOp → Prop
  | .credit agentDid amountWatt =>
    0 < amountWatt → (registry.balanceOf agentDid).toInt + amountWatt.toInt < 2 ^ 63
  | .pullForSubscriberSettled agentDid feedId _ =>
    ∀ quote, registry.quote crates agentDid feedId = .ok quote → 0 ≤ quote.totalCost ∧
      ∀ account, 0 ≤ paid registry agentDid account quote.newItems
        ∧ paid registry agentDid account quote.newItems < 2 ^ 63
  | _ => True

variable {a : Audit} {a' : Audit}

lemma sound_credit {crates : Crates} (agentDid : String) (amountWatt : Int64) (h : Sound a) :
    Sound (audit crates a (.credit agentDid amountWatt))
      ↔ staysExact crates a.registry (.credit agentDid amountWatt) := by
  by_cases hpos : 0 < amountWatt
  · have hstep : (audit crates a (.credit agentDid amountWatt)).registry
        = a.registry.addBalance agentDid amountWatt := by
      show (a.registry.credit agentDid amountWatt).2 = _
      rw [credit, if_neg (Int64.not_le.mpr hpos)]
    have hbook : (audit crates a (.credit agentDid amountWatt)).book
        = a.book + Finsupp.single agentDid amountWatt.toInt := if_pos hpos
    -- a positive amount can only take the balance over the top
    have hnonneg := (h agentDid).1
    have hamount : 0 < amountWatt.toInt := by
      rwa [lt_iff, toInt_zero] at hpos
    constructor
    · intro hsound _
      obtain ⟨-, hexact⟩ := hsound agentDid
      rw [hstep, hbook, balanceOf_addBalance, if_pos rfl, Finsupp.add_apply,
        Finsupp.single_eq_same, ← (h agentDid).2] at hexact
      exact (toInt_add_eq_iff.mp hexact).2
    · intro hfits account
      rw [hstep, hbook, balanceOf_addBalance, Finsupp.add_apply, Finsupp.single_apply]
      by_cases haccount : account = agentDid
      · subst haccount
        have hsum : (a.registry.balanceOf account + amountWatt).toInt
            = (a.registry.balanceOf account).toInt + amountWatt.toInt := by
          rw [toInt_add_eq_iff]
          exact ⟨by omega, hfits hpos⟩
        rw [if_pos rfl, if_pos rfl, hsum, ← (h account).2]
        exact ⟨by omega, rfl⟩
      · rw [if_neg haccount, if_neg (Ne.symm haccount), add_zero]
        exact h account
  · have hsame : audit crates a (.credit agentDid amountWatt) = a := by
      show Audit.mk (a.registry.credit agentDid amountWatt).2 _ _ = a
      rw [credit, if_pos (Int64.not_lt.mp hpos), entry, if_neg hpos, deposit, if_neg hpos, add_zero]
    rw [hsame]
    exact iff_of_true h fun hpos' => absurd hpos' hpos

lemma debit_modEq (htotal : Stands total n) (hnonneg : 0 ≤ total) :
    (if 0 < total then n else 0) ≡ n [ZMOD 2 ^ 64] := by
  by_cases hpos : 0 < total
  · rw [if_pos hpos]
  · rw [if_neg hpos]
    have hzero : total.toInt = 0 := by
      rw [le_iff, toInt_zero] at hnonneg
      rw [lt_iff, toInt_zero] at hpos
      omega
    rw [← hzero]
    exact htotal

/-- With a total that is not negative, a balance stands for what the books say. -/
lemma stands_paid (hcost : Stands quote.totalCost (price (sales quote.newItems)))
    (hnonneg : 0 ≤ quote.totalCost) :
    Stands ((registry.settle agentDid feedId quote).balanceOf account)
      (paid registry agentDid account quote.newItems) := by
  refine (stands_settle registry agentDid feedId account hcost).trans ?_
  refine Int.ModEq.add_right _ (Int.ModEq.sub_left _ ?_)
  by_cases haccount : account = agentDid
  · simp only [haccount, true_and, if_true]
    exact debit_modEq hcost hnonneg
  · rw [if_neg haccount, if_neg fun h => haccount h.1]

/-- If the subscriber's balance follows the books, the total was not negative. -/
lemma totalCost_nonneg (agentDid feedId : String)
    (hcost : Stands quote.totalCost (price (sales quote.newItems)))
    (h : ((registry.settle agentDid feedId quote).balanceOf agentDid).toInt
      = paid registry agentDid agentDid quote.newItems) : 0 ≤ quote.totalCost := by
  by_contra hneg
  rw [le_iff, toInt_zero] at hneg
  have hnot : ¬ 0 < quote.totalCost := by
    rw [lt_iff, toInt_zero]
    omega
  -- a negative total is not debited, so the balance is off by the total
  have hsettle := stands_settle registry agentDid feedId agentDid hcost
  rw [if_neg fun h => hnot h.2, Stands, h, paid, if_pos rfl] at hsettle
  have hprice : quote.totalCost.toInt ≡ 0 [ZMOD 2 ^ 64] := by
    refine hcost.trans ?_
    have hoff := (Int.ModEq.add_right_cancel (Int.ModEq.refl _) hsettle).symm
    have hsub := Int.ModEq.sub (Int.ModEq.refl (registry.balanceOf agentDid).toInt) hoff
    rw [sub_zero, sub_self, sub_sub_cancel] at hsub
    exact hsub.symm
  have hzero := eq_of_modEq (fits_toInt _) (by decide : Fits 0) hprice
  omega

lemma sound_settle {agentDid feedId : String} (h : Sound a)
    (hcost : Stands quote.totalCost (price (sales quote.newItems)))
    (hregistry : a'.registry = a.registry.settle agentDid feedId quote)
    (hbook : a'.book = pay agentDid (sales quote.newItems) a.book) :
    Sound a' ↔ 0 ≤ quote.totalCost ∧ ∀ account, 0 ≤ paid a.registry agentDid account quote.newItems
        ∧ paid a.registry agentDid account quote.newItems < 2 ^ 63 := by
  have hpaid : ∀ account, a'.book account = paid a.registry agentDid account quote.newItems := by
    intro account
    rw [hbook, pay_apply, paid, (h account).2]
  constructor
  · intro hsound
    refine ⟨totalCost_nonneg a.registry agentDid feedId hcost ?_, fun account => ?_⟩
    · rw [← hregistry, (hsound agentDid).2, hpaid]
    · obtain ⟨hnonneg, hexact⟩ := hsound account
      rw [← hpaid, ← hexact]
      exact ⟨hnonneg, (fits_toInt _).2⟩
  · rintro ⟨hnonneg, hfits⟩ account
    obtain ⟨hlow, hhigh⟩ := hfits account
    have hexact := (toInt_eq_iff (stands_paid a.registry agentDid feedId account hcost
      hnonneg)).mpr ⟨by omega, hhigh⟩
    rw [hregistry, hpaid, hexact]
    exact ⟨hlow, rfl⟩

lemma sound_pull {crates : Crates} (agentDid feedId : String) (logged : Except String Unit)
    (h : Sound a) : Sound (audit crates a (.pullForSubscriberSettled agentDid feedId logged))
      ↔ staysExact crates a.registry (.pullForSubscriberSettled agentDid feedId logged) := by
  cases hquote : a.registry.quote crates agentDid feedId with
  | error text =>
    have hsame : audit crates a (.pullForSubscriberSettled agentDid feedId logged) = a := by
      simp [audit, step, pullForSubscriberSettled, entry, deposit, hquote]
    rw [hsame]
    refine iff_of_true h fun quote hok => ?_
    cases hquote.symm.trans hok
  | ok quote =>
    have hregistry : (audit crates a (.pullForSubscriberSettled agentDid feedId logged)).registry
        = a.registry.settle agentDid feedId quote := by
      simp [audit, step, pullForSubscriberSettled, hquote]
    have hbook : (audit crates a (.pullForSubscriberSettled agentDid feedId logged)).book
        = pay agentDid (sales quote.newItems) a.book := by
      simp [audit, entry, hquote]
    rw [sound_settle h (stands_totalCost hquote) hregistry hbook]
    constructor
    · intro hfits quote' hok
      obtain rfl := Except.ok.inj (hquote.symm.trans hok)
      exact hfits
    · intro hfits
      exact hfits quote hquote

variable (feed : OracleFeed)

lemma balances_pushFeed : (registry.pushFeed feed).balances = registry.balances := rfl

lemma balances_publish (feedId : String) (payload : JsonValue)
    (priceWatt : Int64) (publisher : String) (now : Int64) (signed : Except String String)
    (logged : Except String Unit) :
    (registry.publish feedId payload priceWatt publisher now signed logged).2.balances
      = registry.balances := by
  cases signed with
  | error text => rfl
  | ok signature => exact balances_pushFeed _ _

lemma balances_ingestFeed (logged : Except String Unit) :
    (registry.ingestFeed crates feed logged).2.balances = registry.balances := by
  unfold ingestFeed
  split
  · rfl
  · split
    · rfl
    · exact balances_pushFeed _ _

lemma sound_same (hbalances : a'.registry.balances = a.registry.balances)
    (hbook : a'.book = a.book) (h : Sound a) : Sound a' := by
  intro account
  unfold balanceOf
  rw [hbalances, hbook]
  exact h account

lemma sound_step (a : Audit) (op : OracleOp) (h : Sound a) :
    Sound (audit crates a op) ↔ staysExact crates a.registry op := by
  cases op with
  | credit agentDid amountWatt => exact sound_credit agentDid amountWatt h
  | pullForSubscriberSettled agentDid feedId logged => exact sound_pull agentDid feedId logged h
  | subscribe agentDid feedId maxPriceWatt now logged =>
    exact iff_of_true (sound_same rfl rfl h) trivial
  | publish feedId payload priceWatt publisher now signed logged =>
    exact iff_of_true (sound_same (balances_publish _ _ _ _ _ _ _ _) rfl h) trivial
  | ingestFeed feed logged =>
    exact iff_of_true (sound_same (balances_ingestFeed _ _ _ _) rfl h) trivial

/-! ## Whole runs -/

lemma totalBalance_eq (h : Sound a) : totalBalance a.registry = worth a.book := by
  have hheld : ∀ account, a.book account ≠ 0 → account ∈ a.registry.balances.keys.toFinset := by
    intro account hbook
    rw [mem_toFinset, Std.ExtTreeMap.mem_keys]
    by_contra hnot
    refine hbook ?_
    rw [← (h account).2, balanceOf, Std.ExtTreeMap.getElem?_eq_none hnot]
    exact toInt_zero
  rw [worth_eq_sum hheld]
  exact Finset.sum_congr rfl fun account _ => (h account).2

/-- **CONSERVATION OF WATT**: for every run of credits, publications, ingested feeds,
subscriptions and settled pulls, in every state reached no balance is negative, the sum
of all balances is the total credited and every balance is what the credits and the
pulls moved to and from it, if and only if every step stays exact. -/
theorem conserved_iff (ops : List OracleOp) : (∀ pre post, ops = pre ++ post →
        (∀ account, 0 ≤ ((run (step crates) .empty pre).balanceOf account).toInt)
        ∧ totalBalance (run (step crates) .empty pre) = credited pre
        ∧ ∀ account, ((run (step crates) .empty pre).balanceOf account).toInt
            = booked crates pre account)
      ↔ AllSteps (step crates) (staysExact crates) .empty ops := by
  have hregistry : ∀ a op, (audit crates a op).registry = step crates a.registry op :=
    fun _ _ => rfl
  have hempty : Sound .start := fun _ => ⟨toInt_zero.ge, toInt_zero⟩
  have hsound : Always (audit crates) Sound .start ops
      ↔ AllSteps (step crates) (staysExact crates) .empty ops := by
    rw [always_iff_allSteps (fun a op h _ => sound_step crates a op h) hempty (allSteps_true _ _)]
    exact allSteps_proj hregistry .start ops
  have hrun : ∀ pre, (run (audit crates) .start pre).registry = run (step crates) .empty pre :=
    fun pre => (run_proj hregistry .start pre)
  rw [← hsound]
  constructor
  · intro h pre post hops account
    obtain ⟨hnonneg, -, hbooked⟩ := h pre post hops
    rw [hrun]
    exact ⟨hnonneg account, hbooked account⟩
  · intro h pre post hops
    have hpre := h pre post hops
    have htotal := totalBalance_eq hpre
    rw [hrun] at htotal
    refine ⟨fun account => ?_, htotal.trans (worth_booked crates pre), fun account => ?_⟩
    · rw [← hrun]
      exact (hpre account).1
    · rw [← hrun]
      exact (hpre account).2

/-- The small crates, with one text for every feed. -/
def toyCrates : Crates where
  toSigningCrates := WattSigning.toySigning
  canonicalFeed _ := .ok []

/-- Bob publishes a row for minus five watt and alice pulls it. -/
def negativePrice : List OracleOp :=
  [.publish "rain" .null (-5) "did:key:zbob" 1 (.ok "sig:bob") (.ok ()),
    .subscribe "alice" "rain" 0 2 (.ok ()),
    .pullForSubscriberSettled "alice" "rain" (.ok ())]

/-- Bob's balance and the sum of all balances are below zero, and nothing was credited. -/
theorem negative_price_pull :
    ((run (step toyCrates) .empty negativePrice).balanceOf "did:key:zbob").toInt = -5
      ∧ totalBalance (run (step toyCrates) .empty negativePrice) = -5
      ∧ credited negativePrice = 0 := by
  decide +kernel

end WattOracleBooks
