import Wattetheria.OracleConservationProofs

/-!
# What a subscriber is charged for

A feed is a series of rows and a settled pull charges every row of it that was not
delivered to the subscriber before, a row being told from another by its signature.
So a feed is paid for as often as it has new rows (`two_prices_charged`), and a row at
most once: two pulls never share one, and neither does a single pull list one twice
unless the feed itself does (`row_charged_once`).  `ingest_feed` never lets a feed hold
a signature twice; `publish` appends without looking.
-/

namespace WattOracleCharges

open WattRuns WattText WattKeyed WattOracle OracleRegistry WattOracleBooks List

/-! ## The rows a run pays for -/

/-- The feed and the signature of each row that an operation charges to a subscriber. -/
def charged (crates : Crates) (subscriber : String) (registry : OracleRegistry) :
    OracleOp → List (String × String)
  | .pullForSubscriberSettled agentDid feedId _ =>
    if agentDid = subscriber then
      match registry.quote crates agentDid feedId with
      | .error _ => []
      | .ok quote => quote.newItems.map fun row => (feedId, row.signature)
    else []
  | _ => []

/-- What each operation of a run charges to a subscriber, in order. -/
def charges (crates : Crates) (subscriber : String) :
    OracleRegistry → List OracleOp → List (List (String × String))
  | _, [] => []
  | registry, op :: ops =>
    charged crates subscriber registry op :: charges crates subscriber (step crates registry op) ops

variable (registry : OracleRegistry)

def rowsOf (feedId : String) : List OracleFeed :=
  registry.feeds[feedId]?.getD []

/-- The signatures delivered to a subscriber. -/
def deliveredUnder (key : String) : Finset String :=
  registry.delivered[key]?.getD ∅

/-- A publication whose signature its feed does not hold yet. -/
def freshPublish : OracleOp → Prop
  | .publish feedId _ _ _ _ (.ok signature) _ =>
    ∀ row ∈ rowsOf registry feedId, row.signature ≠ signature
  | _ => True

/-! ## What a quote charges -/

variable {registry : OracleRegistry} {crates : Crates} {feedId : String}

/-- The new rows of a quote are rows of the feed, in some order, whose signatures were not
delivered. -/
lemma quote_newItems {agentDid : String} {quote : Quote}
    (h : registry.quote crates agentDid feedId = .ok quote) :
    quote.newItems.Subperm (rowsOf registry feedId) ∧ ∀ row ∈ quote.newItems,
          row.signature ∉ deliveredUnder registry (deliveryKey agentDid feedId) := by
  unfold OracleRegistry.quote at h
  obtain ⟨subscription, -, h⟩ := bind_eq_ok.mp h
  obtain ⟨-, -, h⟩ := bind_eq_ok.mp h
  obtain ⟨-, -, h⟩ := bind_eq_ok.mp h
  cases h
  refine ⟨?_, fun row hrow => of_decide_eq_true (mem_filter.mp hrow).2⟩
  refine filter_sublist.subperm.trans ?_
  refine (perm_insertionSort _ _).subperm.trans ?_
  exact filter_sublist.subperm

lemma charged_cases (crates : Crates) (subscriber : String) (registry : OracleRegistry)
    (op : OracleOp) : charged crates subscriber registry op = []
      ∨ ∃ feedId logged quote, op = .pullForSubscriberSettled subscriber feedId logged
          ∧ registry.quote crates subscriber feedId = .ok quote
          ∧ charged crates subscriber registry op
              = quote.newItems.map fun row => (feedId, row.signature) := by
  cases op with
  | publish | ingestFeed | credit | subscribe => exact .inl rfl
  | pullForSubscriberSettled agentDid feedId logged =>
    rw [charged]
    by_cases hagent : agentDid = subscriber
    · subst hagent
      rw [if_pos rfl]
      cases hquote : registry.quote crates agentDid feedId with
      | error text => exact .inl rfl
      | ok quote => exact .inr ⟨feedId, logged, quote, rfl, hquote, rfl⟩
    · rw [if_neg hagent]
      exact .inl rfl

variable {subscriber signature : String} {op : OracleOp}

lemma mem_charged (h : (feedId, signature) ∈ charged crates subscriber registry op) :
    ∃ logged quote, op = .pullForSubscriberSettled subscriber feedId logged
      ∧ registry.quote crates subscriber feedId = .ok quote
      ∧ ∃ row ∈ quote.newItems, row.signature = signature := by
  rcases charged_cases crates subscriber registry op with
    hnone | ⟨feedId', logged, quote, hop, hquote, hsome⟩
  · rw [hnone] at h
    cases h
  · rw [hsome] at h
    obtain ⟨row, hrow, heq⟩ := mem_map.mp h
    cases heq
    exact ⟨logged, quote, hop, hquote, row, hrow, rfl⟩

lemma not_delivered_of_charged (h : (feedId, signature) ∈ charged crates subscriber registry op) :
    signature ∉ deliveredUnder registry (deliveryKey subscriber feedId) := by
  obtain ⟨logged, quote, -, hquote, row, hrow, rfl⟩ := mem_charged h
  exact (quote_newItems hquote).2 row hrow

/-! ## What a step delivers -/

lemma delivered_addBalance (registry : OracleRegistry) (agentDid : String) (amount : Int64) :
    (registry.addBalance agentDid amount).delivered = registry.delivered := rfl

lemma deliveredUnder_deliver (key : String) (registry : OracleRegistry) (feed : OracleFeed)
    (key' : String) : deliveredUnder (deliver key registry feed) key'
      = if key' = key then insert feed.signature (deliveredUnder registry key)
        else deliveredUnder registry key' := by
  unfold deliver deliveredUnder
  rw [delivered_addBalance, getElem?_insert]
  split <;> rfl

lemma deliveredUnder_foldl_deliver (key : String) (rows : List OracleFeed)
    (registry : OracleRegistry) :
    (∀ key', deliveredUnder registry key' ⊆ deliveredUnder (rows.foldl (deliver key) registry) key')
      ∧ ∀ row ∈ rows, row.signature ∈ deliveredUnder (rows.foldl (deliver key) registry) key := by
  induction rows generalizing registry with
  | nil => exact ⟨fun _ => Finset.Subset.refl _, fun _ h => (nomatch h)⟩
  | cons feed rows ih =>
    obtain ⟨hkept, hnew⟩ := ih (deliver key registry feed)
    have hfirst : ∀ key', deliveredUnder registry key'
        ⊆ deliveredUnder (deliver key registry feed) key' := by
      intro key'
      rw [deliveredUnder_deliver]
      split
      · rename_i hkey
        rw [hkey]
        exact Finset.subset_insert _ _
      · exact Finset.Subset.refl _
    refine ⟨fun key' => (hfirst key').trans (hkept key'), fun row hrow => ?_⟩
    rcases mem_cons.mp hrow with rfl | hrow
    · refine hkept key ?_
      rw [deliveredUnder_deliver, if_pos rfl]
      exact Finset.mem_insert_self _ _
    · exact hnew row hrow

lemma deliveredUnder_settle (registry : OracleRegistry) (agentDid feedId : String) (quote : Quote) :
    (∀ key, deliveredUnder registry key
        ⊆ deliveredUnder (registry.settle agentDid feedId quote) key)
      ∧ ∀ row ∈ quote.newItems, row.signature
          ∈ deliveredUnder (registry.settle agentDid feedId quote) (deliveryKey agentDid feedId) := by
  unfold settle
  dsimp only
  have hdebited : (if 0 < quote.totalCost then registry.addBalance agentDid (-quote.totalCost)
      else registry).delivered = registry.delivered := by
    split <;> rfl
  generalize (if 0 < quote.totalCost then registry.addBalance agentDid (-quote.totalCost)
    else registry) = debited at hdebited ⊢
  obtain ⟨hkept, hnew⟩ := deliveredUnder_foldl_deliver (deliveryKey agentDid feedId)
    quote.newItems { debited with
      delivered := debited.delivered.insert (deliveryKey agentDid feedId)
        (debited.delivered[deliveryKey agentDid feedId]?.getD ∅) }
  refine ⟨fun key => Finset.Subset.trans ?_ (hkept key), hnew⟩
  show deliveredUnder registry key ⊆ (_ : Std.ExtTreeMap String (Finset String))[key]?.getD ∅
  rw [hdebited, getElem?_insert]
  split
  · rename_i hkey
    rw [hkey]
    exact Finset.Subset.refl _
  · exact Finset.Subset.refl _

lemma deliveredUnder_step (crates : Crates) (registry : OracleRegistry) (op : OracleOp)
    (key : String) :
    deliveredUnder registry key ⊆ deliveredUnder (step crates registry op) key := by
  cases op with
  | publish feedId payload priceWatt publisher now signed logged =>
    cases signed <;> exact Finset.Subset.refl _
  | ingestFeed feed logged =>
    show deliveredUnder registry key ⊆ deliveredUnder (registry.ingestFeed crates feed logged).2 key
    unfold ingestFeed
    split
    · exact Finset.Subset.refl _
    · split <;> exact Finset.Subset.refl _
  | credit agentDid amountWatt =>
    show deliveredUnder registry key ⊆ deliveredUnder (registry.credit agentDid amountWatt).2 key
    unfold credit
    split <;> exact Finset.Subset.refl _
  | subscribe => exact Finset.Subset.refl _
  | pullForSubscriberSettled agentDid feedId logged =>
    show deliveredUnder registry key
      ⊆ deliveredUnder (registry.pullForSubscriberSettled crates agentDid feedId logged).2 key
    unfold pullForSubscriberSettled
    split
    · exact Finset.Subset.refl _
    · exact (deliveredUnder_settle registry agentDid feedId _).1 key

lemma delivered_of_charged (h : (feedId, signature) ∈ charged crates subscriber registry op) :
    signature ∈ deliveredUnder (step crates registry op) (deliveryKey subscriber feedId) := by
  obtain ⟨logged, quote, rfl, hquote, row, hrow, rfl⟩ := mem_charged h
  show row.signature ∈ deliveredUnder
    (registry.pullForSubscriberSettled crates subscriber feedId logged).2 _
  unfold pullForSubscriberSettled
  rw [hquote]
  exact (deliveredUnder_settle registry subscriber feedId quote).2 row hrow

/-! ## Over a run -/

lemma not_delivered_of_charges (ops : List OracleOp) (registry : OracleRegistry) :
    ∀ rows ∈ charges crates subscriber registry ops, ∀ feedId signature,
      (feedId, signature) ∈ rows →
        signature ∉ deliveredUnder registry (deliveryKey subscriber feedId) := by
  induction ops generalizing registry with
  | nil => intro rows hrows; cases hrows
  | cons op ops ih =>
    intro rows hrows feedId signature hmem
    rcases mem_cons.mp hrows with rfl | hrows
    · exact not_delivered_of_charged hmem
    · intro hdelivered
      exact ih (step crates registry op) rows hrows feedId signature hmem
        (deliveredUnder_step crates registry op _ hdelivered)

lemma charges_disjoint (crates : Crates) (subscriber : String) (ops : List OracleOp)
    (registry : OracleRegistry) :
    (charges crates subscriber registry ops).Pairwise List.Disjoint := by
  induction ops generalizing registry with
  | nil => exact List.Pairwise.nil
  | cons op ops ih =>
    refine List.Pairwise.cons ?_ (ih (step crates registry op))
    rintro rows hrows ⟨feedId, signature⟩ hfirst hlater
    exact not_delivered_of_charges ops _ rows hrows feedId signature hlater
      (delivered_of_charged hfirst)

/-! ## Feeds without repeated signatures -/

/-- No feed holds a signature twice. -/
def Distinct (registry : OracleRegistry) : Prop :=
  ∀ feedId, ((rowsOf registry feedId).map OracleFeed.signature).Nodup

lemma rowsOf_pushFeed (registry : OracleRegistry) (feed : OracleFeed) (feedId : String) :
    rowsOf (registry.pushFeed feed) feedId
      = if feedId = feed.feedId then rowsOf registry feedId ++ [feed]
        else rowsOf registry feedId := by
  unfold pushFeed rowsOf
  dsimp only
  rw [getElem?_insert]
  by_cases h : feedId = feed.feedId
  · rw [if_pos h, if_pos h, h, Option.getD_some]
  · rw [if_neg h, if_neg h]

lemma distinct_pushFeed {feed : OracleFeed} (h : Distinct registry)
    (hfresh : ∀ row ∈ rowsOf registry feed.feedId, row.signature ≠ feed.signature) :
    Distinct (registry.pushFeed feed) := by
  intro feedId
  rw [rowsOf_pushFeed]
  split
  · rename_i hfeed
    subst hfeed
    rw [map_append, map_singleton]
    refine nodup_append.mpr ⟨h feed.feedId, nodup_singleton _, ?_⟩
    intro a ha b hb
    obtain ⟨row, hrow, rfl⟩ := mem_map.mp ha
    cases mem_singleton.mp hb
    exact hfresh row hrow
  · exact h feedId

lemma rowsOf_foldl_deliver (key : String) (rows : List OracleFeed) (registry : OracleRegistry) :
    rowsOf (rows.foldl (deliver key) registry) = rowsOf registry := by
  induction rows generalizing registry with
  | nil => rfl
  | cons feed rows ih => exact ih (deliver key registry feed)

lemma rowsOf_settle (registry : OracleRegistry) (agentDid feedId : String) (quote : Quote) :
    rowsOf (registry.settle agentDid feedId quote) = rowsOf registry := by
  unfold settle
  rw [rowsOf_foldl_deliver]
  split <;> rfl

/-- Every step but a repeated publication keeps the feeds without repeated signatures. -/
lemma distinct_step (crates : Crates) (registry : OracleRegistry) (op : OracleOp)
    (h : Distinct registry) (hfresh : freshPublish registry op) :
    Distinct (step crates registry op) := by
  cases op with
  | publish feedId payload priceWatt publisher now signed logged =>
    cases signed with
    | error text => exact h
    | ok signature => exact distinct_pushFeed h hfresh
  | ingestFeed feed logged =>
    show Distinct (registry.ingestFeed crates feed logged).2
    unfold ingestFeed
    split
    · exact h
    · split
      · exact h
      · rename_i hknown
        refine distinct_pushFeed h fun row hrow heq => hknown ?_
        unfold rowsOf at hrow
        cases hrows : registry.feeds[feed.feedId]? with
        | none =>
          rw [hrows] at hrow
          cases hrow
        | some rows =>
          rw [hrows] at hrow
          exact any_eq_true.mpr ⟨row, hrow, beq_iff_eq.mpr heq⟩
  | credit agentDid amountWatt =>
    show Distinct (registry.credit agentDid amountWatt).2
    unfold credit
    split <;> exact h
  | subscribe => exact h
  | pullForSubscriberSettled agentDid feedId logged =>
    show Distinct (registry.pullForSubscriberSettled crates agentDid feedId logged).2
    unfold pullForSubscriberSettled
    split
    · exact h
    · intro feedId'
      rw [rowsOf_settle]
      exact h feedId'

lemma charged_nodup (crates : Crates) (subscriber : String) (op : OracleOp)
    (h : Distinct registry) : (charged crates subscriber registry op).Nodup := by
  rcases charged_cases crates subscriber registry op with
    hnone | ⟨feedId, logged, quote, -, hquote, hsome⟩
  · rw [hnone]
    exact nodup_nil
  · have hrows : (quote.newItems.map OracleFeed.signature).Nodup := by
      obtain ⟨rows, hperm, hsub⟩ := (quote_newItems hquote).1
      exact (hperm.map _).nodup_iff.mp ((h feedId).sublist (hsub.map _))
    have hpairs : ((quote.newItems.map OracleFeed.signature).map fun signature =>
        (feedId, signature)).Nodup :=
      hrows.map fun _ _ heq => congrArg Prod.snd heq
    rw [hsome]
    rwa [map_map] at hpairs

lemma charges_nodup : ∀ (ops : List OracleOp) {registry : OracleRegistry}, Distinct registry →
      AllSteps (step crates) freshPublish registry ops →
        ∀ rows ∈ charges crates subscriber registry ops, rows.Nodup := by
  intro ops
  induction ops with
  | nil => intro registry _ _ rows hrows; cases hrows
  | cons op ops ih =>
    intro registry h hall rows hrows
    rcases mem_cons.mp hrows with rfl | hrows
    · exact charged_nodup crates subscriber op h
    · exact ih (distinct_step crates registry op h hall.1) hall.2 rows hrows

lemma distinct_empty : Distinct .empty := by
  intro feedId
  show (((∅ : Std.ExtTreeMap String (List OracleFeed))[feedId]?.getD []).map
    OracleFeed.signature).Nodup
  rw [Std.ExtTreeMap.getElem?_empty]
  exact nodup_nil

/-- **A ROW IS CHARGED ONCE**: over every run, no two settled pulls of a subscriber charge
the same row of a feed, and if every publication appends a row whose signature its feed
does not hold yet, all the rows charged to the subscriber are different. -/
theorem row_charged_once (crates : Crates) (subscriber : String) (ops : List OracleOp) :
    (charges crates subscriber .empty ops).Pairwise List.Disjoint
      ∧ (AllSteps (step crates) freshPublish .empty ops →
          (charges crates subscriber .empty ops).flatten.Nodup) := by
  refine ⟨charges_disjoint crates subscriber ops .empty, fun hfresh => ?_⟩
  exact nodup_flatten.mpr ⟨charges_nodup ops distinct_empty hfresh,
    charges_disjoint crates subscriber ops .empty⟩

/-- Two rows of one feed, by bob for two watt and by carol for three, that alice pulls
twice. -/
def twoPrices : List OracleOp :=
  [.publish "btc-price" .null 2 "did:key:zbob" 1 (.ok "sig:bob") (.ok ()),
    .publish "btc-price" .null 3 "did:key:zcarol" 2 (.ok "sig:carol") (.ok ()),
    .subscribe "alice" "btc-price" 5 3 (.ok ()),
    .credit "alice" 20,
    .pullForSubscriberSettled "alice" "btc-price" (.ok ()),
    .pullForSubscriberSettled "alice" "btc-price" (.ok ())]

theorem row_charged_once_two_prices : AllSteps (step toyCrates) freshPublish .empty twoPrices
      ∧ (charges toyCrates "alice" .empty twoPrices).flatten.Nodup := by
  have hfresh : AllSteps (step toyCrates) freshPublish .empty twoPrices := by
    refine ⟨?_, ?_, trivial, trivial, trivial, trivial, trivial⟩
    · show ∀ row ∈ rowsOf .empty "btc-price", row.signature ≠ "sig:bob"
      decide +kernel
    · show ∀ row ∈ rowsOf (step toyCrates .empty
        (.publish "btc-price" .null 2 "did:key:zbob" 1 (.ok "sig:bob") (.ok ()))) "btc-price",
          row.signature ≠ "sig:carol"
      decide +kernel
  exact ⟨hfresh, (row_charged_once _ "alice" twoPrices).2 hfresh⟩

/-- The feed is paid for twice, and alice is charged five watt. -/
theorem two_prices_charged : charges toyCrates "alice" .empty twoPrices
        = [[], [], [], [], [("btc-price", "sig:bob"), ("btc-price", "sig:carol")], []]
      ∧ ¬ ((charges toyCrates "alice" .empty twoPrices).flatten.map Prod.fst).Nodup
      ∧ (run (step toyCrates) .empty twoPrices).balanceOf "alice" = 15 := by
  decide +kernel

end WattOracleCharges
