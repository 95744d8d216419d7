import Wattetheria.OracleChargeProofs

/-!
# Settled pulls that fail

The subscription, the signatures and the balance are checked before a settled pull writes
anything, so a pull they refuse leaves the registry alone.  The event log is appended to
last: a failing append returns an error for a pull that has been paid and marked as
delivered (`unlogged_pull_charged`), unless there was nothing to deliver.
-/

namespace WattOraclePulls

open WattText WattKeyed WattOracle OracleRegistry WattOracleCharges

variable (registry : OracleRegistry) (agentDid feedId : String)

/-- The subscription a pull finds. -/
def subscribed : Option OracleSubscription :=
  registry.subscriptions.find? fun subscription =>
    subscription.agentDid == agentDid && subscription.feedId == feedId

/-- The subscriber has an entry under `delivered`, with every row of the feed within the price
limit of the subscription. -/
def NothingDue : Prop :=
  ∃ seen, registry.delivered[deliveryKey agentDid feedId]? = some seen
    ∧ ∀ subscription ∈ subscribed registry agentDid feedId,
        ∀ row ∈ registry.eligibleFeeds feedId subscription.maxPriceWatt, row.signature ∈ seen

variable {registry : OracleRegistry} {crates : Crates} {agentDid feedId : String} {quote : Quote}

/-- The new rows of a quote are those the subscription reaches and that were not delivered;
without one nothing is charged. -/
lemma quote_eq_ok (h : registry.quote crates agentDid feedId = .ok quote) :
    ∃ subscription ∈ subscribed registry agentDid feedId, (∀ row, row ∈ quote.newItems
        ↔ row ∈ registry.eligibleFeeds feedId subscription.maxPriceWatt
          ∧ row.signature ∉ deliveredUnder registry (deliveryKey agentDid feedId))
      ∧ (quote.newItems = [] → quote.totalCost = 0) := by
  unfold OracleRegistry.quote at h
  obtain ⟨subscription, hfound, h⟩ := bind_eq_ok.mp h
  obtain ⟨-, -, h⟩ := bind_eq_ok.mp h
  obtain ⟨-, -, h⟩ := bind_eq_ok.mp h
  cases h
  refine ⟨subscription, okOr_eq_ok.mp hfound, fun row => ?_, fun hnone => ?_⟩
  · rw [List.mem_filter, List.mem_insertionSort, decide_eq_true_eq]
    rfl
  · exact congrArg (List.foldl _ 0) hnone

lemma delivered_foldl_deliver {key : String} (rows : List OracleFeed) (registry : OracleRegistry)
    (h : registry.delivered[key]?.isSome = true) :
    (rows.foldl (deliver key) registry).delivered[key]?.isSome = true := by
  induction rows generalizing registry with
  | nil => exact h
  | cons row rows ih =>
    refine ih _ ?_
    rw [deliver, delivered_addBalance, getElem?_insert, if_pos rfl]
    rfl

/-- The writes of a pull change nothing exactly if nothing is due. -/
lemma settle_eq_self_iff (h : registry.quote crates agentDid feedId = .ok quote) :
    registry.settle agentDid feedId quote = registry ↔ NothingDue registry agentDid feedId := by
  obtain ⟨subscription, hsubscribed, hnew, hcost⟩ := quote_eq_ok h
  constructor
  · intro hsame
    have hopened : registry.delivered[deliveryKey agentDid feedId]?.isSome = true := by
      rw [← hsame]
      refine delivered_foldl_deliver _ _ ?_
      rw [getElem?_insert, if_pos rfl]
      rfl
    obtain ⟨seen, hseen⟩ := Option.isSome_iff_exists.mp hopened
    refine ⟨seen, hseen, fun subscription' hsubscribed' row hrow => ?_⟩
    obtain rfl := Option.mem_unique hsubscribed hsubscribed'
    have hunder : deliveredUnder registry (deliveryKey agentDid feedId) = seen := by
      rw [deliveredUnder, hseen, Option.getD_some]
    by_contra hmissing
    have hdelivered := (deliveredUnder_settle registry agentDid feedId quote).2 row
      ((hnew row).mpr ⟨hrow, hunder ▸ hmissing⟩)
    rw [hsame, hunder] at hdelivered
    exact hmissing hdelivered
  · rintro ⟨seen, hseen, hall⟩
    have hnone : quote.newItems = [] := by
      refine List.eq_nil_iff_forall_not_mem.mpr fun row hrow => ?_
      obtain ⟨heligible, hmissing⟩ := (hnew row).mp hrow
      rw [deliveredUnder, hseen] at hmissing
      exact hmissing (hall subscription hsubscribed row heligible)
    have hfree : ¬ 0 < quote.totalCost := by
      rw [hcost hnone]
      decide
    simp only [settle, hnone, if_neg hfree, List.foldl_nil, hseen, Option.getD_some,
      insert_self hseen]

/-- A settled pull that fails leaves the registry as it was exactly if its own checks refuse
it, the append succeeds or nothing is due. -/
theorem failed_pull_unchanged_iff (registry : OracleRegistry) (crates : Crates)
    (agentDid feedId : String) (logged : Except String Unit) :
    (∀ text, (registry.pullForSubscriberSettled crates agentDid feedId logged).1 = .error text →
        (registry.pullForSubscriberSettled crates agentDid feedId logged).2 = registry)
      ↔ (registry.quote crates agentDid feedId).isOk = false ∨ logged.isOk = true
        ∨ NothingDue registry agentDid feedId := by
  unfold pullForSubscriberSettled
  cases hquote : registry.quote crates agentDid feedId with
  | error text => exact iff_of_true (fun _ _ => rfl) (.inl rfl)
  | ok quote =>
    cases logged with
    | ok answer => exact iff_of_true (fun _ hfailed => nomatch hfailed) (.inr (.inl rfl))
    | error text =>
      rw [← settle_eq_self_iff hquote, or_iff_right nofun, or_iff_right nofun]
      exact ⟨fun hsame => hsame text rfl, fun hsame _ _ => hsame⟩

/-- Alice has twenty watt and pulls a row of bob's for five; the append fails. -/
theorem unlogged_pull_charged :
    let registry := WattRuns.run (step WattOracleBooks.toyCrates) .empty
      [.publish "rain" .null 5 "did:key:zbob" 1 (.ok "sig:bob") (.ok ()),
        .subscribe "alice" "rain" 9 2 (.ok ()), .credit "alice" 20]
    let pulled := registry.pullForSubscriberSettled WattOracleBooks.toyCrates "alice" "rain"
      (.error "disk full")
    pulled.1.toOption = none ∧ registry.balanceOf "alice" = 20 ∧ pulled.2.balanceOf "alice" = 15
      ∧ deliveredUnder pulled.2 (deliveryKey "alice" "rain") = {"sig:bob"} := by
  decide +kernel

end WattOraclePulls
