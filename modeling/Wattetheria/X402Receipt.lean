import Wattetheria.PaymentTypes

/-!
# The x402 settlement receipt check

`validate_x402_settlement_receipt` decides whether a JSON receipt proves the
settlement of one payment.  It reads five fields of the payment and nothing else
(`validateX402SettlementReceipt_congr`), and asks `ReceiptProves` of the receipt
(`validateX402SettlementReceipt_ok_iff`).
-/

namespace WattX402

open WattText WattJson WattPayment

variable (receipt : JsonValue) (keys : List String)

def receiptBool : Option Bool :=
  keys.findSome? (fun key => (receipt.get key).bind JsonValue.asBool)

/-- `receipt_string`: the first key that holds a string, trimmed; `none` when it
is blank. -/
def receiptString : Option String :=
  ((keys.findSome? (fun key => (receipt.get key).bind JsonValue.asStr)).map trim).filter
    (fun value => !isEmpty value)

/-- A text of the receipt, or an error. -/
def requiredReceiptString : Except String String :=
  let names := String.intercalate "/" keys
  okOr s!"x402 settlement receipt missing {names}" (receiptString receipt keys)

def isEvmTransactionHash (value : String) : Bool :=
  value.utf8ByteSize == 66 && ['0', 'x'].isPrefixOf value.toList
    && (value.toList.drop 2).all isAsciiHexdigit

/-- `amounts_match`: as numbers when both parse, as texts otherwise. -/
def amountsMatch (receiptAmount expectedAmount : String) : Bool :=
  match parseU128 receiptAmount, parseU128 expectedAmount with
  | some receipt, some expected => receipt == expected
  | _, _ => receiptAmount == expectedAmount

/-- One name for each network. -/
def canonicalX402Network (network : String) : String :=
  let name := toAsciiLowercase (trim network)
  if ["base", "base-mainnet", "eip155:8453", "8453"].contains name then "eip155:8453"
  else if ["base-sepolia", "base_sepolia", "eip155:84532", "84532"].contains name then
    "eip155:84532"
  else if ["ethereum", "ethereum-mainnet", "mainnet", "eip155:1", "1"].contains name then
    "eip155:1"
  else if ["polygon", "polygon-mainnet", "eip155:137", "137"].contains name then "eip155:137"
  else if ["optimism", "optimism-mainnet", "eip155:10", "10"].contains name then "eip155:10"
  else if ["arbitrum", "arbitrum-one", "eip155:42161", "42161"].contains name then
    "eip155:42161"
  else name

/-- The keys under which a receipt may carry its transaction hash. -/
def transactionKeys : List String := ["transaction", "tx_hash", "txHash"]

/-- The keys under which a receipt may carry the payee. -/
def payToKeys : List String := ["payTo", "pay_to", "recipient", "to"]

/-- Whether the receipt proves the settlement. -/
def validateX402SettlementReceipt (transaction : PaymentTransaction) (receipt : JsonValue) :
    Except String Unit :=
  if !eqIgnoreAsciiCase transaction.rail "x402" then .ok ()
  else do
    bailIf ((receiptString receipt ["rail"]).any fun rail => !eqIgnoreAsciiCase rail "x402")
      "x402 settlement receipt rail must be x402"
    bailIf (receiptBool receipt ["success"] ≠ some true)
      "x402 settlement receipt must report success=true"
    let payer ← requiredReceiptString receipt ["payer"]
    let senderAddress ← okOr "x402 settlement requires sender_address" transaction.senderAddress
    bailIf (!eqIgnoreAsciiCase payer senderAddress)
      "x402 settlement payer does not match sender_address"
    let transactionHash ← requiredReceiptString receipt transactionKeys
    bailIf (!isEvmTransactionHash transactionHash)
      "x402 settlement transaction must be an EVM transaction hash"
    let receiptAmount ← requiredReceiptString receipt ["amount"]
    bailIf (!amountsMatch receiptAmount transaction.amount)
      "x402 settlement amount does not match payment amount"
    let receiptNetwork ← requiredReceiptString receipt ["network"]
    bailIf (transaction.network.any fun expected =>
        canonicalX402Network receiptNetwork ≠ canonicalX402Network expected)
      "x402 settlement network does not match payment network"
    bailIf ((receiptString receipt payToKeys).any fun payTo =>
        transaction.recipientAddress.any fun expected => !eqIgnoreAsciiCase payTo expected)
      "x402 settlement payTo does not match recipient_address"

variable (t : PaymentTransaction)

/-- The payment is on the x402 rail. -/
def onX402 : Prop := eqIgnoreAsciiCase t.rail "x402" = true

instance (t : PaymentTransaction) : Decidable (onX402 t) :=
  inferInstanceAs (Decidable (_ = true))

/-- The check reads only the rail, the two addresses, the amount and the
network. -/
lemma validateX402SettlementReceipt_congr {t u : PaymentTransaction}
    (hrail : t.rail = u.rail) (hsender : t.senderAddress = u.senderAddress)
    (hrecipient : t.recipientAddress = u.recipientAddress) (hamount : t.amount = u.amount)
    (hnetwork : t.network = u.network) :
    validateX402SettlementReceipt t receipt = validateX402SettlementReceipt u receipt := by
  rw [validateX402SettlementReceipt, hrail, hsender, hrecipient, hamount, hnetwork]
  rfl

/-- What the check asks of a receipt for an x402 payment, all at once. -/
structure ReceiptProves (t : PaymentTransaction) (receipt : JsonValue) : Prop where
  rail : ∀ rail ∈ receiptString receipt ["rail"], eqIgnoreAsciiCase rail "x402" = true
  success : receiptBool receipt ["success"] = some true
  payer : ∃ payer sender, receiptString receipt ["payer"] = some payer
    ∧ t.senderAddress = some sender ∧ eqIgnoreAsciiCase payer sender = true
  hash : ∃ hash, receiptString receipt transactionKeys = some hash
    ∧ isEvmTransactionHash hash = true
  amount : ∃ amount, receiptString receipt ["amount"] = some amount
    ∧ amountsMatch amount t.amount = true
  network : ∃ network, receiptString receipt ["network"] = some network
    ∧ ∀ expected ∈ t.network, canonicalX402Network network = canonicalX402Network expected
  payTo : ∀ payTo ∈ receiptString receipt payToKeys, ∀ expected ∈ t.recipientAddress,
    eqIgnoreAsciiCase payTo expected = true

/-- **WHAT A VALID RECEIPT IS**: off the x402 rail everything passes, on it exactly
the receipts that prove the payment. -/
lemma validateX402SettlementReceipt_ok_iff (receipt : JsonValue) :
    validateX402SettlementReceipt t receipt = .ok () ↔ (onX402 t → ReceiptProves t receipt) := by
  by_cases hx : onX402 t
  · have hx' : eqIgnoreAsciiCase t.rail "x402" = true := hx
    rw [validateX402SettlementReceipt, if_neg (by rw [hx']; decide)]
    constructor
    · intro h _
      -- peel the checks in the order the code makes them
      obtain ⟨_, hrail, h⟩ := bind_eq_ok.mp h
      obtain ⟨_, hsuccess, h⟩ := bind_eq_ok.mp h
      obtain ⟨payer, hpayer, h⟩ := bind_eq_ok.mp h
      obtain ⟨sender, hsender, h⟩ := bind_eq_ok.mp h
      obtain ⟨_, hmatch, h⟩ := bind_eq_ok.mp h
      obtain ⟨hash, hhash, h⟩ := bind_eq_ok.mp h
      obtain ⟨_, hevm, h⟩ := bind_eq_ok.mp h
      obtain ⟨amount, hamount, h⟩ := bind_eq_ok.mp h
      obtain ⟨_, hamounts, h⟩ := bind_eq_ok.mp h
      obtain ⟨network, hnetwork, h⟩ := bind_eq_ok.mp h
      obtain ⟨_, hnetworks, hpayTo⟩ := bind_eq_ok.mp h
      rw [requiredReceiptString, okOr_eq_ok] at hpayer hhash hamount hnetwork
      rw [okOr_eq_ok] at hsender
      rw [bailIf_eq_ok] at hrail hsuccess hmatch hevm hamounts hnetworks hpayTo
      exact {
        rail := by simpa [any_eq_false] using hrail
        success := by simpa using hsuccess
        payer := ⟨payer, sender, hpayer, hsender, by simpa using hmatch⟩
        hash := ⟨hash, hhash, by simpa using hevm⟩
        amount := ⟨amount, hamount, by simpa using hamounts⟩
        network := ⟨network, hnetwork, by simpa [any_eq_false] using hnetworks⟩
        payTo := by simpa [any_eq_false] using hpayTo }
    · intro h
      obtain ⟨hrail, hsuccess, ⟨payer, sender, hpayer, hsender, hmatch⟩, ⟨hash, hhash, hevm⟩,
        ⟨amount, hamount, hamounts⟩, ⟨network, hnetwork, hnetworks⟩, hpayTo⟩ := h hx
      refine bind_eq_ok.mpr ⟨(), bailIf_eq_ok.mpr (by simpa [any_eq_false] using hrail), ?_⟩
      refine bind_eq_ok.mpr ⟨(), bailIf_eq_ok.mpr (by simpa using hsuccess), ?_⟩
      refine bind_eq_ok.mpr ⟨payer, okOr_eq_ok.mpr hpayer, ?_⟩
      refine bind_eq_ok.mpr ⟨sender, okOr_eq_ok.mpr hsender, ?_⟩
      refine bind_eq_ok.mpr ⟨(), bailIf_eq_ok.mpr (by simpa using hmatch), ?_⟩
      refine bind_eq_ok.mpr ⟨hash, okOr_eq_ok.mpr hhash, ?_⟩
      refine bind_eq_ok.mpr ⟨(), bailIf_eq_ok.mpr (by simpa using hevm), ?_⟩
      refine bind_eq_ok.mpr ⟨amount, okOr_eq_ok.mpr hamount, ?_⟩
      refine bind_eq_ok.mpr ⟨(), bailIf_eq_ok.mpr (by simpa using hamounts), ?_⟩
      refine bind_eq_ok.mpr ⟨network, okOr_eq_ok.mpr hnetwork, ?_⟩
      refine bind_eq_ok.mpr ⟨(), bailIf_eq_ok.mpr (by simpa [any_eq_false] using hnetworks), ?_⟩
      exact bailIf_eq_ok.mpr (by simpa [any_eq_false] using hpayTo)
  · have hx' : ¬ eqIgnoreAsciiCase t.rail "x402" = true := hx
    rw [validateX402SettlementReceipt, if_pos (by simpa using hx')]
    exact ⟨fun _ h => absurd h hx, fun _ => rfl⟩

end WattX402
