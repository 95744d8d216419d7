import Wattetheria.PaymentLedger

/-!
# The fields a receipt states

A receipt may name its recipient and its transaction under several keys, and `receipt_string`
reads the first of them that holds a text.  What stands under the other keys is not looked at,
not even when that text is blank.
-/

namespace WattX402

open WattText WattJson WattPayment WattLedger Option

variable {receipt : JsonValue} {keys : List String} {value : String}

/-- The two texts denote one amount: one number, or one text that is no number. -/
def SameAmount (a b : String) : Prop :=
  parseU128 a = parseU128 b ∧ (parseU128 a = none → a = b)

/-- Every field of the receipt states what the payment does. -/
structure StatesPayment (t : PaymentTransaction) (receipt : JsonValue) : Prop where
  recipient : ∀ key ∈ payToKeys, ∀ payTo ∈ receiptString receipt [key],
    ∃ expected ∈ t.recipientAddress, eqIgnoreAsciiCase payTo expected = true
  payer : ∃ payer ∈ receiptString receipt ["payer"], ∃ sender ∈ t.senderAddress,
    eqIgnoreAsciiCase payer sender = true
  amount : ∃ amount ∈ receiptString receipt ["amount"], SameAmount amount t.amount
  network : ∃ network ∈ receiptString receipt ["network"], ∃ expected ∈ t.network,
    canonicalX402Network network = canonicalX402Network expected
  hash : ∃ hash, isEvmTransactionHash hash = true
    ∧ (∃ key ∈ transactionKeys, hash ∈ receiptString receipt [key])
    ∧ ∀ key ∈ transactionKeys, ∀ other ∈ receiptString receipt [key], other = hash

/-- What the receipt states under any of the keys is what the check reads under them. -/
def ReadsAll (receipt : JsonValue) (keys : List String) : Prop :=
  ∀ key ∈ keys, ∀ value ∈ receiptString receipt [key], receiptString receipt keys = some value

lemma exists_key_of_receiptString (h : receiptString receipt keys = some value) :
    ∃ key ∈ keys, receiptString receipt [key] = some value := by
  obtain ⟨hread, hfilled⟩ := filter_eq_some_iff.mp h
  obtain ⟨text, hfound, htrim⟩ := map_eq_some_iff.mp hread
  obtain ⟨key, hkey, htext⟩ := List.exists_of_findSome?_eq_some hfound
  refine ⟨key, hkey, ?_⟩
  rw [receiptString, List.findSome?_cons, htext]
  exact filter_eq_some_iff.mpr ⟨congrArg some htrim, hfilled⟩

lemma amountsMatch_iff {a b : String} : amountsMatch a b = true ↔ SameAmount a b := by
  unfold amountsMatch SameAmount
  cases ha : parseU128 a with
  | some m =>
    cases hb : parseU128 b with
    | some n => simp
    | none =>
      have hne : a ≠ b := by
        rintro rfl
        rw [ha] at hb
        cases hb
      simp [hne]
  | none =>
    constructor
    · intro h
      obtain rfl : a = b := by simpa using h
      exact ⟨ha.symm, fun _ => rfl⟩
    · rintro ⟨-, h⟩
      simpa using h rfl

/-- If the receipt names a recipient, the payment has a `recipient_address`, and the receipt
names no other than the one the check reads; where the check reads none, because the first text
is blank, it names the `recipient_address` itself. -/
def NamesRecipient (t : PaymentTransaction) (receipt : JsonValue) : Prop :=
  ∀ key ∈ payToKeys, ∀ payTo ∈ receiptString receipt [key], ∃ expected ∈ t.recipientAddress,
    eqIgnoreAsciiCase payTo ((receiptString receipt payToKeys).getD expected) = true

/-- **THE FIELDS OF A RECEIPT**: a receipt that settles a payment states in every field what the
payment does exactly when the payment names a network, the receipt names no recipient past the
check, and it states nothing under its transaction keys but what the check reads there. -/
theorem receipt_states_payment_iff (t : PaymentTransaction) (receipt : JsonValue) (hx : onX402 t)
    (hok : validateX402SettlementReceipt t receipt = .ok ()) :
    StatesPayment t receipt ↔ t.network.isSome = true ∧ NamesRecipient t receipt
      ∧ ReadsAll receipt transactionKeys := by
  have hproves := (validateX402SettlementReceipt_ok_iff t receipt).mp hok hx
  obtain ⟨hash, hhash, hevm⟩ := hproves.hash
  constructor
  · intro hstates
    refine ⟨?_, fun key hkey payTo hpayTo => ?_, fun key hkey value hvalue => ?_⟩
    · obtain ⟨_, -, expected, hexpected, -⟩ := hstates.network
      exact isSome_iff_exists.mpr ⟨expected, hexpected⟩
    · obtain ⟨expected, hexpected, hsame⟩ := hstates.recipient key hkey payTo hpayTo
      refine ⟨expected, hexpected, ?_⟩
      cases hread : receiptString receipt payToKeys with
      | none => exact hsame
      | some read =>
        have hchecked := hproves.payTo read hread expected hexpected
        rw [eqIgnoreAsciiCase_comm] at hchecked
        exact eqIgnoreAsciiCase_trans hsame hchecked
    · obtain ⟨stated, -, -, honly⟩ := hstates.hash
      obtain ⟨key', hkey', hread⟩ := exists_key_of_receiptString hhash
      rw [honly key hkey value hvalue, ← honly key' hkey' hash hread]
      exact hhash
  · rintro ⟨hnetwork, hrecipients, hhashes⟩
    refine ⟨fun key hkey payTo hpayTo => ?_, ?_, ?_, ?_, hash, hevm,
      exists_key_of_receiptString hhash, fun key hkey value hvalue => ?_⟩
    · obtain ⟨expected, hexpected, hsame⟩ := hrecipients key hkey payTo hpayTo
      refine ⟨expected, hexpected, ?_⟩
      cases hread : receiptString receipt payToKeys with
      | none =>
        rw [hread] at hsame
        exact hsame
      | some read =>
        rw [hread] at hsame
        exact eqIgnoreAsciiCase_trans hsame (hproves.payTo read hread expected hexpected)
    · obtain ⟨payer, sender, hpayer, hsender, hsame⟩ := hproves.payer
      exact ⟨payer, hpayer, sender, hsender, hsame⟩
    · obtain ⟨amount, hamount, hmatch⟩ := hproves.amount
      exact ⟨amount, hamount, amountsMatch_iff.mp hmatch⟩
    · obtain ⟨network, hread, hmatch⟩ := hproves.network
      obtain ⟨expected, hexpected⟩ := isSome_iff_exists.mp hnetwork
      exact ⟨network, hread, expected, hexpected, hmatch expected hexpected⟩
    · exact mem_unique (hhashes key hkey value hvalue) hhash

/-- The toy receipt names the recipient of the toy payment under one key. -/
theorem toyReceipt_states_payment : StatesPayment toyAuthorized toyReceipt := by
  refine (receipt_states_payment_iff toyAuthorized toyReceipt (by decide +kernel)
    (by decide +kernel)).mpr ⟨by decide +kernel, ?_, ?_⟩
  · unfold NamesRecipient
    decide +kernel
  · unfold ReadsAll
    decide +kernel

/-- A receipt for the toy payment that names its recipient twice. -/
def paidTo (first second : String) : JsonValue :=
  .object [
    ("amount", .string "2500000"), ("network", .string "eip155:8453"), ("payTo", .string first),
    ("payer", .string "0xA11CE"), ("success", .bool true), ("to", .string second),
    ("transaction", .string "0x89c91c789e57059b17285e7ba1716a1f5ff4c5dace0ea5a5135f26158d0421b9")]

/-- A blank text hides the recipient the receipt names, and so does the right one. -/
theorem other_recipient_passes :
    (validateX402SettlementReceipt toyAuthorized (paidTo " " "0xeve") = .ok ()
        ∧ ¬ StatesPayment toyAuthorized (paidTo " " "0xeve"))
      ∧ validateX402SettlementReceipt toyAuthorized (paidTo "0xb0b" "0xeve") = .ok ()
        ∧ ¬ StatesPayment toyAuthorized (paidTo "0xb0b" "0xeve") := by
  refine ⟨⟨by decide +kernel, fun h => ?_⟩, by decide +kernel, fun h => ?_⟩
  all_goals
    have hto := h.recipient "to" (by decide) "0xeve" (by decide +kernel)
    revert hto
    decide +kernel

end WattX402
