import Wattetheria.RustText

/-!
# Stablecoin amounts

Payments are written as decimal texts and settled in base units of the token.  The parser is
compared with the rational number a text denotes.
-/

namespace WattX402

open WattText List Nat

def stablecoinDecimals (currency : String) : Option Nat :=
  match toAsciiUppercase (trim currency) with
  | "USDC" | "USDT" => some 6
  | _ => none

variable (text : List Char)

/-- `chars().all(|value| value.is_ascii_digit())`. -/
abbrev allDigits : Bool :=
  text.all Char.isDigit

/-- What `checked_pow`, `checked_mul` and `checked_add` of `u128` keep. -/
def checked (n : Nat) : Option Nat :=
  (some n).filter (· < 2 ^ 128)

/-- The block of `decimal_amount_to_base_units` that reads the part after the point. -/
def fractionalUnits (decimals : Nat) (currency : String) : Option (List Char) → Except String Nat
  | some fractional => do
    let fractional := fractional.rdropWhile (· == '0')
    bailIf (!allDigits fractional) s!"{currency} payment amount is not a decimal value"
    bailIf (decimals < fractional.length)
      s!"{currency} payment amount has more than {decimals} decimal places"
    okOr s!"{currency} payment amount is too large"
      (parseU128 (String.ofList (fractional.rightpad decimals '0')))
  | none => .ok 0

/-- Reads a decimal text in base units. -/
def decimalAmountToBaseUnits (amount : String) (decimals : Nat) (currency : String) :
    Except String String := do
  let currency := toAsciiUppercase (trim currency)
  let amount := trimChars amount.toList
  bailIf (amount.isEmpty || amount.head? == some '-')
    s!"{currency} payment amount must be greater than zero"
  let parts := amount.splitOn '.'
  bailIf (2 < parts.length) s!"{currency} payment amount is not a decimal value"
  let whole := if (parts.headD []).isEmpty then ['0'] else parts.headD []
  bailIf (!allDigits whole) s!"{currency} payment amount is not a decimal value"
  let wholeUnits ← okOr s!"{currency} payment amount is too large"
    (parseU128 (String.ofList whole))
  let scale ← okOr s!"{currency} payment decimals are too large" (checked (10 ^ decimals))
  let fractional ← fractionalUnits decimals currency parts[1]?
  let baseUnits ← okOr s!"{currency} payment amount is too large"
    ((checked (wholeUnits * scale)).bind fun value => checked (value + fractional))
  bailIf (baseUnits == 0) s!"{currency} payment amount must be greater than zero"
  return toString baseUnits

/-- Writes base units as a decimal text. -/
def formatBaseUnitsAsDecimal (baseUnits decimals : Nat) : String :=
  let scale := (checked (10 ^ decimals)).getD 1
  let whole := baseUnits / scale
  let fractional := baseUnits % scale
  if fractional = 0 then toString whole
  else
    let digits := ((toString fractional).toList.leftpad decimals '0').rdropWhile (· == '0')
    s!"{whole}.{String.ofList digits}"

variable (amount currency : String)

/-- The base units of a stablecoin amount. -/
def stablecoinAmountToBaseUnits : Except String (Option String) :=
  match stablecoinDecimals currency with
  | none => .ok none
  | some decimals => (decimalAmountToBaseUnits amount decimals currency).map some

/-- The amount of some base units. -/
def stablecoinAmountFromBaseUnits : Option String := do
  let decimals ← stablecoinDecimals currency
  let baseUnits ← parseU128 (trim amount)
  return formatBaseUnitsAsDecimal baseUnits decimals

/-! ## The number a text denotes -/

def value (digits : List Char) : Nat :=
  Nat.ofDigitChars 10 digits 0

/-- Digits, with at most one point before, between or after them; no digits stand for zero. -/
def decimalValue : Option ℚ :=
  let parts := text.splitOn '.'
  let whole := parts.headD []
  let fraction := (parts[1]?).getD []
  if parts.length ≤ 2 ∧ allDigits (whole ++ fraction) = true then
    some (value (whole ++ fraction) / 10 ^ fraction.length)
  else none

/-- The text denotes a positive number of base units that fits a `u128`. -/
def Denotes (amount : String) (n : Nat) : Prop :=
  0 < n ∧ n < 2 ^ 128 ∧ decimalValue (trimChars amount.toList) = some ((n : ℚ) / 10 ^ 6)

variable {whole fraction digits : List Char} {n units : Nat} {currency : String}
  (xs ys : List Char) {c : Char} {m : Nat}

lemma allDigits_append : allDigits (xs ++ ys) = (allDigits xs && allDigits ys) :=
  all_append

lemma value_append : value (xs ++ ys) = 10 ^ ys.length * value xs + value ys := by
  rw [value, ofDigitChars_append, ofDigitChars_eq_ofDigitChars_zero]
  rfl

lemma value_append_zeros (xs : List Char) (k : Nat) :
    value (xs ++ List.replicate k '0') = 10 ^ k * value xs := by
  rw [value, ofDigitChars_append, ofDigitChars_replicate_zero]
  rfl

lemma decimalValue_eq_some {text : List Char} (hwhole : (text.splitOn '.').headD [] = whole)
    (hfraction : ((text.splitOn '.')[1]?).getD [] = fraction) :
    decimalValue text = some ((n : ℚ) / 10 ^ 6)
      ↔ (text.splitOn '.').length ≤ 2 ∧ allDigits (whole ++ fraction) = true
        ∧ n * 10 ^ fraction.length = value (whole ++ fraction) * 10 ^ 6 := by
  have hdiv : (value (whole ++ fraction) : ℚ) / 10 ^ fraction.length = n / 10 ^ 6
      ↔ n * 10 ^ fraction.length = value (whole ++ fraction) * 10 ^ 6 := by
    rw [div_eq_div_iff (by positivity) (by positivity), eq_comm]
    exact_mod_cast Iff.rfl
  simp only [decimalValue, hwhole, hfraction]
  split
  · next h => rw [Option.some.injEq, hdiv, and_iff_right h.1, and_iff_right h.2]
  · next h => exact iff_of_false (by simp) fun h' => h ⟨h'.1, h'.2.1⟩

/-! ## The parser -/

lemma trimmed_zeros (digits : List Char) : ∃ k,
    digits = digits.rdropWhile (· == '0') ++ List.replicate k '0' := by
  refine ⟨(digits.rtakeWhile (· == '0')).length, ?_⟩
  have hzeros : digits.rtakeWhile (· == '0')
      = List.replicate (digits.rtakeWhile (· == '0')).length '0' :=
    eq_replicate_iff.mpr ⟨rfl, fun c hc => by
      have h := mem_rtakeWhile_imp hc
      exact eq_of_beq h⟩
  rw [← hzeros, rdropWhile_append_rtakeWhile]

lemma isDigit_toNat (h : c.isDigit = true) : 48 ≤ c.toNat ∧ c.toNat ≤ 57 := by
  simp only [Char.isDigit, Bool.and_eq_true, decide_eq_true_eq] at h
  exact h

/-- A numeral that does not end in a zero is no multiple of ten. -/
lemma not_dvd_value (hc : c ≠ '0') (h : c.isDigit = true) (xs : List Char) :
    ¬ 10 ∣ value (xs ++ [c]) := by
  have hrange := isDigit_toNat h
  have hne : c.toNat ≠ 48 := fun heq => hc (Char.toNat_inj.mp heq)
  have hvalue : value [c] = c.toNat - 48 := by
    rw [value, ofDigitChars_cons]
    simp [Nat.ofDigitChars]
  rw [value_append, hvalue, length_singleton, pow_one]
  omega

/-- The digits that the parser reads hold the number, exactly when six places hold the
fraction. -/
lemma base_units_iff (hdigits : fraction.rdropWhile (· == '0') = digits) :
    (allDigits digits = true ∧ digits.length ≤ 6 ∧ value (whole ++ digits.rightpad 6 '0') = n)
      ↔ allDigits fraction = true
        ∧ n * 10 ^ fraction.length = value (whole ++ fraction) * 10 ^ 6 := by
  obtain ⟨k, hk⟩ := trimmed_zeros fraction
  have hlast := rdropWhile_last_not (· == '0') fraction
  simp only [hdigits] at hk hlast
  have hall : allDigits fraction = allDigits digits := by
    rw [hk, allDigits_append]
    cases k <;> simp [allDigits]
  have hpos : ∀ j, 0 < 10 ^ j := fun j => Nat.pow_pos (by decide)
  have hcancel : n * 10 ^ fraction.length = value (whole ++ fraction) * 10 ^ 6
      ↔ n * 10 ^ digits.length = value (whole ++ digits) * 10 ^ 6 := by
    rw [hk, ← append_assoc, value_append_zeros, length_append, length_replicate,
      pow_add, ← mul_assoc, mul_comm (10 ^ k), mul_right_comm (value (whole ++ digits))]
    exact Nat.mul_left_inj (hpos k).ne'
  rw [hall, hcancel, List.rightpad, ← append_assoc, value_append_zeros]
  refine and_congr_right fun hall => ⟨fun ⟨hle, hn⟩ => ?_, fun h => ?_⟩
  · rw [← hn, mul_right_comm, ← pow_add, Nat.sub_add_cancel hle, mul_comm]
  · have hle : digits.length ≤ 6 := by
      by_contra hlt
      obtain ⟨j, hj⟩ := Nat.exists_eq_add_of_lt (Nat.not_le.mp hlt)
      have hne : digits ≠ [] := by
        rintro rfl
        simp at hlt
      refine not_dvd_value (by simpa using hlast hne)
        (all_eq_true.mp hall _ (getLast_mem hne)) (whole ++ digits.dropLast)
        ⟨n * 10 ^ j, ?_⟩
      rw [append_assoc, dropLast_append_getLast]
      -- six of the places cancel and one is left
      refine eq_of_mul_eq_mul_right (hpos 6) ?_
      rw [← h, hj]
      ring
    refine ⟨hle, Nat.eq_of_mul_eq_mul_right (hpos digits.length) ?_⟩
    rw [h, mul_right_comm, ← pow_add, Nat.sub_add_cancel hle, mul_comm]

lemma checked_eq_some : checked m = some n ↔ m = n ∧ n < 2 ^ 128 := by
  rw [checked, Option.filter_eq_some_iff, Option.some.injEq, decide_eq_true_eq]

lemma parseU128_value (hne : digits ≠ []) (h : allDigits digits = true) :
    parseU128 (String.ofList digits) = some n ↔ value digits = n ∧ n < 2 ^ 128 := by
  rw [parseU128_digits (by rwa [String.toList_ofList]) (by rwa [String.toList_ofList]),
    String.toList_ofList]
  exact checked_eq_some

lemma fractionalUnits_eq_ok {part : Option (List Char)}
    (hdigits : (part.getD []).rdropWhile (· == '0') = digits) :
    fractionalUnits 6 currency part = .ok units ↔ allDigits digits = true ∧ digits.length ≤ 6
      ∧ value (digits.rightpad 6 '0') = units ∧ units < 2 ^ 128 := by
  cases part with
  | none =>
    subst hdigits
    constructor
    · rintro ⟨⟩
      decide
    · rintro ⟨-, -, rfl, -⟩
      rfl
  | some fraction =>
    simp only [Option.getD_some] at hdigits
    simp only [fractionalUnits, hdigits, bind_eq_ok, bailIf_eq_ok, okOr_eq_ok, exists_const,
      Bool.not_eq_false', decide_eq_false_iff_not, not_lt]
    refine and_congr_right fun hall => and_congr_right fun hle => parseU128_value ?_ ?_
    · cases digits <;> simp [List.rightpad]
    · simp [List.rightpad, allDigits, all_append, all_replicate, hall]

/-- What the first test refuses denotes no positive number. -/
lemma refused_first {text : List Char} {q : ℚ} (hq : 0 < q) (h : decimalValue text = some q) :
    (text.isEmpty || text.head? == some '-') = false := by
  cases text with
  | nil =>
    cases h
    simp [value, Nat.ofDigitChars] at hq
  | cons c text =>
    by_contra hc
    obtain rfl : c = '-' := by simpa using hc
    have hsplit : ('-' :: text).splitOn '.' = (text.splitOn '.').modifyHead ('-' :: ·) := by
      rw [List.splitOn, splitOnP_cons_eq_if_modifyHead]
      rfl
    cases hparts : text.splitOn '.' with
    | nil => exact absurd hparts (splitOnP_ne_nil _ _)
    | cons whole rest => simp [decimalValue, hsplit, hparts, allDigits] at h

/-- The part before the point, as the parser reads it. -/
lemma whole_units (hdigits : digits = if whole.isEmpty then ['0'] else whole) :
    digits ≠ [] ∧ allDigits digits = allDigits whole ∧ value digits = value whole := by
  cases whole <;> simp [hdigits, value, Nat.ofDigitChars]

lemma sum_eq_some : (checked (m * 10 ^ 6)).bind (fun v => checked (v + units)) = some n
      ↔ m * 10 ^ 6 + units = n ∧ n < 2 ^ 128 := by
  simp only [Option.bind_eq_some_iff, checked_eq_some]
  constructor
  · rintro ⟨_, ⟨rfl, -⟩, h⟩
    exact h
  · rintro ⟨h, hlt⟩
    exact ⟨_, ⟨rfl, by omega⟩, h, hlt⟩

lemma value_padded (h : digits.length ≤ 6) :
    value (whole ++ digits.rightpad 6 '0') = value whole * 10 ^ 6 + value (digits.rightpad 6 '0') := by
  rw [value_append, length_rightpad, max_eq_left h, mul_comm]

lemma decimalAmountToBaseUnits_eq_ok {amount text : String} :
    decimalAmountToBaseUnits amount 6 currency = .ok text
      ↔ ∃ n, Denotes amount n ∧ text = toString n := by
  unfold decimalAmountToBaseUnits Denotes
  generalize trimChars amount.toList = cs
  generalize hwhole : (cs.splitOn '.').headD [] = whole
  generalize hdigits : (((cs.splitOn '.')[1]?).getD []).rdropWhile (· == '0') = digits
  generalize hread : (if whole.isEmpty = true then ['0'] else whole) = read
  obtain ⟨hne, hall, hvalue⟩ := whole_units hread.symm
  simp only [hwhole, hread, bind_eq_ok, bailIf_eq_ok, okOr_eq_ok, exists_const, checked_eq_some,
    fractionalUnits_eq_ok hdigits, Bool.not_eq_false', decide_eq_false_iff_not, not_lt]
  constructor
  · rintro ⟨-, hparts, hwhole', _, hparse, _, ⟨rfl, -⟩, _, ⟨hdigit, hle, rfl, -⟩, n, hsum, hn, htext⟩
    obtain ⟨rfl, -⟩ := (parseU128_value hne hwhole').mp hparse
    obtain ⟨hsum, hlt⟩ := sum_eq_some.mp hsum
    rw [hvalue, ← value_padded hle] at hsum
    obtain ⟨hfraction, hunits⟩ := (base_units_iff hdigits).mp ⟨hdigit, hle, hsum⟩
    refine ⟨n, ⟨pos_of_ne_zero (by simpa using hn), hlt,
      (decimalValue_eq_some hwhole rfl).mpr ⟨hparts, ?_, hunits⟩⟩, (Except.ok.inj htext).symm⟩
    rw [allDigits_append, ← hall, hwhole', hfraction, Bool.and_self]
  · rintro ⟨n, ⟨hn, hlt, hdenotes⟩, rfl⟩
    obtain ⟨hparts, hboth, hunits⟩ := (decimalValue_eq_some hwhole rfl).mp hdenotes
    rw [allDigits_append, Bool.and_eq_true, ← hall] at hboth
    obtain ⟨hdigit, hle, hsum⟩ := (base_units_iff hdigits).mpr ⟨hboth.2, hunits⟩
    rw [value_padded hle, ← hvalue] at hsum
    exact ⟨refused_first (by positivity) hdenotes, hparts, hboth.1, _,
      (parseU128_value hne hboth.1).mpr ⟨rfl, by omega⟩, _, ⟨rfl, by decide⟩, _,
      ⟨hdigit, hle, rfl, by omega⟩, n, sum_eq_some.mpr ⟨hsum, hlt⟩, by simpa using hn.ne', rfl⟩

/-! ## There and back -/

lemma trimChars_of_digits {cs : List Char} (h : ∀ c ∈ cs, c.isDigit = true ∨ c = '.') :
    trimChars cs = cs := by
  have hnone : ∀ c ∈ cs, ¬ isWhitespace c = true := by
    intro c hc
    rcases h c hc with hdigit | rfl
    · have hrange := isDigit_toNat hdigit
      simp [isWhitespace]
      omega
    · decide
  have hfront : cs.dropWhile isWhitespace = cs :=
    dropWhile_eq_self_iff.mpr fun hlen => hnone _ (getElem_mem hlen)
  have hback : cs.reverse.dropWhile isWhitespace = cs.reverse :=
    dropWhile_eq_self_iff.mpr fun hlen =>
      hnone _ (mem_reverse.mp (getElem_mem hlen))
  rw [trimChars, hfront, hback, reverse_reverse]

lemma toList_toString (n : Nat) : (toString n).toList = Nat.toDigits 10 n :=
  toList_repr

lemma value_toDigits (n : Nat) : value (Nat.toDigits 10 n) = n :=
  ofDigitChars_toDigits (by decide) (by decide)

lemma ne_point (h : allDigits digits = true) : ∀ c ∈ digits, (c == '.') = false := by
  intro c hc
  have hdigit := all_eq_true.mp h c hc
  refine beq_eq_false_iff_ne.mpr ?_
  rintro rfl
  exact absurd hdigit (by decide)

lemma splitOn_whole (hwhole : allDigits whole = true) : whole.splitOn '.' = [whole] :=
  splitOnP_eq_singleton (ne_point hwhole)

lemma splitOn_point (hwhole : allDigits whole = true) (hfraction : allDigits fraction = true) :
    (whole ++ '.' :: fraction).splitOn '.' = [whole, fraction] := by
  rw [List.splitOn, splitOnP_append_cons_of_forall_mem (ne_point hwhole) _ rfl,
    splitOnP_eq_singleton (ne_point hfraction)]

/-- Six places, without the zeros at their end. -/
lemma padded_units (h : n < 10 ^ 6)
    (hfraction : ((Nat.toDigits 10 n).leftpad 6 '0').rdropWhile (· == '0') = fraction) :
    allDigits fraction = true ∧ ∃ k, fraction.length + k = 6 ∧ 10 ^ k * value fraction = n := by
  obtain ⟨k, hk⟩ := trimmed_zeros ((Nat.toDigits 10 n).leftpad 6 '0')
  rw [hfraction] at hk
  refine ⟨all_eq_true.mpr fun c hc => ?_, k, ?_, ?_⟩
  · have hmem : c ∈ (Nat.toDigits 10 n).leftpad 6 '0' := hk ▸ mem_append_left _ hc
    rw [List.leftpad, mem_append, mem_replicate] at hmem
    rcases hmem with ⟨-, rfl⟩ | hmem
    · rfl
    · exact isDigit_toDigits hmem
  · have hlength := congrArg List.length hk
    rw [length_leftpad, length_append, length_replicate] at hlength
    rw [← hlength]
    exact max_eq_left ((length_toDigits_le_iff (by decide) (by decide)).mpr h)
  · rw [← value_append_zeros, ← hk, List.leftpad, value_append, value_toDigits, value,
      ofDigitChars_replicate_zero, mul_zero, mul_zero, zero_add]

lemma decimalValue_format (n : Nat) :
    decimalValue (trimChars (formatBaseUnitsAsDecimal n 6).toList) = some ((n : ℚ) / 10 ^ 6) := by
  have hscale : (checked (10 ^ 6)).getD 1 = 10 ^ 6 := by decide
  have hwhole : allDigits (Nat.toDigits 10 (n / 10 ^ 6)) = true :=
    all_eq_true.mpr fun _ => isDigit_toDigits
  unfold formatBaseUnitsAsDecimal
  dsimp only
  rw [hscale]
  split
  · next hzero =>
    rw [toList_toString, trimChars_of_digits fun c hc => .inl (isDigit_toDigits hc),
      decimalValue_eq_some rfl rfl, splitOn_whole hwhole]
    show _ ∧ allDigits (_ ++ []) = true ∧ n * 10 ^ 0 = value (_ ++ []) * 10 ^ 6
    rw [append_nil, headD_cons, value_toDigits]
    exact ⟨le_succ 1, hwhole, by omega⟩
  · rw [toList_toString (n % 10 ^ 6)]
    generalize hpadded : ((Nat.toDigits 10 (n % 10 ^ 6)).leftpad 6 '0').rdropWhile (· == '0')
      = fraction
    obtain ⟨hfraction, k, hlength, hvalue⟩ := padded_units (mod_lt _ (by decide)) hpadded
    have htext : (s!"{n / 10 ^ 6}.{String.ofList fraction}").toList
        = Nat.toDigits 10 (n / 10 ^ 6) ++ '.' :: fraction := by
      simp only [String.toList_append, String.toList_ofList, toString, toList_repr]
      rw [append_assoc]
      rfl
    rw [htext, trimChars_of_digits, decimalValue_eq_some rfl rfl, splitOn_point hwhole hfraction]
    · show _ ∧ allDigits (_ ++ fraction) = true ∧ _ = value (_ ++ fraction) * 10 ^ 6
      rw [headD_cons, allDigits_append, hwhole, hfraction, value_append, value_toDigits]
      refine ⟨le_rfl, rfl, ?_⟩
      have hpow : 10 ^ fraction.length * 10 ^ k = 10 ^ 6 := by rw [← pow_add, hlength]
      calc n * 10 ^ fraction.length
          = (10 ^ 6 * (n / 10 ^ 6) + 10 ^ k * value fraction) * 10 ^ fraction.length := by
            rw [hvalue, div_add_mod]
        _ = 10 ^ 6 * (n / 10 ^ 6) * 10 ^ fraction.length
            + 10 ^ fraction.length * 10 ^ k * value fraction := by ring
        _ = (10 ^ fraction.length * (n / 10 ^ 6) + value fraction) * 10 ^ 6 := by
            rw [hpow]
            ring
    · intro c hc
      rcases mem_append.mp hc with hc | hc
      · exact .inl (isDigit_toDigits hc)
      · exact (mem_cons.mp hc).symm.imp (all_eq_true.mp hfraction c) id

lemma stablecoinAmountToBaseUnits_eq_ok {amount : String} {units : Option String}
    (h : stablecoinDecimals currency = some 6) :
    stablecoinAmountToBaseUnits amount currency = .ok units
      ↔ ∃ n, Denotes amount n ∧ units = some (toString n) := by
  rw [stablecoinAmountToBaseUnits, h]
  dsimp only
  constructor
  · intro hok
    cases hread : decimalAmountToBaseUnits amount 6 currency with
    | error text =>
      rw [hread] at hok
      cases hok
    | ok text =>
      rw [hread] at hok
      cases hok
      obtain ⟨n, hn, rfl⟩ := decimalAmountToBaseUnits_eq_ok.mp hread
      exact ⟨n, hn, rfl⟩
  · rintro ⟨n, hn, rfl⟩
    rw [decimalAmountToBaseUnits_eq_ok.mpr ⟨n, hn, rfl⟩]
    rfl

/-- **STABLECOIN AMOUNTS**: base units written as a decimal text are read back as they were, and
a text is read exactly when it denotes a positive number of base units that fits. -/
theorem amounts_exact (currency : String) (h : stablecoinDecimals currency ≠ none) :
    (∀ n < 2 ^ 128, 0 < n → ∃ text, stablecoinAmountFromBaseUnits (toString n) currency = some text
          ∧ stablecoinAmountToBaseUnits text currency = .ok (some (toString n)))
      ∧ ∀ amount units, stablecoinAmountToBaseUnits amount currency = .ok units
          ↔ ∃ n, Denotes amount n ∧ units = some (toString n) := by
  have hdecimals : stablecoinDecimals currency = some 6 := by
    unfold stablecoinDecimals at h ⊢
    split <;> simp_all
  refine ⟨fun n hlt hpos => ⟨formatBaseUnitsAsDecimal n 6, ?_, ?_⟩,
    fun _ _ => stablecoinAmountToBaseUnits_eq_ok hdecimals⟩
  · have htrim : trim (toString n) = toString n := by
      rw [trim, toList_toString, trimChars_of_digits fun c hc => .inl (isDigit_toDigits hc),
        ← toList_toString, String.ofList_toList]
    rw [stablecoinAmountFromBaseUnits, hdecimals, htrim, parseU128_toString hlt]
    rfl
  · exact (stablecoinAmountToBaseUnits_eq_ok hdecimals).mpr
      ⟨n, ⟨hpos, hlt, decimalValue_format n⟩, rfl⟩

theorem amounts_exact_usdc : stablecoinDecimals "USDC" ≠ none
    ∧ stablecoinAmountToBaseUnits "1.50" "USDC" = .ok (some "1500000") := by
  have h : stablecoinDecimals "USDC" ≠ none := by decide +kernel
  have hdenotes : Denotes "1.50" 1500000 := ⟨by decide, by decide, by decide +kernel⟩
  exact ⟨h, ((amounts_exact "USDC" h).2 "1.50" _).mpr ⟨1500000, hdenotes, by decide⟩⟩

end WattX402
