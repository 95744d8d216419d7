import Wattetheria.HandshakeReplayProofs

/-!
# Minted stamps

`mint` counts up until the hash of the stamp begins with enough zero bits.  The resource
of a stamp may hold colons: `parse` finds it again by splitting from both ends, because
neither the date before it nor the uuid after it holds one.
-/

namespace WattAdmission

open WattText List

/-- `as_string`. -/
def HashcashStamp.asString (stamp : HashcashStamp) : String :=
  String.ofList (Nat.toDigits 10 stamp.version ++ ':' :: (Nat.toDigits 10 stamp.bits
    ++ ':' :: (stamp.date ++ ':' :: (stamp.resource ++ ':' :: stamp.nonce
      ++ ':' :: Nat.toDigits 10 stamp.counter))))

variable (crates : AdmissionCrates) (nonce date resource : String)

/-- `hashcash::mint`; the uuid and the date are arguments. -/
def hashcashMint (bits : UInt8) (maxIterations : UInt64) : Option String :=
  ((range maxIterations.toNat).map fun counter => HashcashStamp.asString
    ⟨1, bits.toNat, date.toList, resource.toList, nonce.toList, counter⟩).find? fun stamp =>
      bits.toNat ≤ leadingZeroBits 0 (crates.sha256 (asBytes stamp))

/-! ## Reading a stamp back -/

lemma splitOnce_append {before : List Char} (h : ':' ∉ before) (after : List Char) :
    splitOnce (before ++ ':' :: after) = some (before, after) := by
  induction before with
  | nil => rfl
  | cons c cs ih =>
    obtain ⟨hc, hcs⟩ := not_or.mp (mt mem_cons.mpr h)
    rw [cons_append, splitOnce, if_neg (Ne.symm hc), ih hcs]
    rfl

lemma rsplitOnce_append (before : List Char) {after : List Char} (h : ':' ∉ after) :
    rsplitOnce (before ++ ':' :: after) = some (before, after) := by
  have hreverse : (before ++ ':' :: after).reverse = after.reverse ++ ':' :: before.reverse := by
    simp
  rw [rsplitOnce, hreverse, splitOnce_append (by simpa using h)]
  simp

lemma colon_not_mem_toDigits (n : Nat) : ':' ∉ Nat.toDigits 10 n := fun h =>
  absurd (isDigit_toDigits h) (by decide)

lemma parseUnsigned_toDigits {width n : Nat} (h : n < 2 ^ width) :
    parseUnsigned width (Nat.toDigits 10 n) = some n := by
  have hvalue : digitsValue 0 (Nat.toDigits 10 n) = some n := by
    rw [digitsValue_eq, if_pos (all_eq_true.mpr fun _ => isDigit_toDigits),
      Nat.ofDigitChars_toDigits (by decide) (by decide)]
  unfold parseUnsigned
  split
  · next heq => exact absurd (isDigit_toDigits (heq ▸ mem_cons_self)) (by decide)
  · rw [if_neg (by simp [Nat.toDigits_ne_nil]), hvalue]
    exact Option.filter_eq_some_iff.mpr ⟨rfl, decide_eq_true h⟩

/-- **ROUND TRIP**. -/
lemma parse_asString {stamp : HashcashStamp} (hversion : stamp.version < 2 ^ 8)
    (hbits : stamp.bits < 2 ^ 8) (hcounter : stamp.counter < 2 ^ 64) (hdate : ':' ∉ stamp.date)
    (hnonce : ':' ∉ stamp.nonce) : HashcashStamp.parse stamp.asString.toList = some stamp := by
  unfold HashcashStamp.parse HashcashStamp.asString
  simp only [String.toList_ofList, splitOnce_append (colon_not_mem_toDigits _),
    parseUnsigned_toDigits hversion, parseUnsigned_toDigits hbits, splitOnce_append hdate,
    rsplitOnce_append _ (colon_not_mem_toDigits _), parseUnsigned_toDigits hcounter,
    rsplitOnce_append _ hnonce, Option.bind_eq_bind, Option.bind_some]

/-! ## The zero bits of a hash -/

/-- The bits of a hash, the highest of each byte first. -/
def hashBits (bytes : List UInt8) : List Bool :=
  bytes.flatMap fun byte => (range 8).map fun k => byte.toNat.testBit (7 - k)

/-- The zero bits at the front. -/
def zerosBefore (bits : List Bool) : Nat := (bits.takeWhile (!·)).length

lemma leading_le_byte : ∀ n < 256,
    8 - n.size ≤ zerosBefore ((range 8).map fun k => n.testBit (7 - k)) := by decide +kernel

/-- The loop counts zero bits, and stops counting at 255. -/
lemma leadingZeroBits_le (count : Nat) (bytes : List UInt8) :
    leadingZeroBits count bytes ≤ count + zerosBefore (hashBits bytes) := by
  induction bytes generalizing count with
  | nil => exact Nat.le_add_right ..
  | cons byte bytes ih =>
    rw [leadingZeroBits]
    by_cases hbyte : byte = 0
    · subst hbyte
      have hzeros : zerosBefore (hashBits (0 :: bytes)) = 8 + zerosBefore (hashBits bytes) := by
        show ((replicate 8 false ++ hashBits bytes).takeWhile (!·)).length = _
        rw [takeWhile_append_of_pos (by simp), length_append, length_replicate]
        rfl
      rw [if_pos rfl, hzeros]
      have := ih (min 255 (count + 8))
      omega
    · have hprefix : zerosBefore ((range 8).map fun k => byte.toNat.testBit (7 - k))
          ≤ zerosBefore (hashBits (byte :: bytes)) := by
        unfold zerosBefore hashBits
        rw [flatMap_cons, takeWhile_append]
        split
        · next hall => simp [hall]
        · exact le_rfl
      have := leading_le_byte byte.toNat byte.toNat_lt
      rw [if_neg hbyte]
      omega

/-- **STAMPS**: a minted stamp is accepted for its resource and no other, up to the
difficulty it was minted for; and the hash of every accepted stamp begins with as many
zero bits as are asked for. -/
theorem mint_accepted (hnonce : ':' ∉ nonce.toList) (hdate : ':' ∉ date.toList) :
    (∀ bits maxIterations stamp,
        hashcashMint crates nonce date resource bits maxIterations = some stamp →
          ∀ other minBits, hashcashVerify crates stamp other minBits = true
            ↔ other = resource ∧ minBits ≤ bits.toNat)
      ∧ ∀ stamp other minBits, hashcashVerify crates stamp other minBits = true →
          minBits ≤ zerosBefore (hashBits (crates.sha256 (asBytes stamp))) := by
  refine ⟨fun bits maxIterations stamp hmint other minBits => ?_, fun stamp other minBits h => ?_⟩
  · have hmeets := find?_some hmint
    obtain ⟨counter, hcounter, rfl⟩ := mem_map.mp (mem_of_find?_eq_some hmint)
    have hlt : counter < 2 ^ 64 := (mem_range.mp hcounter).trans maxIterations.toNat_lt
    unfold hashcashVerify
    rw [parse_asString (Nat.one_lt_two_pow (by decide)) bits.toNat_lt hlt hdate hnonce]
    simp only [Bool.and_eq_true, beq_iff_eq, decide_eq_true_eq, String.toList_inj]
    simp only [decide_eq_true_eq] at hmeets
    exact ⟨fun h => ⟨h.1.1.2.symm, h.1.2⟩, fun h => ⟨⟨⟨trivial, h.1.symm⟩, h.2⟩, hmeets⟩⟩
  · unfold hashcashVerify at h
    cases hparsed : HashcashStamp.parse stamp.toList with
    | none => simp [hparsed] at h
    | some parsed =>
      simp only [hparsed, Bool.and_eq_true, decide_eq_true_eq] at h
      have := leadingZeroBits_le 0 (crates.sha256 (asBytes stamp))
      omega

/-- The hash is the last byte of the stamp, read so that the digit two is zero. -/
def toyHashes : AdmissionCrates :=
  { toyAdmission 0 with sha256 := fun bytes => bytes.reverse.head?.toList.map (· - 50) }

theorem mint_accepted_did :
    hashcashMint toyHashes "n" "20260101" "did:key:z" 8 5 = some "1:8:20260101:did:key:z:n:2"
      ∧ hashcashVerify toyHashes "1:8:20260101:did:key:z:n:2" "did:key:z" 8 = true := by
  have hmint : hashcashMint toyHashes "n" "20260101" "did:key:z" 8 5
      = some "1:8:20260101:did:key:z:n:2" := by decide +kernel
  refine ⟨hmint, ?_⟩
  exact ((mint_accepted toyHashes "n" "20260101" "did:key:z" (by decide) (by decide)).1 8 5 _ hmint
    "did:key:z" 8).mpr ⟨rfl, le_rfl⟩

end WattAdmission
