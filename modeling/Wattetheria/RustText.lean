import Mathlib

/-!
# Rust strings and results

The `str` operations the payment and mission code calls, over the list of
characters of a Lean `String`.  Case folding is ASCII only, trimming follows
the Unicode `White_Space` property, and `parse::<u128>` accepts an optional
leading `+` and refuses anything that is empty, signed or too large.

A fallible function returns `Except String`, the text being what the error
prints; the last section peels such computations apart.
-/

namespace WattText

open List

/-- `char::is_whitespace`: the Unicode `White_Space` property. -/
def isWhitespace (c : Char) : Bool :=
  let n := c.toNat
  (9 ≤ n && n ≤ 13) || n == 0x20 || n == 0x85 || n == 0xA0 || n == 0x1680
    || (0x2000 ≤ n && n ≤ 0x200A) || n == 0x2028 || n == 0x2029 || n == 0x202F
    || n == 0x205F || n == 0x3000

variable (cs : List Char)

/-- `str::trim` on the characters: drop white space from both ends. -/
def trimChars : List Char :=
  ((cs.dropWhile isWhitespace).reverse.dropWhile isWhitespace).reverse

variable (s : String)

def trim : String := String.ofList (trimChars s.toList)

def isEmpty : Bool := s.toList.isEmpty

variable (a b : String)

/-- `str::eq_ignore_ascii_case`: equal once both sides are folded to ASCII
lower case (`Char.toLower` leaves every non-ASCII letter alone). -/
def eqIgnoreAsciiCase : Bool :=
  a.toList.map Char.toLower == b.toList.map Char.toLower

def toAsciiLowercase : String := String.ofList (s.toList.map Char.toLower)

def toAsciiUppercase : String := String.ofList (s.toList.map Char.toUpper)

def isAsciiHexdigit (c : Char) : Bool :=
  c.isDigit || ('a' ≤ c && c ≤ 'f') || ('A' ≤ c && c ≤ 'F')

/-- `hex::encode`. -/
def hexEncode (bytes : List UInt8) : String :=
  String.ofList (bytes.flatMap fun byte => [byte.toNat / 16, byte.toNat % 16].map Nat.digitChar)

def asBytes : List UInt8 := s.toByteArray.data.toList

/-- A line, last character first, without the carriage return before its line feed. -/
def dropReturn (line : List Char) : List Char :=
  if line.head? = some '\r' then line.tail else line

/-- The lines of a text; `line` is what was read of the current one, last character first. -/
def linesFrom (line : List Char) : List Char → List (List Char)
  | [] => if line.isEmpty then [] else [line.reverse]
  | c :: cs =>
    if c = '\n' then (dropReturn line).reverse :: linesFrom [] cs
    else linesFrom (c :: line) cs

def lines : List (List Char) := linesFrom [] cs

/-- Decimal digits to a number, most significant first; `none` at a non-digit. -/
def digitsValue : Nat → List Char → Option Nat
  | acc, [] => some acc
  | acc, c :: cs =>
    if c.isDigit then digitsValue (10 * acc + (c.toNat - 48)) cs else none

/-- `str::parse::<u128>().ok()`. -/
def parseU128 : Option Nat :=
  let digits := match s.toList with
    | '+' :: rest => rest
    | cs => cs
  if digits.isEmpty then none
  else (digitsValue 0 digits).filter (· < 2 ^ 128)

lemma digitsValue_eq (acc : Nat) (cs : List Char) : digitsValue acc cs
      = if cs.all Char.isDigit then some (Nat.ofDigitChars 10 cs acc) else none := by
  induction cs generalizing acc with
  | nil => rfl
  | cons c cs ih =>
    rw [digitsValue, ih, Nat.ofDigitChars_cons, all_cons]
    cases c.isDigit <;> rfl

lemma parseU128_digits {s : String} (hne : s.toList ≠ []) (h : s.toList.all Char.isDigit = true) :
    parseU128 s = (some (Nat.ofDigitChars 10 s.toList 0)).filter (· < 2 ^ 128) := by
  unfold parseU128
  cases hcs : s.toList with
  | nil => exact absurd hcs hne
  | cons c cs =>
    rw [hcs] at h
    have hc : c ≠ '+' := by
      rintro rfl
      simp at h
    split
    · next heq => exact absurd (List.cons.inj heq).1 hc
    · dsimp only
      rw [digitsValue_eq, if_pos h]
      rfl

/-- The digits that a number is printed in. -/
lemma isDigit_toDigits {n : Nat} {c : Char} (h : c ∈ Nat.toDigits 10 n) : c.isDigit = true :=
  Nat.isDigit_of_mem_toDigits (by decide) (by decide) h

lemma parseU128_toString {n : Nat} (h : n < 2 ^ 128) : parseU128 (toString n) = some n := by
  have hlist : (toString n).toList = Nat.toDigits 10 n := Nat.toList_repr
  rw [parseU128_digits (hlist ▸ Nat.toDigits_ne_nil), hlist,
    Nat.ofDigitChars_toDigits (by decide) (by decide)]
  · exact Option.filter_eq_some_iff.mpr ⟨rfl, decide_eq_true h⟩
  · rw [hlist]
    exact all_eq_true.mpr fun _ => isDigit_toDigits

lemma trimChars_idempotent : trimChars (trimChars cs) = trimChars cs := by
  -- what is left after trimming the end still begins with the first kept character
  have hfront : (trimChars cs).dropWhile isWhitespace = trimChars cs := by
    rw [dropWhile_eq_self_iff]
    intro hlen
    have hpre : trimChars cs <+: cs.dropWhile isWhitespace := rdropWhile_prefix _ _
    have hlen' : 0 < (cs.dropWhile isWhitespace).length := lt_of_lt_of_le hlen hpre.length_le
    have hhead : (trimChars cs)[0] = (cs.dropWhile isWhitespace)[0] := hpre.getElem hlen
    rw [hhead]
    exact dropWhile_get_zero_not isWhitespace cs hlen'
  show ((trimChars cs).dropWhile isWhitespace).rdropWhile isWhitespace = trimChars cs
  rw [hfront]
  exact rdropWhile_idempotent _ _

lemma trimChars_eq_nil_iff {cs : List Char} :
    trimChars cs = [] ↔ ∀ c ∈ cs, isWhitespace c = true := by
  rw [trimChars, reverse_eq_nil_iff, dropWhile_eq_nil_iff]
  simp only [mem_reverse]
  constructor
  · intro h c hc
    by_contra hblack
    have hkept : cs.dropWhile isWhitespace ≠ [] := by
      intro hnil
      exact hblack (dropWhile_eq_nil_iff.mp hnil c hc)
    have hhead := head_dropWhile_not isWhitespace hkept
    rw [h _ (head_mem hkept)] at hhead
    cases hhead
  · intro h c hc
    exact h c ((dropWhile_suffix isWhitespace).mem hc)

lemma trim_trim : trim (trim s) = trim s := by
  rw [trim, trim, String.toList_ofList, trimChars_idempotent]

@[simp] lemma eqIgnoreAsciiCase_refl (a : String) : eqIgnoreAsciiCase a a = true := by
  simp [eqIgnoreAsciiCase]

lemma eqIgnoreAsciiCase_comm : eqIgnoreAsciiCase a b = eqIgnoreAsciiCase b a := by
  simp only [eqIgnoreAsciiCase]
  exact Bool.beq_comm

lemma eqIgnoreAsciiCase_trans {a b c : String} (hab : eqIgnoreAsciiCase a b = true)
    (hbc : eqIgnoreAsciiCase b c = true) : eqIgnoreAsciiCase a c = true :=
  beq_iff_eq.mpr ((beq_iff_eq.mp hab).trans (beq_iff_eq.mp hbc))

lemma asBytes_append : asBytes (a ++ b) = asBytes a ++ asBytes b := by
  rw [asBytes, String.toByteArray_append, ByteArray.data_append, Array.toList_append]
  rfl

lemma asBytes_injective : Function.Injective asBytes := by
  intro a b h
  have hdata : a.toByteArray.data = b.toByteArray.data := Array.toList_inj.mp h
  exact String.toByteArray_inj.mp (ByteArray.ext hdata)

lemma digitChar_injective : ∀ m < 16, ∀ n < 16, Nat.digitChar m = Nat.digitChar n → m = n := by
  decide

lemma hexEncode_injective : Function.Injective hexEncode := by
  intro a b h
  have hdigits := String.ofList_injective h
  clear h
  induction a generalizing b with
  | nil =>
    cases b with
    | nil => rfl
    | cons y b => simp at hdigits
  | cons x a ih =>
    cases b with
    | nil => simp at hdigits
    | cons y b =>
      simp only [flatMap_cons, map_cons, map_nil, cons_append,
        nil_append, List.cons.injEq] at hdigits
      obtain ⟨hhigh, hlow, hrest⟩ := hdigits
      have hx := x.toNat_lt
      have hy := y.toNat_lt
      have hhigh' := digitChar_injective _ (by omega) _ (by omega) hhigh
      have hlow' := digitChar_injective _ (by omega) _ (by omega) hlow
      have hxy : x = y := UInt8.toNat_inj.mp (by omega)
      rw [hxy, ih hrest]

/-- A row without line breaks is read up to its line feed. -/
lemma linesFrom_row {rest : List Char} : ∀ {row line : List Char}, '\n' ∉ row →
    (∀ c ∈ line, c ≠ '\r') → '\r' ∉ row →
    linesFrom line (row ++ '\n' :: rest) = (line.reverse ++ row) :: lines rest
  | [], line, _, hline, _ => by
    have hkeep : dropReturn line = line := by
      rw [dropReturn, if_neg]
      intro hhead
      exact hline _ (mem_of_mem_head? hhead) rfl
    rw [nil_append, linesFrom, if_pos rfl, hkeep, append_nil]
    rfl
  | c :: row, line, hrow, hline, hcr => by
    have hne : c ≠ '\n' := by
      rintro rfl
      exact hrow mem_cons_self
    have hc : c ≠ '\r' := by
      rintro rfl
      exact hcr mem_cons_self
    have hline' : ∀ d ∈ c :: line, d ≠ '\r' := by
      intro d hd
      rcases mem_cons.mp hd with rfl | hd
      · exact hc
      · exact hline d hd
    rw [cons_append, linesFrom, if_neg hne,
      linesFrom_row (fun h => hrow (mem_cons_of_mem c h)) hline'
        (fun h => hcr (mem_cons_of_mem c h)),
      reverse_cons, append_assoc, cons_append, nil_append]

/-- The lines of a file whose rows hold no line breaks are its rows. -/
lemma lines_rows : ∀ {rows : List (List Char)}, (∀ row ∈ rows, '\n' ∉ row ∧ '\r' ∉ row) →
    lines (rows.flatMap (· ++ ['\n'])) = rows
  | [], _ => rfl
  | row :: rows, h => by
    obtain ⟨hfeed, hreturn⟩ := h row mem_cons_self
    have hrest := lines_rows (fun r hr => h r (mem_cons_of_mem row hr))
    have hfirst : linesFrom [] (row ++ '\n' :: rows.flatMap (· ++ ['\n']))
        = row :: lines (rows.flatMap (· ++ ['\n'])) :=
      linesFrom_row hfeed (by simp) hreturn
    rw [flatMap_cons, append_assoc, cons_append, nil_append, lines, hfirst, hrest]

/-! ## Fallible computations -/

section Fallible

variable {α β : Type} (text : String) {x : Except String α} {o : Option α}

/-- `anyhow`'s `context`: the outer text is what the error prints. -/
def withContext : Except String α → Except String α
  | .ok a => .ok a
  | .error _ => .error text

/-- `Option::ok_or_else`. -/
def okOr : Option α → Except String α
  | some a => .ok a
  | none => .error text

/-- `if c { bail!(text) }`. -/
def bailIf (c : Bool) (text : String) : Except String Unit :=
  if c then .error text else .ok ()

/-- A sequence succeeds exactly when its first part does and the rest succeeds on
the value it gave. -/
lemma bind_eq_ok {f : α → Except String β} {b : β} :
    (x >>= f) = .ok b ↔ ∃ a, x = .ok a ∧ f a = .ok b := by
  cases x with
  | error text => constructor
                  · intro h; cases h
                  · rintro ⟨a, ha, -⟩; cases ha
  | ok a => constructor
            · intro h; exact ⟨a, rfl, h⟩
            · rintro ⟨a', ha, h⟩
              cases ha
              exact h

lemma okOr_eq_ok {text : String} {a : α} : okOr text o = .ok a ↔ o = some a := by
  cases o with
  | none => simp [okOr]
  | some a' => simp [okOr]

lemma bailIf_eq_ok {c : Bool} {text : String} {u : Unit} : bailIf c text = .ok u ↔ c = false := by
  cases c <;> simp [bailIf]

lemma withContext_eq_ok {text : String} {a : α} : withContext text x = .ok a ↔ x = .ok a := by
  cases x <;> simp [withContext]

lemma isOk_iff {x : Except String Unit} : x.isOk = true ↔ x = .ok () := by
  cases x with
  | error text => exact ⟨fun h => (nomatch h), fun h => (nomatch h)⟩
  | ok u => exact ⟨fun _ => rfl, fun _ => rfl⟩

/-- A loop of checks succeeds exactly when each check does. -/
lemma forM_eq_ok {check : α → Except String Unit} {xs : List α} :
    xs.forM check = .ok () ↔ ∀ x ∈ xs, check x = .ok () := by
  induction xs with
  | nil => exact ⟨fun _ _ h => (nomatch h), fun _ => rfl⟩
  | cons x xs ih =>
    show (check x >>= fun _ => xs.forM check) = .ok () ↔ _
    rw [bind_eq_ok, forall_mem_cons, ← ih]
    constructor
    · rintro ⟨_, hx, hxs⟩
      exact ⟨hx, hxs⟩
    · rintro ⟨hx, hxs⟩
      exact ⟨(), hx, hxs⟩

/-- What a fold keeps, together with what it has gone through. -/
lemma foldlM_eq_ok {S : Type} {f : S → α → Except String S} {P : List α → S → Prop}
    (hstep : ∀ {seen s a t}, P seen s → f s a = .ok t → P (seen ++ [a]) t) :
    ∀ {xs : List α} (seen : List α) {s t : S}, P seen s → xs.foldlM f s = .ok t → P (seen ++ xs) t
  | [], seen, s, t, hP, h => by
    cases h
    rw [append_nil]
    exact hP
  | x :: xs, seen, s, t, hP, h => by
    rw [foldlM_cons, bind_eq_ok] at h
    obtain ⟨next, hnext, hrest⟩ := h
    have hall := foldlM_eq_ok hstep (seen ++ [x]) (hstep hP hnext) hrest
    rw [append_assoc] at hall
    exact hall

lemma any_eq_false {test : α → Bool} : o.any test = false ↔ ∀ a ∈ o, test a = false := by
  cases o <;> simp

end Fallible

example : parseU128 "2500000" = some 2500000 := by decide
example : parseU128 "-1" = none := by decide
example : trim " \tx402\n" = "x402" := by decide

end WattText
