import Wattetheria.JsonValue

/-!
# JSON texts

The compact text of a JSON value, as `serde_json::to_string` writes it, and the
canonical text, with the keys of every object in the order of their UTF-16 code
units.  A text holds no control character, so it stays on one line, and the text of an
object ends where its outermost brace closes (`Scan`), so no such text is a proper
beginning of another (`objectText_append_inj`).
-/

namespace WattJsonText

open WattJson List

/-! ## The writer -/

/-- How numbers are printed: in digits, signs, a point and an exponent. -/
structure NumberText where
  text : JsonNumber → List Char
  plain : ∀ n, ∀ c ∈ text n, c.isDigit = true ∨ c = '-' ∨ c = '+' ∨ c = '.' ∨ c = 'e'

/-- Decimal numbers; a float has no digits of its own here. -/
def decimalNumbers : NumberText where
  text
    | .posInt n => Nat.toDigits 10 n.toNat
    | .negInt n => '-' :: Nat.toDigits 10 n.toInt.natAbs
    | .float _ => ['0', '.', '0']
  plain := by
    intro n c hc
    cases n with
    | posInt n => exact .inl (WattText.isDigit_toDigits hc)
    | negInt n =>
      rcases mem_cons.mp hc with rfl | hc
      · exact .inr (.inl rfl)
      · exact .inl (WattText.isDigit_toDigits hc)
    | float bits =>
      simp only [mem_cons, not_mem_nil, or_false] at hc
      rcases hc with rfl | rfl | rfl
      · exact .inl (by decide)
      · exact .inr (.inr (.inr (.inl rfl)))
      · exact .inl (by decide)

/-- A character inside a text. -/
def escapeChar (c : Char) : List Char :=
  if c = '"' then ['\\', '"']
  else if c = '\\' then ['\\', '\\']
  else if c = '\x08' then ['\\', 'b']
  else if c = '\x0c' then ['\\', 'f']
  else if c = '\n' then ['\\', 'n']
  else if c = '\r' then ['\\', 'r']
  else if c = '\t' then ['\\', 't']
  else if c.toNat < 0x20 then
    ['\\', 'u', '0', '0', Nat.digitChar (c.toNat / 16), Nat.digitChar (c.toNat % 16)]
  else [c]

variable (s : String)

def stringText : List Char := '"' :: (s.toList.flatMap escapeChar ++ ['"'])

mutual

/-- The compact text. -/
def valueText (num : NumberText) : JsonValue → List Char
  | .null => ['n', 'u', 'l', 'l']
  | .bool true => ['t', 'r', 'u', 'e']
  | .bool false => ['f', 'a', 'l', 's', 'e']
  | .number n => num.text n
  | .string s => stringText s
  | .array [] => ['[', ']']
  | .array (item :: items) => '[' :: (valueText num item ++ (itemsText num items ++ [']']))
  | .object [] => ['{', '}']
  | .object ((key, value) :: fields) =>
    '{' :: (stringText key ++ (':' :: (valueText num value ++ (fieldsText num fields ++ ['}']))))

/-- The further items of an array. -/
def itemsText (num : NumberText) : List JsonValue → List Char
  | [] => []
  | item :: items => ',' :: (valueText num item ++ itemsText num items)

/-- The further fields of an object. -/
def fieldsText (num : NumberText) : List (String × JsonValue) → List Char
  | [] => []
  | (key, value) :: fields =>
    ',' :: (stringText key ++ (':' :: (valueText num value ++ fieldsText num fields)))

end

/-- The code units of a character. -/
def utf16 (c : Char) : List Nat :=
  if c.toNat < 0x10000 then [c.toNat]
  else [0xD800 + (c.toNat - 0x10000) / 0x400, 0xDC00 + (c.toNat - 0x10000) % 0x400]

/-- The order of keys in a canonical text. -/
def KeyLe (a b : String × JsonValue) : Prop := a.1.toList.flatMap utf16 ≤ b.1.toList.flatMap utf16

instance : DecidableRel KeyLe := fun a b =>
  inferInstanceAs (Decidable (a.1.toList.flatMap utf16 ≤ b.1.toList.flatMap utf16))

mutual

/-- The value with the keys of every object in order. -/
def sortKeys : JsonValue → JsonValue
  | .null => .null
  | .bool b => .bool b
  | .number n => .number n
  | .string s => .string s
  | .array items => .array (sortItems items)
  | .object fields => .object ((sortFields fields).insertionSort KeyLe)

def sortItems : List JsonValue → List JsonValue
  | [] => []
  | item :: items => sortKeys item :: sortItems items

def sortFields : List (String × JsonValue) → List (String × JsonValue)
  | [] => []
  | (key, value) :: fields => (key, sortKeys value) :: sortFields fields

end

variable (num : NumberText) {c : Char} {text : List Char}

/-- The text with all keys in order. -/
def canonicalText (v : JsonValue) : List Char := valueText num (sortKeys v)

/-! ## A text stays on one line -/

/-- No control character. -/
def Printable (text : List Char) : Prop := ∀ c ∈ text, 0x20 ≤ c.toNat

@[simp] lemma printable_nil : Printable [] := by
  intro c hc
  cases hc

@[simp] lemma printable_cons : Printable (c :: text) ↔ 0x20 ≤ c.toNat ∧ Printable text := by
  simp [Printable]

@[simp] lemma printable_append {a b : List Char} :
    Printable (a ++ b) ↔ Printable a ∧ Printable b := by
  simp only [Printable, mem_append]
  constructor
  · intro h
    exact ⟨fun c hc => h c (.inl hc), fun c hc => h c (.inr hc)⟩
  · rintro ⟨ha, hb⟩ c (hc | hc)
    · exact ha c hc
    · exact hb c hc

variable (n : JsonNumber)

lemma printable_number : Printable (num.text n) := by
  intro c hc
  rcases num.plain n c hc with h | rfl | rfl | rfl | rfl
  · have hdigit : 48 ≤ c.toNat := by
      simp only [Char.isDigit, Bool.and_eq_true, decide_eq_true_eq, ge_iff_le] at h
      exact UInt32.le_iff_toNat_le.mp h.1
    omega
  all_goals decide

lemma digitChar_printable {n : Nat} (h : n < 16) : 0x20 ≤ (Nat.digitChar n).toNat := by
  interval_cases n <;> decide

lemma printable_escapeChar (c : Char) : Printable (escapeChar c) := by
  unfold escapeChar
  split_ifs with _ _ _ _ _ _ _ hcontrol
  · simp
  · simp
  · simp
  · simp
  · simp
  · simp
  · simp
  · have hhigh : 0x20 ≤ (Nat.digitChar (c.toNat / 16)).toNat := digitChar_printable (by omega)
    have hlow : 0x20 ≤ (Nat.digitChar (c.toNat % 16)).toNat := digitChar_printable (by omega)
    simpa using ⟨hhigh, hlow⟩
  · simpa using hcontrol

lemma printable_stringText : Printable (stringText s) := by
  have hbody : Printable (s.toList.flatMap escapeChar) := by
    intro c hc
    obtain ⟨d, -, hd⟩ := mem_flatMap.mp hc
    exact printable_escapeChar d c hd
  simpa [stringText] using hbody

mutual

theorem printable_valueText (num : NumberText) : ∀ v, Printable (valueText num v)
  | .null => by simp [valueText]
  | .bool true => by simp [valueText]
  | .bool false => by simp [valueText]
  | .number n => by simpa [valueText] using printable_number num n
  | .string s => by simpa [valueText] using printable_stringText s
  | .array [] => by simp [valueText]
  | .array (item :: items) => by
    have hitem := printable_valueText num item
    have hitems := printable_itemsText num items
    simpa [valueText] using ⟨hitem, hitems⟩
  | .object [] => by simp [valueText]
  | .object ((key, value) :: fields) => by
    have hkey := printable_stringText key
    have hvalue := printable_valueText num value
    have hfields := printable_fieldsText num fields
    simpa [valueText] using ⟨hkey, hvalue, hfields⟩

theorem printable_itemsText (num : NumberText) : ∀ items, Printable (itemsText num items)
  | [] => by simp [itemsText]
  | item :: items => by
    have hitem := printable_valueText num item
    have hitems := printable_itemsText num items
    simpa [itemsText] using ⟨hitem, hitems⟩

theorem printable_fieldsText (num : NumberText) : ∀ fields, Printable (fieldsText num fields)
  | [] => by simp [fieldsText]
  | (key, value) :: fields => by
    have hkey := printable_stringText key
    have hvalue := printable_valueText num value
    have hfields := printable_fieldsText num fields
    simpa [fieldsText] using ⟨hkey, hvalue, hfields⟩

end

/-! ## The bracket scanner -/

/-- Where the scanner is in a text. -/
inductive Place where
  | outside
  | inString
  | escaped

/-- The open brackets, and whether a string is being read. -/
structure Scan where
  depth : Nat
  place : Place

variable (s : Scan)

/-- Reads one character. -/
def Scan.step (c : Char) : Scan :=
  match s.place with
  | .outside =>
    if c = '"' then { s with place := .inString }
    else if c = '{' ∨ c = '[' then { s with depth := s.depth + 1 }
    else if c = '}' ∨ c = ']' then { s with depth := s.depth - 1 }
    else s
  | .inString =>
    if c = '"' then { s with place := .outside }
    else if c = '\\' then { s with place := .escaped }
    else s
  | .escaped => { s with place := .inString }

def Scan.read (text : List Char) : Scan := text.foldl Scan.step s

/-- The scanner's depth stays at `d` or deeper all through the text. -/
def Above (d : Nat) : Scan → List Char → Prop
  | _, [] => True
  | s, c :: text => d ≤ (s.step c).depth ∧ Above d (s.step c) text

/-- The text ends at the character that closes the outermost bracket. -/
def Closes : Scan → List Char → Prop
  | _, [] => False
  | s, [c] => (s.step c).depth = 0
  | s, c :: text => 0 < (s.step c).depth ∧ Closes (s.step c) text

/-- A text the scanner reads at depth `d` and leaves as it found it. -/
def Neutral (d : Nat) (text : List Char) : Prop :=
  Scan.read ⟨d, .outside⟩ text = ⟨d, .outside⟩ ∧ Above d ⟨d, .outside⟩ text

@[simp] lemma read_nil : s.read [] = s := rfl

@[simp] lemma read_cons (c : Char) (text : List Char) :
    s.read (c :: text) = (s.step c).read text := rfl

lemma read_append (a b : List Char) : s.read (a ++ b) = (s.read a).read b :=
  foldl_append

variable {d : Nat}

lemma above_append : ∀ {s : Scan} {a b : List Char},
    Above d s (a ++ b) ↔ Above d s a ∧ Above d (s.read a) b
  | s, [], b => by simp [Above]
  | s, c :: a, b => by
    rw [cons_append, Above, Above, read_cons, above_append (a := a), and_assoc]

lemma Above.mono {e : Nat} (hle : d ≤ e) : ∀ {s : Scan} {text : List Char},
    Above e s text → Above d s text
  | _, [], _ => trivial
  | _, _ :: _, ⟨hdepth, hrest⟩ => ⟨hle.trans hdepth, hrest.mono hle⟩

lemma neutral_nil : Neutral d [] := ⟨rfl, trivial⟩

lemma Neutral.append {a b : List Char} (ha : Neutral d a) (hb : Neutral d b) :
    Neutral d (a ++ b) := by
  refine ⟨?_, ?_⟩
  · rw [read_append, ha.1, hb.1]
  · rw [above_append, ha.1]
    exact ⟨ha.2, hb.2⟩

/-- A character that is neither a quote nor a bracket. -/
def Quiet (c : Char) : Prop :=
  c ≠ '"' ∧ ¬(c = '{' ∨ c = '[') ∧ ¬(c = '}' ∨ c = ']')

instance (c : Char) : Decidable (Quiet c) := inferInstanceAs (Decidable (_ ∧ _ ∧ _))

lemma step_quiet (h : Quiet c) : Scan.step ⟨d, .outside⟩ c = ⟨d, .outside⟩ := by
  obtain ⟨hquote, hopen, hclose⟩ := h
  simp only [Scan.step, if_neg hquote, if_neg hopen, if_neg hclose]

lemma Neutral.cons (hc : Quiet c) (h : Neutral d text) : Neutral d (c :: text) := by
  refine ⟨?_, ?_⟩
  · rw [read_cons, step_quiet hc, h.1]
  · rw [Above, step_quiet hc]
    exact ⟨le_refl d, h.2⟩

lemma neutral_of_quiet : ∀ {text : List Char}, (∀ c ∈ text, Quiet c) → Neutral d text
  | [], _ => neutral_nil
  | c :: _, h =>
    (neutral_of_quiet fun e he => h e (mem_cons_of_mem c he)).cons (h c mem_cons_self)

/-- A text between brackets: it is read one level deeper. -/
lemma Neutral.bracket {o : Char}
    (ho : o = '{' ∨ o = '[') (hc : c = '}' ∨ c = ']') (h : Neutral (d + 1) text) :
    Neutral d (o :: (text ++ [c])) := by
  have hopen : Scan.step ⟨d, .outside⟩ o = ⟨d + 1, .outside⟩ := by
    rcases ho with rfl | rfl <;> rfl
  have hclose : Scan.step ⟨d + 1, .outside⟩ c = ⟨d, .outside⟩ := by
    rcases hc with rfl | rfl <;> rfl
  refine ⟨?_, ?_⟩
  · rw [read_cons, hopen, read_append, h.1, read_cons, hclose, read_nil]
  · rw [Above, hopen, above_append, h.1, Above, hclose]
    exact ⟨Nat.le_succ d, h.2.mono (Nat.le_succ d), le_refl d, trivial⟩

/-! ## The texts the writer makes -/

lemma quiet_number : ∀ c ∈ num.text n, Quiet c := by
  intro c hc
  rcases num.plain n c hc with h | rfl | rfl | rfl | rfl
  · refine ⟨?_, ?_, ?_⟩
    · rintro rfl
      exact absurd h (by decide)
    · rintro (rfl | rfl) <;> exact absurd h (by decide)
    · rintro (rfl | rfl) <;> exact absurd h (by decide)
  all_goals decide

/-- Inside a string the scanner stays inside it over an escaped character. -/
lemma read_escapeChar (d : Nat) (c : Char) :
    Scan.read ⟨d, .inString⟩ (escapeChar c) = ⟨d, .inString⟩
      ∧ Above d ⟨d, .inString⟩ (escapeChar c) := by
  unfold escapeChar
  split_ifs with hquote hback _ _ _ _ _ hcontrol
  any_goals exact ⟨rfl, le_refl d, le_refl d, trivial⟩
  · -- a control character is four hexadecimal digits, none of them a quote or a backslash
    have hdigit : ∀ n < 16, Scan.step ⟨d, .inString⟩ (Nat.digitChar n) = ⟨d, .inString⟩ := by
      intro n hn
      interval_cases n <;> rfl
    have hhigh := hdigit (c.toNat / 16) (by omega)
    have hlow := hdigit (c.toNat % 16) (by omega)
    have hintro : Scan.read ⟨d, .inString⟩ ['\\', 'u', '0', '0'] = ⟨d, .inString⟩ := rfl
    show Scan.read _ (['\\', 'u', '0', '0'] ++ [_, _]) = _
      ∧ Above d _ (['\\', 'u', '0', '0'] ++ [_, _])
    have hescape : Above d ⟨d, .inString⟩ ['\\', 'u', '0', '0'] :=
      ⟨le_refl d, le_refl d, le_refl d, le_refl d, trivial⟩
    have hdigits : Above d ⟨d, .inString⟩
        [Nat.digitChar (c.toNat / 16), Nat.digitChar (c.toNat % 16)] := by
      rw [Above, hhigh, Above, hlow]
      exact ⟨le_refl d, le_refl d, trivial⟩
    rw [read_append, above_append, hintro, read_cons, hhigh, read_cons, hlow, read_nil]
    exact ⟨rfl, hescape, hdigits⟩
  · have hstep : Scan.step ⟨d, .inString⟩ c = ⟨d, .inString⟩ := by
      simp only [Scan.step, if_neg hquote, if_neg hback]
    refine ⟨?_, ?_⟩
    · rw [read_cons, hstep, read_nil]
    · rw [Above, hstep]
      exact ⟨le_refl d, trivial⟩

lemma read_escaped (d : Nat) : ∀ cs : List Char,
    Scan.read ⟨d, .inString⟩ (cs.flatMap escapeChar) = ⟨d, .inString⟩
      ∧ Above d ⟨d, .inString⟩ (cs.flatMap escapeChar)
  | [] => ⟨rfl, trivial⟩
  | c :: cs => by
    obtain ⟨hread, habove⟩ := read_escapeChar d c
    obtain ⟨hrest, hdeep⟩ := read_escaped d cs
    rw [flatMap_cons, read_append, above_append, hread]
    exact ⟨hrest, habove, hdeep⟩

lemma neutral_stringText (d : Nat) (s : String) : Neutral d (stringText s) := by
  obtain ⟨hread, habove⟩ := read_escaped d s.toList
  have hopen : Scan.step ⟨d, .outside⟩ '"' = ⟨d, .inString⟩ := rfl
  have hclose : Scan.step ⟨d, .inString⟩ '"' = ⟨d, .outside⟩ := rfl
  refine ⟨?_, ?_⟩
  · rw [stringText, read_cons, hopen, read_append, hread, read_cons, hclose, read_nil]
  · rw [stringText, Above, hopen, above_append, hread, Above, hclose]
    exact ⟨le_refl d, habove, le_refl d, trivial⟩

mutual

theorem neutral_valueText (num : NumberText) : ∀ (v : JsonValue) (d : Nat),
    Neutral d (valueText num v)
  | .null, d => by
    rw [valueText]
    exact neutral_of_quiet (by simp [Quiet])
  | .bool true, d => by
    rw [valueText]
    exact neutral_of_quiet (by simp [Quiet])
  | .bool false, d => by
    rw [valueText]
    exact neutral_of_quiet (by simp [Quiet])
  | .number n, d => by
    rw [valueText]
    exact neutral_of_quiet (quiet_number num n)
  | .string s, d => by
    rw [valueText]
    exact neutral_stringText d s
  | .array [], d => by
    rw [valueText]
    exact neutral_nil.bracket (.inr rfl) (.inr rfl)
  | .array (item :: items), d => by
    have hitem := neutral_valueText num item (d + 1)
    have hitems := neutral_itemsText num items (d + 1)
    rw [valueText, ← append_assoc]
    exact (hitem.append hitems).bracket (.inr rfl) (.inr rfl)
  | .object [], d => by
    rw [valueText]
    exact neutral_nil.bracket (.inl rfl) (.inl rfl)
  | .object ((key, value) :: fields), d => by
    have hfirst : Neutral (d + 1)
        (stringText key ++ (':' :: (valueText num value ++ fieldsText num fields))) :=
      (neutral_stringText (d + 1) key).append
        (((neutral_valueText num value (d + 1)).append
          (neutral_fieldsText num fields (d + 1))).cons (by decide))
    have htext : valueText num (.object ((key, value) :: fields))
        = '{' :: ((stringText key ++ (':' :: (valueText num value ++ fieldsText num fields)))
          ++ ['}']) := by
      rw [valueText]
      simp only [append_assoc, cons_append]
    rw [htext]
    exact hfirst.bracket (.inl rfl) (.inl rfl)

theorem neutral_itemsText (num : NumberText) : ∀ (items : List JsonValue) (d : Nat),
    Neutral d (itemsText num items)
  | [], d => by
    rw [itemsText]
    exact neutral_nil
  | item :: items, d => by
    rw [itemsText]
    exact ((neutral_valueText num item d).append (neutral_itemsText num items d)).cons (by decide)

theorem neutral_fieldsText (num : NumberText) : ∀ (fields : List (String × JsonValue)) (d : Nat),
    Neutral d (fieldsText num fields)
  | [], d => by
    rw [fieldsText]
    exact neutral_nil
  | (key, value) :: fields, d => by
    have hvalue := neutral_valueText num value d
    have hfields := neutral_fieldsText num fields d
    rw [fieldsText]
    exact ((neutral_stringText d key).append
      ((hvalue.append hfields).cons (by decide))).cons (by decide)

end

/-! ## Where an object ends -/

variable (fields : List (String × JsonValue))

lemma objectText_eq :
    ∃ body, valueText num (.object fields) = '{' :: (body ++ ['}']) ∧ Neutral 1 body := by
  cases fields with
  | nil => exact ⟨[], rfl, neutral_nil⟩
  | cons field fields =>
    obtain ⟨key, value⟩ := field
    refine ⟨stringText key ++ (':' :: (valueText num value ++ fieldsText num fields)), ?_, ?_⟩
    · rw [valueText]
      simp only [append_assoc, cons_append]
    · exact (neutral_stringText 1 key).append
        (((neutral_valueText num value 1).append
          (neutral_fieldsText num fields 1)).cons (by decide))

lemma closes_of_above : ∀ {s : Scan} {body : List Char} {c : Char}, Above 1 s body →
    ((s.read body).step c).depth = 0 → Closes s (body ++ [c])
  | _, [], _, _, hclose => hclose
  | s, b :: body, c, ⟨hdepth, hrest⟩, hclose => by
    have hclosed : Closes (s.step b) (body ++ [c]) := closes_of_above hrest hclose
    cases body with
    | nil => exact ⟨hdepth, hclosed⟩
    | cons _ _ => exact ⟨hdepth, hclosed⟩

/-- Two texts that close where they end, each followed by anything, are told apart by where
the scanner first comes back to depth zero. -/
lemma Closes.append_inj : ∀ {s : Scan} {a b x y : List Char}, Closes s a → Closes s b →
    a ++ x = b ++ y → a = b ∧ x = y
  | _, [], _, _, _, h, _, _ => h.elim
  | _, _ :: _, [], _, _, _, h, _ => h.elim
  | _, [c], [d], x, y, _, _, heq => by
    obtain ⟨hc, hrest⟩ := List.cons.inj heq
    exact ⟨by rw [hc], hrest⟩
  | s, [c], d :: e :: b, x, y, ha, hb, heq => by
    obtain ⟨hc, -⟩ := List.cons.inj heq
    have hzero : (s.step d).depth = 0 := hc ▸ ha
    exact absurd hzero (Nat.pos_iff_ne_zero.mp hb.1)
  | s, c :: e :: a, [d], x, y, ha, hb, heq => by
    obtain ⟨hc, -⟩ := List.cons.inj heq
    have hzero : (s.step c).depth = 0 := hc.symm ▸ hb
    exact absurd hzero (Nat.pos_iff_ne_zero.mp ha.1)
  | s, c :: e :: a, d :: f :: b, x, y, ha, hb, heq => by
    obtain ⟨hc, hrest⟩ := List.cons.inj heq
    have hb' : Closes (s.step c) (f :: b) := hc.symm ▸ hb.2
    obtain ⟨htail, hxy⟩ := ha.2.append_inj hb' hrest
    exact ⟨by rw [hc, htail], hxy⟩

lemma closes_objectText : Closes ⟨0, .outside⟩ (valueText num (.object fields)) := by
  obtain ⟨body, htext, hread, habove⟩ := objectText_eq num fields
  have hopen : Scan.step ⟨0, .outside⟩ '{' = ⟨1, .outside⟩ := rfl
  have habove' : Above 1 ⟨0, .outside⟩ ('{' :: body) := by
    rw [Above, hopen]
    exact ⟨le_refl 1, habove⟩
  have hclose : ((Scan.read ⟨0, .outside⟩ ('{' :: body)).step '}').depth = 0 := by
    rw [read_cons, hopen, hread]
    rfl
  rw [htext]
  exact closes_of_above habove' hclose

/-- The text of an object is told from whatever follows it. -/
lemma objectText_append_inj {f g : List (String × JsonValue)}
    {x y : List Char} (h : valueText num (.object f) ++ x = valueText num (.object g) ++ y) :
    valueText num (.object f) = valueText num (.object g) ∧ x = y :=
  (closes_objectText num f).append_inj (closes_objectText num g) h

end WattJsonText
