import Wattetheria.RustText

/-!
# JSON values

`serde_json::Value` as the receipts, metadata and mission payloads hold it.
An object is its key/value list in key order; the three number forms are
those of `serde_json::Number`.  A float is kept by its bits, so `0.0` and `-0.0`,
which the source compares as equal, are told apart.
-/

namespace WattJson

open WattText

/-- `serde_json::Number`. -/
inductive JsonNumber where
  | posInt (n : UInt64)
  | negInt (n : Int64)
  | float (bits : UInt64)
  deriving DecidableEq

/-- `serde_json::Value`. -/
inductive JsonValue where
  | null
  | bool (b : Bool)
  | number (n : JsonNumber)
  | string (s : String)
  | array (items : List JsonValue)
  | object (fields : List (String × JsonValue))

namespace JsonValue

mutual

/-- Equality of values is decidable; the deriving handler does not see through
the nested lists, so the three recursions are written out. -/
def decEq : (a b : JsonValue) → Decidable (a = b)
  | .null, .null => isTrue rfl
  | .bool a, .bool b =>
    if h : a = b then isTrue (by rw [h]) else isFalse (fun e => h (by injection e))
  | .number a, .number b =>
    if h : a = b then isTrue (by rw [h]) else isFalse (fun e => h (by injection e))
  | .string a, .string b =>
    if h : a = b then isTrue (by rw [h]) else isFalse (fun e => h (by injection e))
  | .array a, .array b =>
    match decEqItems a b with
    | isTrue h => isTrue (by rw [h])
    | isFalse h => isFalse (fun e => h (by injection e))
  | .object a, .object b =>
    match decEqFields a b with
    | isTrue h => isTrue (by rw [h])
    | isFalse h => isFalse (fun e => h (by injection e))
  | .null, .bool _ | .null, .number _ | .null, .string _ | .null, .array _
  | .null, .object _ | .bool _, .null | .bool _, .number _ | .bool _, .string _
  | .bool _, .array _ | .bool _, .object _ | .number _, .null | .number _, .bool _
  | .number _, .string _ | .number _, .array _ | .number _, .object _
  | .string _, .null | .string _, .bool _ | .string _, .number _ | .string _, .array _
  | .string _, .object _ | .array _, .null | .array _, .bool _ | .array _, .number _
  | .array _, .string _ | .array _, .object _ | .object _, .null | .object _, .bool _
  | .object _, .number _ | .object _, .string _ | .object _, .array _ =>
    isFalse (fun e => nomatch e)

/-- Equality of arrays. -/
def decEqItems : (a b : List JsonValue) → Decidable (a = b)
  | [], [] => isTrue rfl
  | [], _ :: _ => isFalse (fun e => nomatch e)
  | _ :: _, [] => isFalse (fun e => nomatch e)
  | x :: xs, y :: ys =>
    match decEq x y with
    | isFalse h => isFalse (fun e => h (List.cons.inj e).1)
    | isTrue h =>
      match decEqItems xs ys with
      | isTrue ht => isTrue (by rw [h, ht])
      | isFalse ht => isFalse (fun e => ht (List.cons.inj e).2)

/-- Equality of objects. -/
def decEqFields : (a b : List (String × JsonValue)) → Decidable (a = b)
  | [], [] => isTrue rfl
  | [], _ :: _ => isFalse (fun e => nomatch e)
  | _ :: _, [] => isFalse (fun e => nomatch e)
  | (k, x) :: xs, (l, y) :: ys =>
    if hk : k = l then
      match decEq x y with
      | isFalse h => isFalse (fun e => h (congrArg Prod.snd (List.cons.inj e).1))
      | isTrue h =>
        match decEqFields xs ys with
        | isTrue ht => isTrue (by rw [hk, h, ht])
        | isFalse ht => isFalse (fun e => ht (List.cons.inj e).2)
    else isFalse (fun e => hk (congrArg Prod.fst (List.cons.inj e).1))

end

instance : DecidableEq JsonValue := decEq

variable (v : JsonValue)

/-- `Value::get(key)`: the field of an object; `none` on every other value. -/
def get (key : String) : Option JsonValue :=
  match v with
  | .object fields => (fields.find? (fun f => f.1 == key)).map Prod.snd
  | _ => none

/-- The value of a field of an object is replaced; nothing changes where there is none. -/
def modify (key : String) (f : JsonValue → JsonValue) : JsonValue → JsonValue
  | .object fields => .object (fields.map fun e => if e.1 == key then (e.1, f e.2) else e)
  | v => v

/-- `Map::remove` on the map of an object. -/
def remove (key : String) : JsonValue → JsonValue
  | .object fields => .object (fields.filter fun e => e.1 != key)
  | v => v

lemma get_object_cons (e : String × JsonValue) (fields : List (String × JsonValue)) (k : String) :
    (object (e :: fields)).get k = if e.1 = k then some e.2 else (object fields).get k := by
  simp only [get]
  by_cases h : e.1 = k
  · rw [List.find?_cons_of_pos (by simpa using h), if_pos h]
    rfl
  · rw [List.find?_cons_of_neg (by simpa using h), if_neg h]

variable (key k : String)

lemma get_modify (f : JsonValue → JsonValue) :
    (v.modify key f).get k = if k = key then (v.get k).map f else v.get k := by
  cases v with
  | object fields =>
    rw [modify]
    induction fields with
    | nil => split <;> rfl
    | cons e fields ih =>
      rw [List.map_cons, get_object_cons, get_object_cons, ih]
      by_cases hkey : e.1 = key
      · by_cases hk : key = k
        · simp [hkey, hk]
        · simp [hkey, hk, Ne.symm hk]
      · by_cases hk : e.1 = k
        · simp [hk, hk ▸ hkey]
        · simp [hkey, hk]
  | null | bool | number | string | array => simp [modify, get]

lemma get_remove : (v.remove key).get k = if k = key then none else v.get k := by
  cases v with
  | object fields =>
    rw [remove]
    induction fields with
    | nil => split <;> rfl
    | cons e fields ih =>
      rw [List.filter_cons, get_object_cons]
      by_cases hkey : e.1 = key
      · by_cases hk : key = k
        · simpa [hkey, hk] using ih
        · simpa [hkey, hk, Ne.symm hk] using ih
      · rw [if_pos (by simpa using hkey), get_object_cons, ih]
        by_cases hk : e.1 = k
        · simp [hk, hk ▸ hkey]
        · simp [hk]
  | null | bool | number | string | array => simp [remove, get]

/-- The index a pointer token stands for in an array. -/
def parseIndex (token : String) : Option Nat :=
  match token.toList with
  | '+' :: _ => none
  | ['0'] => some 0
  | '0' :: _ => none
  | digits => if digits.isEmpty then none else (digitsValue 0 digits).filter (· < 2 ^ 64)

/-- `Value::pointer`; the path is given as its reference tokens. -/
def pointer : JsonValue → List String → Option JsonValue
  | v, [] => some v
  | v, token :: path =>
    match v with
    | .object _ => (v.get token).bind fun field => pointer field path
    | .array items => ((parseIndex token).bind fun i => items[i]?).bind fun item =>
      pointer item path
    | .null | .bool _ | .number _ | .string _ => none

def asStr : JsonValue → Option String
  | .string s => some s
  | _ => none

def asU64 : JsonValue → Option UInt64
  | .number (.posInt n) => some n
  | _ => none

def asI64 : JsonValue → Option Int64
  | .number (.posInt n) => if n.toNat < 2 ^ 63 then some n.toInt64 else none
  | .number (.negInt n) => some n
  | _ => none

def asArray : JsonValue → Option (List JsonValue)
  | .array items => some items
  | _ => none

def asObject : JsonValue → Option (List (String × JsonValue))
  | .object fields => some fields
  | _ => none

def asBool : JsonValue → Option Bool
  | .bool b => some b
  | _ => none

example : get (.object [("success", .bool true)]) "success" = some (.bool true) := by decide
example : pointer (.object [("content", .object [("kind", .string "note")])]) ["content", "kind"]
    = some (.string "note") := by decide

end JsonValue

end WattJson
