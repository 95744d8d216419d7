import Mathlib

/-!
# Tables with a primary key

A table of an embedded SQL database: its rows in the order they were first
inserted, no two of them under one key.  `INSERT … ON CONFLICT DO UPDATE`
either appends the row or changes the row that holds its key in place, and a
column the `UPDATE` does not name keeps its old value; that is `Row.merge`.
-/

namespace WattRows

/-- How the rows of a table are stored: under which primary key, and what stays of
a row when another one is upserted under its key. -/
class Row (ρ : Type) (κ : outParam Type) where
  key : ρ → κ
  merge : ρ → ρ → ρ
  key_merge : ∀ old new, key (merge old new) = key new

open Row List

variable {ρ κ : Type} [Row ρ κ]

/-- A table: rows under distinct keys. -/
structure Table (ρ : Type) {κ : Type} [Row ρ κ] where
  rows : List ρ
  nodup : (rows.map key).Nodup

namespace Table

/-- The table after `CREATE TABLE`. -/
def empty : Table ρ := ⟨[], nodup_nil⟩

instance : Inhabited (Table ρ) := ⟨empty⟩

variable {t : Table ρ} {r : ρ}

lemma eq_of_key {r' : ρ} (h : r ∈ t.rows) (h' : r' ∈ t.rows) (hkey : key r = key r') : r = r' :=
  inj_on_of_nodup_map t.nodup h h' hkey

/-- `DELETE FROM … WHERE …`. -/
def delete (gone : ρ → Bool) (t : Table ρ) : Table ρ :=
  ⟨t.rows.filter fun row => !gone row, t.nodup.sublist (filter_sublist.map key)⟩

@[simp] lemma mem_delete {gone : ρ → Bool} {t : Table ρ} :
    r ∈ (t.delete gone).rows ↔ r ∈ t.rows ∧ gone r = false := by
  rw [delete, mem_filter, Bool.not_eq_true']

/-- `UPDATE … SET … WHERE …` of columns outside the key. -/
def update (which : ρ → Bool) (change : ρ → ρ) (hkey : ∀ row, key (change row) = key row)
    (t : Table ρ) : Table ρ where
  rows := t.rows.map fun row => if which row then change row else row
  nodup := by
    have hkeys : (key ∘ fun row => if which row = true then change row else row) = key := by
      funext row
      show key (if which row then change row else row) = key row
      split
      · exact hkey row
      · rfl
    rw [map_map, hkeys]
    exact t.nodup

variable {which : ρ → Bool} {change : ρ → ρ}

lemma mem_update : r ∈ t.rows.map (fun row => if which row then change row else row)
      ↔ ∃ old ∈ t.rows, r = if which old then change old else old := by
  rw [mem_map]
  exact exists_congr fun old => and_congr_right fun _ => eq_comm

/-- An update of one row. -/
lemma mem_update_one {row : ρ} (hrow : row ∈ t.rows)
    (h : r ∈ t.rows.map fun row => if which row then change row else row)
    (hkey : key (change row) = key row) (hself : which row = true)
    (honly : ∀ old, which old = true → key old = key row) :
    (key r = key row → r = change row) ∧ (key r ≠ key row → r ∈ t.rows) := by
  obtain ⟨old, hold, rfl⟩ := mem_update.mp h
  by_cases hwhich : which old = true
  · rw [if_pos hwhich, eq_of_key hold hrow (honly old hwhich)]
    exact ⟨fun _ => rfl, fun hne => absurd hkey hne⟩
  · rw [if_neg hwhich]
    exact ⟨fun heq => absurd (eq_of_key hold hrow heq ▸ hself) hwhich, fun _ => hold⟩

variable [DecidableEq κ] (row : ρ)

/-- `INSERT INTO …` of a row whose key is not taken. -/
def append (t : Table ρ) (hfresh : key row ∉ t.rows.map key) : Table ρ where
  rows := t.rows ++ [row]
  nodup := by
    rw [map_append, map_singleton]
    exact nodup_append_comm.mp (nodup_cons.mpr ⟨hfresh, t.nodup⟩)

/-- `INSERT INTO …`, which a taken key refuses. -/
def insertNew (t : Table ρ) : Option (Table ρ) :=
  if hfresh : key row ∉ t.rows.map key then some (t.append row hfresh) else none

variable {row : ρ} {t' : Table ρ} {rows : List ρ}

lemma insertNew_eq_some (h : t.insertNew row = some t') :
    t'.rows = t.rows ++ [row] ∧ ∀ old ∈ t.rows, key old ≠ key row := by
  unfold insertNew at h
  split at h
  · next hfresh =>
      cases h
      exact ⟨rfl, fun old hold heq => hfresh (heq ▸ mem_map_of_mem hold)⟩
  · cases h

def place (row : ρ) : List ρ → List ρ
  | [] => [row]
  | old :: rest => if key old = key row then merge old row :: rest else old :: place row rest

lemma map_key_place (row : ρ) (rows : List ρ) : (place row rows).map key
      = if key row ∈ rows.map key then rows.map key else rows.map key ++ [key row] := by
  induction rows with
  | nil => rfl
  | cons old rest ih =>
    rw [place]
    by_cases h : key old = key row
    · rw [if_pos h, if_pos (by rw [map_cons, h]; exact mem_cons_self ..),
        map_cons, map_cons, key_merge, h]
    · have hiff : key row ∈ (old :: rest).map key ↔ key row ∈ rest.map key := by
        rw [map_cons, mem_cons]
        exact or_iff_right fun heq => h heq.symm
      rw [if_neg h, map_cons, ih]
      by_cases hmem : key row ∈ rest.map key
      · rw [if_pos hmem, if_pos (hiff.mpr hmem), map_cons]
      · rw [if_neg hmem, if_neg (fun hc => hmem (hiff.mp hc)), map_cons]
        rfl

lemma nodup_place (row : ρ) (h : (rows.map key).Nodup) : ((place row rows).map key).Nodup := by
  rw [map_key_place]
  split
  · exact h
  · next hmem => exact nodup_append_comm.mp (nodup_cons.mpr ⟨hmem, h⟩)

/-- `INSERT INTO … ON CONFLICT(key) DO UPDATE SET …`. -/
def upsert (row : ρ) (t : Table ρ) : Table ρ := ⟨place row t.rows, nodup_place row t.nodup⟩

/-- The row an upsert stores. -/
def landed (row : ρ) (t : Table ρ) : ρ :=
  match t.rows.find? fun old => key old = key row with
  | some old => merge old row
  | none => row

@[simp] lemma key_landed (row : ρ) (t : Table ρ) : key (landed row t) = key row := by
  unfold landed
  split
  · exact key_merge ..
  · rfl

/-- What the upserted row finds under its key is merged with it. -/
lemma landed_of_mem {old : ρ} (hold : old ∈ t.rows) (hkey : key old = key row) :
    landed row t = merge old row := by
  unfold landed
  cases hfind : t.rows.find? fun old => key old = key row with
  | none =>
    have := List.find?_eq_none.mp hfind old hold
    exact absurd hkey (by simpa using this)
  | some found =>
    have hfound : found = old := eq_of_key (mem_of_find?_eq_some hfind) hold
      ((by simpa using List.find?_some hfind : key found = key row).trans hkey.symm)
    rw [hfound]

lemma landed_of_fresh (h : ∀ old ∈ t.rows, key old ≠ key row) : landed row t = row := by
  unfold landed
  rw [List.find?_eq_none.mpr (by simpa using h)]

/-- **THE UPSERT RULE**: the row that landed, and every row under another key. -/
lemma mem_upsert : r ∈ (t.upsert row).rows ↔ r = landed row t ∨ (r ∈ t.rows ∧ key r ≠ key row) := by
  obtain ⟨rows, nodup⟩ := t
  show r ∈ place row rows ↔ _
  induction rows with
  | nil => simp [place, landed]
  | cons old rest ih =>
    obtain ⟨hold, hrest⟩ := nodup_cons.mp nodup
    rw [place]
    by_cases h : key old = key row
    · -- the key is taken here, so it is not taken in the rest of the table
      have hother : ∀ x ∈ rest, key x ≠ key row := by
        intro x hx hkey
        exact hold (h.trans hkey.symm ▸ mem_map_of_mem hx)
      rw [if_pos h, landed_of_mem (mem_cons_self ..) h, mem_cons, mem_cons]
      constructor
      · rintro (hr | hr)
        · exact .inl hr
        · exact .inr ⟨.inr hr, hother r hr⟩
      · rintro (hr | ⟨hr | hr, hkey⟩)
        · exact .inl hr
        · exact absurd (hr ▸ h) hkey
        · exact .inr hr
    · have hland : landed row ⟨old :: rest, nodup⟩ = landed row ⟨rest, hrest⟩ := by
        simp [landed, h]
      rw [if_neg h, mem_cons, ih hrest, hland, mem_cons]
      constructor
      · rintro (hr | hr | ⟨hr, hkey⟩)
        · exact .inr ⟨.inl hr, hr ▸ h⟩
        · exact .inl hr
        · exact .inr ⟨.inr hr, hkey⟩
      · rintro (hr | ⟨hr | hr, hkey⟩)
        · exact .inr (.inl hr)
        · exact .inl hr
        · exact .inr (.inr ⟨hr, hkey⟩)

lemma place_of_fresh (h : ∀ old ∈ rows, key old ≠ key row) : place row rows = rows ++ [row] := by
  induction rows with
  | nil => rfl
  | cons old rest ih =>
    obtain ⟨hold, hrest⟩ := forall_mem_cons.mp h
    rw [place, if_neg hold, ih hrest]
    rfl

lemma rows_upsert_of_fresh (h : ∀ old ∈ t.rows, key old ≠ key row) :
    (t.upsert row).rows = t.rows ++ [row] := place_of_fresh h

lemma mem_upsert_landed (row : ρ) (t : Table ρ) : landed row t ∈ (t.upsert row).rows :=
  mem_upsert.mpr (.inl rfl)

lemma exists_key_upsert (row : ρ) (hr : r ∈ t.rows) :
    ∃ r' ∈ (t.upsert row).rows, key r' = key r := by
  by_cases hkey : key r = key row
  · exact ⟨landed row t, mem_upsert_landed row t, (key_landed row t).trans hkey.symm⟩
  · exact ⟨r, mem_upsert.mpr (.inr ⟨hr, hkey⟩), rfl⟩

/-- No row of a class is left by an upsert outside of it exactly when the rows of the class
had the key. -/
lemma none_upsert_iff {C : ρ → Prop} (h : ¬ C (landed row t)) :
    (∀ r ∈ (t.upsert row).rows, ¬ C r) ↔ ∀ r ∈ t.rows, C r → key r = key row := by
  constructor
  · intro hall r hr hclass
    by_contra hkey
    exact hall r (mem_upsert.mpr (.inr ⟨hr, hkey⟩)) hclass
  · intro hall r hr hclass
    rcases mem_upsert.mp hr with rfl | ⟨hr, hkey⟩
    · exact h hclass
    · exact hkey (hall r hr hclass)

end Table

end WattRows
