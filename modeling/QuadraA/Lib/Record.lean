import Mathlib.Data.List.Nodup

/-!
# Insertion-ordered records

The finite maps the rest of the development stores its state in: a list of key/value entries
whose keys are pairwise distinct, the distinctness carried by the structure.  `set` overwrites
in place and appends a new key at the end, so the enumeration order is the order of first
insertion, as it is for the string-keyed objects of the source.

* `get?` / `set` with the two read-over-write laws `get?_set_self` and `get?_set_ne`;
* `set_eq_self` and `filterKeys_eq_self`, the changes that change nothing.
-/

namespace QuadraA.Lib

universe u v w

/-- A finite map that enumerates its entries in insertion order. -/
structure Record (κ : Type u) (α : Type v) where
  entries : List (κ × α)
  nodupKeys : (entries.map Prod.fst).Nodup
deriving DecidableEq

namespace Record

variable {κ : Type u} {α : Type v} {β : Type w}

variable {r : Record κ α} {k : κ}

/-- Two records with the same entries are equal. -/
@[ext] theorem ext {s : Record κ α} (h : r.entries = s.entries) : r = s := by
  cases r; cases s; cases h; rfl

/-- The empty record. -/
def empty : Record κ α := ⟨[], List.nodup_nil⟩

instance : Inhabited (Record κ α) := ⟨empty⟩

/-- The record with one entry. -/
def single (k : κ) (a : α) : Record κ α := ⟨[(k, a)], by simp⟩

/-- The values, in enumeration order. -/
def values (r : Record κ α) : List α := r.entries.map Prod.snd

/-- The keys, in enumeration order. -/
def keys (r : Record κ α) : List κ := r.entries.map Prod.fst

/-- Change every value, keys and order kept. -/
def map (f : κ → α → β) (r : Record κ α) : Record κ β where
  entries := r.entries.map fun e => (e.1, f e.1 e.2)
  nodupKeys := by simpa [List.map_map, Function.comp_def] using r.nodupKeys

/-- Keep the entries whose key satisfies `p`. -/
def filterKeys (p : κ → Bool) (r : Record κ α) : Record κ α where
  entries := r.entries.filter fun e => p e.1
  nodupKeys := (r.nodupKeys.sublist (List.filter_sublist.map _))

section Lookup

variable [DecidableEq κ]

/-- The value stored under a key in an entry list. -/
def lookup (k : κ) : List (κ × α) → Option α
  | [] => none
  | (k', a) :: rest => if k' = k then some a else lookup k rest

/-- Overwrite the first entry with key `k`, or append a new one. -/
def insert (k : κ) (a : α) : List (κ × α) → List (κ × α)
  | [] => [(k, a)]
  | (k', b) :: rest => if k' = k then (k', a) :: rest else (k', b) :: insert k a rest

theorem map_fst_insert (k : κ) (a : α) (l : List (κ × α)) :
    (insert k a l).map Prod.fst =
      if k ∈ l.map Prod.fst then l.map Prod.fst else l.map Prod.fst ++ [k] := by
  induction l with
  | nil => simp [insert]
  | cons e rest ih =>
    obtain ⟨k', b⟩ := e
    by_cases hk : k' = k
    · simp [insert, hk]
    · have hk' : ¬k = k' := fun h => hk h.symm
      simp only [insert, hk, if_false, List.map_cons, ih, List.mem_cons, hk', false_or]
      split <;> simp

/-- Read one key. -/
def get? (r : Record κ α) (k : κ) : Option α := lookup k r.entries

/-- Write one key. -/
def set (r : Record κ α) (k : κ) (a : α) : Record κ α where
  entries := insert k a r.entries
  nodupKeys := by
    rw [map_fst_insert]
    split
    · exact r.nodupKeys
    · rename_i h
      exact r.nodupKeys.append (List.nodup_singleton k) (by simpa using h)

theorem lookup_insert (k k' : κ) (a : α) (l : List (κ × α)) :
    lookup k' (insert k a l) = if k = k' then some a else lookup k' l := by
  induction l with
  | nil => simp [insert, lookup]
  | cons e rest ih =>
    obtain ⟨k₁, b⟩ := e
    by_cases h₁ : k₁ = k
    · subst h₁
      by_cases h : k₁ = k' <;> simp [insert, lookup, h]
    · by_cases h : k₁ = k'
      · subst h
        simp [insert, lookup, h₁, Ne.symm h₁]
      · simp [insert, lookup, h₁, h, ih]

theorem get?_set (r : Record κ α) (k k' : κ) (a : α) :
    (r.set k a).get? k' = if k = k' then some a else r.get? k' :=
  lookup_insert k k' a r.entries

@[simp] theorem get?_set_self (r : Record κ α) (k : κ) (a : α) : (r.set k a).get? k = some a := by
  simp [get?_set]

variable {k : κ} {l : List (κ × α)} {r : Record κ α} {a : α}

theorem get?_set_ne (r : Record κ α) {k' : κ} (a : α) (h : k ≠ k') :
    (r.set k a).get? k' = r.get? k' := by
  simp [get?_set, h]

@[simp] theorem get?_empty (k : κ) : (empty : Record κ α).get? k = none := rfl

@[simp] theorem get?_single (k k' : κ) (a : α) :
    (single k a).get? k' = if k = k' then some a else none := rfl

theorem get?_map (f : κ → α → β) (r : Record κ α) (k : κ) :
    (r.map f).get? k = (r.get? k).map (f k) := by
  obtain ⟨l, hl⟩ := r
  simp only [get?, map]
  clear hl
  induction l with
  | nil => rfl
  | cons e rest ih =>
    by_cases h : e.1 = k
    · simp [lookup, h]
    · simp [lookup, h, ih]

theorem get?_filterKeys (p : κ → Bool) (r : Record κ α) (k : κ) :
    (r.filterKeys p).get? k = if p k then r.get? k else none := by
  obtain ⟨l, hl⟩ := r
  simp only [get?, filterKeys]
  clear hl
  induction l with
  | nil => simp [lookup]
  | cons e rest ih =>
    obtain ⟨k', a⟩ := e
    by_cases hk : k' = k
    · subst hk
      by_cases hp : p k' = true
      · simp [lookup, hp]
      · simp [hp, ih]
    · by_cases hp : p k' = true
      · simp [lookup, hp, hk, ih]
      · simp [lookup, hp, hk, ih]

/-- Remove one key. -/
def erase (r : Record κ α) (k : κ) : Record κ α := r.filterKeys fun k' => k' ≠ k

theorem get?_erase (r : Record κ α) (k k' : κ) :
    (r.erase k).get? k' = if k = k' then none else r.get? k' := by
  rw [erase, get?_filterKeys]
  by_cases hk : k = k'
  · simp [hk]
  · simp [hk, Ne.symm hk]

theorem lookup_eq_some_iff (hl : (l.map Prod.fst).Nodup) (k : κ) (a : α) :
    lookup k l = some a ↔ (k, a) ∈ l := by
  induction l with
  | nil => simp [lookup]
  | cons e rest ih =>
    obtain ⟨k', b⟩ := e
    simp only [List.map_cons, List.nodup_cons] at hl
    by_cases hk : k' = k
    · subst hk
      have hnot : (k', a) ∉ rest := fun h => hl.1 (List.mem_map_of_mem h)
      simp [lookup, hnot, eq_comm]
    · simp [lookup, hk, ih hl.2, Ne.symm hk]

theorem get?_eq_some_iff (r : Record κ α) (k : κ) (a : α) :
    r.get? k = some a ↔ (k, a) ∈ r.entries :=
  lookup_eq_some_iff r.nodupKeys k a

/-- A value is enumerated exactly when some key reads it. -/
theorem mem_values_iff (r : Record κ α) (a : α) : a ∈ r.values ↔ ∃ k, r.get? k = some a := by
  simp only [values, List.mem_map, get?_eq_some_iff]
  constructor
  · rintro ⟨⟨k, b⟩, hmem, rfl⟩
    exact ⟨k, hmem⟩
  · rintro ⟨k, hmem⟩
    exact ⟨(k, a), hmem, rfl⟩

/-! ### Writing a list of entries -/

/-- Writing entries under other keys leaves a key as it was. -/
theorem get?_foldl_set_of_ne (key : β → κ) (val : β → α) (l : List β) (r : Record κ α)
    (h : ∀ b ∈ l, key b ≠ k) :
    (l.foldl (fun r b => r.set (key b) (val b)) r).get? k = r.get? k := by
  induction l generalizing r with
  | nil => rfl
  | cons b rest ih =>
    rw [List.foldl_cons, ih (r.set (key b) (val b)) fun b' hb' => h b' (List.mem_cons_of_mem b hb'),
      get?_set_ne _ _ (h b List.mem_cons_self)]

/-- **Writing entries under distinct keys** stores every one of them. -/
theorem get?_foldl_set_of_mem (key : β → κ) (val : β → α) {l : List β} (hl : (l.map key).Nodup)
    (r : Record κ α) {b : β} (hb : b ∈ l) :
    (l.foldl (fun r b => r.set (key b) (val b)) r).get? (key b) = some (val b) := by
  induction l generalizing r with
  | nil => exact absurd hb List.not_mem_nil
  | cons b' rest ih =>
    rw [List.map_cons, List.nodup_cons] at hl
    rw [List.foldl_cons]
    rcases List.mem_cons.mp hb with rfl | hmem
    · have hne : ∀ b' ∈ rest, key b' ≠ key b := by
        intro b' hb' hsame
        exact hl.1 (hsame ▸ List.mem_map_of_mem hb')
      rw [get?_foldl_set_of_ne key val rest _ hne, get?_set_self]
    · exact ih hl.2 _ hmem

/-- A write under a new key adds its entry at the end. -/
theorem insert_of_not_mem (a : α) (h : k ∉ l.map Prod.fst) : insert k a l = l ++ [(k, a)] := by
  induction l with
  | nil => rfl
  | cons e rest ih =>
    obtain ⟨k', b⟩ := e
    rw [List.map_cons, List.mem_cons, not_or] at h
    rw [insert, if_neg (Ne.symm h.1), ih h.2, List.cons_append]

/-- `Object.fromEntries`: write the entries one after the other. -/
def fromEntries (l : List (κ × α)) : Record κ α := l.foldl (fun r e => r.set e.1 e.2) empty

/-! ### Writes seen through a change of values -/

/-- Two changes of values that differ at one stored key differ by a write. -/
theorem map_eq_set {f g : α → β} (hget : r.get? k = some a)
    (h : ∀ k' a', k ≠ k' → r.get? k' = some a' → f a' = g a') :
    r.map (fun _ => f) = (r.map fun _ => g).set k (f a) := by
  have hentries : ∀ e ∈ r.entries, k ≠ e.1 → f e.2 = g e.2 := by
    intro e he hne
    exact h e.1 e.2 hne ((get?_eq_some_iff r e.1 e.2).mpr he)
  clear h
  obtain ⟨l, hl⟩ := r
  refine ext ?_
  simp only [map, set, get?] at hget hentries ⊢
  induction l with
  | nil => cases hget
  | cons e rest ih =>
    obtain ⟨k', b⟩ := e
    rw [List.map_cons, List.nodup_cons] at hl
    by_cases hk : k' = k
    · subst hk
      rw [lookup, if_pos rfl, Option.some.injEq] at hget
      have hrest : rest.map (fun e => (e.1, f e.2)) = rest.map fun e => (e.1, g e.2) := by
        refine List.map_congr_left fun e he => ?_
        have hne : k' ≠ e.1 := fun heq => hl.1 (List.mem_map.mpr ⟨e, he, heq.symm⟩)
        rw [hentries e (List.mem_cons_of_mem _ he) hne]
      simp [insert, hget, hrest]
    · rw [lookup, if_neg hk] at hget
      have hhead : f b = g b := hentries (k', b) List.mem_cons_self (Ne.symm hk)
      have htail := ih hl.2 hget fun e he => hentries e (List.mem_cons_of_mem _ he)
      simp [insert, hk, hhead, htail]

/-- Writing back what a key reads changes nothing. -/
theorem set_eq_self (hget : r.get? k = some a) : r.set k a = r := by
  have hid : (r.map fun _ => id) = r := ext (by simp [map])
  have hset : r.map (fun _ => id) = (r.map fun _ => id).set k (id a) :=
    map_eq_set hget fun _ _ _ _ => rfl
  rw [hid] at hset
  exact hset.symm

theorem insert_insert (k : κ) (a b : α) (l : List (κ × α)) :
    insert k b (insert k a l) = insert k b l := by
  induction l with
  | nil => simp [insert]
  | cons e rest ih =>
    obtain ⟨k', c⟩ := e
    by_cases hk : k' = k
    · simp [insert, hk]
    · simp [insert, hk, ih]

/-- The later of two writes to a key stands. -/
theorem set_set (r : Record κ α) (k : κ) (a b : α) : (r.set k a).set k b = r.set k b :=
  ext (insert_insert k a b r.entries)

end Lookup

/-- **A filter loses an entry** exactly when some key fails it. -/
theorem length_filterKeys_lt [DecidableEq κ] (p : κ → Bool) (r : Record κ α) :
    (r.filterKeys p).keys.length < r.keys.length ↔ ∃ k a, r.get? k = some a ∧ p k = false := by
  rw [keys, keys, List.length_map, List.length_map]
  show (r.entries.filter fun e => p e.1).length < r.entries.length ↔ _
  rw [List.length_filter_lt_length_iff_exists]
  constructor
  · rintro ⟨⟨k, a⟩, hmem, hfails⟩
    exact ⟨k, a, (get?_eq_some_iff r k a).mpr hmem, by simpa using hfails⟩
  · rintro ⟨k, a, hget, hfails⟩
    exact ⟨(k, a), (get?_eq_some_iff r k a).mp hget, by simpa using hfails⟩

/-- A filter that loses no entry keeps the record. -/
theorem filterKeys_eq_self {p : κ → Bool} (h : r.keys.length ≤ (r.filterKeys p).keys.length) :
    r.filterKeys p = r := by
  refine ext ?_
  rw [keys, keys, List.length_map, List.length_map] at h
  exact List.filter_sublist.eq_of_length_le h

theorem not_mem_keys_of_get? [DecidableEq κ] (h : r.get? k = none) :
    k ∉ r.entries.map Prod.fst := by
  intro hmem
  obtain ⟨⟨k', a⟩, hentry, rfl⟩ := List.mem_map.mp hmem
  rw [(get?_eq_some_iff r k' a).mpr hentry] at h
  cases h

/-- The keys are those that read something. -/
theorem mem_keys_iff [DecidableEq κ] : k ∈ r.keys ↔ (r.get? k).isSome = true := by
  rw [Option.isSome_iff_exists, keys, List.mem_map]
  constructor
  · rintro ⟨⟨k', a⟩, hmem, rfl⟩
    exact ⟨a, (get?_eq_some_iff r k' a).mpr hmem⟩
  · rintro ⟨a, hget⟩
    exact ⟨(k, a), (get?_eq_some_iff r k a).mp hget, rfl⟩

theorem keys_set [DecidableEq κ] (r : Record κ α) (k : κ) (a : α) :
    (r.set k a).keys = if k ∈ r.keys then r.keys else r.keys ++ [k] :=
  map_fst_insert k a r.entries

theorem keys_filterKeys (p : κ → Bool) (r : Record κ α) :
    (r.filterKeys p).keys = r.keys.filter p := by
  rw [keys, keys, List.filter_map]
  rfl

/-- Removing a key that is not there changes nothing. -/
theorem erase_eq_self [DecidableEq κ] (h : r.get? k = none) : r.erase k = r := by
  refine ext ?_
  show (r.entries.filter fun e => decide (e.1 ≠ k)) = r.entries
  rw [List.filter_eq_self]
  intro e he
  have hne : e.1 ≠ k := fun heq => not_mem_keys_of_get? h (heq ▸ List.mem_map_of_mem he)
  simpa using hne

/-- What is written under a new key and removed again leaves no trace. -/
theorem erase_set_of_absent [DecidableEq κ] (a : α) (h : r.get? k = none) :
    (r.set k a).erase k = r := by
  have hentries : (r.set k a).entries = r.entries ++ [(k, a)] :=
    insert_of_not_mem a (not_mem_keys_of_get? h)
  refine (ext ?_ : (r.set k a).erase k = r.erase k).trans (erase_eq_self h)
  show ((r.set k a).entries.filter fun e => decide (e.1 ≠ k)) = _
  rw [hentries, List.filter_append]
  simp [erase, filterKeys]

end Record

end QuadraA.Lib
