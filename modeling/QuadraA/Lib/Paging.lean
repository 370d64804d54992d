import Mathlib.Data.Int.Notation
import Mathlib.Data.List.Basic

/-!
# Pages

A list that is fetched in pages: each answer has some items and, unless it is the last one, a cursor
that asks for the next.

* `Page` — the items, and the cursor;
* `jsSlice`, `OffsetPaged` — pages whose cursor is an offset below a total, with `OffsetPaged.walk`.
-/

namespace QuadraA.Lib

universe u v

variable {α : Type u} {κ : Type v}

structure Page (α : Type u) (κ : Type v) where
  items : List α
  cursor : Option κ
deriving DecidableEq

/-- **A walk** from a cursor to the end. -/
inductive Walk (fetch : Option κ → Page α κ) : Option κ → List (Page α κ) → Prop
  | last {cursor : Option κ} (hlast : (fetch cursor).cursor = none) :
      Walk fetch cursor [fetch cursor]
  | next {cursor : Option κ} {after : κ} {pages : List (Page α κ)}
      (hnext : (fetch cursor).cursor = some after) (hrest : Walk fetch (some after) pages) :
      Walk fetch cursor (fetch cursor :: pages)

variable {fetch : Option κ → Page α κ} {cursor : Option κ} {pages : List (Page α κ)}

/-- There is one walk only. -/
theorem Walk.unique {pages' : List (Page α κ)} (h : Walk fetch cursor pages)
    (h' : Walk fetch cursor pages') : pages = pages' := by
  induction h generalizing pages' with
  | last hlast =>
    cases h' with
    | last _ => rfl
    | next hnext _ => rw [hlast] at hnext; cases hnext
  | next hnext _ ih =>
    cases h' with
    | last hlast => rw [hlast] at hnext; cases hnext
    | next hnext' hrest' =>
      rw [hnext] at hnext'
      cases hnext'
      rw [ih hrest']

/-- **A list in pages** of a limit: `index` says where a cursor stands. -/
structure Paged (fetch : Option κ → Page α κ) (l : List α) (limit : ℕ) (index : Option κ → ℕ) :
    Prop where
  items : ∀ cursor, (fetch cursor).items = (l.drop (index cursor)).take limit
  last : ∀ cursor, l.length ≤ index cursor + limit → (fetch cursor).cursor = none
  next : ∀ cursor, index cursor + limit < l.length →
    ∃ after, (fetch cursor).cursor = some after ∧ index (some after) = index cursor + limit

/-- **A walk ends**, and its pages make the list from the cursor on. -/
theorem Paged.walk {l : List α} {limit : ℕ} {index : Option κ → ℕ} (h : Paged fetch l limit index)
    (hlimit : 0 < limit) (cursor : Option κ) :
    ∃ pages, Walk fetch cursor pages ∧ pages.flatMap Page.items = l.drop (index cursor) := by
  -- by induction on what is behind the cursor
  generalize hrest : l.length - index cursor = rest
  induction rest using Nat.strongRecOn generalizing cursor with
  | ind rest ih =>
    by_cases hmore : index cursor + limit < l.length
    · obtain ⟨after, hafter, hindex⟩ := h.next cursor hmore
      obtain ⟨pages, hwalk, hpages⟩ := ih (l.length - index (some after)) (by omega) (some after) rfl
      refine ⟨fetch cursor :: pages, .next hafter hwalk, ?_⟩
      rw [List.flatMap_cons, hpages, h.items, hindex, ← List.drop_drop, List.take_append_drop]
    · refine ⟨[fetch cursor], .last (h.last cursor (Nat.not_lt.mp hmore)), ?_⟩
      rw [List.flatMap_cons, List.flatMap_nil, List.append_nil, h.items]
      refine List.take_of_length_le ?_
      rw [List.length_drop]
      omega

/-- The pages of a walk are answers. -/
theorem Walk.exists_fetch (h : Walk fetch cursor pages) :
    ∀ page ∈ pages, ∃ cursor, page = fetch cursor := by
  induction h with
  | last _ =>
    intro page hpage
    exact ⟨_, List.mem_singleton.mp hpage⟩
  | next _ _ ih =>
    intro page hpage
    rcases List.mem_cons.mp hpage with rfl | hrest
    · exact ⟨_, rfl⟩
    · exact ih page hrest

/-! ### Offsets -/

/-- An index of `slice`; one below zero counts from the end. -/
def jsIndex (length : ℕ) (i : ℤ) : ℕ := if i < 0 then (length + i).toNat else min i.toNat length

/-- `l.slice(start, stop)`. -/
def jsSlice (l : List α) (start stop : ℤ) : List α :=
  (l.drop (jsIndex l.length start)).take (jsIndex l.length stop - jsIndex l.length start)

theorem jsSlice_nat (l : List α) (offset limit : ℕ) :
    jsSlice l offset (offset + limit : ℕ) = (l.drop offset).take limit := by
  have hindex (i : ℕ) : jsIndex l.length i = min i l.length := if_neg (by omega)
  rw [jsSlice, hindex, hindex]
  by_cases hoffset : offset ≤ l.length
  · rw [Nat.min_eq_left hoffset]
    by_cases hend : offset + limit ≤ l.length
    · rw [Nat.min_eq_left hend, Nat.add_sub_cancel_left]
    · have hlength : (l.drop offset).length = l.length - offset := List.length_drop ..
      rw [Nat.min_eq_right (Nat.le_of_not_le hend), List.take_of_length_le (by omega),
        List.take_of_length_le (by omega)]
  · rw [Nat.min_eq_right (Nat.le_of_not_le hoffset), List.drop_length,
      List.drop_eq_nil_of_le (Nat.le_of_not_le hoffset), List.take_nil, List.take_nil]

/-- **The first pages** are the first part of the list. -/
theorem flatMap_range_pages (l : List α) (limit count : ℕ) :
    ((List.range count).flatMap fun k => (l.drop (k * limit)).take limit)
      = l.take (count * limit) := by
  induction count with
  | zero => rw [Nat.zero_mul, List.take_zero]; rfl
  | succ count ih =>
    rw [List.range_succ, List.flatMap_append, ih, List.flatMap_singleton, Nat.succ_mul,
      List.take_add]

/-- **A list in pages by offsets**: a page has a cursor as long as the offset behind it is below a
total. -/
structure OffsetPaged (fetch : Option κ → Page α κ) (cursorAt : ℕ → κ) (l : List α)
    (total limit : ℕ) : Prop where
  first : fetch none =
    ⟨l.take limit, if limit < total then some (cursorAt limit) else none⟩
  page : ∀ offset, fetch (some (cursorAt offset)) =
    ⟨(l.drop offset).take limit,
      if offset + limit < total then some (cursorAt (offset + limit)) else none⟩

section

variable {fetch : Option κ → Page α κ} {cursorAt : ℕ → κ} {l : List α} {total limit : ℕ}

theorem OffsetPaged.walk_from (h : OffsetPaged fetch cursorAt l total limit) (hlimit : 0 < limit)
    (htotal : l.length ≤ total) (offset : ℕ) :
    ∃ pages, Walk fetch (some (cursorAt offset)) pages ∧
      pages.flatMap Page.items = l.drop offset := by
  -- by induction on what is left of the total
  generalize hrest : total - offset = rest
  induction rest using Nat.strongRecOn generalizing offset with
  | ind rest ih =>
    have hpage := h.page offset
    by_cases hmore : offset + limit < total
    · rw [if_pos hmore] at hpage
      obtain ⟨pages, hwalk, hpages⟩ := ih (total - (offset + limit)) (by omega) _ rfl
      refine ⟨_, .next (congrArg Page.cursor hpage) hwalk, ?_⟩
      rw [List.flatMap_cons, hpages, hpage, ← List.drop_drop, List.take_append_drop]
    · rw [if_neg hmore] at hpage
      refine ⟨_, .last (congrArg Page.cursor hpage), ?_⟩
      rw [List.flatMap_cons, List.flatMap_nil, List.append_nil, hpage]
      refine List.take_of_length_le ?_
      rw [List.length_drop]
      omega

/-- **A walk by offsets ends**, and its pages make the list. -/
theorem OffsetPaged.walk (h : OffsetPaged fetch cursorAt l total limit) (hlimit : 0 < limit)
    (htotal : l.length ≤ total) :
    ∃ pages, Walk fetch none pages ∧ pages.flatMap Page.items = l := by
  have hfirst := h.first
  by_cases hmore : limit < total
  · rw [if_pos hmore] at hfirst
    obtain ⟨pages, hwalk, hpages⟩ := h.walk_from hlimit htotal limit
    refine ⟨_, .next (congrArg Page.cursor hfirst) hwalk, ?_⟩
    rw [List.flatMap_cons, hpages, hfirst, List.take_append_drop]
  · rw [if_neg hmore] at hfirst
    refine ⟨_, .last (congrArg Page.cursor hfirst), ?_⟩
    rw [List.flatMap_cons, List.flatMap_nil, List.append_nil, hfirst]
    exact List.take_of_length_le (by omega)

end

end QuadraA.Lib
