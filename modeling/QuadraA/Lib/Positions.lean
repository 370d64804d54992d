import Mathlib.Data.List.Sort
import Mathlib.Data.List.Range
import Mathlib.Data.List.Perm.Basic

/-!
# Lists by their positions

A list that comes as pairs of a position and a value, in any order.

* `inOrder` — the values, when the positions are `0 … n - 1`;
* `readPairs` — positions and values that are read from keys and fields, with
  `exists_inOrder_readPairs_iff` and `inOrder_readPairs`.
-/

namespace QuadraA.Lib

universe u v w

variable {κ : Type w} {α : Type u} {β : Type v}

variable {f value? : α → Option β} {l : List α} {indexed : List (ℕ × β)} {index? : κ → Option ℕ}
  {members : List (κ × α)}

/-- A list that is read item by item. -/
theorem mapM_eq_some_iff {r : List β} : l.mapM f = some r ↔ l.map f = r.map some := by
  induction l generalizing r with
  | nil => cases r <;> simp
  | cons a l ih =>
    rw [List.mapM_cons]
    simp only [Option.bind_eq_bind, Option.bind_eq_some_iff]
    constructor
    · rintro ⟨b, hb, bs, hbs, hr⟩
      obtain rfl := Option.some.inj hr
      rw [List.map_cons, List.map_cons, hb, ih.mp hbs]
    · intro h
      cases r with
      | nil => cases h
      | cons b bs =>
        rw [List.map_cons, List.map_cons, List.cons.injEq] at h
        exact ⟨b, h.1, bs, ih.mpr h.2, rfl⟩

/-- A list whose items can all be read. -/
theorem exists_mapM (h : ∀ a ∈ l, (f a).isSome = true) : ∃ r, l.mapM f = some r := by
  induction l with
  | nil => exact ⟨[], rfl⟩
  | cons a l ih =>
    obtain ⟨b, hb⟩ := Option.isSome_iff_exists.mp (h a (List.mem_cons_self ..))
    obtain ⟨bs, hbs⟩ := ih fun a' ha' => h a' (List.mem_cons_of_mem _ ha')
    refine ⟨b :: bs, ?_⟩
    rw [List.mapM_cons, hb, hbs]
    rfl

/-- The values of pairs whose positions are `0 … n - 1`. -/
def inOrder (indexed : List (ℕ × β)) : Option (List β) :=
  let sorted := indexed.mergeSort fun left right => decide (left.1 ≤ right.1)
  if sorted.map Prod.fst = List.range sorted.length then some (sorted.map Prod.snd) else none

/-- The positions and values of a list. -/
def enumerated (values : List β) : List (ℕ × β) := (List.range values.length).zip values

theorem map_fst_enumerated (values : List β) :
    (enumerated values).map Prod.fst = List.range values.length :=
  List.map_fst_zip (List.length_range ..).le

theorem map_snd_enumerated (values : List β) : (enumerated values).map Prod.snd = values :=
  List.map_snd_zip (List.length_range ..).ge

theorem length_enumerated (values : List β) : (enumerated values).length = values.length := by
  have hvalues := congrArg List.length (map_snd_enumerated values)
  rwa [List.length_map] at hvalues

theorem eq_enumerated (h : indexed.map Prod.fst = List.range indexed.length) :
    indexed = enumerated (indexed.map Prod.snd) := by
  rw [enumerated, List.length_map, ← h]
  exact List.zip_of_prod rfl rfl

theorem pairwise_sorted (indexed : List (ℕ × β)) :
    (indexed.mergeSort fun left right => decide (left.1 ≤ right.1)).Pairwise
      fun left right => left.1 ≤ right.1 := by
  refine (List.pairwise_mergeSort (fun a b c hab hbc => ?_) (fun a b => ?_) indexed).imp
    fun hle => of_decide_eq_true hle
  · exact decide_eq_true ((of_decide_eq_true hab).trans (of_decide_eq_true hbc))
  · rw [Bool.or_eq_true, decide_eq_true_eq, decide_eq_true_eq]
    exact le_total a.1 b.1

/-- **The values that are found** are those of the pairs, by their positions. -/
theorem inOrder_eq_some_iff {values : List β} :
    inOrder indexed = some values ↔ indexed.Perm (enumerated values) := by
  have hperm := List.mergeSort_perm indexed fun left right => decide (left.1 ≤ right.1)
  rw [inOrder]
  constructor
  · intro h
    split at h
    · rename_i hdense
      obtain rfl := Option.some.inj h
      rw [← eq_enumerated hdense]
      exact hperm.symm
    · cases h
  · intro h
    -- the pairs have one order by their positions
    have hnodup : ((enumerated values).map Prod.fst).Nodup := by
      rw [map_fst_enumerated]
      exact List.nodup_range
    have hsorted : (indexed.mergeSort fun left right => decide (left.1 ≤ right.1))
        = enumerated values := by
      have hpairwise : (indexed.mergeSort fun left right => decide (left.1 ≤ right.1)).Pairwise
          fun left right => left.1 ≤ right.1 := pairwise_sorted indexed
      refine List.Perm.eq_of_pairwise (fun a b ha hb hab hba => ?_) hpairwise ?_ (hperm.trans h)
      · exact List.inj_on_of_nodup_map hnodup ((hperm.trans h).mem_iff.mp ha) hb
          (le_antisymm hab hba)
      · refine List.pairwise_map.mp ?_
        rw [map_fst_enumerated]
        exact List.pairwise_le_range
    rw [hsorted, map_fst_enumerated, map_snd_enumerated]
    rw [length_enumerated, if_pos rfl]

/-- **There are values** exactly when the positions are `0 … n - 1`. -/
theorem inOrder_isSome_iff :
    (∃ values, inOrder indexed = some values) ↔
      (indexed.map Prod.fst).Perm (List.range indexed.length) := by
  constructor
  · rintro ⟨values, h⟩
    have hperm := inOrder_eq_some_iff.mp h
    have hlength := hperm.length_eq
    rw [length_enumerated] at hlength
    rw [hlength, ← map_fst_enumerated]
    exact hperm.map Prod.fst
  · intro h
    have hperm := List.mergeSort_perm indexed fun left right => decide (left.1 ≤ right.1)
    refine ⟨(indexed.mergeSort fun left right => decide (left.1 ≤ right.1)).map Prod.snd,
      inOrder_eq_some_iff.mpr ?_⟩
    rw [← eq_enumerated]
    · exact hperm.symm
    · rw [hperm.length_eq]
      have hpairwise : ((indexed.mergeSort fun left right => decide (left.1 ≤ right.1)).map
          Prod.fst).Pairwise (· ≤ ·) := List.pairwise_map.mpr (pairwise_sorted indexed)
      exact List.Perm.eq_of_pairwise (fun _ _ _ _ => le_antisymm) hpairwise
        List.pairwise_le_range ((hperm.map Prod.fst).trans h)

/-! ### Keys and fields -/

/-- The positions that keys are read as, and the values that fields are read as. -/
def readPairs (index? : κ → Option ℕ) (value? : α → Option β) (members : List (κ × α)) :
    Option (List (ℕ × β)) :=
  members.mapM fun member =>
    (index? member.1).bind fun index => (value? member.2).map fun value => (index, value)

/-- The keys are read as the positions `0 … n - 1`. -/
def ReadsPositions (index? : κ → Option ℕ) (members : List (κ × α)) : Prop :=
  (members.map fun member => index? member.1).Perm ((List.range members.length).map some)

/-- **A list is read** exactly when every field is a value and the keys are the positions. -/
theorem exists_inOrder_readPairs_iff :
    (∃ values, (readPairs index? value? members).bind inOrder = some values) ↔
      (∀ member ∈ members, (value? member.2).isSome = true) ∧ ReadsPositions index? members := by
  -- what is read is one pair for each member
  have hread {indexed : List (ℕ × β)} (h : readPairs index? value? members = some indexed) :
      (members.map fun member => index? member.1) = (indexed.map Prod.fst).map some ∧
        indexed.length = members.length := by
    have hmap := mapM_eq_some_iff.mp h
    have hlength := congrArg List.length hmap
    rw [List.length_map, List.length_map] at hlength
    refine ⟨?_, hlength.symm⟩
    have hfst := congrArg (List.map (Option.map Prod.fst)) hmap
    rw [List.map_map, List.map_map] at hfst
    rw [List.map_map]
    refine Eq.trans (List.map_congr_left fun member hmember => ?_) hfst
    obtain ⟨pair, -, hpair⟩ := List.mem_map.mp (hmap ▸ List.mem_map_of_mem hmember)
    obtain ⟨index, hindex, hvalue⟩ := Option.bind_eq_some_iff.mp hpair.symm
    obtain ⟨value, -, rfl⟩ := Option.map_eq_some_iff.mp hvalue
    rw [Function.comp_apply, ← hpair]
    exact hindex
  constructor
  · rintro ⟨values, h⟩
    obtain ⟨indexed, hindexed, horder⟩ := Option.bind_eq_some_iff.mp h
    obtain ⟨hkeys, hlength⟩ := hread hindexed
    constructor
    · intro member hmember
      have hmap := mapM_eq_some_iff.mp hindexed
      obtain ⟨pair, -, hpair⟩ := List.mem_map.mp (hmap ▸ List.mem_map_of_mem hmember)
      obtain ⟨index, -, hvalue⟩ := Option.bind_eq_some_iff.mp hpair.symm
      obtain ⟨value, hvalue, -⟩ := Option.map_eq_some_iff.mp hvalue
      rw [hvalue]
      rfl
    · rw [ReadsPositions, hkeys, ← hlength]
      exact (inOrder_isSome_iff.mp ⟨values, horder⟩).map some
  · rintro ⟨hvalues, hpositions⟩
    have hindexed : ∃ indexed, readPairs index? value? members = some indexed := by
      refine exists_mapM fun member hmember => ?_
      have hmem : index? member.1 ∈ (List.range members.length).map some :=
        hpositions.mem_iff.mp (List.mem_map_of_mem hmember)
      obtain ⟨index, -, hindex⟩ := List.mem_map.mp hmem
      obtain ⟨value, hvalue⟩ := Option.isSome_iff_exists.mp (hvalues member hmember)
      rw [← hindex, hvalue]
      rfl
    obtain ⟨indexed, hindexed⟩ := hindexed
    obtain ⟨hkeys, hlength⟩ := hread hindexed
    rw [ReadsPositions, hkeys, ← hlength,
      List.map_perm_map_iff (Option.some_injective _)] at hpositions
    rw [hindexed]
    exact inOrder_isSome_iff.mpr hpositions

/-- **A list that is written member by member**, in any order, is read back. -/
theorem inOrder_readPairs {key : ℕ → κ} {field : β → α} {values : List β}
    (hmembers : members.Perm ((enumerated values).map fun pair => (key pair.1, field pair.2)))
    (hkey : ∀ index < values.length, index? (key index) = some index)
    (hfield : ∀ value, value? (field value) = some value) :
    (readPairs index? value? members).bind inOrder = some values := by
  have hpairs : ((enumerated values).map fun pair => (key pair.1, field pair.2)).map
      (fun member => (index? member.1).bind fun index =>
        (value? member.2).map fun value => (index, value))
      = (enumerated values).map some := by
    rw [List.map_map]
    refine List.map_congr_left fun pair hpair => ?_
    have hindex : pair.1 < values.length := by
      have hmem := List.mem_map_of_mem (f := Prod.fst) hpair
      rw [map_fst_enumerated] at hmem
      exact List.mem_range.mp hmem
    rw [Function.comp_apply, hkey _ hindex, hfield]
    rfl
  have hperm := hmembers.map fun member => (index? member.1).bind fun index =>
    (value? member.2).map fun value => (index, value)
  rw [hpairs] at hperm
  have hread : ∃ indexed, readPairs index? value? members = some indexed := by
    refine exists_mapM fun member hmember => ?_
    obtain ⟨pair, -, hpair⟩ := List.mem_map.mp (hperm.mem_iff.mp (List.mem_map_of_mem hmember))
    rw [← hpair]
    rfl
  obtain ⟨indexed, hindexed⟩ := hread
  rw [mapM_eq_some_iff.mp hindexed, List.map_perm_map_iff (Option.some_injective _)] at hperm
  rw [hindexed]
  exact inOrder_eq_some_iff.mpr hperm

end QuadraA.Lib
